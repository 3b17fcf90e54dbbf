import Mp157.Picture.ReadData

/-!
# Strict reading

`Mp157.readData` has no result where a read comes to the end of the file or the product of the sides
does not fit, and no variables that could hold anything before.  Where it has a result,
`Bmp.readData` returns it, whatever the buffers and the caller's variables held
(`readData_of_strict`): what is proved about complete files holds of the function for any file.
-/

namespace Mp157.Bmp

open ByteMemory CLoop CInt

section Strict

variable {content : Block} {len : ℕ} {pos : ℤ} {locals : Locals} {heap : Option Mem} {out : Outputs}

/-- A strict read that succeeds was complete. -/
lemma le_of_fread {n v : ℕ} {f' : File} (hlimit : content.limit = some len) (hn : 0 < n)
    (h : File.fread ⟨content, pos⟩ n = some (v, f')) :
    0 ≤ pos ∧ pos + n ≤ len ∧ f' = ⟨content, pos + n⟩ := by
  obtain ⟨v', hload, hv⟩ := Option.map_eq_some_iff.mp h
  have hinside := Block.inside_of_loadNumber hload
  have hfirst := hinside 0 hn
  have hlast := hinside (n - 1) (Nat.sub_lt hn Nat.one_pos)
  simp only [Block.inside, hlimit, decide_eq_true_eq] at hfirst hlast
  exact ⟨by omega, by omega, (Prod.ext_iff.mp hv).2.symm⟩

/-- What follows a strict read goes on after it. -/
lemma exists_of_fread_bind {α : Type} {n : ℕ} {g : ℕ × File → Option α} {x : α}
    (hlimit : content.limit = some len) (hn : 0 < n)
    (h : (File.fread ⟨content, pos⟩ n).bind g = some x) :
    ∃ v, 0 ≤ pos ∧ pos + n ≤ len ∧ g (v, ⟨content, pos + n⟩) = some x := by
  obtain ⟨⟨v, f⟩, hread, hrest⟩ := Option.bind_eq_some_iff.mp h
  obtain ⟨hpos, hle, rfl⟩ := le_of_fread hlimit hn hread
  exact ⟨v, hpos, hle, hrest⟩

/-- Strict headers are complete. -/
lemma le_of_freadFileHeader {x : BitmapFileHeader} {f' : File} (hlimit : content.limit = some len)
    (h : freadFileHeader ⟨content, pos⟩ = some (x, f')) : f' = ⟨content, pos + 12⟩ := by
  obtain ⟨_, -, -, h⟩ := exists_of_fread_bind hlimit (by norm_num) h
  obtain ⟨_, -, -, h⟩ := exists_of_fread_bind hlimit (by norm_num) h
  obtain ⟨_, -, -, h⟩ := exists_of_fread_bind hlimit (by norm_num) h
  obtain ⟨_, -, -, h⟩ := exists_of_fread_bind hlimit (by norm_num) h
  obtain rfl := (Prod.ext_iff.mp (Option.some.inj h)).2
  simp only [File.mk.injEq, true_and]
  push_cast
  ring

lemma le_of_freadInfoHeader {x : BitmapInfoHeader × File} (hlimit : content.limit = some len)
    (h : freadInfoHeader ⟨content, pos⟩ = some x) : pos + 40 ≤ len := by
  obtain ⟨_, -, -, h⟩ := exists_of_fread_bind hlimit (by norm_num) h
  obtain ⟨_, -, -, h⟩ := exists_of_fread_bind hlimit (by norm_num) h
  obtain ⟨_, -, -, h⟩ := exists_of_fread_bind hlimit (by norm_num) h
  obtain ⟨_, -, -, h⟩ := exists_of_fread_bind hlimit (by norm_num) h
  obtain ⟨_, -, -, h⟩ := exists_of_fread_bind hlimit (by norm_num) h
  obtain ⟨_, -, -, h⟩ := exists_of_fread_bind hlimit (by norm_num) h
  obtain ⟨_, -, -, h⟩ := exists_of_fread_bind hlimit (by norm_num) h
  obtain ⟨_, -, -, h⟩ := exists_of_fread_bind hlimit (by norm_num) h
  obtain ⟨_, -, -, h⟩ := exists_of_fread_bind hlimit (by norm_num) h
  obtain ⟨_, -, -, h⟩ := exists_of_fread_bind hlimit (by norm_num) h
  obtain ⟨_, -, hlast, -⟩ := exists_of_fread_bind hlimit (by norm_num) h
  push_cast at hlast
  linarith

/-- The headers that are read strictly are those of `readHeaders`. -/
lemma readHeaders_of_strict {v : ℕ} {f₁ f₂ f₃ : File} {fileHeader : BitmapFileHeader}
    {infoHeader : BitmapInfoHeader} (hlimit : content.limit = some len)
    (htype : File.fread ⟨content, 0⟩ 2 = some (v, f₁))
    (hfile : freadFileHeader f₁ = some (fileHeader, f₂))
    (hinfo : freadInfoHeader f₂ = some (infoHeader, f₃)) :
    f₃ = ⟨content, 54⟩ ∧
      readHeaders ⟨content, 0⟩ locals = ⟨fileHeader, infoHeader, ⟨content, 54⟩⟩ := by
  have hc : content.Holds len := by simp [Block.Holds, hlimit]
  obtain ⟨-, -, rfl⟩ := le_of_fread hlimit (by norm_num) htype
  obtain rfl := le_of_freadFileHeader hlimit hfile
  have hlen := le_of_freadInfoHeader hlimit hinfo
  have h54 : 54 ≤ len := by
    push_cast at hlen
    omega
  obtain ⟨hfileHeader, -⟩ :=
    Prod.mk.inj (Option.some.inj ((freadFileHeader_eq hc h54).symm.trans hfile))
  obtain ⟨hinfoHeader, rfl⟩ :=
    Prod.mk.inj (Option.some.inj ((freadInfoHeader_eq hc h54).symm.trans hinfo))
  exact ⟨rfl, by rw [readHeaders_eq hlimit h54, hfileHeader, hinfoHeader]⟩

/-- So are strict pixels. -/
lemma le_of_readPixelRgb565 {v : ℕ} {f' : File} (hlimit : content.limit = some len)
    (h : readPixelRgb565 ⟨content, pos⟩ = some (v, f')) : 0 ≤ pos ∧ pos + (2 : ℕ) ≤ len := by
  obtain ⟨_, hpos, -, h⟩ := exists_of_fread_bind hlimit (by norm_num) h
  obtain ⟨_, -, hlast, -⟩ := exists_of_fread_bind hlimit (by norm_num) h
  push_cast at hlast ⊢
  exact ⟨hpos, by linarith⟩

lemma le_of_readPixelRgb888 {v : ℕ} {f' : File} (hlimit : content.limit = some len)
    (h : readPixelRgb888 ⟨content, pos⟩ = some (v, f')) : 0 ≤ pos ∧ pos + (3 : ℕ) ≤ len := by
  obtain ⟨_, hpos, -, h⟩ := exists_of_fread_bind hlimit (by norm_num) h
  obtain ⟨_, -, -, h⟩ := exists_of_fread_bind hlimit (by norm_num) h
  obtain ⟨_, -, hlast, -⟩ := exists_of_fread_bind hlimit (by norm_num) h
  push_cast at hlast ⊢
  exact ⟨hpos, by linarith⟩

/-- **The strict loop.**  A round that reads a pixel completely finds the same in `color`. -/
lemma readBmpData_of_strict {pixel : File → Option (ℕ × File)} {bits n : ℕ} {offBits count : ℤ}
    {b b' : Block} {color : Mem} (hlimit : content.limit = some len) (hdepth : Depth bits)
    (hcomplete : ∀ pos v f', pixel ⟨content, pos⟩ = some (v, f') →
      0 ≤ pos ∧ pos + storedBytes bits ≤ len)
    (hpixel : ∀ pos : ℤ, 0 ≤ pos → pos + storedBytes bits ≤ len → pixel ⟨content, pos⟩
      = some (number content.byte (storedBytes bits) pos, ⟨content, pos + storedBytes bits⟩))
    (h : Mp157.readBmpData pixel n ⟨content, pos⟩ offBits b count = some b') :
    readBmpData (pixelValue bits) (storedBytes bits) n ⟨content, pos⟩ color offBits b count
      = some b' := by
  rw [Mp157.readBmpData, Option.map_eq_some_iff] at h
  obtain ⟨s, hloop, rfl⟩ := h
  have hseek : (File.fseek ⟨content, pos⟩ offBits).content = content := by
    rw [File.fseek]
    split_ifs <;> rfl
  obtain ⟨t, hrun, -, -, hdata⟩ := @forRange_simulates _ _ _
    (readBmpPixel (pixelValue bits) (storedBytes bits) n)
    (fun (s : Mp157.ReadState) (t : ReadState) =>
      s.file = t.file ∧ s.file.content = content ∧ s.colorData = t.colorData) (by
      rintro ⟨⟨_, p⟩, b⟩ ⟨_, color, _⟩ k s' ⟨rfl, rfl, rfl⟩ hround
      simp only [Mp157.readBmpPixel, Option.bind_eq_bind, Option.bind_eq_some_iff,
        Prod.exists] at hround
      obtain ⟨v, f', hread, b', hstore, hs'⟩ := hround
      obtain rfl := Option.some.inj hs'
      obtain ⟨hp, hle⟩ := hcomplete p v f' hread
      obtain ⟨rfl, rfl⟩ := Prod.ext_iff.mp (Option.some.inj ((hpixel p hp hle).symm.trans hread))
      refine ⟨_, readBmpPixel_eq_some.mpr ⟨b', ?_, rfl⟩, ?_, rfl, rfl⟩
      · rw [fread_eq hlimit hle, pixelValue_eq hdepth, number_blit le_rfl (by omega)]
        simpa using hstore
      · rw [fread_eq hlimit hle]) _ _ _
    ⟨File.fseek ⟨content, pos⟩ offBits, color, b⟩ ⟨rfl, hseek, rfl⟩ hloop
  rw [readBmpData, hrun, Option.map_some, hdata]

/-- What a strict result says about the function's. -/
def Result.Returns (res : Result) : Option Picture → Prop
  | none => res.ret = -1
  | some pic => res.ret = 0 ∧
      res.out = ⟨some pic.colorData, pic.biWidth, pic.biHeight, pic.biBitCount⟩

/-- After the headers: `pixel` is the strict reading of a pixel of the depth. -/
lemma readPicture_of_strict {pixel : File → Option (ℕ × File)} {H : Headers} {bits : ℕ} {m : Mem}
    {b : Block} (hlimit : content.limit = some len) (hdepth : Depth bits)
    (hbits : H.infoHeader.biBitCount = bits) (hfile : H.file = ⟨content, pos⟩)
    (hfits : Fits H.count)
    (hcomplete : ∀ pos v f', pixel ⟨content, pos⟩ = some (v, f') →
      0 ≤ pos ∧ pos + storedBytes bits ≤ len)
    (hpixel : ∀ pos : ℤ, 0 ≤ pos → pos + storedBytes bits ≤ len → pixel ⟨content, pos⟩
      = some (number content.byte (storedBytes bits) pos, ⟨content, pos + storedBytes bits⟩))
    (hloop : Mp157.readBmpData pixel (pixelBytes bits) H.file (asLong H.fileHeader.bfOffBits)
      ⟨some (H.count * pixelBytes bits % 2 ^ 32).toNat, m⟩ H.count = some b) :
    ∃ res, readPicture H locals (some m) out = some res ∧
      res.Returns (some ⟨b, H.infoHeader.biWidth, H.infoHeader.biHeight, bits⟩) := by
  subst hbits
  rw [hfile] at hloop
  have hread := @readBmpData_of_strict _ _ _ _ _ _ _ _ _ _ locals.color hlimit hdepth hcomplete
    hpixel hloop
  have hrun : readPicture H locals (some m) out =
      some ⟨0, { out.withHeader H.infoHeader with colorData := some b }, 1⟩ := by
    rw [readPicture_malloc hdepth, Headers.allocated, Headers.pixels_of_fits hfits, hfile, hread]
    rfl
  exact ⟨_, hrun, rfl, rfl⟩

/-- **Strict reading is reading.**  Where `Mp157.readData` has a result, `readData` returns it,
whatever the buffers and the caller's variables held. -/
theorem readData_of_strict {r : Option Picture}
    (h : Mp157.readData (fopen content) heap = some r) :
    ∃ res, readData (fopen content) locals heap out = some res ∧ res.Returns r := by
  cases hopen : fopen content with
  | none =>
      rw [hopen] at h
      obtain rfl := Option.some.inj h
      exact ⟨_, rfl, rfl⟩
  | some f =>
      obtain ⟨len, hlimit, -, rfl⟩ := fopen_eq_some hopen
      have hc : content.Holds len := by simp [Block.Holds, hlimit]
      rw [hopen] at h
      simp only [Mp157.readData, Option.bind_eq_bind, Option.bind_eq_some_iff, Prod.exists] at h
      obtain ⟨_, _, htype, fileHeader, _, hfile, infoHeader, _, hinfo, hrest⟩ := h
      obtain ⟨rfl, hheaders⟩ :=
        @readHeaders_of_strict _ _ locals _ _ _ _ _ _ hlimit htype hfile hinfo
      rw [readData, hheaders]
      by_cases hbits : infoHeader.biBitCount ≠ 16 ∧ infoHeader.biBitCount ≠ 24
      · rw [if_pos hbits] at hrest
        obtain rfl := Option.some.inj hrest
        exact ⟨_, if_pos hbits, rfl⟩
      · rw [if_neg hbits] at hrest
        obtain ⟨count, hcount, hrest⟩ := Option.bind_eq_some_iff.mp hrest
        obtain ⟨hfits, rfl⟩ := checked_eq_some hcount
        replace hfits : Fits (Headers.count ⟨fileHeader, infoHeader, ⟨content, 54⟩⟩) := hfits
        have hdepth : Depth infoHeader.biBitCount := depth_iff.mpr hbits
        cases heap with
        | none =>
            obtain rfl := Option.some.inj hrest
            exact ⟨_, readPicture_null hdepth, rfl⟩
        | some m =>
            rcases hdepth with h | h
            · obtain h : infoHeader.biBitCount = 16 := by exact_mod_cast h
              rw [h] at hrest
              obtain ⟨b, hb, hr⟩ := Option.bind_eq_some_iff.mp hrest
              obtain rfl := Option.some.inj hr
              exact readPicture_of_strict (H := ⟨fileHeader, infoHeader, _⟩) hlimit (.inl rfl) h rfl
                hfits (fun _ _ _ hread => le_of_readPixelRgb565 hlimit hread)
                (fun _ hpos hle => readPixelRgb565_eq hc hpos hle) hb
            · obtain h : infoHeader.biBitCount = 24 := by exact_mod_cast h
              rw [h] at hrest
              obtain ⟨b, hb, hr⟩ := Option.bind_eq_some_iff.mp hrest
              obtain rfl := Option.some.inj hr
              exact readPicture_of_strict (H := ⟨fileHeader, infoHeader, _⟩) hlimit (.inr rfl) h rfl
                hfits (fun _ _ _ hread => le_of_readPixelRgb888 hlimit hread)
                (fun _ hpos hle => readPixelRgb888_eq hc hpos hle) hb

end Strict

end Mp157.Bmp
