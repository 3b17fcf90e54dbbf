import Mp157.Picture.ReadData

/-!
# Files that end too early (`readData` in `bmp.c`)

`readData` does not ask how much `fread` has read.  What a read at the end of the file does not
fill keeps what an earlier read has left there, so a pixel that the file holds in part, or not at
all, is put together from bytes of earlier pixels.

* `colorAfter_byte` — which byte of the file is in `color` after any number of reads.
* `truncated_elements` — so which are in every element of the array, whatever the length of the
  file and wherever its pixels begin; from the first incomplete pixel on all elements are equal.
-/

namespace Mp157.Bmp

open ByteMemory

/-! ## Reads at the end -/

section Reads

variable {content : Block} {len bytes k : ℕ} {buffer color : Mem} {pos : ℤ}

/-- Where a read leaves the file: no further than its end. -/
lemma fread_file {n : ℕ} (hlimit : content.limit = some len) :
    (fread ⟨content, pos⟩ buffer n).2 = ⟨content, max pos (min (pos + n) len)⟩ := by
  have hcount : freadCount ⟨content, pos⟩ n = min n (len - pos).toNat := by
    simp only [freadCount, hlimit]
  have hpos : pos + ((min n (len - pos).toNat : ℕ) : ℤ) = max pos (min (pos + n) len) := by omega
  rw [fread, hcount, hpos]

/-- A byte of the buffer. -/
lemma fread_byte {n b : ℕ} (hlimit : content.limit = some len) (hb : b < n) :
    (fread ⟨content, pos⟩ buffer n).1 b
      = if pos + b < len then content.byte (pos + b) else buffer b := by
  have hcount : freadCount ⟨content, pos⟩ n = min n (len - pos).toNat := by
    simp only [freadCount, hlimit]
  have hsource : (b : ℤ) - 0 + pos = pos + b := by ring
  simp only [fread, hcount, blit, hsource]
  exact if_congr (by omega) rfl rfl

/-- Where `k` reads leave it. -/
lemma colorAfter_pos (hlimit : content.limit = some len) :
    (colorAfter ⟨content, pos⟩ color bytes k).2
      = ⟨content, max pos (min (pos + bytes * k) len)⟩ := by
  induction k with
  | zero =>
      have hpos : max pos (min (pos + bytes * (0 : ℕ)) len) = pos := by
        rw [Nat.cast_zero, mul_zero, add_zero]
        omega
      rw [colorAfter, hpos]
  | succ k ih =>
      have hnext : (bytes : ℤ) * (k + 1 : ℕ) = bytes * k + bytes := by
        push_cast
        ring
      have hpos : max (max pos (min (pos + bytes * k) len))
          (min (max pos (min (pos + bytes * k) len) + bytes) len)
            = max pos (min (pos + (bytes * k + bytes)) len) := by
        have hmono : (0 : ℤ) ≤ bytes * k := by positivity
        omega
      rw [colorAfter, ih, fread_file hlimit, hnext, hpos]

/-- Byte `b` of the last of the pixels up to number `k` that the file, from `pos` on, holds as far
as that byte; without one it is what `color` held before. -/
def heldByte (content : Block) (len : ℕ) (color : Mem) (pos : ℤ) (bytes k : ℕ) : Mem := fun b =>
  if pos + b < len then content.byte (pos + bytes * min (k : ℤ) ((len - 1 - b - pos) / bytes) + b)
  else color b

/-- Whether the file reaches as far as byte `b` of pixel `k`. -/
lemma reaches_iff {b : ℤ} (hbytes : 0 < bytes) :
    pos + bytes * k + b < len ↔ (k : ℤ) ≤ (len - 1 - b - pos) / bytes := by
  rw [Int.le_ediv_iff_mul_le (by exact_mod_cast hbytes), mul_comm (k : ℤ)]
  constructor
  · intro h
    omega
  · intro h
    omega

lemma heldByte_of_reaches {b : ℤ} (hbytes : 0 < bytes) (hin : pos + bytes * k + b < len) :
    heldByte content len color pos bytes k b = content.byte (pos + bytes * k + b) := by
  have hmono : (0 : ℤ) ≤ bytes * k := by positivity
  rw [heldByte, if_pos (by omega), min_eq_left ((reaches_iff hbytes).mp hin)]

/-- Where it does not, a later pixel is no different. -/
lemma heldByte_of_not_reaches {b : ℤ} {k' : ℕ} (hbytes : 0 < bytes)
    (hout : ¬ pos + bytes * (k + 1 : ℕ) + b < len) (hle : k ≤ k') :
    heldByte content len color pos bytes k' b = heldByte content len color pos bytes k b := by
  rw [reaches_iff hbytes] at hout
  rw [heldByte, heldByte, min_eq_right (by omega), min_eq_right (by omega)]

/-- **What is in `color`** after reads `0`, ..., `k`. -/
theorem colorAfter_byte {b : ℕ} (hlimit : content.limit = some len) (hb : b < bytes) :
    (colorAfter ⟨content, pos⟩ color bytes (k + 1)).1 b
      = heldByte content len color pos bytes k b := by
  have hbytes : 0 < bytes := by omega
  -- a read fills byte `b` exactly if the file reaches that far
  have hread : ∀ k : ℕ, (colorAfter ⟨content, pos⟩ color bytes (k + 1)).1 b
      = if pos + bytes * k + b < len then content.byte (pos + bytes * k + b)
        else (colorAfter ⟨content, pos⟩ color bytes k).1 b := by
    intro k
    have hmono : (0 : ℤ) ≤ bytes * k := by positivity
    rw [colorAfter, colorAfter_pos hlimit, fread_byte hlimit hb]
    by_cases hin : pos + bytes * k + b < len
    · have hat : max pos (min (pos + bytes * k) len) = pos + bytes * k := by omega
      rw [hat]
    · rw [if_neg hin, if_neg (by omega)]
  by_cases hin : pos + bytes * k + b < len
  · rw [hread, if_pos hin, heldByte_of_reaches hbytes hin]
  induction k with
  | zero =>
      rw [hread, if_neg hin, heldByte, if_neg (by simpa using hin)]
      rfl
  | succ k ih =>
      rw [hread, if_neg hin, heldByte_of_not_reaches hbytes hin (Nat.le_succ k)]
      by_cases hbefore : pos + bytes * k + b < len
      · rw [hread, if_pos hbefore, heldByte_of_reaches hbytes hbefore]
      · exact ih hbefore

end Reads

/-! ## The elements of the array -/

/-- Where the pixels are read from. -/
def Headers.pixelsAt (H : Headers) : ℤ :=
  if asLong H.fileHeader.bfOffBits < 0 then H.file.pos else asLong H.fileHeader.bfOffBits

/-- Element `k`, as the file and what was in `color` make it. -/
def Headers.element (H : Headers) (locals : Locals) (len k : ℕ) : ℕ :=
  number (heldByte H.file.content len locals.color H.pixelsAt
    (storedBytes H.infoHeader.biBitCount) k) (storedBytes H.infoHeader.biBitCount) 0

section Elements

variable {content : Block} {len k k' : ℕ} {locals : Locals} {heap : Option Mem} {m : Mem}
  {out : Outputs} {res : Result} {H : Headers}

lemma storedBytes_pos (bits : ℕ) : 0 < storedBytes bits := by
  rw [storedBytes]
  split_ifs
  · norm_num
  · norm_num

/-- The headers take 54 bytes, or the whole file. -/
lemma readHeaders_file_eq (hlimit : content.limit = some len) :
    (readHeaders ⟨content, 0⟩ locals).file = ⟨content, min 54 len⟩ := by
  simp only [readHeaders, fread_file hlimit, File.mk.injEq, true_and]
  omega

lemma number_colorData_element (hlimit : H.file.content.limit = some len)
    (hdepth : Depth H.infoHeader.biBitCount) (hk : (k : ℤ) < H.pixels) :
    number (H.colorData locals m).byte (pixelBytes H.infoHeader.biBitCount)
        (pixelBytes H.infoHeader.biBitCount * k) = H.element locals len k := by
  have hfile : H.file.fseek (asLong H.fileHeader.bfOffBits) = ⟨H.file.content, H.pixelsAt⟩ := by
    rw [Headers.pixelsAt, File.fseek]
    split_ifs
    · rfl
    · rfl
  rw [number_colorData hdepth hk, pixelValue_eq hdepth, hfile, Headers.element]
  refine number_congr ?_
  intro b hb
  rw [zero_add, colorAfter_byte hlimit hb]

/-- A pixel that the file does not hold completely is the last that is different. -/
lemma element_of_incomplete
    (hout : (len : ℤ) < H.pixelsAt + storedBytes H.infoHeader.biBitCount * (k + 1 : ℕ))
    (hle : k ≤ k') : H.element locals len k' = H.element locals len k := by
  refine number_congr ?_
  intro b _
  exact heldByte_of_not_reaches (storedBytes_pos _) (by omega) hle

/-- One that it does hold is the number stored there. -/
lemma element_of_complete
    (hin : H.pixelsAt + storedBytes H.infoHeader.biBitCount * (k + 1 : ℕ) ≤ len) :
    H.element locals len k = number H.file.content.byte (storedBytes H.infoHeader.biBitCount)
      (H.pixelsAt + storedBytes H.infoHeader.biBitCount * k) := by
  refine number_congr ?_
  intro b hb
  have hnext : (storedBytes H.infoHeader.biBitCount : ℤ) * (k + 1 : ℕ)
      = storedBytes H.infoHeader.biBitCount * k + storedBytes H.infoHeader.biBitCount := by
    push_cast
    ring
  rw [zero_add, heldByte_of_reaches (storedBytes_pos _) (by omega)]

/-- **The elements of any array.**  Byte `b` of element `k` is byte `b` of the last pixel up to `k`
that the file holds as far as that, or else of the `color` there was before.  So an element that the
file holds completely is the number stored there, and what follows an incomplete one is equal to
it. -/
theorem truncated_elements (hlimit : content.limit = some len)
    (hread : readData (fopen content) locals heap out = some res) (hret : res.ret = 0) :
    ∃ b, res.out.colorData = some b ∧
      (∀ k : ℕ, k < (readHeaders ⟨content, 0⟩ locals).pixels →
        number b.byte (pixelBytes res.out.biBitCount) (pixelBytes res.out.biBitCount * k)
          = (readHeaders ⟨content, 0⟩ locals).element locals len k) ∧
      (∀ k : ℕ, (readHeaders ⟨content, 0⟩ locals).pixelsAt
          + storedBytes res.out.biBitCount.toNat * (k + 1 : ℕ) ≤ len →
        k < (readHeaders ⟨content, 0⟩ locals).pixels →
        number b.byte (pixelBytes res.out.biBitCount) (pixelBytes res.out.biBitCount * k)
          = number content.byte (storedBytes res.out.biBitCount.toNat)
              ((readHeaders ⟨content, 0⟩ locals).pixelsAt
                + storedBytes res.out.biBitCount.toNat * k)) ∧
      ∀ k k' : ℕ, (readHeaders ⟨content, 0⟩ locals).pixelsAt
          + storedBytes res.out.biBitCount.toNat * (k + 1 : ℕ) > len → k ≤ k' →
        k' < (readHeaders ⟨content, 0⟩ locals).pixels →
        number b.byte (pixelBytes res.out.biBitCount) (pixelBytes res.out.biBitCount * k')
          = number b.byte (pixelBytes res.out.biBitCount) (pixelBytes res.out.biBitCount * k) := by
  obtain ⟨hopen, haccepted, m, hheap, rfl⟩ := readData_zero_iff.mp ⟨hread, hret⟩
  have hcontent : (readHeaders ⟨content, 0⟩ locals).file.content = content := by
    rw [readHeaders_file_eq hlimit]
  have helement : ∀ k : ℕ, k < (readHeaders ⟨content, 0⟩ locals).pixels → _ := fun k hk =>
    @number_colorData_element _ _ locals m _ (by rw [hcontent, hlimit]) haccepted.depth hk
  refine ⟨_, rfl, helement, ?_, ?_⟩
  · intro k hin hk
    have hstored := (helement k hk).trans (element_of_complete hin)
    rwa [hcontent] at hstored
  · intro k k' hout hle hk'
    refine (helement k' hk').trans (Eq.trans ?_ (helement k ?_).symm)
    · exact element_of_incomplete hout hle
    · exact lt_of_le_of_lt (Int.ofNat_le.mpr hle) hk'

end Elements

/-- A row of two pixels, with four of its six bytes. -/
def cutRow : Block := bmp24 2 1 [1, 2, 3, 4]

/-- The second pixel has its blue from the file, and the rest from the first. -/
theorem truncated_elements_cut_row : ∃ res b,
    readData (fopen cutRow) (filledLocals 0) (some fun _ => 0) emptyOutputs = some res ∧
      res.out.colorData = some b ∧ number b.byte 4 0 = 0x030201 ∧ number b.byte 4 4 = 0x030204 := by
  have hlimit : cutRow.limit = some 58 := rfl
  have hpixels : (readHeaders ⟨cutRow, 0⟩ (filledLocals 0)).pixels = 2 := by
    rw [readHeaders_pixels hlimit (by norm_num)]
    decide
  have haccepted := @readHeaders_accepted _ _ (filledLocals 0) hlimit (by norm_num) (by decide)
    (by decide)
  have hread := (@readData_zero_iff _ _ emptyOutputs _ _).mpr
    ⟨show fopen cutRow = some ⟨cutRow, 0⟩ from rfl, haccepted, fun _ => 0, rfl, rfl⟩
  obtain ⟨b, hb, helement, -⟩ := truncated_elements hlimit hread.1 rfl
  refine ⟨_, b, hread.1, hb, ?_, ?_⟩
  · have h0 := helement 0 (by rw [hpixels]; norm_num)
    exact h0.trans (by decide)
  · have h1 := helement 1 (by rw [hpixels]; norm_num)
    exact h1.trans (by decide)

end Mp157.Bmp
