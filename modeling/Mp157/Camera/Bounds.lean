import Mp157.Camera.SetupGuarantee
import Mp157.Camera.Screen

/-!
# Is the conversion inside its buffers?

Three sizes have to agree for every format the driver may report: the length of the mapping, the
size `v4l2_init` allocates for `rgbdata[i]`, and the bytes the conversion loop goes through.  Each
is a product in 32 bits that may wrap around, and the loop goes through whole macropixels.

* `convertYuvToRgb565Buffer_returns_iff` — the conversion returns exactly when the bytes of its
  macropixels fit both buffers.
* `lcdShowCamear_returns_iff` — `lcdShowCamearReads` is what `lcd_show_camear` reads.
* `converter_in_bounds_iff` — when the two agree with what was allocated.
-/

namespace Mp157

open ByteMemory CLoop Stages

/-! ## The conversion -/

section Conversion

variable {t : Tables} {yuv : Block} {s s' : ConvertState} {w h : UInt32}

/-- A round that returns has read and written the last byte of its macropixel. -/
lemma inside_of_convertBody (hbody : convertBody t yuv s = some s') :
    yuv.inside (s.inPos + 3).toNat = true ∧ s.rgb.inside (s.outPos + 3).toNat = true := by
  simp only [convertBody, Option.bind_eq_bind, Option.bind_eq_some_iff] at hbody
  obtain ⟨_, _, _, _, _, _, _, hload, _, _, rgb₁, hstore₁, rgb₀, hstore₀, _, _, _, hstore₃, _⟩ :=
    hbody
  obtain ⟨-, hlimit₁⟩ := Block.inside_of_store hstore₁
  obtain ⟨-, hlimit₀⟩ := Block.inside_of_store hstore₀
  obtain ⟨hin, -⟩ := Block.inside_of_store hstore₃
  exact ⟨Block.inside_of_load hload, by rwa [Block.inside_congr (hlimit₀.trans hlimit₁)] at hin⟩

/-- **When the conversion returns.**  Exactly when its macropixels fit both buffers. -/
theorem convertYuvToRgb565Buffer_returns_iff (t : Tables) (f rgb : Mem) {a b : ℕ}
    (ha : a < 2 ^ 32) (hb : b < 2 ^ 32) :
    (∃ out, convertYuvToRgb565Buffer t ⟨some a, f⟩ ⟨some b, rgb⟩ w h = some out) ↔
      4 * convertRounds w h ≤ a ∧ 4 * convertRounds w h ≤ b := by
  constructor
  · rintro ⟨out, hout⟩
    by_contra hfit
    -- the first macropixel that does not fit stops the loop
    set k := min a b / 4 with hk
    have hrounds : k < convertRounds w h := by omega
    have hk30 : k < 2 ^ 30 := by omega
    let at_ (j : ℕ) : ConvertState :=
      ⟨⟨some b, convertedMem t f j rgb⟩, UInt32.ofNat (4 * j), UInt32.ofNat (4 * j)⟩
    have hguard : ∀ j ≤ k, convertGuard w h (at_ j) = true := by
      intro j hj
      rw [convertGuard_position (by omega)]
      exact decide_eq_true (by omega)
    have hround : ∀ j, 0 ≤ j → j < k →
        convertGuard w h (at_ j) = true ∧
          convertBody t ⟨some a, f⟩ (at_ j) = some (at_ (j + 1)) := by
      intro j _ hj
      refine ⟨hguard j hj.le, ?_⟩
      rw [convertBody_eq t (by omega) (by simp [Block.Holds]; omega)
        (by simp [Block.Holds]; omega), convertedMem_succ]
    have hstop : convertBody t ⟨some a, f⟩ (at_ k) = none := by
      cases hbody : convertBody t ⟨some a, f⟩ (at_ k) with
      | none => rfl
      | some s' =>
          obtain ⟨hread, hwrite⟩ := inside_of_convertBody hbody
          have h3 : ((UInt32.ofNat (4 * k) + 3).toNat : ℤ) = 4 * (k : ℤ) + 3 := by
            simpa using position_add hk30 3 (by omega)
          simp only [at_, h3, Block.inside_some] at hread hwrite
          omega
    have hnone := @whileLoop_eq_none _ _ _ at_ k (hguard k le_rfl) hstop (2 ^ 30 + 1) 0
      (Nat.zero_le k) hround
    have hstart : at_ 0 = ⟨⟨some b, rgb⟩, 0, 0⟩ := by
      simp [at_]
    rw [hstart] at hnone
    rw [convertYuvToRgb565Buffer, hnone] at hout
    cases hout
  · rintro ⟨hread, hwrite⟩
    exact ⟨_, convertYuvToRgb565Buffer_eq t (by omega) (by simpa [Block.Holds] using hread)
      (by simpa [Block.Holds] using hwrite)⟩

end Conversion

/-! ## What is shown -/

section Show

variable {kms : KmsConfig} {p : Block} {biWidth biHeight : ℤ}

/-- Byte `off` of the picture belongs to a pixel that `lcd_show_camear` draws. -/
def lcdShowCamearReads (kms : KmsConfig) (biWidth biHeight off : ℤ) : Prop :=
  ∃ i j : ℕ, i < kms.fbHight.toNat ∧ j < kms.fbWidht.toNat ∧ (j : ℤ) < biWidth ∧
    (i : ℤ) < biHeight ∧ (off = 2 * (biWidth * i + j) ∨ off = 2 * (biWidth * i + j) + 1)

/-- A column that is drawn was read from the picture. -/
lemma inside_of_lcdShowCamearCell {i j : ℕ} {s s' : RowState}
    (hcell : lcdShowCamearCell p biWidth biHeight i s j = some s') (hj : (j : ℤ) < biWidth)
    (hi : (i : ℤ) < biHeight) :
    p.inside (2 * (biWidth * i + j)) = true ∧ p.inside (2 * (biWidth * i + j) + 1) = true := by
  rw [lcdShowCamearCell, if_pos ⟨hj, hi⟩] at hcell
  simp only [Block.load16, Option.bind_eq_bind, Option.bind_eq_some_iff] at hcell
  obtain ⟨_, ⟨_, hlo, _, hhi, _⟩, _⟩ := hcell
  exact ⟨Block.inside_of_load hlo, Block.inside_of_load hhi⟩

/-- **What `lcd_show_camear` reads.**  Over a screen whose extent is not in question it returns
exactly when `lcdShowCamearReads` stays inside the picture. -/
theorem lcdShowCamear_returns_iff (fb : Mem) :
    (∃ fb', lcdShowCamear kms (unbounded fb) p biWidth biHeight = some fb') ↔
      ∀ off, lcdShowCamearReads kms biWidth biHeight off → p.inside off = true := by
  constructor
  · rintro ⟨fb', hshow⟩ off ⟨i, j, hi, hj, hwidth, hheight, hoff⟩
    obtain ⟨t, t', _, hrow⟩ := forRange_round hshow hi
    rw [lcdShowCamearRow, Option.map_eq_some_iff] at hrow
    obtain ⟨_, hcells, _⟩ := hrow
    obtain ⟨_, _, _, hcell⟩ := forRange_round hcells hj
    obtain ⟨hlo, hhi⟩ := inside_of_lcdShowCamearCell hcell hwidth hheight
    rcases hoff with rfl | rfl
    · exact hlo
    · exact hhi
  · intro hreads
    obtain ⟨fb', hshow, -⟩ := @forRange_exists _ (lcdShowCamearRow kms p biWidth biHeight)
      (fun t => t.limit = none) kms.fbHight.toNat (unbounded fb) rfl (by
        intro t i hi hlimit
        refine ⟨_, lcdShowCamearRow_eq ?_ ?_, hlimit⟩
        · intro off hlo hhi
          refine hreads off ⟨i, (off / 2 - biWidth * i).toNat, hi, ?_⟩
          rw [drawnColumns] at hhi
          split_ifs at hhi with hheight
          · refine ⟨by omega, by omega, hheight, by omega⟩
          · omega
        · intro off _ _
          rw [Block.inside, hlimit])
    exact ⟨fb', hshow⟩

end Show

/-! ## The two together -/

/-- The sides of a screen are those of a mode, of 16 bits each. -/
def KmsConfig.ModeSides (kms : KmsConfig) : Prop :=
  kms.fbWidht.toNat ≤ 65535 ∧ kms.fbHight.toNat ≤ 65535

/-- The conversion between `mapped` bytes of capture buffer and a block of `size` bytes: it returns,
so every access was inside, and every byte that can be shown is then its own, whatever was there. -/
structure ConverterInBounds (t : Tables) (mapped size : ℕ) (w h : UInt32) : Prop where
  returns : ∀ yuv rgb : Mem, ∃ out,
    convertYuvToRgb565Buffer t ⟨some mapped, yuv⟩ ⟨some size, rgb⟩ w h = some out
  written : ∀ kms : KmsConfig, kms.ModeSides →
    ∀ off, lcdShowCamearReads kms (toLong w) (toLong h) off →
      ∀ yuv rgb rgb' out out',
        convertYuvToRgb565Buffer t ⟨some mapped, yuv⟩ ⟨some size, rgb⟩ w h = some out →
        convertYuvToRgb565Buffer t ⟨some mapped, yuv⟩ ⟨some size, rgb'⟩ w h = some out' →
        out.byte off = out'.byte off

/-- With `p` the pixel count modulo `2 ^ 31`: four bytes for every two pixels begun fit the capture
buffer and the allocation, and the rows that a screen has room for are among these pixels, or a
side is negative as a `long`. -/
structure FormatFits (bmpmode : Bool) (mapped w h : UInt32) : Prop where
  mapping : 4 * ((w.toNat * h.toNat % 2 ^ 31 + 1) / 2) ≤ mapped.toNat
  allocation : 4 * ((w.toNat * h.toNat % 2 ^ 31 + 1) / 2)
    ≤ w.toNat * h.toNat * (if bmpmode then 3 else 2) % 2 ^ 32
  shown : w.toNat * min h.toNat 65535 ≤ 2 * ((w.toNat * h.toNat % 2 ^ 31 + 1) / 2) ∨
    2 ^ 31 ≤ w.toNat ∨ 2 ^ 31 ≤ h.toNat

section Formats

variable {t : Tables} {bmpmode : Bool} {uLength size w h : UInt32}

lemma convertSize_toNat (w h : UInt32) :
    (convertSize w h).toNat = 2 * (w.toNat * h.toNat % 2 ^ 31) := by
  rw [convertSize, UInt32.toNat_mul, UInt32.toNat_mul]
  change w.toNat * h.toNat % 2 ^ 32 * 2 % 2 ^ 32 = _
  omega

lemma convertRounds_eq (w h : UInt32) :
    convertRounds w h = (w.toNat * h.toNat % 2 ^ 31 + 1) / 2 := by
  rw [convertRounds, convertSize_toNat]
  omega

lemma rgbSize_toNat (fmt : PixFormat) : (rgbSize bmpmode fmt).toNat
    = fmt.width.toNat * fmt.height.toNat * (if bmpmode then 3 else 2) % 2 ^ 32 := by
  rw [rgbSize, UInt32.toNat_mul, UInt32.toNat_mul, Nat.mod_mul_mod]
  cases bmpmode <;> rfl

/-- A `long` with numbers below it comes from an `unsigned int` below `2 ^ 31`. -/
lemma lt_of_lt_toLong {x : UInt32} {j : ℕ} (hj : (j : ℤ) < toLong x) : x.toNat < 2 ^ 31 := by
  by_contra! hx
  have hlong := toLong_of_ge hx
  have hlt := x.toNat_lt
  omega

/-- The last pixel that a screen shows of a frame of these sides lies among `m` pixels, `m` being
the pixel count modulo `2 ^ 31` and rounded up, only if every row shown does. -/
lemma rows_le_of_lastPixel {w h m : ℕ} (hw : w < 2 ^ 31) (hm : m = 2 * ((w * h % 2 ^ 31 + 1) / 2))
    (hlast : w * (min h 65535 - 1) + min w 65535 ≤ m) : w * min h 65535 ≤ m := by
  rcases Nat.eq_zero_or_pos h with rfl | hh
  · simp
  rcases le_total w 65535 with hnarrow | hwide
  · calc w * min h 65535 = w * (min h 65535 - 1) + w := by
          rw [← Nat.mul_succ, Nat.succ_eq_add_one, Nat.sub_add_cancel (by omega)]
      _ ≤ m := by rwa [min_eq_left hnarrow] at hlast
  rw [min_eq_right hwide] at hlast
  rcases le_total h 65535 with hlow | hhigh
  · -- every row is shown: a count that wraps around leaves some of them out
    rw [min_eq_left hlow] at hlast ⊢
    have hrows : w * h = w * (h - 1) + w := by
      rw [← Nat.mul_succ, Nat.succ_eq_add_one, Nat.sub_add_cancel hh]
    omega
  · -- this many wide rows are no pixel count
    rw [min_eq_right hhigh] at hlast
    omega

/-- **What is shown is converted** exactly when the rows that a screen has room for are, or no pixel
could be shown. -/
lemma shown_lt_iff :
    (∀ kms : KmsConfig, kms.ModeSides → ∀ off, lcdShowCamearReads kms (toLong w) (toLong h) off →
      0 ≤ off ∧ off < 4 * (convertRounds w h : ℤ)) ↔
      w.toNat * min h.toNat 65535 ≤ 2 * convertRounds w h ∨ 2 ^ 31 ≤ w.toNat ∨
        2 ^ 31 ≤ h.toNat := by
  constructor
  · intro hshown
    by_contra! hbig
    obtain ⟨hrows, hw, hh⟩ := hbig
    have hwpos : 0 < w.toNat := Nat.pos_of_ne_zero fun h0 => by simp [h0] at hrows
    have hhpos : 0 < h.toNat := Nat.pos_of_ne_zero fun h0 => by simp [h0] at hrows
    -- the last pixel shown, on the largest screen
    obtain ⟨-, hlast⟩ := hshown ⟨65535, 65535, 0, 0⟩ ⟨by decide, by decide⟩ _
      ⟨min h.toNat 65535 - 1, min w.toNat 65535 - 1, by simp; omega, by simp; omega,
        by rw [toLong_of_lt hw]; omega, by rw [toLong_of_lt hh]; omega, .inl rfl⟩
    rw [toLong_of_lt hw] at hlast
    refine absurd (rows_le_of_lastPixel hw (by rw [convertRounds_eq]) ?_) (not_le.mpr hrows)
    have hrow : (w.toNat : ℤ) * (min h.toNat 65535 - 1 : ℕ)
        = (w.toNat * (min h.toNat 65535 - 1) : ℕ) := by
      push_cast
      rfl
    rw [hrow] at hlast
    omega
  · rintro hrows kms ⟨-, hsides⟩ off ⟨i, j, hi, -, hj, hih, hoff⟩
    have hw := lt_of_lt_toLong hj
    have hh := lt_of_lt_toLong hih
    rw [toLong_of_lt hw] at hj hoff
    rw [toLong_of_lt hh] at hih
    have hpixels : w.toNat * min h.toNat 65535 ≤ 2 * convertRounds w h := by omega
    have hrow : w.toNat * i + w.toNat ≤ w.toNat * min h.toNat 65535 := by
      rw [← Nat.mul_succ]
      exact Nat.mul_le_mul_left _ (by omega)
    have hnonneg : (0 : ℤ) ≤ (w.toNat : ℤ) * i := by positivity
    zify at hrow hpixels
    omega

/-- What the three sizes have to satisfy, whatever was allocated. -/
lemma converterInBounds_iff {mapped size : ℕ} (hmapped : mapped < 2 ^ 32) (hsize : size < 2 ^ 32) :
    ConverterInBounds t mapped size w h ↔
      (4 * convertRounds w h ≤ mapped ∧ 4 * convertRounds w h ≤ size) ∧
        (w.toNat * min h.toNat 65535 ≤ 2 * convertRounds w h ∨ 2 ^ 31 ≤ w.toNat ∨
          2 ^ 31 ≤ h.toNat) := by
  have hreturns := fun yuv rgb : Mem =>
    @convertYuvToRgb565Buffer_returns_iff w h t yuv rgb mapped size hmapped hsize
  constructor
  · intro hbounds
    have hfit := (hreturns (fun _ => 0) fun _ => 0).mp (hbounds.returns _ _)
    refine ⟨hfit, shown_lt_iff.mp ?_⟩
    intro kms hsides off hreads
    -- a byte that is not converted is still what it was
    by_contra hout
    have hconvert := fun rgb : Mem => @convertYuvToRgb565Buffer_eq t
      ⟨some mapped, fun _ => 0⟩ ⟨some size, rgb⟩ w h (by omega)
      (by simpa [Block.Holds] using hfit.1) (by simpa [Block.Holds] using hfit.2)
    have hsame := hbounds.written kms hsides off hreads (fun _ => 0) (fun _ => 0) (fun _ => 1) _ _
      (hconvert _) (hconvert _)
    simp only [convertedMem, if_neg hout] at hsame
    exact absurd hsame (by decide)
  · rintro ⟨hfit, hshown⟩
    refine ⟨fun yuv rgb => (hreturns yuv rgb).mpr hfit, ?_⟩
    intro kms hsides off hreads yuv rgb rgb' out out' hout hout'
    have hoff := shown_lt_iff.mpr hshown kms hsides off hreads
    have hconvert := fun rgb : Mem => @convertYuvToRgb565Buffer_eq t ⟨some mapped, yuv⟩
      ⟨some size, rgb⟩ w h (by omega) (by simpa [Block.Holds] using hfit.1)
      (by simpa [Block.Holds] using hfit.2)
    obtain rfl := Option.some.inj ((hconvert rgb).symm.trans hout)
    obtain rfl := Option.some.inj ((hconvert rgb').symm.trans hout')
    simp only [convertedMem, if_pos hoff]

end Formats

section Setup

/-- How many bytes can be accessed through a pointer to the data of a frame. -/
def Pointer.bytes : Pointer → ℕ
  | .to (.mapping _ length) => length.toNat
  | .to (.rgbdata _ size) => size.toNat
  | _ => 0

variable {bmpmode : Bool} {o : SetupCalls} {tables : Tables} {s : SetupState} {i : ℕ}

lemma bytes_mmapResult (i : ℕ) :
    (mmapResult o i).bytes = (if o.mmap i then o.length i else 0).toNat := by
  unfold mmapResult
  split_ifs <;> rfl

/-- **When the conversion is inside its buffers.**  After a set-up that is done, for every buffer:
exactly when the format fits the mapping and the allocation.  A mapping that failed, which the
set-up does not notice, has no bytes. -/
theorem converter_in_bounds_iff (hdone : v4l2Init bmpmode o (setupStart tables) = .done s)
    (hi : i < s.camera.uCount) :
    ∃ size, s.camera.rgbdata i = .to (.rgbdata i size) ∧
      (ConverterInBounds s.tables (s.camera.videoBuffer i).pStart.bytes size.toNat
          s.camera.fmt.width s.camera.fmt.height ↔
        FormatFits bmpmode (if o.mmap i then o.length i else 0) s.camera.fmt.width
          s.camera.fmt.height) := by
  obtain ⟨-, rfl⟩ := v4l2Init_eq_done.mp hdone
  refine ⟨rgbSize bmpmode o.gFmt, if_pos hi, ?_⟩
  rw [setupDone_videoBuffer hi, bytes_mmapResult,
    converterInBounds_iff (UInt32.toNat_lt _) (UInt32.toNat_lt _), convertRounds_eq, rgbSize_toNat]
  constructor
  · rintro ⟨⟨hmapping, hallocation⟩, hshown⟩
    exact ⟨hmapping, hallocation, hshown⟩
  · rintro ⟨hmapping, hallocation, hshown⟩
    exact ⟨⟨hmapping, hallocation⟩, hshown⟩

/-- A 640 by 480 camera with mappings of that size. -/
theorem converter_in_bounds_vga : ∃ s,
    v4l2Init false everyCallSucceeds (setupStart ⟨0, 0, 0, 0, 0⟩) = .done s ∧
      ∃ size, s.camera.rgbdata 3 = .to (.rgbdata 3 size) ∧
        ConverterInBounds s.tables (s.camera.videoBuffer 3).pStart.bytes size.toNat
          s.camera.fmt.width s.camera.fmt.height := by
  have hdone : v4l2Init false everyCallSucceeds (setupStart ⟨0, 0, 0, 0, 0⟩) = .done _ := rfl
  obtain ⟨size, hsize, hiff⟩ := converter_in_bounds_iff (i := 3) hdone (by decide)
  refine ⟨_, hdone, size, hsize, hiff.mpr ?_⟩
  exact (⟨by decide, by decide, .inl (by decide)⟩ : FormatFits false 614400 640 480)

/-- A camera of 3 by 1 pixels, with room for them in its mappings: the second macropixel is written
to bytes 4 to 7 of a block of 6. -/
theorem converter_out_of_bounds : ∃ s,
    v4l2Init false
        { everyCallSucceeds with gFmt := ⟨v4l2PixFmtYuyv, 3, 1⟩, length := fun _ => 4096 }
        (setupStart ⟨0, 0, 0, 0, 0⟩) = .done s ∧
    s.camera.rgbdata 0 = .to (.rgbdata 0 6) ∧
    ¬ ConverterInBounds s.tables (s.camera.videoBuffer 0).pStart.bytes 6 s.camera.fmt.width
      s.camera.fmt.height := by
  refine ⟨_, rfl, rfl, ?_⟩
  rw [converterInBounds_iff (by decide) (by decide)]
  rintro ⟨⟨-, hallocation⟩, -⟩
  exact absurd hallocation (by decide)

end Setup

end Mp157
