import Mp157.Camera.Conversion
import Mp157.Camera.Screen

/-!
# From the camera to the screen

A frame is converted (`convertYuvToRgb565Buffer`) and then shown (`lcdShowCamear`).  The two loops
index the picture differently: the first by macropixels of four bytes, the second by rows of the
framebuffer.  `camera_to_screen` composes them over any sequence of frames: what is on the screen
is the last frame, pixel by pixel the direct conversion of its bytes, and nothing outside the
picture was ever touched.
-/

namespace Mp157

open ByteMemory CLoop

/-- One frame: `x.1` the captured bytes, `x.2` the buffer they are converted into. -/
def showFrame (t : Tables) (kms : KmsConfig) (w h : UInt32) (fbMap : Block) (x : Block × Block) :
    Option Block := do
  let rgb ← convertYuvToRgb565Buffer t x.1 x.2 w h
  lcdShowCamear kms fbMap rgb (toLong w) (toLong h)

/-- Byte `off` of the framebuffer belongs to the picture. -/
def InPicture (kms : KmsConfig) (w h : UInt32) (off : ℤ) : Prop :=
  ∃ i j : ℕ, i < min h.toNat kms.fbHight.toNat ∧ j < min w.toNat kms.fbWidht.toNat ∧
    (off = i * kms.fbLineSize.toNat + 2 * j ∨ off = i * kms.fbLineSize.toNat + 2 * j + 1)

/-- What one frame makes of the framebuffer: its picture drawn over what was there. -/
def shownBlock (t : Tables) (kms : KmsConfig) (w h : UInt32) (fbMap : Block) (x : Block × Block) :
    Block :=
  ⟨fbMap.limit, pictureMem fbMap.byte (convertedMem t x.1.byte (convertRounds w h) x.2.byte)
    kms.fbLineSize.toNat w.toNat (min kms.fbHight.toNat h.toNat) (min kms.fbWidht.toNat w.toNat)⟩

section Geometry

variable {kms : KmsConfig} {w h : UInt32}

/-- Frames of even width are whole macropixels. -/
lemma convertRounds_of_even_width (hw : w.toNat % 2 = 0)
    (hsize : 2 * w.toNat * h.toNat < 2 ^ 31) : 4 * convertRounds w h = 2 * w.toNat * h.toNat := by
  have heven : w.toNat * h.toNat % 2 = 0 := by
    rw [Nat.mul_mod, hw, zero_mul, Nat.zero_mod]
  rw [mul_assoc] at hsize ⊢
  exact (four_mul_convertRounds heven).trans (convertSize_eq (by omega))

/-- Outside the picture a drawn framebuffer is as it was. -/
lemma pictureMem_outside (fb p : Mem) {off : ℤ} (hout : ¬ InPicture kms w h off) :
    pictureMem fb p kms.fbLineSize.toNat w.toNat (min kms.fbHight.toNat h.toNat)
      (min kms.fbWidht.toNat w.toNat) off = fb off := by
  rw [pictureMem, if_neg]
  rintro ⟨h₀, hrow, hcol⟩
  have hline : (0 : ℤ) ≤ kms.fbLineSize.toNat := Int.natCast_nonneg _
  have hdiv := Int.ediv_nonneg h₀ hline
  have hdivmod := Int.mul_ediv_add_emod off kms.fbLineSize.toNat
  have hmod : 0 ≤ off % kms.fbLineSize.toNat := by
    rcases hline.eq_or_lt with hz | hpos
    · rw [← hz, Int.emod_zero]
      exact h₀
    · exact Int.emod_nonneg _ hpos.ne'
  set row := off / (kms.fbLineSize.toNat : ℤ) with hrow'
  set col := off % (kms.fbLineSize.toNat : ℤ) with hcol'
  refine hout ⟨row.toNat, (col / 2).toNat, by omega, by omega, ?_⟩
  rw [Int.toNat_of_nonneg hdiv, Int.toNat_of_nonneg (by omega),
    mul_comm row]
  omega

/-- Inside, word `j` of row `i` is word `w * i + j` of the picture. -/
lemma word_pictureMem (hg : kms.Rgb565Geometry) (fb p : Mem) {i j : ℕ} {z : ℤ}
    (hi : i < min h.toNat kms.fbHight.toNat) (hj : j < min w.toNat kms.fbWidht.toNat)
    (hz : 2 * z = i * kms.fbLineSize.toNat + 2 * j) :
    word (pictureMem fb p kms.fbLineSize.toNat w.toNat (min kms.fbHight.toNat h.toNat)
      (min kms.fbWidht.toNat w.toNat)) z = word p (w.toNat * i + j) := by
  have hge := hg.line_ge
  have hbyte : ∀ d : ℤ, 0 ≤ d → d < 2 →
      pictureMem fb p kms.fbLineSize.toNat w.toNat (min kms.fbHight.toNat h.toNat)
        (min kms.fbWidht.toNat w.toNat) (2 * z + d) = p (2 * (w.toNat * i + j) + d) := by
    intro d hd₀ hd₂
    have hpos : (0 : ℤ) < kms.fbLineSize.toNat := by omega
    have hrow : (2 * z + d) / kms.fbLineSize.toNat = i := by
      rw [Int.ediv_eq_iff_of_pos hpos]
      constructor <;> omega
    have hcol : (2 * z + d) % kms.fbLineSize.toNat = 2 * j + d := by
      have hdivmod := Int.mul_ediv_add_emod (2 * z + d) kms.fbLineSize.toNat
      rw [hrow, mul_comm] at hdivmod
      omega
    have hnonneg : (0 : ℤ) ≤ i * kms.fbLineSize.toNat :=
      mul_nonneg (Int.natCast_nonneg _) (Int.natCast_nonneg _)
    rw [pictureMem, hrow, hcol, if_pos (by omega)]
    congr 1
    ring
  have hlo := hbyte 0 le_rfl (by omega)
  have hhi := hbyte 1 (by omega) (by omega)
  simp only [add_zero] at hlo
  rw [word, word, hlo, hhi]

/-- **One frame.** -/
theorem showFrame_eq (t : Tables) (hg : kms.Rgb565Geometry) (hw : w.toNat % 2 = 0)
    (hsize : 2 * w.toNat * h.toNat < 2 ^ 31) (fb : Block) (x : Block × Block)
    (hfb : fb.Holds kms.fbSize.toNat) (hyuv : x.1.Holds (2 * w.toNat * h.toNat))
    (hrgb : x.2.Holds (2 * w.toNat * h.toNat)) :
    showFrame t kms w h fb x = some (shownBlock t kms w h fb x) := by
  have hrounds := convertRounds_of_even_width hw hsize
  rw [showFrame, convertYuvToRgb565Buffer_eq t (by omega) (by rwa [hrounds]) (by rwa [hrounds])]
  exact lcdShowCamear_eq hg hsize hfb (p := ⟨x.2.limit, _⟩) hrgb

/-- Any number of frames leaves the rest of the mapping alone. -/
lemma showFrames_outside (t : Tables) (hg : kms.Rgb565Geometry) (hw : w.toNat % 2 = 0)
    (hsize : 2 * w.toNat * h.toNat < 2 ^ 31) :
    ∀ (frames : List (Block × Block)) (fb : Block), fb.Holds kms.fbSize.toNat →
      (∀ x ∈ frames, x.1.Holds (2 * w.toNat * h.toNat) ∧ x.2.Holds (2 * w.toNat * h.toNat)) →
      ∃ fb', frames.foldlM (showFrame t kms w h) fb = some fb' ∧ fb'.limit = fb.limit ∧
        ∀ off, ¬ InPicture kms w h off → fb'.byte off = fb.byte off
  | [], fb, _, _ => ⟨fb, rfl, rfl, fun _ _ => rfl⟩
  | x :: frames, fb, hfb, hframes => by
      obtain ⟨hyuv, hrgb⟩ := hframes x (by simp)
      have hx := showFrame_eq t hg hw hsize fb x hfb hyuv hrgb
      obtain ⟨fb', hrun, hlimit, hout⟩ := showFrames_outside t hg hw hsize frames
        (shownBlock t kms w h fb x) hfb fun y hy => hframes y (List.mem_cons_of_mem _ hy)
      refine ⟨fb', by rw [List.foldlM_cons, hx]; exact hrun, hlimit, ?_⟩
      intro off hoff
      rw [hout off hoff]
      exact pictureMem_outside fb.byte _ hoff

end Geometry

/-- **Camera-to-screen correctness.**  After any sequence of frames the screen shows the last
one, every pixel converted directly from its luma byte and the chroma of its macropixel; the rest
of the mapping is still zero.  That the computation returns says that every read and write was
inside its buffer. -/
theorem camera_to_screen (t : Tables) (kms : KmsConfig) (w h : UInt32)
    (frames : List (Block × Block)) (yuv rgb : Block) (hg : kms.Rgb565Geometry)
    (hw : w.toNat % 2 = 0) (hsize : 2 * w.toNat * h.toNat < 2 ^ 31)
    (hframes : ∀ x ∈ frames ++ [(yuv, rgb)],
      x.1.Holds (2 * w.toNat * h.toNat) ∧ x.2.Holds (2 * w.toNat * h.toNat)) :
    ∃ fb, (frames ++ [(yuv, rgb)]).foldlM (showFrame (yuvRgbTableInit t) kms w h) (drmFbMmap kms)
        = some fb ∧ fb.limit = some kms.fbSize.toNat ∧
      (∀ i j : ℕ, i < min h.toNat kms.fbHight.toNat → j < min w.toNat kms.fbWidht.toNat →
        ∀ z : ℤ, 2 * z = i * kms.fbLineSize.toNat + 2 * j →
        let k : ℤ := w.toNat * i + j
        let pixel := convertYuvToRgbPixel (yuv.byte (2 * k)).toNat
          (yuv.byte (4 * (k / 2) + 1)).toNat (yuv.byte (4 * (k / 2) + 3)).toNat
        word fb.byte z = rgb565 (pixelByte pixel 0) (pixelByte pixel 1) (pixelByte pixel 2)) ∧
      ∀ off, ¬ InPicture kms w h off → fb.byte off = 0 := by
  have hfb : (drmFbMmap kms).Holds kms.fbSize.toNat := by
    intro len hlen
    simp only [drmFbMmap, Option.mem_def, Option.some.injEq] at hlen
    exact hlen.le
  obtain ⟨hyuv, hrgb⟩ := hframes (yuv, rgb) (by simp)
  obtain ⟨fb, hrun, hlimit, hout⟩ := showFrames_outside (yuvRgbTableInit t) hg hw hsize frames
    (drmFbMmap kms) hfb fun x hx => hframes x (List.mem_append_left _ hx)
  have hlast := showFrame_eq (yuvRgbTableInit t) hg hw hsize fb (yuv, rgb)
    (fun len hlen => hfb len (hlimit ▸ hlen)) hyuv hrgb
  have hall : (frames ++ [(yuv, rgb)]).foldlM (showFrame (yuvRgbTableInit t) kms w h)
      (drmFbMmap kms) = some (shownBlock (yuvRgbTableInit t) kms w h fb (yuv, rgb)) := by
    rw [List.foldlM_append, hrun]
    simpa using hlast
  refine ⟨_, hall, hlimit, ?_, ?_⟩
  · intro i j hi hj z hz k pixel
    have hrounds := convertRounds_of_even_width hw hsize
    have hnonneg : 0 ≤ k := add_nonneg
      (mul_nonneg (Int.natCast_nonneg _) (Int.natCast_nonneg _)) (Int.natCast_nonneg _)
    have hrow := @lt_of_row k w.toNat i h.toNat w.toNat (by omega) le_rfl (by omega)
    have hpixels : ((w.toNat * h.toNat : ℕ) : ℤ) = 2 * (convertRounds w h : ℕ) := by
      rw [mul_assoc] at hrounds
      omega
    rw [shownBlock, word_pictureMem hg _ _ hi hj hz, word_convertedMem _ _ _ _ hnonneg (by omega),
      convertedPixel, tablePixel_init]
  · intro off hoff
    exact (pictureMem_outside fb.byte _ hoff).trans (hout off hoff)

/-- Two pixels, one macropixel, on a screen of one row. -/
theorem camera_to_screen_macropixel :
    ∃ fb, ([] ++ [((⟨some 4, fun off => if off = 0 then 81 else if off = 1 then 90
          else if off = 2 then 16 else 240⟩ : Block), (⟨some 4, fun _ => 7⟩ : Block))]).foldlM
        (showFrame (yuvRgbTableInit ⟨0, 0, 0, 0, 0⟩) ⟨2, 1, 4, 4⟩ 2 1) (drmFbMmap ⟨2, 1, 4, 4⟩)
        = some fb ∧ word fb.byte 0 = 0xF800 ∧ word fb.byte 1 = 0xB000 := by
  obtain ⟨fb, hrun, -, hpixel, -⟩ := camera_to_screen ⟨0, 0, 0, 0, 0⟩ ⟨2, 1, 4, 4⟩ 2 1 []
    ⟨some 4, fun off => if off = 0 then 81 else if off = 1 then 90
      else if off = 2 then 16 else 240⟩ ⟨some 4, fun _ => 7⟩
    ⟨by decide, by decide, by decide, by decide, by decide, by decide⟩ (by decide) (by decide)
    (by simp [Block.Holds])
  refine ⟨fb, hrun, ?_, ?_⟩
  · exact (hpixel 0 0 (by decide) (by decide) 0 (by decide)).trans (by decide)
  · exact (hpixel 0 1 (by decide) (by decide) 1 (by decide)).trans (by decide)

end Mp157
