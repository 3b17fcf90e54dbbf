import Mathlib.Data.Rat.Floor
import Mp157.Camera.Conversion

/-!
# How accurate the integer arithmetic is

The comment over the coefficients says that the floating-point formula is computed with integers
and converted back.  Each coefficient is scaled by `2 ^ 16` and truncated, which is off by less than
one unit; three such terms are off by less than one unit of a channel before the floor.

`channels_accurate` says this for a pixel, `conversion_accurate` for the words of a whole frame.
-/

namespace Mp157

open ByteMemory

/-! ## The exact formula -/

def exactRed (y v : ℤ) : ℚ := 1.164383 * (y - 16) + 1.596027 * (v - 128)

def exactGreen (y u v : ℤ) : ℚ := 1.164383 * (y - 16) - 0.391762 * (u - 128) - 0.812968 * (v - 128)

def exactBlue (y u : ℤ) : ℚ := 1.164383 * (y - 16) + 2.017232 * (u - 128)

/-- The values differ by at most 1. -/
def Near (a b : ℕ) : Prop := a ≤ b + 1 ∧ b ≤ a + 1

/-- The channels of a pixel are near the floor of the exact formula, clamped. -/
structure AccurateChannels (p : UInt32) (y u v : UInt8) : Prop where
  red : Near (pixelByte p 0).toNat (clampByte ⌊exactRed y.toNat v.toNat⌋).toNat
  green : Near (pixelByte p 1).toNat (clampByte ⌊exactGreen y.toNat u.toNat v.toNat⌋).toNat
  blue : Near (pixelByte p 2).toNat (clampByte ⌊exactBlue y.toNat u.toNat⌋).toNat

/-- The fields of an RGB565 word are near those of the exact pixel. -/
structure AccurateFields (word : UInt16) (y u v : UInt8) : Prop where
  red : Near (word.toNat / 2048) ((clampByte ⌊exactRed y.toNat v.toNat⌋).toNat / 8)
  green : Near (word.toNat / 32 % 64) ((clampByte ⌊exactGreen y.toNat u.toNat v.toNat⌋).toNat / 4)
  blue : Near (word.toNat % 32) ((clampByte ⌊exactBlue y.toNat u.toNat⌋).toNat / 8)

/-! ## Floors and clamps -/

lemma abs_floor_sub_floor_le {a b : ℚ} (h : |a - b| < 1) : |⌊a⌋ - ⌊b⌋| ≤ 1 := by
  obtain ⟨hlo, hhi⟩ := abs_lt.mp h
  have hab : ⌊a⌋ ≤ ⌊b⌋ + 1 := by
    rw [← Int.floor_add_one]
    exact Int.floor_le_floor (by linarith)
  have hba : ⌊b⌋ ≤ ⌊a⌋ + 1 := by
    rw [← Int.floor_add_one]
    exact Int.floor_le_floor (by linarith)
  exact abs_le.mpr ⟨by linarith, by linarith⟩

/-- The arithmetic shift is a floor, of negative values too. -/
lemma shift_eq_floor (s : ℤ) : s >>> (16 : ℕ) = ⌊(s : ℚ) / 2 ^ 16⌋ := by
  have hcast : (2 : ℚ) ^ 16 = ((65536 : ℕ) : ℚ) := by norm_num
  rw [hcast, Rat.floor_intCast_div_natCast, Int.shiftRight_eq_div_pow]

lemma clampByte_toNat (x : ℤ) : ((clampByte x).toNat : ℤ) = max 0 (min x 255) := by
  rw [clampByte, UInt8.toNat_ofNat']
  split_ifs <;> omega

lemma near_clampByte {a b : ℤ} (h : |a - b| ≤ 1) :
    Near (clampByte a).toNat (clampByte b).toNat := by
  have ha := clampByte_toNat a
  have hb := clampByte_toNat b
  rw [abs_le] at h
  constructor <;> omega

/-- A channel computed from `s`, against the exact value `x`. -/
lemma near_channel {s : ℤ} {x : ℚ} (h : |(s : ℚ) / 2 ^ 16 - x| < 1) :
    Near (clampByte (s >>> (16 : ℕ))).toNat (clampByte ⌊x⌋).toNat := by
  rw [shift_eq_floor]
  exact near_clampByte (abs_floor_sub_floor_le h)

/-! ## The error of a term -/

/-- A coefficient that is off by at most one unit in `2 ^ 16`. -/
def Truncates (c : ℤ) (x : ℚ) : Prop := |(c : ℚ) / 2 ^ 16 - x| ≤ 1 / 2 ^ 16

lemma coefficients_truncate : Truncates csYCoeff16 1.164383 ∧ Truncates csUBlue16 2.017232 ∧
    Truncates csUGreen16 (-0.391762) ∧ Truncates csVGreen16 (-0.812968) ∧
    Truncates csVRed16 1.596027 := by
  have hy : csYCoeff16 = 76309 := by decide
  have hub : csUBlue16 = 132201 := by decide
  have hug : csUGreen16 = -25674 := by decide
  have hvg : csVGreen16 = -53278 := by decide
  have hvr : csVRed16 = 104597 := by decide
  rw [hy, hub, hug, hvg, hvr]
  simp only [Truncates, abs_le]
  norm_num

lemma term_error {c : ℤ} {x : ℚ} (hc : Truncates c x) {d : ℤ} (hd : |d| ≤ 255) :
    |((c * d : ℤ) : ℚ) / 2 ^ 16 - x * d| ≤ 255 / 2 ^ 16 := by
  have hd' : |(d : ℚ)| ≤ 255 := by exact_mod_cast hd
  have hfactor : ((c * d : ℤ) : ℚ) / 2 ^ 16 - x * d = ((c : ℚ) / 2 ^ 16 - x) * d := by
    push_cast
    ring
  rw [hfactor, abs_mul]
  calc |(c : ℚ) / 2 ^ 16 - x| * |(d : ℚ)| ≤ 1 / 2 ^ 16 * 255 :=
        mul_le_mul hc hd' (abs_nonneg _) (by norm_num)
    _ = 255 / 2 ^ 16 := by norm_num

/-- The errors of two terms add up. -/
lemma sum_error {s₁ s₂ : ℤ} {x₁ x₂ e₁ e₂ : ℚ} (h₁ : |(s₁ : ℚ) / 2 ^ 16 - x₁| ≤ e₁)
    (h₂ : |(s₂ : ℚ) / 2 ^ 16 - x₂| ≤ e₂) :
    |((s₁ + s₂ : ℤ) : ℚ) / 2 ^ 16 - (x₁ + x₂)| ≤ e₁ + e₂ := by
  have hsum : ((s₁ + s₂ : ℤ) : ℚ) / 2 ^ 16 - (x₁ + x₂)
      = ((s₁ : ℚ) / 2 ^ 16 - x₁) + ((s₂ : ℚ) / 2 ^ 16 - x₂) := by
    push_cast
    ring
  calc |((s₁ + s₂ : ℤ) : ℚ) / 2 ^ 16 - (x₁ + x₂)|
      = |((s₁ : ℚ) / 2 ^ 16 - x₁) + ((s₂ : ℚ) / 2 ^ 16 - x₂)| := by rw [hsum]
    _ ≤ |(s₁ : ℚ) / 2 ^ 16 - x₁| + |(s₂ : ℚ) / 2 ^ 16 - x₂| := abs_add_le _ _
    _ ≤ e₁ + e₂ := add_le_add h₁ h₂

/-! ## A pixel -/

lemma pixelByte_pixel32 (pixel0 pixel1 pixel2 : UInt8) :
    pixelByte (pixel32 pixel0 pixel1 pixel2) 0 = pixel0 ∧
      pixelByte (pixel32 pixel0 pixel1 pixel2) 1 = pixel1 ∧
      pixelByte (pixel32 pixel0 pixel1 pixel2) 2 = pixel2 := by
  have h0 := pixel0.toNat_lt
  have h1 := pixel1.toNat_lt
  have h2 := pixel2.toNat_lt
  have hvalue : (pixel32 pixel0 pixel1 pixel2).toNat
      = pixel0.toNat + 256 * pixel1.toNat + 65536 * pixel2.toNat := by
    rw [pixel32, UInt32.toNat_ofNat']
    omega
  simp only [pixelByte, hvalue, ← UInt8.toNat_inj, UInt8.toNat_ofNat']
  omega

/-- **Every channel is near the exact one.** -/
theorem channels_accurate (y u v : UInt8) :
    AccurateChannels (convertYuvToRgbPixel y.toNat u.toNat v.toNat) y u v := by
  obtain ⟨hY, hUB, hUG, hVG, hVR⟩ := coefficients_truncate
  have hchroma : ∀ x : UInt8, |(x.toNat : ℤ) - 128| ≤ 255 := by
    intro x
    have hx := x.toNat_lt
    exact abs_le.mpr ⟨by omega, by omega⟩
  have hluma : |(y.toNat : ℤ) - 16| ≤ 255 := by
    have hy := y.toNat_lt
    exact abs_le.mpr ⟨by omega, by omega⟩
  have hy := term_error hY hluma
  obtain ⟨hred, hgreen, hblue⟩ := pixelByte_pixel32
    (clampByte ((csYCoeff16 * ((y.toNat : ℤ) - 16) + csVRed16 * (v.toNat - 128)) >>> (16 : ℕ)))
    (clampByte ((csYCoeff16 * ((y.toNat : ℤ) - 16) + csUGreen16 * (u.toNat - 128)
      + csVGreen16 * (v.toNat - 128)) >>> (16 : ℕ)))
    (clampByte ((csYCoeff16 * ((y.toNat : ℤ) - 16) + csUBlue16 * (u.toNat - 128)) >>> (16 : ℕ)))
  constructor
  · have herror := sum_error hy (term_error hVR (hchroma v))
    have hexact : exactRed y.toNat v.toNat = 1.164383 * (((y.toNat : ℤ) - 16 : ℤ) : ℚ)
        + 1.596027 * (((v.toNat : ℤ) - 128 : ℤ) : ℚ) := by
      simp [exactRed]
    rw [convertYuvToRgbPixel, hred, hexact]
    exact near_channel (herror.trans_lt (by norm_num))
  · have herror := sum_error (sum_error hy (term_error hUG (hchroma u)))
      (term_error hVG (hchroma v))
    have hexact : exactGreen y.toNat u.toNat v.toNat
        = 1.164383 * (((y.toNat : ℤ) - 16 : ℤ) : ℚ)
          + -0.391762 * (((u.toNat : ℤ) - 128 : ℤ) : ℚ)
          + -0.812968 * (((v.toNat : ℤ) - 128 : ℤ) : ℚ) := by
      simp [exactGreen]
      ring
    rw [convertYuvToRgbPixel, hgreen, hexact]
    exact near_channel (herror.trans_lt (by norm_num))
  · have herror := sum_error hy (term_error hUB (hchroma u))
    have hexact : exactBlue y.toNat u.toNat = 1.164383 * (((y.toNat : ℤ) - 16 : ℤ) : ℚ)
        + 2.017232 * (((u.toNat : ℤ) - 128 : ℤ) : ℚ) := by
      simp [exactBlue]
    rw [convertYuvToRgbPixel, hblue, hexact]
    exact near_channel (herror.trans_lt (by norm_num))

/-- Packing keeps the fields near. -/
lemma fields_accurate {p : UInt32} {y u v : UInt8} (h : AccurateChannels p y u v) :
    AccurateFields (rgb565 (pixelByte p 0) (pixelByte p 1) (pixelByte p 2)) y u v := by
  have hr := (pixelByte p 0).toNat_lt
  have hg := (pixelByte p 1).toNat_lt
  have hb := (pixelByte p 2).toNat_lt
  obtain ⟨⟨hred, hred'⟩, ⟨hgreen, hgreen'⟩, hblue, hblue'⟩ := h
  refine ⟨?_, ?_, ?_⟩
  all_goals
    rw [rgb565_toNat]
    constructor <;> omega

/-! ## A frame -/

/-- **Every pixel of every frame.**  For any even number of pixels: the conversion returns, and each
word it writes is of a pixel whose channels are near the exact ones, both computed from the tables
and directly, with fields that are near those of the exact pixel.  A size that fits is not cut. -/
theorem conversion_accurate (t : Tables) {yuv rgb : Block} {w h : UInt32}
    (heven : w.toNat * h.toNat % 2 = 0) (hyuv : yuv.Holds (convertSize w h).toNat)
    (hrgb : rgb.Holds (convertSize w h).toNat) :
    ∃ out, convertYuvToRgb565Buffer (yuvRgbTableInit t) yuv rgb w h = some out ∧
      (2 * (w.toNat * h.toNat) < 2 ^ 32 → (convertSize w h).toNat = 2 * (w.toNat * h.toNat)) ∧
      ∀ q : ℕ, 2 * q < (convertSize w h).toNat →
        let y := yuv.byte (2 * q)
        let u := yuv.byte (4 * (q / 2) + 1)
        let v := yuv.byte (4 * (q / 2) + 3)
        ∃ p, convertYuvToRgbPixelTable (yuvRgbTableInit t) y.toNat u.toNat v.toNat = some p ∧
          convertYuvToRgbPixel y.toNat u.toNat v.toNat = p ∧ AccurateChannels p y u v ∧
          AccurateFields (word out.byte q) y u v := by
  have hrounds := four_mul_convertRounds heven
  have hlt := (convertSize w h).toNat_lt
  refine ⟨_, convertYuvToRgb565Buffer_eq (yuvRgbTableInit t) (by omega) (by rwa [hrounds])
    (by rwa [hrounds]), convertSize_eq, ?_⟩
  intro q hq y u v
  have hpixel : tablePixel (yuvRgbTableInit t) y u v
      = convertYuvToRgbPixel y.toNat u.toNat v.toNat := tablePixel_init t y u v
  refine ⟨_, convertYuvToRgbPixelTable_byte _ y u v, hpixel.symm, ?_, ?_⟩
  · rw [hpixel]
    exact channels_accurate y u v
  · rw [word_convertedMem _ _ _ _ (Int.natCast_nonneg q) (by omega)]
    refine fields_accurate ?_
    rw [convertedPixel]
    exact hpixel ▸ channels_accurate y u v

/-- One macropixel: the word of its first pixel. -/
theorem conversion_accurate_macropixel : ∃ out,
    convertYuvToRgb565Buffer (yuvRgbTableInit ⟨0, 0, 0, 0, 0⟩) ⟨some 4, fun _ => 90⟩
      ⟨some 4, fun _ => 0⟩ 2 1 = some out ∧ AccurateFields (word out.byte 0) 90 90 90 := by
  obtain ⟨out, hout, -, hpixels⟩ := @conversion_accurate ⟨0, 0, 0, 0, 0⟩
    ⟨some 4, fun _ => 90⟩ ⟨some 4, fun _ => 0⟩ 2 1 (by decide)
    (by simp [Block.Holds, convertSize]) (by simp [Block.Holds, convertSize])
  obtain ⟨_, -, -, -, hfields⟩ := hpixels 0 (by decide)
  exact ⟨out, hout, hfields⟩

end Mp157
