import Mp157.Camera.Accuracy

/-!
# What the conversion keeps of a picture

A pixel is computed with truncated coefficients, shifted, clamped and cut down to five or six bits.
None of these steps turns an order around, so neither does the conversion of a frame.

* `conversion_monotone` — a pixel that is brighter in the frame is so in the picture, colour by
  colour; more chroma makes it redder or bluer, and less green.
* `neutral_gray` — a frame without colour gives a gray picture: black exactly up to luma 19 and
  white exactly from luma 233.
-/

namespace Mp157

open ByteMemory

/-! ## The bytes and the fields of a pixel -/

/-- The bytes of frame `f` that pixel `q` is converted from. -/
def lumaAt (f : Mem) (q : ℕ) : ℕ := (f (2 * q)).toNat
def chromaUAt (f : Mem) (q : ℕ) : ℕ := (f (4 * (q / 2) + 1)).toNat
def chromaVAt (f : Mem) (q : ℕ) : ℕ := (f (4 * (q / 2) + 3)).toNat

/-- The fields of an RGB565 word. -/
def redField (x : UInt16) : ℕ := x.toNat / 2048
def greenField (x : UInt16) : ℕ := x.toNat / 32 % 64
def blueField (x : UInt16) : ℕ := x.toNat % 32

/-- A channel of the pixel: the scaled sum, shifted back and clamped. -/
def channel (s : ℤ) : ℕ := (clampByte (s >>> (16 : ℕ))).toNat

section Pixel

variable {y y' u u' v v' : ℕ} {r g b : UInt8}

lemma redField_rgb565 : redField (rgb565 r g b) = r.toNat / 8 := by
  have hg := g.toNat_lt
  have hb := b.toNat_lt
  rw [redField, rgb565_toNat]
  omega

lemma greenField_rgb565 : greenField (rgb565 r g b) = g.toNat / 4 := by
  have hg := g.toNat_lt
  have hb := b.toNat_lt
  rw [greenField, rgb565_toNat]
  omega

lemma blueField_rgb565 : blueField (rgb565 r g b) = b.toNat / 8 := by
  have hb := b.toNat_lt
  rw [blueField, rgb565_toNat]
  omega

/-- A word is given by its fields. -/
lemma toNat_eq_fields (x : UInt16) :
    x.toNat = 2048 * redField x + 32 * greenField x + blueField x := by
  have hx := x.toNat_lt
  rw [redField, greenField, blueField]
  omega

lemma channel_eq (s : ℤ) : (channel s : ℤ) = max 0 (min (s / 65536) 255) := by
  rw [channel, clampByte_toNat, Int.shiftRight_eq_div_pow]
  norm_num

/-- **Shift and clamp keep the order.** -/
lemma channel_mono {s s' : ℤ} (h : s ≤ s') : channel s ≤ channel s' := by
  have hs := channel_eq s
  have hs' := channel_eq s'
  have hdiv : s / 65536 ≤ s' / 65536 := Int.ediv_le_ediv (by norm_num) h
  omega

/-- The sums that the channels are made from. -/
def redSum (y v : ℕ) : ℤ := csYCoeff16 * (y - 16) + csVRed16 * (v - 128)
def greenSum (y u v : ℕ) : ℤ :=
  csYCoeff16 * (y - 16) + csUGreen16 * (u - 128) + csVGreen16 * (v - 128)
def blueSum (y u : ℕ) : ℤ := csYCoeff16 * (y - 16) + csUBlue16 * (u - 128)

/-- Luma counts for every channel, chroma against green. -/
lemma coefficients_sign : 0 < csYCoeff16 ∧ 0 < csUBlue16 ∧ csUGreen16 < 0 ∧ csVGreen16 < 0 ∧
    0 < csVRed16 := by
  decide

lemma redSum_mono (hy : y ≤ y') (hv : v ≤ v') : redSum y v ≤ redSum y' v' := by
  obtain ⟨hY, -, -, -, hVR⟩ := coefficients_sign
  refine add_le_add (mul_le_mul_of_nonneg_left ?_ hY.le) (mul_le_mul_of_nonneg_left ?_ hVR.le)
  all_goals omega

lemma greenSum_mono (hy : y ≤ y') (hu : u' ≤ u) (hv : v' ≤ v) :
    greenSum y u v ≤ greenSum y' u' v' := by
  obtain ⟨hY, -, hUG, hVG, -⟩ := coefficients_sign
  refine add_le_add (add_le_add (mul_le_mul_of_nonneg_left ?_ hY.le)
    (mul_le_mul_of_nonpos_left ?_ hUG.le)) (mul_le_mul_of_nonpos_left ?_ hVG.le)
  all_goals omega

lemma blueSum_mono (hy : y ≤ y') (hu : u ≤ u') : blueSum y u ≤ blueSum y' u' := by
  obtain ⟨hY, hUB, -, -, -⟩ := coefficients_sign
  refine add_le_add (mul_le_mul_of_nonneg_left ?_ hY.le) (mul_le_mul_of_nonneg_left ?_ hUB.le)
  all_goals omega

end Pixel

/-! ## A frame -/

section Frame

variable {t : Tables} {yuv yuv' rgb rgb' : Block} {w h : UInt32}

/-- **The fields of a converted frame.** -/
lemma converted_fields (t : Tables) (heven : w.toNat * h.toNat % 2 = 0)
    (hyuv : yuv.Holds (convertSize w h).toNat) (hrgb : rgb.Holds (convertSize w h).toNat) :
    ∃ out, convertYuvToRgb565Buffer (yuvRgbTableInit t) yuv rgb w h = some out ∧
      ∀ q : ℕ, 2 * q < (convertSize w h).toNat →
        let y := lumaAt yuv.byte q
        let u := chromaUAt yuv.byte q
        let v := chromaVAt yuv.byte q
        redField (word out.byte q) = channel (redSum y v) / 8 ∧
          greenField (word out.byte q) = channel (greenSum y u v) / 4 ∧
          blueField (word out.byte q) = channel (blueSum y u) / 8 := by
  have hrounds := four_mul_convertRounds heven
  have hlt := (convertSize w h).toNat_lt
  refine ⟨_, convertYuvToRgb565Buffer_eq (yuvRgbTableInit t) (by omega) (by rwa [hrounds])
    (by rwa [hrounds]), ?_⟩
  intro q hq y u v
  obtain ⟨hred, hgreen, hblue⟩ := pixelByte_pixel32 (clampByte (redSum y v >>> (16 : ℕ)))
    (clampByte (greenSum y u v >>> (16 : ℕ))) (clampByte (blueSum y u >>> (16 : ℕ)))
  have hpixel : convertedPixel (yuvRgbTableInit t) yuv.byte q
      = pixel32 (clampByte (redSum y v >>> (16 : ℕ))) (clampByte (greenSum y u v >>> (16 : ℕ)))
        (clampByte (blueSum y u >>> (16 : ℕ))) := by
    rw [convertedPixel, tablePixel_init]
    rfl
  rw [word_convertedMem _ _ _ _ (Int.natCast_nonneg q) (by omega), hpixel, hred, hgreen, hblue,
    redField_rgb565, greenField_rgb565, blueField_rgb565]
  exact ⟨rfl, rfl, rfl⟩

/-- **The conversion keeps the order.**  Two frames of one size are converted, each with tables that
held something else before.  Wherever the second is at least as bright, so is its picture in red if
`v` is at least as large there, in blue if `u` is, and in green if neither `u` nor `v` is larger. -/
theorem conversion_monotone (t t' : Tables) (heven : w.toNat * h.toNat % 2 = 0)
    (hyuv : yuv.Holds (convertSize w h).toNat) (hrgb : rgb.Holds (convertSize w h).toNat)
    (hyuv' : yuv'.Holds (convertSize w h).toNat) (hrgb' : rgb'.Holds (convertSize w h).toNat) :
    ∃ out out', convertYuvToRgb565Buffer (yuvRgbTableInit t) yuv rgb w h = some out ∧
      convertYuvToRgb565Buffer (yuvRgbTableInit t') yuv' rgb' w h = some out' ∧
      ∀ q : ℕ, 2 * q < (convertSize w h).toNat → lumaAt yuv.byte q ≤ lumaAt yuv'.byte q →
        (chromaVAt yuv.byte q ≤ chromaVAt yuv'.byte q →
          redField (word out.byte q) ≤ redField (word out'.byte q)) ∧
        (chromaUAt yuv'.byte q ≤ chromaUAt yuv.byte q →
          chromaVAt yuv'.byte q ≤ chromaVAt yuv.byte q →
          greenField (word out.byte q) ≤ greenField (word out'.byte q)) ∧
        (chromaUAt yuv.byte q ≤ chromaUAt yuv'.byte q →
          blueField (word out.byte q) ≤ blueField (word out'.byte q)) := by
  obtain ⟨out, hout, hfields⟩ := converted_fields t heven hyuv hrgb
  obtain ⟨out', hout', hfields'⟩ := converted_fields t' heven hyuv' hrgb'
  refine ⟨out, out', hout, hout', ?_⟩
  intro q hq hy
  obtain ⟨hred, hgreen, hblue⟩ := hfields q hq
  obtain ⟨hred', hgreen', hblue'⟩ := hfields' q hq
  rw [hred, hgreen, hblue, hred', hgreen', hblue']
  refine ⟨?_, ?_, ?_⟩
  · exact fun hv => Nat.div_le_div_right (channel_mono (redSum_mono hy hv))
  · exact fun hu hv => Nat.div_le_div_right (channel_mono (greenSum_mono hy hu hv))
  · exact fun hu => Nat.div_le_div_right (channel_mono (blueSum_mono hy hu))

/-- One macropixel, darker and brighter, of the same chroma. -/
theorem conversion_monotone_macropixel : ∃ out out',
    convertYuvToRgb565Buffer (yuvRgbTableInit ⟨0, 0, 0, 0, 0⟩)
      ⟨some 4, fun off => if off % 2 = 0 then 90 else 100⟩ ⟨some 4, fun _ => 0⟩ 2 1 = some out ∧
    convertYuvToRgb565Buffer (yuvRgbTableInit ⟨0, 0, 0, 0, 0⟩)
      ⟨some 4, fun off => if off % 2 = 0 then 91 else 100⟩ ⟨some 4, fun _ => 0⟩ 2 1 = some out' ∧
    redField (word out.byte 1) ≤ redField (word out'.byte 1) ∧
    greenField (word out.byte 1) ≤ greenField (word out'.byte 1) ∧
    blueField (word out.byte 1) ≤ blueField (word out'.byte 1) := by
  obtain ⟨out, out', hout, hout', hall⟩ := @conversion_monotone
    ⟨some 4, fun off => if off % 2 = 0 then 90 else 100⟩
    ⟨some 4, fun off => if off % 2 = 0 then 91 else 100⟩ ⟨some 4, fun _ => 0⟩
    ⟨some 4, fun _ => 0⟩ 2 1 ⟨0, 0, 0, 0, 0⟩ ⟨0, 0, 0, 0, 0⟩ (by decide)
    (by simp [Block.Holds, convertSize]) (by simp [Block.Holds, convertSize])
    (by simp [Block.Holds, convertSize]) (by simp [Block.Holds, convertSize])
  obtain ⟨hred, hgreen, hblue⟩ := hall 1 (by decide) (by decide)
  exact ⟨out, out', hout, hout', hred (by decide), hgreen (by decide) (by decide),
    hblue (by decide)⟩

/-- Without colour all sums are the one of luma. -/
lemma neutral_sums (y : ℕ) : redSum y 128 = 76309 * (y - 16) ∧
    greenSum y 128 128 = 76309 * (y - 16) ∧ blueSum y 128 = 76309 * (y - 16) := by
  have hY : csYCoeff16 = 76309 := by decide
  simp [redSum, greenSum, blueSum, hY]

/-- **A frame without colour gives a gray picture.**  Wherever `u` and `v` are 128, red, green and
blue are the same, green with one bit more.  The pixel is black exactly up to luma 19, and white
exactly from luma 233. -/
theorem neutral_gray (t : Tables) (heven : w.toNat * h.toNat % 2 = 0)
    (hyuv : yuv.Holds (convertSize w h).toNat) (hrgb : rgb.Holds (convertSize w h).toNat) :
    ∃ out, convertYuvToRgb565Buffer (yuvRgbTableInit t) yuv rgb w h = some out ∧
      ∀ q : ℕ, 2 * q < (convertSize w h).toNat → chromaUAt yuv.byte q = 128 →
        chromaVAt yuv.byte q = 128 →
        redField (word out.byte q) = greenField (word out.byte q) / 2 ∧
          blueField (word out.byte q) = greenField (word out.byte q) / 2 ∧
          (word out.byte q = 0 ↔ lumaAt yuv.byte q ≤ 19) ∧
          (word out.byte q = 0xffff ↔ 233 ≤ lumaAt yuv.byte q) := by
  obtain ⟨out, hout, hfields⟩ := converted_fields t heven hyuv hrgb
  refine ⟨out, hout, ?_⟩
  intro q hq hu hv
  obtain ⟨hred, hgreen, hblue⟩ := hfields q hq
  obtain ⟨hr, hg, hb⟩ := neutral_sums (lumaAt yuv.byte q)
  rw [hv, hr] at hred
  rw [hu, hv, hg] at hgreen
  rw [hu, hb] at hblue
  have hvalue := toNat_eq_fields (word out.byte q)
  have hchannel := channel_eq (76309 * ((lumaAt yuv.byte q : ℤ) - 16))
  generalize channel (76309 * ((lumaAt yuv.byte q : ℤ) - 16)) = x at *
  have hdark : x < 4 ↔ lumaAt yuv.byte q ≤ 19 := by omega
  have hbright : 252 ≤ x ↔ 233 ≤ lumaAt yuv.byte q := by omega
  have hbyte : x ≤ 255 := by omega
  rw [hred, hgreen, hblue] at hvalue
  rw [hred, hgreen, hblue, ← UInt16.toNat_inj, ← UInt16.toNat_inj, hvalue]
  refine ⟨by omega, by omega, ?_, ?_⟩
  · rw [← hdark]
    change _ = 0 ↔ _
    omega
  · rw [← hbright]
    change _ = 65535 ↔ _
    omega

/-- One macropixel: its first pixel is just black, its second just white. -/
theorem neutral_gray_macropixel : ∃ out,
    convertYuvToRgb565Buffer (yuvRgbTableInit ⟨0, 0, 0, 0, 0⟩)
      ⟨some 4, fun off => if off = 0 then 19 else if off = 2 then 233 else 128⟩
      ⟨some 4, fun _ => 7⟩ 2 1 = some out ∧ word out.byte 0 = 0 ∧ word out.byte 1 = 0xffff := by
  obtain ⟨out, hout, hall⟩ := @neutral_gray
    ⟨some 4, fun off => if off = 0 then 19 else if off = 2 then 233 else 128⟩
    ⟨some 4, fun _ => 7⟩ 2 1 ⟨0, 0, 0, 0, 0⟩ (by decide) (by simp [Block.Holds, convertSize])
    (by simp [Block.Holds, convertSize])
  obtain ⟨-, -, hblack, -⟩ := hall 0 (by decide) (by decide) (by decide)
  obtain ⟨-, -, -, hwhite⟩ := hall 1 (by decide) (by decide) (by decide)
  exact ⟨out, hout, hblack.mpr (by decide), hwhite.mpr (by decide)⟩

end Frame

end Mp157
