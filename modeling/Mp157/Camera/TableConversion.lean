import Mp157.Camera.Conversion
import Mp157.Library.Checked

/-!
# The tables and the direct computation

The comment at the call in `convert_yuv_to_rgb565_buffer` invites to put one conversion of a pixel
in place of the other.  Here both are written with `checked` operations, which have no result
where a signed integer overflows; an index outside a table has no result either.  Both run over
the same loop (`convertBufferWith`), and `table_conversion_eq_direct` says that neither ever
overflows and that they write the same bytes.
-/

namespace Mp157

open ByteMemory CLoop CInt

/-! ## Checked arithmetic -/

/-- `coeff * (x - off)` -/
def scaled (coeff x off : ℤ) : Option ℤ := do
  let d ← checked (x - off)
  checked (coeff * d)

/-- `(i - off) * coeff`, the entry `i` of a table. -/
def tableEntry (coeff i off : ℤ) : Option ℤ := do
  let d ← checked (i - off)
  checked (d * coeff)

/-- `convert_yuv_to_rgb_pixel`, every operation checked. -/
def convertYuvToRgbPixelChecked (y u v : ℤ) : Option UInt32 := do
  let b ← checked ((← scaled csYCoeff16 y 16) + (← scaled csUBlue16 u 128))
  let yu ← checked ((← scaled csYCoeff16 y 16) + (← scaled csUGreen16 u 128))
  let g ← checked (yu + (← scaled csVGreen16 v 128))
  let r ← checked ((← scaled csYCoeff16 y 16) + (← scaled csVRed16 v 128))
  return pixel32 (clampByte (r >>> (16 : ℕ))) (clampByte (g >>> (16 : ℕ)))
    (clampByte (b >>> (16 : ℕ)))

/-- `convert_yuv_to_rgb_pixel_table`, every operation checked. -/
def convertYuvToRgbPixelTableChecked (t : Tables) (y u v : ℤ) : Option UInt32 := do
  let b ← checked ((← intAt t.yTable y) + (← intAt t.uBTable u))
  let yu ← checked ((← intAt t.yTable y) + (← intAt t.uGTable u))
  let g ← checked (yu + (← intAt t.vGTable v))
  let r ← checked ((← intAt t.yTable y) + (← intAt t.vRTable v))
  return pixel32 (clampByte (r >>> (16 : ℕ))) (clampByte (g >>> (16 : ℕ)))
    (clampByte (b >>> (16 : ℕ)))

def tableInitBodyChecked (t : Tables) (i : ℕ) : Option Tables := do
  let y ← tableEntry csYCoeff16 i 16
  let vR ← tableEntry csVRed16 i 128
  let vG ← tableEntry csVGreen16 i 128
  let uG ← tableEntry csUGreen16 i 128
  let uB ← tableEntry csUBlue16 i 128
  return {
    yTable := setIntAt t.yTable i y
    vRTable := setIntAt t.vRTable i vR
    vGTable := setIntAt t.vGTable i vG
    uGTable := setIntAt t.uGTable i uG
    uBTable := setIntAt t.uBTable i uB }

/-- `yuv_rgb_table_init`, every operation checked. -/
def yuvRgbTableInitChecked (t : Tables) : Option Tables := forRange 256 tableInitBodyChecked t

/-! ## The loop over any conversion of a pixel -/

/-- The loop body, with the conversion of a pixel left open. -/
def convertBodyWith (pixel : ℤ → ℤ → ℤ → Option UInt32) (yuv : Block) (s : ConvertState) :
    Option ConvertState := do
  let y0 ← yuv.load (s.inPos + 0).toNat
  let u ← yuv.load (s.inPos + 1).toNat
  let y1 ← yuv.load (s.inPos + 2).toNat
  let v ← yuv.load (s.inPos + 3).toNat
  let pixel24 ← pixel y0.toNat u.toNat v.toNat
  let rgb ← s.rgb.store (s.outPos + 1).toNat (rgb565High pixel24)
  let rgb ← rgb.store (s.outPos + 0).toNat (rgb565Low pixel24)
  let pixel24 ← pixel y1.toNat u.toNat v.toNat
  let rgb ← rgb.store (s.outPos + 3).toNat (rgb565High pixel24)
  let rgb ← rgb.store (s.outPos + 2).toNat (rgb565Low pixel24)
  return ⟨rgb, s.inPos + 4, s.outPos + 4⟩

/-- `convert_yuv_to_rgb565_buffer` with the conversion of a pixel left open. -/
def convertBufferWith (pixel : ℤ → ℤ → ℤ → Option UInt32) (yuv rgb : Block)
    (width height : UInt32) : Option Block :=
  (whileLoop (2 ^ 30 + 1) (convertGuard width height) (convertBodyWith pixel yuv)
    ⟨rgb, 0, 0⟩).map (·.rgb)

/-- The source's loop is the one with the conversion from the tables. -/
lemma convertBufferWith_table (t : Tables) :
    convertBufferWith (convertYuvToRgbPixelTable t) = convertYuvToRgb565Buffer t := rfl

/-- The loop converts bytes only. -/
lemma convertBufferWith_congr {p q : ℤ → ℤ → ℤ → Option UInt32}
    (h : ∀ y u v : UInt8, p y.toNat u.toNat v.toNat = q y.toNat u.toNat v.toNat) :
    convertBufferWith p = convertBufferWith q := by
  have hbody : convertBodyWith p = convertBodyWith q := by
    funext yuv s
    simp only [convertBodyWith, h]
  funext yuv rgb w h
  rw [convertBufferWith, hbody]
  rfl

/-! ## Nothing overflows -/

section Checked

/-- The coefficients are small. -/
lemma coefficients_le : |csYCoeff16| ≤ 132201 ∧ |csUBlue16| ≤ 132201 ∧ |csUGreen16| ≤ 132201 ∧
    |csVGreen16| ≤ 132201 ∧ |csVRed16| ≤ 132201 := by
  decide

lemma off16 : (0 : ℤ) ≤ 16 ∧ (16 : ℤ) ≤ 128 := by norm_num

lemma off128 : (0 : ℤ) ≤ 128 ∧ (128 : ℤ) ≤ 128 := by norm_num

lemma fits_of_abs {x : ℤ} (h : |x| ≤ 2 ^ 30) : Fits x := by
  rw [abs_le] at h
  exact ⟨by omega, by omega⟩

variable {coeff off : ℤ} {x : ℕ}

lemma abs_term_le (hx : x < 256) (hcoeff : |coeff| ≤ 132201) (hoff : 0 ≤ off ∧ off ≤ 128) :
    |coeff * (x - off)| ≤ 132201 * 255 := by
  have hd : |(x : ℤ) - off| ≤ 255 := abs_le.mpr ⟨by omega, by omega⟩
  rw [abs_mul]
  exact mul_le_mul hcoeff hd (abs_nonneg _) (by norm_num)

lemma scaled_eq (hx : x < 256) (hcoeff : |coeff| ≤ 132201) (hoff : 0 ≤ off ∧ off ≤ 128) :
    scaled coeff x off = some (coeff * (x - off)) := by
  have hterm := abs_term_le hx hcoeff hoff
  have hd : |(x : ℤ) - off| ≤ 2 ^ 30 := abs_le.mpr ⟨by omega, by omega⟩
  rw [scaled, checked_of_fits (fits_of_abs hd), Option.bind_eq_bind, Option.bind_some,
    checked_of_fits (fits_of_abs (by linarith))]

lemma tableEntry_eq (hx : x < 256) (hcoeff : |coeff| ≤ 132201) (hoff : 0 ≤ off ∧ off ≤ 128) :
    tableEntry coeff x off = some ((x - off) * coeff) := by
  have hterm := abs_term_le hx hcoeff hoff
  have hd : |(x : ℤ) - off| ≤ 2 ^ 30 := abs_le.mpr ⟨by omega, by omega⟩
  rw [tableEntry, checked_of_fits (fits_of_abs hd), Option.bind_eq_bind, Option.bind_some,
    mul_comm ((x : ℤ) - off), checked_of_fits (fits_of_abs (by linarith))]

/-- Two or three terms of this size still fit. -/
lemma checked_add {a b : ℤ} (ha : |a| ≤ 2 * (132201 * 255)) (hb : |b| ≤ 132201 * 255) :
    checked (a + b) = some (a + b) := by
  refine checked_of_fits (fits_of_abs ?_)
  have := abs_add_le a b
  linarith

lemma abs_add_le_two {a b : ℤ} (ha : |a| ≤ 132201 * 255) (hb : |b| ≤ 132201 * 255) :
    |a + b| ≤ 2 * (132201 * 255) := by
  have := abs_add_le a b
  linarith

/-- The direct computation does not overflow on bytes. -/
lemma convertYuvToRgbPixelChecked_byte (y u v : UInt8) :
    convertYuvToRgbPixelChecked y.toNat u.toNat v.toNat
      = some (convertYuvToRgbPixel y.toNat u.toNat v.toNat) := by
  obtain ⟨hy, hub, hug, hvg, hvr⟩ := coefficients_le
  have hY := abs_term_le y.toNat_lt hy off16
  have hUB := abs_term_le u.toNat_lt hub off128
  have hUG := abs_term_le u.toNat_lt hug off128
  have hVG := abs_term_le v.toNat_lt hvg off128
  have hVR := abs_term_le v.toNat_lt hvr off128
  have hY2 : |csYCoeff16 * ((y.toNat : ℤ) - 16)| ≤ 2 * (132201 * 255) := by linarith
  simp only [convertYuvToRgbPixelChecked, scaled_eq y.toNat_lt hy off16,
    scaled_eq u.toNat_lt hub off128,
    scaled_eq u.toNat_lt hug off128,
    scaled_eq v.toNat_lt hvg off128,
    scaled_eq v.toNat_lt hvr off128,
    checked_add hY2 hUB, checked_add hY2 hUG, checked_add (abs_add_le_two hY hUG) hVG,
    checked_add hY2 hVR, Option.bind_eq_bind, Option.bind_some]
  rfl

/-- Filling the tables does not overflow, whatever they held. -/
lemma yuvRgbTableInitChecked_eq (t : Tables) :
    yuvRgbTableInitChecked t = some (yuvRgbTableInit t) := by
  obtain ⟨hy, hub, hug, hvg, hvr⟩ := coefficients_le
  refine forRange_eq (fun n => (List.range n).foldl tableInitBody t) ?_
  intro i hi
  simp only [tableInitBodyChecked, tableEntry_eq hi hy off16, tableEntry_eq hi hvr off128,
    tableEntry_eq hi hvg off128, tableEntry_eq hi hug off128, tableEntry_eq hi hub off128,
    Option.bind_eq_bind, Option.bind_some, List.range_succ, List.foldl_append, List.foldl_cons,
    List.foldl_nil]
  rfl

/-- From the tables, a byte is always an index and no sum overflows. -/
lemma convertYuvToRgbPixelTableChecked_byte (t : Tables) (y u v : UInt8) :
    convertYuvToRgbPixelTableChecked (yuvRgbTableInit t) y.toNat u.toNat v.toNat
      = some (tablePixel (yuvRgbTableInit t) y u v) := by
  obtain ⟨hy, hub, hug, hvg, hvr⟩ := coefficients_le
  have hY := abs_term_le y.toNat_lt hy off16
  have hUB := abs_term_le u.toNat_lt hub off128
  have hUG := abs_term_le u.toNat_lt hug off128
  have hVG := abs_term_le v.toNat_lt hvg off128
  have hVR := abs_term_le v.toNat_lt hvr off128
  rw [mul_comm] at hY hUB hUG hVG hVR
  have hY2 : |((y.toNat : ℤ) - 16) * csYCoeff16| ≤ 2 * (132201 * 255) := by linarith
  rw [yuvRgbTableInit_eq]
  simp only [convertYuvToRgbPixelTableChecked, intAt_byte, checked_add hY2 hUB,
    checked_add hY2 hUG, checked_add (abs_add_le_two hY hUG) hVG, checked_add hY2 hVR,
    Option.bind_eq_bind, Option.bind_some]
  rfl

end Checked

/-! ## The same bytes -/

/-- **From the tables or directly.**  Whatever the tables held before, for every frame of an even
number of pixels: filling the tables, the conversion from them and the direct conversion return,
so no index is outside a table and nothing overflows, and both conversions are the source's. -/
theorem table_conversion_eq_direct (t : Tables) {yuv rgb : Block} {w h : UInt32}
    (heven : w.toNat * h.toNat % 2 = 0) (hsize : 2 * (w.toNat * h.toNat) < 2 ^ 32)
    (hyuv : yuv.Holds (2 * (w.toNat * h.toNat))) (hrgb : rgb.Holds (2 * (w.toNat * h.toNat))) :
    ∃ t' out, yuvRgbTableInitChecked t = some t' ∧ t' = yuvRgbTableInit t ∧
      convertYuvToRgb565Buffer t' yuv rgb w h = some out ∧
      convertBufferWith (convertYuvToRgbPixelTableChecked t') yuv rgb w h = some out ∧
      convertBufferWith convertYuvToRgbPixelChecked yuv rgb w h = some out := by
  have hrounds := (four_mul_convertRounds heven).trans (convertSize_eq hsize)
  have hrun := @convertYuvToRgb565Buffer_eq (yuvRgbTableInit t) yuv rgb w h (by omega)
    (by rwa [hrounds]) (by rwa [hrounds])
  have htable : convertBufferWith (convertYuvToRgbPixelTableChecked (yuvRgbTableInit t))
      = convertYuvToRgb565Buffer (yuvRgbTableInit t) := by
    rw [← convertBufferWith_table]
    refine convertBufferWith_congr ?_
    intro y u v
    rw [convertYuvToRgbPixelTableChecked_byte, convertYuvToRgbPixelTable_byte]
  have hdirect : convertBufferWith convertYuvToRgbPixelChecked
      = convertYuvToRgb565Buffer (yuvRgbTableInit t) := by
    rw [← convertBufferWith_table]
    refine convertBufferWith_congr ?_
    intro y u v
    rw [convertYuvToRgbPixelChecked_byte, convertYuvToRgbPixelTable_byte, tablePixel_init]
  exact ⟨_, _, yuvRgbTableInitChecked_eq t, rfl, hrun, by rw [htable, hrun], by rw [hdirect, hrun]⟩

/-- One macropixel, both ways. -/
theorem table_conversion_macropixel : ∃ t' out,
    yuvRgbTableInitChecked ⟨0, 0, 0, 0, 0⟩ = some t' ∧
      convertBufferWith (convertYuvToRgbPixelTableChecked t') ⟨some 4, fun _ => 90⟩
        ⟨some 4, fun _ => 0⟩ 2 1 = some out ∧
      convertBufferWith convertYuvToRgbPixelChecked ⟨some 4, fun _ => 90⟩
        ⟨some 4, fun _ => 0⟩ 2 1 = some out := by
  obtain ⟨t', out, hinit, -, -, htable, hdirect⟩ := @table_conversion_eq_direct ⟨0, 0, 0, 0, 0⟩
    ⟨some 4, fun _ => 90⟩ ⟨some 4, fun _ => 0⟩ 2 1 (by decide) (by decide)
    (by simp [Block.Holds]) (by simp [Block.Holds])
  exact ⟨t', out, hinit, htable, hdirect⟩

end Mp157
