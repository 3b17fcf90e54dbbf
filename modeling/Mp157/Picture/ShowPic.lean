import Mp157.Camera.Screen
import Mp157.Library.Checked
import Mp157.Library.Grid

/-!
# Showing a picture of either depth (`lcd_show_pic` in `drmFun.c`)

One loop nest draws pictures of 16 and of 24 bits per pixel, the latter as elements of four bytes,
and fills the rest of the screen with white.  The index `z` into the framebuffer starts anew in
every row, at `fb_line_size / n * i`, and runs through the visible columns.

The index into the picture may not fit an `int`.  `lcdShowPic` has no result then, `lcdShowPic32`
goes on with what the registers hold, as the function is built.  The loop nest is the same.

* `lcdShowPic_eq` — what the framebuffer is afterwards: a grid of pixels, those of the picture
  where it has one.  `show_pic_draws` reads it pixel by pixel.
* `get_of_drawPicture`, `exists_drawPicture` — there is a result if and only if every pixel that is
  drawn can be read.
* `lcdShowPic32_of_lcdShowPic` — where the first function has one, the second has the same.
-/

namespace Mp157

open ByteMemory CLoop CInt

/-- `n`: the bytes of a pixel in memory. -/
def pixelBytes (biBitCount : ℤ) : ℕ := if biBitCount = 24 then 4 else 2

/-- `((uintN_t *) colorData)[biWidth * i + j]` -/
def getPixel (n : ℕ) (colorData : Block) (biWidth : ℤ) (i j : ℕ) : Option ℕ := do
  let row ← checked (biWidth * i)
  let q ← checked (row + j)
  colorData.loadNumber n (n * q)

/-- The same as it is built: the address is computed in registers of 32 bits. -/
def getPixel32 (n : ℕ) (colorData : Block) (biWidth : ℤ) (i j : ℕ) : Option ℕ :=
  colorData.loadNumber n (n * (biWidth * i + j) % 2 ^ 32)

/-- `((uintN_t *) kms.fb_map)[z++] = v` -/
def putPixel (n : ℕ) (s : RowState) (v : ℕ) : Option RowState := do
  let fbMap ← s.fbMap.storeNumber n (n * s.z) v
  let z ← checked (s.z + 1)
  return ⟨fbMap, z⟩

/-- Column `j` of row `i`.  The picture's pixel of `n` bytes there is `get n i j`. -/
def lcdShowPicCell (get : ℕ → ℕ → ℕ → Option ℕ) (biWidth biHeight biBitCount : ℤ) (i : ℕ)
    (s : RowState) (j : ℕ) : Option RowState :=
  if (j : ℤ) < biWidth ∧ (i : ℤ) < biHeight then
    if biBitCount = 16 then (get 2 i j).bind (putPixel 2 s)
    else if biBitCount = 24 then (get 4 i j).bind (putPixel 4 s)
    else some s
  else if biBitCount = 16 then putPixel 2 s 0xffff
  else if biBitCount = 24 then putPixel 4 s 0xffffff
  else some s

/-- `z = kms.fb_line_size / n * i` -/
def picRowStart (kms : KmsConfig) (biBitCount : ℤ) (i : ℕ) : ℤ :=
  toLong (kms.fbLineSize / UInt32.ofNat (pixelBytes biBitCount) * UInt32.ofNat i)

/-- Row `i`. -/
def lcdShowPicRow (kms : KmsConfig) (get : ℕ → ℕ → ℕ → Option ℕ)
    (biWidth biHeight biBitCount : ℤ) (fbMap : Block) (i : ℕ) : Option Block :=
  (forRange kms.fbWidht.toNat (lcdShowPicCell get biWidth biHeight biBitCount i)
    ⟨fbMap, picRowStart kms biBitCount i⟩).map (·.fbMap)

/-- Draws a picture, and white around it. -/
def drawPicture (kms : KmsConfig) (get : ℕ → ℕ → ℕ → Option ℕ) (fbMap : Block)
    (biWidth biHeight biBitCount : ℤ) : Option Block :=
  forRange kms.fbHight.toNat (lcdShowPicRow kms get biWidth biHeight biBitCount) fbMap

/-- Draws the picture `colorData`. -/
def lcdShowPic (kms : KmsConfig) (fbMap colorData : Block) (biWidth biHeight biBitCount : ℤ) :
    Option Block :=
  drawPicture kms (fun n => getPixel n colorData biWidth) fbMap biWidth biHeight biBitCount

/-- Draws it as it is built. -/
def lcdShowPic32 (kms : KmsConfig) (fbMap colorData : Block) (biWidth biHeight biBitCount : ℤ) :
    Option Block :=
  drawPicture kms (fun n => getPixel32 n colorData biWidth) fbMap biWidth biHeight biBitCount

/-! ## One pixel -/

/-- A framebuffer with `n` bytes per pixel, as the kernel lays out a dumb buffer. -/
structure KmsConfig.Geometry (kms : KmsConfig) (n : ℕ) : Prop where
  widht_le : kms.fbWidht.toNat ≤ 65535
  hight_le : kms.fbHight.toNat ≤ 65535
  line_dvd : n ∣ kms.fbLineSize.toNat
  line_ge : n * kms.fbWidht.toNat ≤ kms.fbLineSize.toNat
  size_ge : kms.fbLineSize.toNat * kms.fbHight.toNat ≤ kms.fbSize.toNat

/-- A depth the program draws. -/
def Depth (biBitCount : ℤ) : Prop := biBitCount = 16 ∨ biBitCount = 24

/-- The white of a depth. -/
def white (biBitCount : ℤ) : ℕ := if biBitCount = 24 then 0xffffff else 0xffff

/-- What is drawn at row `i`, column `j`. -/
def picValue (p : Mem) (w h : ℕ) (biBitCount : ℤ) (i j : ℕ) : ℕ :=
  if j < w ∧ i < h then number p (pixelBytes biBitCount) (pixelBytes biBitCount * (w * i + j))
  else white biBitCount

section Pixel

variable {bits : ℤ} {w h i j : ℕ} {p : Block} {s : RowState}

lemma picValue_lt (hbits : Depth bits) {p : Mem} :
    picValue p w h bits i j < 256 ^ pixelBytes bits := by
  rw [picValue]
  split_ifs
  · exact number_lt _ _ _
  · rcases hbits with rfl | rfl <;> decide

/-- An index into the picture. -/
lemma index_lt (hj : j < w) (hi : i < h) : w * i + j < w * h := by
  have hrow : w * (i + 1) ≤ w * h := Nat.mul_le_mul_left w hi
  rw [Nat.mul_succ] at hrow
  omega

lemma getPixel_eq {n : ℕ} (hsize : w * h < 2 ^ 31) (hp : p.Holds (n * (w * h))) (hj : j < w)
    (hi : i < h) : getPixel n p w i j = some (number p.byte n (n * (w * i + j))) := by
  have hindex := index_lt hj hi
  have hq : ((w : ℤ) * i) = ((w * i : ℕ) : ℤ) := by push_cast; rfl
  have hqj : ((w * i : ℕ) : ℤ) + j = ((w * i + j : ℕ) : ℤ) := by push_cast; rfl
  have hlast : n * (w * i + j + 1) ≤ n * (w * h) := Nat.mul_le_mul_left n hindex
  rw [Nat.mul_succ] at hlast
  rw [getPixel, hq, checked_of_fits (fits_of_nonneg (by omega) (by omega)), Option.bind_eq_bind,
    Option.bind_some, hqj, checked_of_fits (fits_of_nonneg (by omega) (by omega)),
    Option.bind_some, Block.loadNumber_of_inside]
  exact Block.inside_number hp (by positivity) (by exact_mod_cast hlast)

/-- **One pixel.**  Whatever the branch, a value is stored that the pixels which can be read
determine. -/
lemma lcdShowPicCell_eq {get : ℕ → ℕ → ℕ → Option ℕ} {biWidth biHeight : ℤ} {v : ℕ}
    (hbits : Depth bits)
    (hget : (j : ℤ) < biWidth → (i : ℤ) < biHeight → get (pixelBytes bits) i j = some v) :
    lcdShowPicCell get biWidth biHeight bits i s j = putPixel (pixelBytes bits) s
      (if (j : ℤ) < biWidth ∧ (i : ℤ) < biHeight then v else white bits) := by
  rw [lcdShowPicCell]
  by_cases hin : (j : ℤ) < biWidth ∧ (i : ℤ) < biHeight
  · have hv := hget hin.1 hin.2
    rw [if_pos hin, if_pos hin]
    rcases hbits with rfl | rfl
    · rw [if_pos rfl]
      exact congrArg (fun v => v.bind (putPixel 2 s)) hv
    · rw [if_neg (by norm_num), if_pos rfl]
      exact congrArg (fun v => v.bind (putPixel 4 s)) hv
  · rw [if_neg hin, if_neg hin]
    rcases hbits with rfl | rfl
    · exact if_pos rfl
    · rw [if_neg (by norm_num)]
      exact if_pos rfl

/-- A pixel of the picture that is drawn has been read. -/
lemma get_of_lcdShowPicCell {get : ℕ → ℕ → ℕ → Option ℕ} {biWidth biHeight : ℤ} {s' : RowState}
    (hbits : Depth bits) (hcell : lcdShowPicCell get biWidth biHeight bits i s j = some s')
    (hj : (j : ℤ) < biWidth) (hi : (i : ℤ) < biHeight) :
    ∃ v, get (pixelBytes bits) i j = some v := by
  rw [lcdShowPicCell, if_pos ⟨hj, hi⟩] at hcell
  rcases hbits with rfl | rfl
  · rw [if_pos rfl] at hcell
    obtain ⟨v, hv, -⟩ := Option.bind_eq_some_iff.mp hcell
    exact ⟨v, hv⟩
  · rw [if_neg (by norm_num), if_pos rfl] at hcell
    obtain ⟨v, hv, -⟩ := Option.bind_eq_some_iff.mp hcell
    exact ⟨v, hv⟩

lemma putPixel_eq {n v : ℕ} {fbMap : Block} {z : ℕ}
    (hin : ∀ k < n, fbMap.inside (((n * z : ℕ) : ℤ) + k) = true) (hz : z + 1 < 2 ^ 31) :
    putPixel n ⟨fbMap, z⟩ v
      = some ⟨⟨fbMap.limit, setNumber fbMap.byte n ((n * z : ℕ) : ℤ) v⟩, (z + 1 : ℕ)⟩ := by
  have hnz : (n : ℤ) * z = ((n * z : ℕ) : ℤ) := by push_cast; rfl
  have hz1 : (z : ℤ) + 1 = ((z + 1 : ℕ) : ℤ) := by push_cast; rfl
  simp only [putPixel]
  rw [hnz, Block.storeNumber_of_inside hin, Option.bind_eq_bind, Option.bind_some, hz1,
    checked_of_fits (fits_of_nonneg (by omega) (by omega))]
  rfl

end Pixel

/-! ## Rows -/

section Rows

variable {kms : KmsConfig} {bits : ℤ} {w h i j : ℕ} {fb p : Block}

lemma pixelBytes_ge (bits : ℤ) : 2 ≤ pixelBytes bits := by
  rw [pixelBytes]
  split_ifs <;> norm_num

/-- The pixels of a line, in elements. -/
lemma line_eq {n : ℕ} (hg : kms.Geometry n) :
    n * (kms.fbLineSize.toNat / n) = kms.fbLineSize.toNat :=
  Nat.mul_div_cancel' hg.line_dvd

/-- The offset of an element. -/
lemma element_offset {n : ℕ} (hg : kms.Geometry n) (i j : ℕ) :
    n * (kms.fbLineSize.toNat / n * i + j) = kms.fbLineSize.toNat * i + n * j := by
  rw [Nat.mul_add, ← Nat.mul_assoc, line_eq hg]

/-- A visible pixel ends within the mapping. -/
lemma element_le {n : ℕ} (hg : kms.Geometry n) (hi : i < kms.fbHight.toNat)
    (hj : j < kms.fbWidht.toNat) :
    n * (kms.fbLineSize.toNat / n * i + j) + n ≤ kms.fbSize.toNat := by
  have hrow : kms.fbLineSize.toNat * (i + 1) ≤ kms.fbLineSize.toNat * kms.fbHight.toNat :=
    Nat.mul_le_mul_left _ hi
  have hcell : n * (j + 1) ≤ n * kms.fbWidht.toNat := Nat.mul_le_mul_left n hj
  have hline := hg.line_ge
  have hsize := hg.size_ge
  rw [Nat.mul_succ] at hrow hcell
  rw [element_offset hg]
  omega

lemma picRowStart_eq (hg : kms.Geometry (pixelBytes bits)) (hi : i < kms.fbHight.toNat) :
    picRowStart kms bits i = ((kms.fbLineSize.toNat / pixelBytes bits * i : ℕ) : ℤ) := by
  have hbytes : pixelBytes bits < 2 ^ 32 := by
    rw [pixelBytes]
    split_ifs <;> norm_num
  have hrows : kms.fbLineSize.toNat * i ≤ kms.fbLineSize.toNat * kms.fbHight.toNat :=
    Nat.mul_le_mul_left _ hi.le
  have hhight := hg.hight_le
  exact toLong_line (pixelBytes_ge bits) hbytes (by omega) hg.line_dvd (hrows.trans hg.size_ge)
    kms.fbSize.toNat_lt

/-- **One row.**  It fills in the pixels of the row, after those of the rows before. -/
lemma lcdShowPicRow_eq {get : ℕ → ℕ → ℕ → Option ℕ} {biWidth biHeight : ℤ} {value : ℕ → ℕ → ℕ}
    (hg : kms.Geometry (pixelBytes bits)) (hfb : fb.Holds kms.fbSize.toNat)
    (hi : i < kms.fbHight.toNat)
    (hcell : ∀ j < kms.fbWidht.toNat, ∀ s, lcdShowPicCell get biWidth biHeight bits i s j
      = putPixel (pixelBytes bits) s (value i j)) (m : Mem) :
    lcdShowPicRow kms get biWidth biHeight bits
      ⟨fb.limit, painted m (pixelBytes bits) kms.fbLineSize.toNat kms.fbWidht.toNat
        (i * kms.fbWidht.toNat) value⟩ i
      = some ⟨fb.limit, painted m (pixelBytes bits) kms.fbLineSize.toNat kms.fbWidht.toNat
        ((i + 1) * kms.fbWidht.toNat) value⟩ := by
  set n := pixelBytes bits with hn
  set columns := kms.fbWidht.toNat with hcolumns
  set line := kms.fbLineSize.toNat with hline
  let at_ (k : ℕ) : RowState :=
    ⟨⟨fb.limit, painted m n line columns (i * columns + k) value⟩,
      ((line / n * i + k : ℕ) : ℤ)⟩
  have hround : ∀ k < columns,
      lcdShowPicCell get biWidth biHeight bits i (at_ k) k = some (at_ (k + 1)) := by
    intro k hk
    have hend := element_le hg hi hk
    have hoff : ((n * (line / n * i + k) : ℕ) : ℤ) = line * i + n * k := by
      exact_mod_cast element_offset hg i k
    have hput := @putPixel_eq n (value i k) (at_ k).fbMap (line / n * i + k)
      (Block.inside_number hfb (Int.natCast_nonneg _) (by exact_mod_cast hend))
      (element_lt (pixelBytes_ge bits) (by rw [Nat.mul_succ]; exact hend) kms.fbSize.toNat_lt)
    rw [hcell k hk]
    refine hput.trans ?_
    simp only [at_]
    rw [hoff, setNumber_painted hg.line_ge hk]
    rfl
  have hstart : at_ 0 = ⟨⟨fb.limit, painted m n line columns (i * columns) value⟩,
      picRowStart kms bits i⟩ := by
    rw [picRowStart_eq hg hi]
    rfl
  rw [lcdShowPicRow, ← hstart, forRange_eq at_ hround]
  simp only [at_, Option.map_some, Nat.succ_mul]

end Rows

/-! ## The whole picture -/

section Picture

variable {kms : KmsConfig} {bits biWidth biHeight : ℤ} {w h : ℕ} {fb fb' p : Block}
  {get get' : ℕ → ℕ → ℕ → Option ℕ} {value : ℕ → ℕ → ℕ}

/-- **The loop nest.**  The framebuffer becomes a grid of the picture and of white, and no write is
outside. -/
theorem drawPicture_eq (hbits : Depth bits) (hg : kms.Geometry (pixelBytes bits))
    (hfb : fb.Holds kms.fbSize.toNat)
    (hget : ∀ i < kms.fbHight.toNat, ∀ j < kms.fbWidht.toNat, (j : ℤ) < biWidth →
      (i : ℤ) < biHeight → get (pixelBytes bits) i j = some (value i j)) :
    drawPicture kms get fb biWidth biHeight bits
      = some ⟨fb.limit, painted fb.byte (pixelBytes bits) kms.fbLineSize.toNat kms.fbWidht.toNat
        (kms.fbHight.toNat * kms.fbWidht.toNat) fun i j =>
          if (j : ℤ) < biWidth ∧ (i : ℤ) < biHeight then value i j else white bits⟩ := by
  have hloop := @forRange_eq _ (lcdShowPicRow kms get biWidth biHeight bits)
    (fun i => ⟨fb.limit, painted fb.byte (pixelBytes bits) kms.fbLineSize.toNat
      kms.fbWidht.toNat (i * kms.fbWidht.toNat) fun i j =>
        if (j : ℤ) < biWidth ∧ (i : ℤ) < biHeight then value i j else white bits⟩)
    kms.fbHight.toNat fun i hi => lcdShowPicRow_eq hg hfb hi
      (fun j hj _ => lcdShowPicCell_eq hbits (hget i hi j hj)) fb.byte
  simp only [zero_mul, painted_zero] at hloop
  exact hloop

/-- **It returns** if every pixel that is drawn can be read. -/
theorem exists_drawPicture (hbits : Depth bits) (hg : kms.Geometry (pixelBytes bits))
    (hfb : fb.Holds kms.fbSize.toNat)
    (hget : ∀ i < kms.fbHight.toNat, ∀ j < kms.fbWidht.toNat, (j : ℤ) < biWidth →
      (i : ℤ) < biHeight → ∃ v, get (pixelBytes bits) i j = some v) :
    ∃ fb', drawPicture kms get fb biWidth biHeight bits = some fb' ∧ fb'.limit = fb.limit := by
  refine ⟨_, @drawPicture_eq _ _ _ _ _ _ (fun i j => (get (pixelBytes bits) i j).getD 0) hbits hg
    hfb ?_, rfl⟩
  intro i hi j hj hjw hih
  obtain ⟨v, hv⟩ := hget i hi j hj hjw hih
  rw [hv, Option.getD_some]

/-- **Only then.** -/
theorem get_of_drawPicture (hbits : Depth bits)
    (hdraw : drawPicture kms get fb biWidth biHeight bits = some fb') {i j : ℕ}
    (hi : i < kms.fbHight.toNat) (hj : j < kms.fbWidht.toNat) (hjw : (j : ℤ) < biWidth)
    (hih : (i : ℤ) < biHeight) : ∃ v, get (pixelBytes bits) i j = some v := by
  obtain ⟨_, _, _, hrow⟩ := forRange_round hdraw hi
  rw [lcdShowPicRow, Option.map_eq_some_iff] at hrow
  obtain ⟨_, hcells, _⟩ := hrow
  obtain ⟨_, _, _, hcell⟩ := forRange_round hcells hj
  exact get_of_lcdShowPicCell hbits hcell hjw hih

/-- Another way to read that finds every pixel the first finds draws what the first draws. -/
lemma drawPicture_mono (hget : ∀ n ≤ 4, ∀ i j v, get n i j = some v → get' n i j = some v)
    (hdraw : drawPicture kms get fb biWidth biHeight bits = some fb') :
    drawPicture kms get' fb biWidth biHeight bits = some fb' := by
  have hcell : ∀ i s j s', lcdShowPicCell get biWidth biHeight bits i s j = some s' →
      lcdShowPicCell get' biWidth biHeight bits i s j = some s' := by
    intro i s j s' hs
    rw [lcdShowPicCell] at hs ⊢
    split_ifs at hs ⊢
    · obtain ⟨v, hv, hput⟩ := Option.bind_eq_some_iff.mp hs
      exact Option.bind_eq_some_iff.mpr ⟨v, hget 2 (by norm_num) i j v hv, hput⟩
    · obtain ⟨v, hv, hput⟩ := Option.bind_eq_some_iff.mp hs
      exact Option.bind_eq_some_iff.mpr ⟨v, hget 4 le_rfl i j v hv, hput⟩
    all_goals exact hs
  have hrow : ∀ t i t', lcdShowPicRow kms get biWidth biHeight bits t i = some t' →
      lcdShowPicRow kms get' biWidth biHeight bits t i = some t' := by
    intro t i t' ht
    rw [lcdShowPicRow, Option.map_eq_some_iff] at ht ⊢
    obtain ⟨s, hcells, hs⟩ := ht
    obtain ⟨_, hcells', rfl⟩ := @forRange_simulates _ _ _
      (lcdShowPicCell get' biWidth biHeight bits i) Eq (by
        rintro s _ k s' rfl hk
        exact ⟨s', hcell i s k s' hk, rfl⟩) _ _ _ _ rfl hcells
    exact ⟨s, hcells', hs⟩
  obtain ⟨_, hdraw', rfl⟩ := @forRange_simulates _ _ _
    (lcdShowPicRow kms get' biWidth biHeight bits) Eq (by
      rintro t _ k t' rfl hk
      exact ⟨t', hrow t k t' hk, rfl⟩) _ _ _ _ rfl hdraw
  exact hdraw'

/-- An index that fits is the one in the registers, for elements inside a block. -/
lemma getPixel32_of_getPixel {size n i j v : ℕ} (hlimit : p.limit = some size)
    (hsize : size ≤ 2 ^ 32) (hv : getPixel n p biWidth i j = some v) :
    getPixel32 n p biWidth i j = some v := by
  simp only [getPixel, Option.bind_eq_bind, Option.bind_eq_some_iff] at hv
  obtain ⟨row, hrow, q, hq, hload⟩ := hv
  obtain ⟨-, rfl⟩ := checked_eq_some hrow
  obtain ⟨-, rfl⟩ := checked_eq_some hq
  rw [getPixel32]
  rcases Nat.eq_zero_or_pos n with rfl | hn
  · exact hload
  · have hfirst := Block.inside_of_loadNumber hload 0 hn
    rw [Block.inside, hlimit] at hfirst
    have hoff := of_decide_eq_true hfirst
    rwa [Int.emod_eq_of_lt (by omega) (by omega)]

/-- **As it is built.**  What `lcdShowPic` draws of a block, `lcdShowPic32` draws. -/
theorem lcdShowPic32_of_lcdShowPic {size : ℕ} (hlimit : p.limit = some size)
    (hsize : size ≤ 2 ^ 32) (hdraw : lcdShowPic kms fb p biWidth biHeight bits = some fb') :
    lcdShowPic32 kms fb p biWidth biHeight bits = some fb' :=
  drawPicture_mono (fun _ _ _ _ _ hv => getPixel32_of_getPixel hlimit hsize hv) hdraw

/-- **The whole function.**  The framebuffer becomes a grid of the picture and of white, and every
access is inside the two arrays. -/
theorem lcdShowPic_eq (hbits : Depth bits) (hg : kms.Geometry (pixelBytes bits))
    (hsize : w * h < 2 ^ 31) (hfb : fb.Holds kms.fbSize.toNat)
    (hp : p.Holds (pixelBytes bits * (w * h))) :
    lcdShowPic kms fb p w h bits
      = some ⟨fb.limit, painted fb.byte (pixelBytes bits) kms.fbLineSize.toNat kms.fbWidht.toNat
        (kms.fbHight.toNat * kms.fbWidht.toNat) (picValue p.byte w h bits)⟩ := by
  have hdraw := @drawPicture_eq kms bits w h fb (fun n => getPixel n p w)
    (fun i j => number p.byte (pixelBytes bits) (pixelBytes bits * (w * i + j))) hbits hg hfb
    fun i _ j _ hj hi => getPixel_eq hsize hp (by exact_mod_cast hj) (by exact_mod_cast hi)
  simp only [Nat.cast_lt] at hdraw
  exact hdraw

/-- **What is drawn.**  Each visible pixel is that of the picture, or white where the picture has
none, and nothing else changes. -/
theorem show_pic_draws (hbits : Depth bits) (hg : kms.Geometry (pixelBytes bits))
    (hsize : w * h < 2 ^ 31) (hfb : fb.Holds kms.fbSize.toNat)
    (hp : p.Holds (pixelBytes bits * (w * h))) :
    ∃ fb', lcdShowPic kms fb p w h bits = some fb' ∧
      (∀ i < kms.fbHight.toNat, ∀ j < kms.fbWidht.toNat,
        number fb'.byte (pixelBytes bits) (kms.fbLineSize.toNat * i + pixelBytes bits * j)
          = if i < h ∧ j < w then number p.byte (pixelBytes bits) (pixelBytes bits * (w * i + j))
            else white bits) ∧
      ∀ off : ℤ, (∀ i < kms.fbHight.toNat, ∀ j < kms.fbWidht.toNat,
        ¬ ((kms.fbLineSize.toNat : ℤ) * i + pixelBytes bits * j ≤ off ∧
          off < kms.fbLineSize.toNat * i + pixelBytes bits * j + pixelBytes bits)) →
        fb'.byte off = fb.byte off := by
  refine ⟨_, lcdShowPic_eq hbits hg hsize hfb hp, ?_, ?_⟩
  · intro i hi j hj
    have hbefore : i * kms.fbWidht.toNat + j < kms.fbHight.toNat * kms.fbWidht.toNat := by
      have hrow := index_lt hj hi
      rwa [mul_comm, mul_comm kms.fbHight.toNat]
    rw [number_painted hg.line_ge hj hbefore (picValue_lt hbits), picValue]
    exact if_congr and_comm rfl rfl
  · intro off hoff
    refine painted_outside hg.line_ge ?_
    intro i j hj ht
    refine hoff i ?_ j hj
    exact Nat.lt_of_mul_lt_mul_right (lt_of_le_of_lt (Nat.le_add_right _ _) ht)

end Picture

/-- A picture of one pixel on a screen of two. -/
theorem show_pic_draws_one_pixel : ∃ fb',
    lcdShowPic ⟨2, 1, 4, 4⟩ ⟨some 4, fun _ => 0⟩ ⟨some 2, fun _ => 7⟩ (1 : ℕ) (1 : ℕ) 16
        = some fb' ∧
      number fb'.byte 2 0 = 0x0707 ∧ number fb'.byte 2 2 = 0xffff := by
  obtain ⟨fb', hdraw, hpixels, _⟩ := @show_pic_draws ⟨2, 1, 4, 4⟩ 16 1 1
    ⟨some 4, fun _ => 0⟩ ⟨some 2, fun _ => 7⟩ (.inl rfl)
    ⟨by decide, by decide, by decide, by decide, by decide⟩ (by norm_num)
    (by simp [Block.Holds]) (by simp [Block.Holds, pixelBytes])
  exact ⟨fb', hdraw, hpixels 0 (by decide) 0 (by decide), hpixels 0 (by decide) 1 (by decide)⟩

end Mp157
