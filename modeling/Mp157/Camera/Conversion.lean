import Mp157.Library.Memory
import Mp157.Library.Loop

/-!
# YUYV to RGB565 (`conversionPicDate.c`)

A macropixel is four bytes `y0 u y1 v`: two pixels that share their chroma.  A pixel is converted
with integer arithmetic scaled by `2 ^ 16`, either directly (`convertYuvToRgbPixel`) or from five
tables (`convertYuvToRgbPixelTable`), and packed into a 16-bit word.

The functions are the source's, over memory blocks: an access outside a block, or outside a
table, has no result.  Below them, `convertedMem` says what a prefix of the conversion loop has
written; `convertBody_eq` is the one step from which everything about the loop follows.
-/

namespace Mp157

open ByteMemory CLoop

/-! ## One pixel -/

/-- `1.164383*(1<<16)`, converted to `int`. -/
def csYCoeff16 : ℤ := Int.tdiv (1164383 * 2 ^ 16) 1000000
def csUBlue16 : ℤ := Int.tdiv (2017232 * 2 ^ 16) 1000000
def csUGreen16 : ℤ := Int.tdiv (-391762 * 2 ^ 16) 1000000
def csVGreen16 : ℤ := Int.tdiv (-812968 * 2 ^ 16) 1000000
def csVRed16 : ℤ := Int.tdiv (1596027 * 2 ^ 16) 1000000

/-- `(x > 255) ? 255 : ((x < 0) ? 0 : x)`, stored in an `unsigned char`. -/
def clampByte (x : ℤ) : UInt8 :=
  UInt8.ofNat (if x > 255 then 255 else if x < 0 then 0 else x.toNat)

/-- The `unsigned int` whose first three bytes in memory are given and whose fourth is zero. -/
def pixel32 (pixel0 pixel1 pixel2 : UInt8) : UInt32 :=
  UInt32.ofNat (pixel0.toNat + 256 * pixel1.toNat + 65536 * pixel2.toNat)

/-- `((unsigned char *)&p)[k]` -/
def pixelByte (p : UInt32) (k : ℕ) : UInt8 := UInt8.ofNat (p.toNat / 256 ^ k % 256)

/-- The direct conversion of one pixel. -/
def convertYuvToRgbPixel (y u v : ℤ) : UInt32 :=
  let b := (csYCoeff16 * (y - 16) + csUBlue16 * (u - 128)) >>> (16 : ℕ)
  let g := (csYCoeff16 * (y - 16) + csUGreen16 * (u - 128) + csVGreen16 * (v - 128)) >>> (16 : ℕ)
  let r := (csYCoeff16 * (y - 16) + csVRed16 * (v - 128)) >>> (16 : ℕ)
  pixel32 (clampByte r) (clampByte g) (clampByte b)

/-- The five tables. -/
structure Tables where
  yTable : Fin 256 → ℤ
  vRTable : Fin 256 → ℤ
  vGTable : Fin 256 → ℤ
  uGTable : Fin 256 → ℤ
  uBTable : Fin 256 → ℤ

/-- `table[i]` -/
def intAt (table : Fin 256 → ℤ) (i : ℤ) : Option ℤ :=
  if h : 0 ≤ i ∧ i < 256 then some (table ⟨i.toNat, by omega⟩) else none

/-- `table[i] = x` -/
def setIntAt (table : Fin 256 → ℤ) (i : ℕ) (x : ℤ) : Fin 256 → ℤ :=
  fun k => if k.val = i then x else table k

def tableInitBody (t : Tables) (i : ℕ) : Tables where
  yTable := setIntAt t.yTable i ((i - 16) * csYCoeff16)
  vRTable := setIntAt t.vRTable i ((i - 128) * csVRed16)
  vGTable := setIntAt t.vGTable i ((i - 128) * csVGreen16)
  uGTable := setIntAt t.uGTable i ((i - 128) * csUGreen16)
  uBTable := setIntAt t.uBTable i ((i - 128) * csUBlue16)

/-- Fills the tables: `for (int i = 0; i <= 255; i++)`. -/
def yuvRgbTableInit (t : Tables) : Tables := (List.range 256).foldl tableInitBody t

/-- The conversion of one pixel from the tables. -/
def convertYuvToRgbPixelTable (t : Tables) (y u v : ℤ) : Option UInt32 := do
  let b := (← intAt t.yTable y) + (← intAt t.uBTable u)
  let g := (← intAt t.yTable y) + (← intAt t.uGTable u) + (← intAt t.vGTable v)
  let r := (← intAt t.yTable y) + (← intAt t.vRTable v)
  return pixel32 (clampByte (r >>> (16 : ℕ))) (clampByte (g >>> (16 : ℕ)))
    (clampByte (b >>> (16 : ℕ)))

/-! ## One frame -/

/-- `(pixel[0] & ~(0x7)) | (pixel[1] >> 5)` -/
def rgb565High (p : UInt32) : UInt8 :=
  ((pixelByte p 0).toUInt32 &&& ~~~(0x7 : UInt32) ||| (pixelByte p 1).toUInt32 >>> 5).toUInt8

/-- `((pixel[1] << 3) & ~(0x1f)) | (pixel[2] >> 3)` -/
def rgb565Low (p : UInt32) : UInt8 :=
  ((pixelByte p 1).toUInt32 <<< 3 &&& ~~~(0x1f : UInt32) ||| (pixelByte p 2).toUInt32 >>> 3).toUInt8

/-- What the conversion loop changes: the output and the two positions `in` and `out`. -/
structure ConvertState where
  rgb : Block
  inPos : UInt32
  outPos : UInt32

/-- The loop body: one macropixel. -/
def convertBody (t : Tables) (yuv : Block) (s : ConvertState) : Option ConvertState := do
  let y0 ← yuv.load (s.inPos + 0).toNat
  let u ← yuv.load (s.inPos + 1).toNat
  let y1 ← yuv.load (s.inPos + 2).toNat
  let v ← yuv.load (s.inPos + 3).toNat
  let pixel24 ← convertYuvToRgbPixelTable t y0.toNat u.toNat v.toNat
  let rgb ← s.rgb.store (s.outPos + 1).toNat (rgb565High pixel24)
  let rgb ← rgb.store (s.outPos + 0).toNat (rgb565Low pixel24)
  let pixel24 ← convertYuvToRgbPixelTable t y1.toNat u.toNat v.toNat
  let rgb ← rgb.store (s.outPos + 3).toNat (rgb565High pixel24)
  let rgb ← rgb.store (s.outPos + 2).toNat (rgb565Low pixel24)
  return ⟨rgb, s.inPos + 4, s.outPos + 4⟩

/-- `width * height * 2` in `unsigned int` arithmetic. -/
def convertSize (width height : UInt32) : UInt32 := width * height * 2

/-- `in < size` -/
def convertGuard (width height : UInt32) (s : ConvertState) : Bool :=
  decide (s.inPos < convertSize width height)

/-- Converts a frame.  `in` is a multiple of 4 below `2 ^ 32`, so a loop that has not ended after
`2 ^ 30` rounds repeats itself for ever: the bound on the rounds tells the two apart. -/
def convertYuvToRgb565Buffer (t : Tables) (yuv rgb : Block) (width height : UInt32) :
    Option Block :=
  (whileLoop (2 ^ 30 + 1) (convertGuard width height) (convertBody t yuv) ⟨rgb, 0, 0⟩).map (·.rgb)

/-! ## What the tables hold -/

lemma tableInit_range (t : Tables) : ∀ n : ℕ, (List.range n).foldl tableInitBody t =
    { yTable := fun k => if k.val < n then (k.val - 16) * csYCoeff16 else t.yTable k
      vRTable := fun k => if k.val < n then (k.val - 128) * csVRed16 else t.vRTable k
      vGTable := fun k => if k.val < n then (k.val - 128) * csVGreen16 else t.vGTable k
      uGTable := fun k => if k.val < n then (k.val - 128) * csUGreen16 else t.uGTable k
      uBTable := fun k => if k.val < n then (k.val - 128) * csUBlue16 else t.uBTable k }
  | 0 => by simp
  | n + 1 => by
      have hset : ∀ (old : Fin 256 → ℤ) (off c : ℤ),
          setIntAt (fun k => if k.val < n then (k.val - off) * c else old k) n ((n - off) * c)
            = fun k => if k.val < n + 1 then (k.val - off) * c else old k := by
        intro old off c
        funext k
        simp only [setIntAt]
        rcases lt_trichotomy k.val n with h | h | h
        · rw [if_neg (by omega), if_pos h, if_pos (by omega)]
        · rw [if_pos h, if_pos (by omega), h]
        · rw [if_neg (by omega), if_neg (by omega), if_neg (by omega)]
      rw [List.range_succ, List.foldl_append, tableInit_range t n]
      simp only [List.foldl_cons, List.foldl_nil, tableInitBody, hset]

/-- **The tables after initialisation**, whatever they held. -/
theorem yuvRgbTableInit_eq (t : Tables) : yuvRgbTableInit t =
    { yTable := fun k => (k.val - 16) * csYCoeff16
      vRTable := fun k => (k.val - 128) * csVRed16
      vGTable := fun k => (k.val - 128) * csVGreen16
      uGTable := fun k => (k.val - 128) * csUGreen16
      uBTable := fun k => (k.val - 128) * csUBlue16 } := by
  rw [yuvRgbTableInit, tableInit_range]
  simp

lemma intAt_byte (table : Fin 256 → ℤ) (x : UInt8) :
    intAt table x.toNat = some (table ⟨x.toNat, x.toNat_lt⟩) := by
  have hx := x.toNat_lt
  rw [intAt, dif_pos (by omega)]
  rfl

/-- The pixel the tables give for three bytes: a byte is always an index of a table. -/
def tablePixel (t : Tables) (y u v : UInt8) : UInt32 :=
  let at_ (table : Fin 256 → ℤ) (x : UInt8) : ℤ := table ⟨x.toNat, x.toNat_lt⟩
  pixel32 (clampByte ((at_ t.yTable y + at_ t.vRTable v) >>> (16 : ℕ)))
    (clampByte ((at_ t.yTable y + at_ t.uGTable u + at_ t.vGTable v) >>> (16 : ℕ)))
    (clampByte ((at_ t.yTable y + at_ t.uBTable u) >>> (16 : ℕ)))

lemma convertYuvToRgbPixelTable_byte (t : Tables) (y u v : UInt8) :
    convertYuvToRgbPixelTable t y.toNat u.toNat v.toNat = some (tablePixel t y u v) := by
  simp [convertYuvToRgbPixelTable, intAt_byte, tablePixel]

/-- **From the initialised tables a pixel is what the direct computation gives.** -/
theorem tablePixel_init (t : Tables) (y u v : UInt8) :
    tablePixel (yuvRgbTableInit t) y u v = convertYuvToRgbPixel y.toNat u.toNat v.toNat := by
  rw [yuvRgbTableInit_eq]
  simp only [tablePixel, convertYuvToRgbPixel, mul_comm]

/-! ## What the loop has written -/

/-- The converted pixel `q` of frame `f`: its luma byte, and the chroma of its macropixel. -/
def convertedPixel (t : Tables) (f : Mem) (q : ℤ) : UInt32 :=
  tablePixel t (f (2 * q)) (f (4 * (q / 2) + 1)) (f (4 * (q / 2) + 3))

/-- Byte `off` of the converted frame. -/
def convertedByte (t : Tables) (f : Mem) (off : ℤ) : UInt8 :=
  if off % 2 = 1 then rgb565High (convertedPixel t f (off / 2))
  else rgb565Low (convertedPixel t f (off / 2))

/-- `rgb` once the first `n` macropixels of frame `f` have been converted into it. -/
def convertedMem (t : Tables) (f : Mem) (n : ℕ) (rgb : Mem) : Mem :=
  fun off => if 0 ≤ off ∧ off < 4 * n then convertedByte t f off else rgb off

@[simp] lemma convertedMem_zero (t : Tables) (f rgb : Mem) : convertedMem t f 0 rgb = rgb := by
  funext off
  simp only [convertedMem]
  rw [if_neg (by push_cast; omega)]

/-- Converting again overwrites: only the last frame remains. -/
lemma convertedMem_convertedMem (t : Tables) (f f' : Mem) (n : ℕ) (rgb : Mem) :
    convertedMem t f n (convertedMem t f' n rgb) = convertedMem t f n rgb := by
  funext off
  simp only [convertedMem]
  split_ifs <;> rfl

/-- The four stores of macropixel `k`. -/
lemma convertedMem_stores (t : Tables) (f : Mem) (k : ℕ) (m : Mem) :
    Function.update (Function.update (Function.update (Function.update m
        (4 * k + 1) (rgb565High (tablePixel t (f (4 * k)) (f (4 * k + 1)) (f (4 * k + 3)))))
        (4 * k) (rgb565Low (tablePixel t (f (4 * k)) (f (4 * k + 1)) (f (4 * k + 3)))))
        (4 * k + 3) (rgb565High (tablePixel t (f (4 * k + 2)) (f (4 * k + 1)) (f (4 * k + 3)))))
        (4 * k + 2) (rgb565Low (tablePixel t (f (4 * k + 2)) (f (4 * k + 1)) (f (4 * k + 3))))
      = fun off => if 4 * (k : ℤ) ≤ off ∧ off < 4 * (k + 1) then convertedByte t f off
          else m off := by
  funext off
  have hpix : ∀ lane : ℤ, 0 ≤ lane → lane < 2 → convertedPixel t f (2 * k + lane)
      = tablePixel t (f (4 * k + 2 * lane)) (f (4 * k + 1)) (f (4 * k + 3)) := by
    intro lane h₀ h₂
    rw [convertedPixel, show (2 * (k : ℤ) + lane) / 2 = k by omega]
    congr 2
    ring
  have hpix0 := hpix 0 le_rfl (by omega)
  have hpix1 := hpix 1 (by omega) (by omega)
  simp only [mul_zero, add_zero, mul_one] at hpix0 hpix1
  simp only [Function.update_apply]
  by_cases h2 : off = 4 * k + 2
  · rw [if_pos h2, if_pos (by omega), convertedByte, if_neg (by omega),
      show off / 2 = 2 * k + 1 by omega, hpix1]
  by_cases h3 : off = 4 * k + 3
  · rw [if_neg h2, if_pos h3, if_pos (by omega), convertedByte, if_pos (by omega),
      show off / 2 = 2 * k + 1 by omega, hpix1]
  by_cases h0 : off = 4 * k
  · rw [if_neg h2, if_neg h3, if_pos h0, if_pos (by omega), convertedByte, if_neg (by omega),
      show off / 2 = 2 * k by omega, hpix0]
  by_cases h1 : off = 4 * k + 1
  · rw [if_neg h2, if_neg h3, if_neg h0, if_pos h1, if_pos (by omega), convertedByte,
      if_pos (by omega), show off / 2 = 2 * k by omega, hpix0]
  · rw [if_neg h2, if_neg h3, if_neg h0, if_neg h1, if_neg (by omega)]

/-! ## The word of a pixel -/

/-- The RGB565 word of a pixel: `(R>>3)<<11 | (G>>2)<<5 | (B>>3)`. -/
def rgb565 (r g b : UInt8) : UInt16 :=
  (r >>> 3).toUInt16 <<< 11 ||| (g >>> 2).toUInt16 <<< 5 ||| (b >>> 3).toUInt16

lemma forall_byte {P : UInt8 → Prop} (h : ∀ n < 256, P (UInt8.ofNat n)) (x : UInt8) : P x := by
  rw [← UInt8.ofNat_toNat (x := x)]
  exact h _ x.toNat_lt

lemma and_not_seven (x : UInt8) :
    (x.toUInt32 &&& ~~~(0x7 : UInt32)).toNat = 8 * (x.toNat / 8) :=
  forall_byte (P := fun x => (x.toUInt32 &&& ~~~(0x7 : UInt32)).toNat = 8 * (x.toNat / 8))
    (by decide +kernel) x

lemma shift_and_not_thirtyOne (x : UInt8) :
    (x.toUInt32 <<< 3 &&& ~~~(0x1f : UInt32)).toNat = 32 * (x.toNat / 4) :=
  forall_byte (P := fun x => (x.toUInt32 <<< 3 &&& ~~~(0x1f : UInt32)).toNat = 32 * (x.toNat / 4))
    (by decide +kernel) x

lemma rgb565High_toNat (p : UInt32) : (rgb565High p).toNat
    = 8 * ((pixelByte p 0).toNat / 8) + (pixelByte p 1).toNat / 32 := by
  have h₀ := (pixelByte p 0).toNat_lt
  have h₁ := (pixelByte p 1).toNat_lt
  have hshift : ((pixelByte p 1).toUInt32 >>> 5).toNat = (pixelByte p 1).toNat / 32 := by
    simp [UInt32.toNat_shiftRight, Nat.shiftRight_eq_div_pow]
  rw [rgb565High, UInt32.toNat_toUInt8, UInt32.toNat_or, and_not_seven, hshift,
    show 8 = 2 ^ 3 from rfl, ← Nat.two_pow_add_eq_or_of_lt (by omega)]
  omega

lemma rgb565Low_toNat (p : UInt32) : (rgb565Low p).toNat
    = 32 * ((pixelByte p 1).toNat / 4 % 8) + (pixelByte p 2).toNat / 8 := by
  have h₁ := (pixelByte p 1).toNat_lt
  have h₂ := (pixelByte p 2).toNat_lt
  have hshift : ((pixelByte p 2).toUInt32 >>> 3).toNat = (pixelByte p 2).toNat / 8 := by
    simp [UInt32.toNat_shiftRight, Nat.shiftRight_eq_div_pow]
  rw [rgb565Low, UInt32.toNat_toUInt8, UInt32.toNat_or, shift_and_not_thirtyOne, hshift,
    show 32 = 2 ^ 5 from rfl, ← Nat.two_pow_add_eq_or_of_lt (by omega)]
  omega

lemma rgb565_toNat (r g b : UInt8) : (rgb565 r g b).toNat
    = 2048 * (r.toNat / 8) + 32 * (g.toNat / 4) + b.toNat / 8 := by
  have hr := r.toNat_lt
  have hg := g.toNat_lt
  have hb := b.toNat_lt
  have hred : ((r >>> 3).toUInt16 <<< 11).toNat = 2 ^ 11 * (r.toNat / 8) := by
    simp [UInt16.toNat_shiftLeft, Nat.shiftRight_eq_div_pow, Nat.shiftLeft_eq]
    omega
  have hgreen : ((g >>> 2).toUInt16 <<< 5).toNat = 2 ^ 5 * (g.toNat / 4) := by
    simp [UInt16.toNat_shiftLeft, Nat.shiftRight_eq_div_pow, Nat.shiftLeft_eq]
    omega
  have hblue : ((b >>> 3).toUInt16).toNat = b.toNat / 8 := by
    simp [Nat.shiftRight_eq_div_pow]
  -- red and green fill the bits above the five of blue
  have hrg : 2 ^ 11 * (r.toNat / 8) + 2 ^ 5 * (g.toNat / 4)
      = 2 ^ 5 * (2 ^ 6 * (r.toNat / 8) + g.toNat / 4) := by
    ring
  rw [rgb565, UInt16.toNat_or, UInt16.toNat_or, hred, hgreen, hblue,
    ← Nat.two_pow_add_eq_or_of_lt (by omega), hrg, ← Nat.two_pow_add_eq_or_of_lt (by omega)]
  omega

/-- **A converted pixel is stored as its RGB565 word.** -/
theorem word_convertedMem (t : Tables) (f : Mem) (n : ℕ) (rgb : Mem) {q : ℤ} (h₀ : 0 ≤ q)
    (hq : q < 2 * n) :
    word (convertedMem t f n rgb) q = rgb565 (pixelByte (convertedPixel t f q) 0)
      (pixelByte (convertedPixel t f q) 1) (pixelByte (convertedPixel t f q) 2) := by
  have hlow : convertedMem t f n rgb (2 * q) = rgb565Low (convertedPixel t f q) := by
    rw [convertedMem, if_pos (by omega), convertedByte, if_neg (by omega),
      show 2 * q / 2 = q by omega]
  have hhigh : convertedMem t f n rgb (2 * q + 1) = rgb565High (convertedPixel t f q) := by
    rw [convertedMem, if_pos (by omega), convertedByte, if_pos (by omega),
      show (2 * q + 1) / 2 = q by omega]
  rw [← UInt16.toNat_inj, word_toNat, hlow, hhigh, rgb565Low_toNat, rgb565High_toNat,
    rgb565_toNat]
  omega

/-! ## The loop -/

/-- Position `4 * k`, as long as it fits. -/
lemma position_add {k : ℕ} (hk : k < 2 ^ 30) (d : ℕ) (hd : d < 4) :
    ((UInt32.ofNat (4 * k) + UInt32.ofNat d).toNat : ℤ) = 4 * (k : ℤ) + d := by
  rw [UInt32.toNat_add, UInt32.toNat_ofNat', UInt32.toNat_ofNat']
  push_cast
  omega

lemma position_toNat {k : ℕ} (hk : k < 2 ^ 30) : (UInt32.ofNat (4 * k)).toNat = 4 * k := by
  rw [UInt32.toNat_ofNat']
  omega

lemma position_next (k : ℕ) : UInt32.ofNat (4 * k) + 4 = UInt32.ofNat (4 * (k + 1)) :=
  (UInt32.ofNat_add (4 * k) 4).symm

/-- **One round of the loop**, at macropixel `k`. -/
theorem convertBody_eq (t : Tables) {yuv : Block} {l : Option ℕ} {m : Mem} {k : ℕ}
    (hk : k < 2 ^ 30) (hyuv : yuv.Holds (4 * (k + 1))) (hrgb : Block.Holds ⟨l, m⟩ (4 * (k + 1))) :
    convertBody t yuv ⟨⟨l, m⟩, UInt32.ofNat (4 * k), UInt32.ofNat (4 * k)⟩
      = some ⟨⟨l, fun off => if 4 * (k : ℤ) ≤ off ∧ off < 4 * (k + 1)
            then convertedByte t yuv.byte off else m off⟩,
          UInt32.ofNat (4 * (k + 1)), UInt32.ofNat (4 * (k + 1))⟩ := by
  have h0 : ((UInt32.ofNat (4 * k) + 0).toNat : ℤ) = 4 * (k : ℤ) := by
    simpa using position_add hk 0 (by omega)
  have h1 : ((UInt32.ofNat (4 * k) + 1).toNat : ℤ) = 4 * (k : ℤ) + 1 := by
    simpa using position_add hk 1 (by omega)
  have h2 : ((UInt32.ofNat (4 * k) + 2).toNat : ℤ) = 4 * (k : ℤ) + 2 := by
    simpa using position_add hk 2 (by omega)
  have h3 : ((UInt32.ofNat (4 * k) + 3).toNat : ℤ) = 4 * (k : ℤ) + 3 := by
    simpa using position_add hk 3 (by omega)
  -- every access of the round lies in the four bytes from `4 * k`
  have hload : ∀ d : ℤ, 0 ≤ d → d < 4 → yuv.load (4 * k + d) = some (yuv.byte (4 * k + d)) := by
    intro d hd₀ hd₄
    exact Block.load_of_inside (Block.inside_of_holds hyuv (by omega) (by push_cast; omega))
  have hstore : ∀ (m' : Mem) (d : ℤ) (x : UInt8), 0 ≤ d → d < 4 →
      Block.store ⟨l, m'⟩ (4 * k + d) x = some ⟨l, Function.update m' (4 * k + d) x⟩ :=
    fun m' d x hd₀ hd₄ => Block.store_of_inside
      (Block.inside_of_holds (b := ⟨l, m'⟩) hrgb (by omega) (by push_cast; omega))
  have hload0 := hload 0 le_rfl (by omega)
  have hstore0 := fun m' x => hstore m' 0 x le_rfl (by omega)
  simp only [add_zero] at hload0 hstore0
  simp only [convertBody, h0, h1, h2, h3, hload0, hload 1 (by omega) (by omega),
    hload 2 (by omega) (by omega), hload 3 (by omega) (by omega), convertYuvToRgbPixelTable_byte,
    hstore0, hstore _ 1 _ (by omega) (by omega), hstore _ 2 _ (by omega) (by omega),
    hstore _ 3 _ (by omega) (by omega), Option.bind_eq_bind, Option.bind_some, Option.pure_def,
    position_next]
  rw [convertedMem_stores]

lemma convertedMem_succ (t : Tables) (f : Mem) (k : ℕ) (rgb : Mem) :
    (fun off => if 4 * (k : ℤ) ≤ off ∧ off < 4 * (k + 1) then convertedByte t f off
      else convertedMem t f k rgb off) = convertedMem t f (k + 1) rgb := by
  funext off
  simp only [convertedMem]
  by_cases hin : 4 * (k : ℤ) ≤ off ∧ off < 4 * (k + 1)
  · rw [if_pos hin, if_pos (by push_cast; omega)]
  · rw [if_neg hin]
    by_cases hlo : 0 ≤ off ∧ off < 4 * (k : ℤ)
    · rw [if_pos hlo, if_pos (by push_cast; omega)]
    · rw [if_neg hlo, if_neg (by push_cast; omega)]

/-- Converting a macropixel once more changes nothing. -/
lemma convertedMem_again (t : Tables) (f : Mem) {k j : ℕ} (hkj : k < j) (rgb : Mem) :
    (fun off => if 4 * (k : ℤ) ≤ off ∧ off < 4 * (k + 1) then convertedByte t f off
      else convertedMem t f j rgb off) = convertedMem t f j rgb := by
  funext off
  simp only [convertedMem]
  by_cases hin : 4 * (k : ℤ) ≤ off ∧ off < 4 * (k + 1)
  · rw [if_pos hin, if_pos (by omega)]
  · rw [if_neg hin]

/-- How many macropixels a frame has; the last one may be cut short. -/
def convertRounds (width height : UInt32) : ℕ := ((convertSize width height).toNat + 3) / 4

lemma convertSize_eq {w h : UInt32} (hsize : 2 * (w.toNat * h.toNat) < 2 ^ 32) :
    (convertSize w h).toNat = 2 * (w.toNat * h.toNat) := by
  rw [convertSize, UInt32.toNat_mul, UInt32.toNat_mul]
  change w.toNat * h.toNat % 2 ^ 32 * 2 % 2 ^ 32 = _
  rw [Nat.mod_eq_of_lt (show w.toNat * h.toNat < 2 ^ 32 by omega), mul_comm,
    Nat.mod_eq_of_lt hsize]

/-- A frame with an even number of pixels is made of whole macropixels, even where its size wraps
around. -/
lemma four_mul_convertRounds {w h : UInt32} (heven : w.toNat * h.toNat % 2 = 0) :
    4 * convertRounds w h = (convertSize w h).toNat := by
  have hmod : (convertSize w h).toNat % 4 = 0 := by
    rw [convertSize, UInt32.toNat_mul, UInt32.toNat_mul]
    change w.toNat * h.toNat % 2 ^ 32 * 2 % 2 ^ 32 % 4 = 0
    omega
  rw [convertRounds]
  omega

lemma convertGuard_position {w h : UInt32} {k : ℕ} (hk : k < 2 ^ 30) (rgb : Block)
    (outPos : UInt32) :
    convertGuard w h ⟨rgb, UInt32.ofNat (4 * k), outPos⟩ = decide (k < convertRounds w h) := by
  refine decide_eq_decide.mpr ?_
  rw [UInt32.lt_iff_toNat_lt, position_toNat hk, convertRounds]
  omega

/-- **The whole loop.**  When the position does not wrap around and the blocks hold the frame,
the conversion returns, having replaced exactly the bytes of the frame. -/
theorem convertYuvToRgb565Buffer_eq (t : Tables) {yuv rgb : Block} {w h : UInt32}
    (hrounds : convertRounds w h < 2 ^ 30) (hyuv : yuv.Holds (4 * convertRounds w h))
    (hrgb : rgb.Holds (4 * convertRounds w h)) :
    convertYuvToRgb565Buffer t yuv rgb w h
      = some ⟨rgb.limit, convertedMem t yuv.byte (convertRounds w h) rgb.byte⟩ := by
  let at_ (k : ℕ) : ConvertState :=
    ⟨⟨rgb.limit, convertedMem t yuv.byte k rgb.byte⟩, UInt32.ofNat (4 * k), UInt32.ofNat (4 * k)⟩
  have hexit : convertGuard w h (at_ (convertRounds w h)) = false := by
    rw [convertGuard_position hrounds]
    simp
  have hround : ∀ i, 0 ≤ i → i < convertRounds w h →
      convertGuard w h (at_ i) = true ∧ convertBody t yuv (at_ i) = some (at_ (i + 1)) := by
    intro i _ hi
    refine ⟨by rw [convertGuard_position (by omega)]; simpa using hi, ?_⟩
    rw [convertBody_eq t (by omega) (fun len hlen => by have := hyuv len hlen; omega)
      (fun len hlen => by have := hrgb len hlen; omega), convertedMem_succ]
  have hloop := whileLoop_eq at_ (convertRounds w h) hexit (Nat.zero_le _)
    (show convertRounds w h < 0 + (2 ^ 30 + 1) by omega) hround
  have hstart : at_ 0 = ⟨rgb, 0, 0⟩ := by
    simp [at_]
  rw [convertYuvToRgb565Buffer, ← hstart, hloop]
  rfl

/-! ## A conversion in progress

`convertAfter` is where the loop stands between two of its rounds, told by their number.  A position
that wraps around starts over, on a frame that is then converted already.  `Converting` forgets the
number: how far the loop has come, and that what it has passed is converted.
-/

/-- Where the loop over frame `f`, begun on output `base`, stands after `n` rounds. -/
def convertAfter (t : Tables) (f base : Mem) (n : ℕ) : ConvertState :=
  ⟨unbounded (convertedMem t f (min n (2 ^ 30)) base), UInt32.ofNat (4 * n), UInt32.ofNat (4 * n)⟩

/-- Positions start over after `2 ^ 30` rounds. -/
lemma position_mod (n : ℕ) : UInt32.ofNat (4 * (n % 2 ^ 30)) = UInt32.ofNat (4 * n) := by
  rw [← UInt32.toNat_inj, UInt32.toNat_ofNat', UInt32.toNat_ofNat']
  omega

/-- **Every round is followed by the next.** -/
theorem convertBody_after (t : Tables) (f base : Mem) (n : ℕ) :
    convertBody t (unbounded f) (convertAfter t f base n)
      = some (convertAfter t f base (n + 1)) := by
  have hbody := @convertBody_eq t (unbounded f) none (convertedMem t f (min n (2 ^ 30)) base)
    (n % 2 ^ 30) (Nat.mod_lt _ (by norm_num)) (unbounded_holds f _) (unbounded_holds _ _)
  have hmem : (fun off => if 4 * ((n % 2 ^ 30 : ℕ) : ℤ) ≤ off ∧ off < 4 * ((n % 2 ^ 30 : ℕ) + 1)
      then convertedByte t f off else convertedMem t f (min n (2 ^ 30)) base off)
      = convertedMem t f (min (n + 1) (2 ^ 30)) base := by
    rcases Nat.lt_or_ge n (2 ^ 30) with hfirst | hagain
    · rw [Nat.mod_eq_of_lt hfirst, min_eq_left hfirst.le, min_eq_left hfirst, convertedMem_succ]
    · rw [min_eq_right hagain, min_eq_right (hagain.trans (Nat.le_succ n)),
        convertedMem_again t f (Nat.mod_lt _ (by norm_num))]
  rw [← position_next, position_mod, position_next, unbounded_byte, hmem] at hbody
  exact hbody

/-- The loop over frame `f`, begun on output `base`, stands at `inPos` with output `rgb`. -/
def Converting (t : Tables) (w h : UInt32) (f base rgb : Mem) (inPos outPos : UInt32) : Prop :=
  ∃ k j : ℕ, k < 2 ^ 30 ∧ k ≤ j ∧ j ≤ convertRounds w h ∧ (k = j ∨ j = 2 ^ 30) ∧
    inPos = UInt32.ofNat (4 * k) ∧ outPos = inPos ∧ rgb = convertedMem t f j base

lemma convertRounds_le (w h : UInt32) : convertRounds w h ≤ 2 ^ 30 := by
  have hlt := (convertSize w h).toNat_lt
  rw [convertRounds]
  omega

lemma convertGuard_after {t : Tables} {w h : UInt32} {f base : Mem} {n : ℕ} :
    convertGuard w h (convertAfter t f base n) = decide (n % 2 ^ 30 < convertRounds w h) := by
  rw [convertAfter, ← position_mod, convertGuard_position (Nat.mod_lt _ (by norm_num))]

section Converting

variable {t : Tables} {w h : UInt32} {f base rgb : Mem} {inPos outPos : UInt32}

lemma Converting.start : Converting t w h f base base 0 0 :=
  ⟨0, 0, by norm_num, le_rfl, Nat.zero_le _, Or.inl rfl, rfl, rfl, by simp⟩

/-- What it forgets: after some number of rounds the loop stands there. -/
lemma converting_iff : Converting t w h f base rgb inPos outPos ↔
    ∃ n, min n (2 ^ 30) ≤ convertRounds w h ∧
      ⟨unbounded rgb, inPos, outPos⟩ = convertAfter t f base n := by
  constructor
  · rintro ⟨k, j, hk, hkj, hj, hlast, rfl, rfl, rfl⟩
    rcases hlast with rfl | rfl
    · exact ⟨k, (min_le_left _ _).trans hj, by rw [convertAfter, min_eq_left hk.le]⟩
    · refine ⟨2 ^ 30 + k, (min_le_right _ _).trans hj, ?_⟩
      rw [convertAfter, min_eq_right (Nat.le_add_right _ _), ← position_mod (2 ^ 30 + k),
        Nat.add_mod_left, Nat.mod_eq_of_lt hk]
  · rintro ⟨n, hn, hstate⟩
    obtain ⟨hrgb, rfl, rfl⟩ := ConvertState.mk.inj hstate
    refine ⟨n % 2 ^ 30, min n (2 ^ 30), Nat.mod_lt _ (by norm_num), by omega, hn, by omega,
      (position_mod n).symm, rfl, congrArg Block.byte hrgb⟩

/-- A round keeps the description. -/
theorem Converting.round (hc : Converting t w h f base rgb inPos outPos)
    (hguard : convertGuard w h ⟨unbounded rgb, inPos, outPos⟩ = true) :
    ∃ rgb', convertBody t (unbounded f) ⟨unbounded rgb, inPos, outPos⟩
        = some ⟨unbounded rgb', inPos + 4, outPos + 4⟩ ∧
      Converting t w h f base rgb' (inPos + 4) (outPos + 4) := by
  obtain ⟨n, hn, hstate⟩ := converting_iff.mp hc
  have hle := convertRounds_le w h
  rw [hstate, convertGuard_after, decide_eq_true_eq] at hguard
  have hnext : ⟨unbounded (convertedMem t f (min (n + 1) (2 ^ 30)) base), inPos + 4, outPos + 4⟩
      = convertAfter t f base (n + 1) := by
    obtain ⟨-, rfl, rfl⟩ := ConvertState.mk.inj hstate
    rw [convertAfter, position_next]
  refine ⟨_, ?_, converting_iff.mpr ⟨n + 1, by omega, hnext⟩⟩
  rw [hstate, convertBody_after, hnext]

/-- **The end of the loop.**  When the guard fails, the whole frame is converted. -/
theorem Converting.finish (hc : Converting t w h f base rgb inPos outPos)
    (hguard : convertGuard w h ⟨unbounded rgb, inPos, outPos⟩ = false) :
    convertRounds w h < 2 ^ 30 ∧ rgb = convertedMem t f (convertRounds w h) base := by
  obtain ⟨k, j, hk, hkj, hj, hlast, rfl, rfl, rfl⟩ := hc
  rw [convertGuard_position hk, decide_eq_false_iff_not] at hguard
  have hle := convertRounds_le w h
  obtain rfl : j = convertRounds w h := by omega
  exact ⟨by omega, rfl⟩

/-- On the way, every byte is the frame's or still the old one. -/
lemma Converting.byte (hc : Converting t w h f base rgb inPos outPos) (off : ℤ) :
    rgb off = convertedByte t f off ∨ rgb off = base off := by
  obtain ⟨k, j, _, _, _, _, _, _, rfl⟩ := hc
  simp only [convertedMem]
  split_ifs
  · exact Or.inl rfl
  · exact Or.inr rfl

end Converting

end Mp157
