import Mp157.Picture.ReadData

/-!
# Rows that are padded

A BMP file pads its rows to a multiple of 4 bytes.  `readData` reads the pixels back to back.

* `rows_decoded_iff` — when every element is the pixel of its row and column.
* `exists_padded_file` — for every width that needs padding there is a file of two rows or more for
  which it is not.
-/

namespace Mp157.Bmp

open ByteMemory CLoop CInt

/-! ## Padded files -/

/-- The bytes of a row: a multiple of 4. -/
def stride (biBitCount w : ℕ) : ℕ := (storedBytes biBitCount * w + 3) / 4 * 4

/-- An uncompressed file of either depth whose height is positive. -/
structure PaddedFile where
  content : Block
  len : ℕ
  offBits : ℕ
  w : ℕ
  h : ℕ
  bits : ℕ
  size_eq : content.limit = some len
  type_eq : number content.byte 2 0 = 0x4d42
  offBits_eq : number content.byte 4 10 = offBits
  biSize_ge : 40 ≤ number content.byte 4 14
  headers_le : 14 + number content.byte 4 14 ≤ offBits
  biWidth_eq : asLong (number content.byte 4 18) = w
  biHeight_eq : asLong (number content.byte 4 22) = h
  w_pos : 0 < w
  h_pos : 0 < h
  biPlanes_eq : number content.byte 2 26 = 1
  biBitCount_eq : number content.byte 2 28 = bits
  /-- `BI_RGB`, or `BI_BITFIELDS` for 16 bits. -/
  format : bits = 24 ∧ number content.byte 4 30 = 0 ∨
    bits = 16 ∧ (number content.byte 4 30 = 0 ∨ number content.byte 4 30 = 3 ∧ 66 ≤ offBits)
  data_le : offBits + stride bits w * h ≤ len

namespace PaddedFile

/-- The pixel in row `r` and column `c` of the file. -/
def stored (f : PaddedFile) (r c : ℕ) : ℕ :=
  number f.content.byte (storedBytes f.bits)
    (f.offBits + stride f.bits f.w * r + storedBytes f.bits * c : ℕ)

/-- The pixel that follows `f.w * r + c` others without a gap. -/
def packed (f : PaddedFile) (r c : ℕ) : ℕ :=
  number f.content.byte (storedBytes f.bits)
    (f.offBits + storedBytes f.bits * (f.w * r + c) : ℕ)

/-- The array holds the pixels of the file, row by row. -/
def Decoded (f : PaddedFile) (colorData : Block) : Prop :=
  ∀ r < f.h, ∀ c < f.w, number colorData.byte (pixelBytes f.bits)
    (pixelBytes f.bits * (f.w * r + c)) = f.stored r c

/-- The rows need no padding, or what the rows from 1 on hold is also found where it would be
without. -/
def PaddingImmaterial (f : PaddedFile) : Prop :=
  storedBytes f.bits * f.w % 4 = 0 ∨
    ∀ r, 0 < r → r < f.h → ∀ c < f.w, f.packed r c = f.stored r c

end PaddedFile

section Decode

variable {f : PaddedFile} {locals : Locals} {heap : Option Mem} {out : Outputs} {res : Result}

lemma PaddedFile.depth (f : PaddedFile) : Depth f.bits := by
  rcases f.format with ⟨h, -⟩ | ⟨h, -⟩
  · exact .inr (by exact_mod_cast h)
  · exact .inl (by exact_mod_cast h)

lemma storedBytes_ge (bits : ℕ) : 2 ≤ storedBytes bits := by
  rw [storedBytes]
  split_ifs
  · norm_num
  · norm_num

lemma storedBytes_mul_le_stride (bits w : ℕ) : storedBytes bits * w ≤ stride bits w := by
  rw [stride]
  omega

lemma PaddedFile.len_ge (f : PaddedFile) : 54 ≤ f.len := by
  have hsize := f.biSize_ge
  have hheaders := f.headers_le
  have hdata := f.data_le
  omega

/-- Without gaps the pixels end no later. -/
lemma PaddedFile.packed_le (f : PaddedFile) :
    f.offBits + storedBytes f.bits * (f.w * f.h) ≤ f.len := by
  have hrows : storedBytes f.bits * f.w * f.h ≤ stride f.bits f.w * f.h :=
    Nat.mul_le_mul_right _ (storedBytes_mul_le_stride _ _)
  have hdata := f.data_le
  rw [← mul_assoc]
  omega

/-- A file that can be opened has few enough pixels for their number to fit. -/
lemma PaddedFile.pixels_lt (f : PaddedFile) (hlen : f.len < 2 ^ 31) : f.w * f.h < 2 ^ 30 := by
  have hpacked := f.packed_le
  have hpixels : 2 * (f.w * f.h) ≤ storedBytes f.bits * (f.w * f.h) :=
    Nat.mul_le_mul_right _ (storedBytes_ge _)
  omega

lemma PaddedFile.wrap_promisedPixels (f : PaddedFile) (hlen : f.len < 2 ^ 31) :
    wrap (promisedPixels f.content.byte) = (f.w * f.h : ℕ) := by
  have hpixels := f.pixels_lt hlen
  rw [promisedPixels, f.biWidth_eq, f.biHeight_eq, ← Nat.cast_mul]
  exact wrap_of_fits (fits_of_nonneg (by omega) (by omega))

/-- And few enough to be read. -/
lemma PaddedFile.accepted (f : PaddedFile) (hlen : f.len < 2 ^ 31) :
    (readHeaders ⟨f.content, 0⟩ locals).Accepted := by
  have hpixels : (readHeaders ⟨f.content, 0⟩ locals).pixels = (f.w * f.h : ℕ) :=
    (readHeaders_pixels f.size_eq f.len_ge).trans (f.wrap_promisedPixels hlen)
  have hbits : (readHeaders ⟨f.content, 0⟩ locals).infoHeader.biBitCount = f.bits :=
    (readHeaders_biBitCount f.size_eq f.len_ge).trans f.biBitCount_eq
  have hlt := f.pixels_lt hlen
  refine ⟨by rw [hbits]; exact f.depth, .inr ?_⟩
  rw [hpixels]
  omega

/-- `readData` returns 0 for it, if `malloc` succeeds. -/
lemma PaddedFile.readData_zero (f : PaddedFile) (hlen : f.len < 2 ^ 31) (m : Mem) :
    ∃ res, readData (fopen f.content) locals (some m) out = some res ∧ res.ret = 0 := by
  have hopen : fopen f.content = some ⟨f.content, 0⟩ := by
    simp only [fopen, f.size_eq, if_pos hlen]
  exact ⟨_, readData_zero_iff.mpr ⟨hopen, f.accepted hlen, m, rfl, rfl⟩⟩

/-- **What is read**: the pixels without gaps. -/
lemma packed_of_readData (hread : readData (fopen f.content) locals heap out = some res)
    (hret : res.ret = 0) : ∃ b, res.out.colorData = some b ∧ ∀ r < f.h, ∀ c < f.w,
      number b.byte (pixelBytes f.bits) (pixelBytes f.bits * (f.w * r + c)) = f.packed r c := by
  obtain ⟨hopen, -, m, -, rfl⟩ := readData_zero_iff.mp ⟨hread, hret⟩
  obtain ⟨len, hlimit, hlen, -⟩ := fopen_eq_some hopen
  obtain rfl := Option.some.inj (f.size_eq.symm.trans hlimit)
  refine ⟨_, rfl, ?_⟩
  intro r hr c hc
  have hcell := @number_colorData_of_le (f.w * r + c) m locals f.content f.len
  rw [f.biBitCount_eq, f.offBits_eq, f.wrap_promisedPixels hlen] at hcell
  have hindex := index_lt hc hr
  have hpacked := f.packed_le
  have helement := hcell f.depth hlimit f.len_ge hlen (by exact_mod_cast hindex)
    (by exact_mod_cast hpacked)
  push_cast at helement
  rw [helement, PaddedFile.packed]
  push_cast
  rfl

/-- Row 0 has nothing before it, and rows that need no padding have none. -/
lemma packed_eq_stored {r c : ℕ} (h : r = 0 ∨ storedBytes f.bits * f.w % 4 = 0) :
    f.packed r c = f.stored r c := by
  rw [PaddedFile.packed, PaddedFile.stored]
  congr 2
  rcases h with rfl | h
  · simp
  · have hstride : stride f.bits f.w = storedBytes f.bits * f.w := by
      rw [stride]
      omega
    rw [hstride]
    ring

/-- **When every row is decoded at its place.**  Exactly when the padding is immaterial. -/
theorem rows_decoded_iff (hread : readData (fopen f.content) locals heap out = some res)
    (hret : res.ret = 0) :
    ∃ b, res.out.colorData = some b ∧ (f.Decoded b ↔ f.PaddingImmaterial) := by
  obtain ⟨b, hb, hpacked⟩ := packed_of_readData hread hret
  refine ⟨b, hb, ?_⟩
  constructor
  · intro hdecoded
    refine .inr ?_
    intro r _ hr c hc
    rw [← hpacked r hr c hc]
    exact hdecoded r hr c hc
  · intro himmaterial r hr c hc
    rw [hpacked r hr c hc]
    rcases Nat.eq_zero_or_pos r with hzero | hpos
    · exact packed_eq_stored (.inl hzero)
    · rcases himmaterial with hunpadded | hsame
      · exact packed_eq_stored (.inr hunpadded)
      · exact hsame r hpos hr c hc

end Decode

/-! ## Widths that need padding -/

section Gap

variable {bits w h : ℕ}

/-- All zero but for the first byte of the padding of row 0. -/
def gapPixels (bits w : ℕ) : Mem := fun off => if off = 54 + storedBytes bits * w then 1 else 0

/-- A header of `w` by `h` pixels before these. -/
def gapMem (bits w h : ℕ) : Mem :=
  setNumber (setNumber (setNumber (setNumber (setNumber (setNumber (setNumber (gapPixels bits w)
    2 28 bits) 2 26 1) 4 22 h) 4 18 w) 4 14 40) 4 10 54) 2 0 0x4d42

/-- Behind the header the pixels are as given. -/
lemma gapMem_pixels {n : ℕ} {off : ℤ} (hoff : 54 ≤ off) :
    number (gapMem bits w h) n off = number (gapPixels bits w) n off := by
  simp (disch := omega) only [gapMem, number_setNumber_of_disjoint]

lemma number_zeros {m : Mem} {n : ℕ} {off : ℤ} (hm : ∀ k < n, m (off + k) = 0) :
    number m n off = 0 := by
  rw [number_of_bytes (v := 0) (by simpa using hm), Nat.zero_mod]

/-- The sides of a file that is not too large. -/
lemma sides_lt (hw : 0 < w) (hh : 0 < h) (hsize : 54 + stride bits w * h < 2 ^ 31) :
    w < 2 ^ 31 ∧ h < 2 ^ 31 := by
  have hrow : 2 * w ≤ stride bits w :=
    (Nat.mul_le_mul_right w (storedBytes_ge bits)).trans (storedBytes_mul_le_stride bits w)
  have hwide : stride bits w * 1 ≤ stride bits w * h := Nat.mul_le_mul_left _ hh
  have hhigh : 1 * h ≤ stride bits w * h := Nat.mul_le_mul_right _ (by omega)
  omega

lemma gapMem_biWidth (hw : w < 2 ^ 31) : number (gapMem bits w h) 4 18 = w := by
  simp (disch := norm_num) only [gapMem, number_setNumber_of_disjoint]
  exact number_setNumber (by omega)

lemma gapMem_biHeight (hh : h < 2 ^ 31) : number (gapMem bits w h) 4 22 = h := by
  simp (disch := norm_num) only [gapMem, number_setNumber_of_disjoint]
  exact number_setNumber (by omega)

lemma gapMem_biBitCount (hdepth : Depth bits) : number (gapMem bits w h) 2 28 = bits := by
  simp (disch := norm_num) only [gapMem, number_setNumber_of_disjoint]
  refine number_setNumber ?_
  rw [Depth] at hdepth
  omega

lemma gapMem_biCompression : number (gapMem bits w h) 4 30 = 0 := by
  simp (disch := norm_num) only [gapMem, number_setNumber_of_disjoint]
  refine number_zeros ?_
  intro k hk
  have hnonneg : (0 : ℤ) ≤ storedBytes bits * w := by positivity
  exact if_neg (by omega)

lemma gapMem_format (hdepth : Depth bits) :
    bits = 24 ∧ number (gapMem bits w h) 4 30 = 0 ∨
      bits = 16 ∧ (number (gapMem bits w h) 4 30 = 0 ∨
        number (gapMem bits w h) 4 30 = 3 ∧ 66 ≤ 54) := by
  rw [gapMem_biCompression]
  rw [Depth] at hdepth
  omega

/-- The file, if it is not too large. -/
def gapFile (hdepth : Depth bits) (hw : 0 < w) (hh : 0 < h)
    (hsize : 54 + stride bits w * h < 2 ^ 31) : PaddedFile where
  content := ⟨some (54 + stride bits w * h), gapMem bits w h⟩
  len := 54 + stride bits w * h
  offBits := 54
  w := w
  h := h
  bits := bits
  size_eq := rfl
  type_eq := number_setNumber (by norm_num)
  offBits_eq := by
    simp (disch := norm_num) only [gapMem, number_setNumber_of_disjoint, number_setNumber]
  biSize_ge := by
    simp (disch := norm_num) only [gapMem, number_setNumber_of_disjoint, number_setNumber]
    norm_num
  headers_le := by
    simp (disch := norm_num) only [gapMem, number_setNumber_of_disjoint, number_setNumber]
    norm_num
  biWidth_eq := by
    rw [gapMem_biWidth (sides_lt hw hh hsize).1]
    exact asLong_of_lt (sides_lt hw hh hsize).1
  biHeight_eq := by
    rw [gapMem_biHeight (sides_lt hw hh hsize).2]
    exact asLong_of_lt (sides_lt hw hh hsize).2
  w_pos := hw
  h_pos := hh
  biPlanes_eq := by
    simp (disch := norm_num) only [gapMem, number_setNumber_of_disjoint, number_setNumber]
  biBitCount_eq := gapMem_biBitCount hdepth
  format := gapMem_format hdepth
  data_le := le_rfl

/-- Without gaps row 1 begins with the byte that is not zero. -/
lemma gapFile_packed {hdepth : Depth bits} {hw : 0 < w} {hh : 0 < h}
    {hsize : 54 + stride bits w * h < 2 ^ 31} :
    (gapFile hdepth hw hh hsize).packed 1 0 = 1 := by
  have hbytes := storedBytes_ge bits
  have hnonneg : (0 : ℤ) ≤ storedBytes bits * w := by positivity
  have hone : number (gapPixels bits w) (storedBytes bits) (54 + storedBytes bits * w) = 1 := by
    rw [number_of_bytes (v := 1), Nat.mod_eq_of_lt (Nat.one_lt_pow (by omega) (by norm_num))]
    intro k _
    cases k with
    | zero => simp [gapPixels]
    | succ k =>
        have hdiv : 1 / 256 ^ (k + 1) = 0 :=
          Nat.div_eq_of_lt (Nat.one_lt_pow (Nat.succ_ne_zero k) (by norm_num))
        rw [hdiv, gapPixels, if_neg (by omega)]
        rfl
  refine Eq.trans ?_ ((gapMem_pixels (h := h) (by omega)).trans hone)
  simp [PaddedFile.packed, gapFile]

/-- Behind the padding there are only zeros. -/
lemma gapFile_stored {hdepth : Depth bits} {hw : 0 < w} {hh : 0 < h}
    {hsize : 54 + stride bits w * h < 2 ^ 31} (hpadded : storedBytes bits * w % 4 ≠ 0) :
    (gapFile hdepth hw hh hsize).stored 1 0 = 0 := by
  have hgap : storedBytes bits * w < stride bits w := by
    rw [stride]
    omega
  have hzero : number (gapPixels bits w) (storedBytes bits) (54 + stride bits w) = 0 := by
    refine number_zeros ?_
    intro k _
    rw [gapPixels, if_neg (by zify at hgap; omega)]
  refine Eq.trans ?_ ((gapMem_pixels (h := h) (by omega)).trans hzero)
  simp [PaddedFile.stored, gapFile]

/-- **Every width that needs padding has a file for which it matters**: the first pixel of row 1 is
taken from the padding. -/
theorem exists_padded_file (hdepth : Depth bits) (hw : 0 < w) (hh : 1 < h)
    (hpadded : storedBytes bits * w % 4 ≠ 0) (hsize : 54 + stride bits w * h < 2 ^ 31) :
    ∃ f : PaddedFile, f.w = w ∧ f.h = h ∧ f.bits = bits ∧ ¬ f.PaddingImmaterial := by
  refine ⟨gapFile hdepth hw (by omega) hsize, rfl, rfl, rfl, ?_⟩
  rintro (hunpadded | hsame)
  · exact hpadded hunpadded
  · have hfirst := hsame 1 Nat.one_pos hh 0 hw
    rw [gapFile_packed, gapFile_stored hpadded] at hfirst
    cases hfirst

end Gap

/-- Two rows of four pixels need no padding. -/
def unpaddedRows : PaddedFile where
  content := whiteOverBlack.content
  len := 78
  offBits := 54
  w := 4
  h := 2
  bits := 24
  size_eq := whiteOverBlack.size_eq
  type_eq := whiteOverBlack.type_eq
  offBits_eq := whiteOverBlack.offBits_eq
  biSize_ge := whiteOverBlack.biSize_ge
  headers_le := whiteOverBlack.headers_le
  biWidth_eq := whiteOverBlack.biWidth_eq
  biHeight_eq := whiteOverBlack.biHeight_eq
  w_pos := whiteOverBlack.w_pos
  h_pos := whiteOverBlack.h_pos
  biPlanes_eq := whiteOverBlack.biPlanes_eq
  biBitCount_eq := whiteOverBlack.biBitCount_eq
  format := .inl ⟨rfl, by decide⟩
  data_le := by decide

/-- One black pixel, and one white pixel in row 1; a byte of padding follows each. -/
def paddedColumn : PaddedFile :=
  { unpaddedRows with
    content := bmp24 1 2 [0, 0, 0, 0, 255, 255, 255, 0]
    len := 62
    w := 1
    h := 2
    size_eq := rfl
    type_eq := by decide
    offBits_eq := by decide
    biSize_ge := by decide
    headers_le := by decide
    biWidth_eq := by decide
    biHeight_eq := by decide
    w_pos := Nat.one_pos
    h_pos := Nat.two_pos
    biPlanes_eq := by decide
    biBitCount_eq := by decide
    format := .inl ⟨rfl, by decide⟩
    data_le := by decide }

/-- Both rows are decoded. -/
theorem rows_decoded_unpadded : ∃ res,
    readData (fopen unpaddedRows.content) (filledLocals 0) (some fun _ => 0) emptyOutputs
        = some res ∧
      res.ret = 0 ∧ ∃ b, res.out.colorData = some b ∧ unpaddedRows.Decoded b := by
  obtain ⟨res, hread, hret⟩ := unpaddedRows.readData_zero (by decide) fun _ => 0
  obtain ⟨b, hb, hiff⟩ := rows_decoded_iff hread hret
  exact ⟨res, hread, hret, b, hb, hiff.mpr (.inl rfl)⟩

/-- The white pixel is read as a byte of padding and two bytes of white. -/
theorem row_not_decoded : ∃ res,
    readData (fopen paddedColumn.content) (filledLocals 0) (some fun _ => 0) emptyOutputs
        = some res ∧
      res.ret = 0 ∧ ∃ b, res.out.colorData = some b ∧ number b.byte 4 4 = 0xffff00 ∧
        ¬ paddedColumn.Decoded b := by
  obtain ⟨res, hread, hret⟩ := paddedColumn.readData_zero (by decide) fun _ => 0
  obtain ⟨b, hb, hpacked⟩ := packed_of_readData hread hret
  have hwhite := hpacked 1 (by decide) 0 (by decide)
  refine ⟨res, hread, hret, b, hb, hwhite.trans (by decide), ?_⟩
  intro hdecoded
  have hstored := hwhite.symm.trans (hdecoded 1 (by decide) 0 (by decide))
  exact absurd hstored (by decide)

end Mp157.Bmp
