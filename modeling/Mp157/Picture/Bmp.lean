import Mp157.Picture.ShowPic

/-!
# Showing a BMP file (`readData` in `bmp.c`, then `lcd_show_pic`)

A BMP file with a positive height stores the bottom row of the picture first.  `readData` keeps
the rows in the order of the file, and `lcd_show_pic` draws row 0 at the top.

* `readData_eq` — what `readData` returns for a well-formed file: the stored pixels, in order.
* `upright_iff_symmetric` — so the screen shows the picture as it should only when the picture is
  the same upside down.
-/

namespace Mp157

open ByteMemory CLoop CInt

/-! ## Files -/

/-- An open file: its bytes, and the position in it. -/
structure File where
  content : Block
  pos : ℤ

/-- `fopen(filename, "rb")`.  A file whose size does not fit a `long` cannot be opened. -/
def fopen (content : Block) : Option File :=
  match content.limit with
  | none => none
  | some len => if len < 2 ^ 31 then some ⟨content, 0⟩ else none

/-- `fread` of a number of `n` bytes.  At the end of the file it would stay undetermined, so there
is no result. -/
def File.fread (f : File) (n : ℕ) : Option (ℕ × File) :=
  (f.content.loadNumber n f.pos).map fun v => (v, { f with pos := f.pos + n })

/-- An `unsigned int` taken as a `long`, of 32 bits. -/
def asLong (v : ℕ) : ℤ := (v : ℤ).bmod (2 ^ 32)

/-- `fseek(f, off, SEEK_SET)`; it fails for a negative offset, and its result is not looked at. -/
def File.fseek (f : File) (off : ℤ) : File := if off < 0 then f else { f with pos := off }

structure BitmapFileHeader where
  bfSize : ℕ
  bfReserved1 : ℕ
  bfReserved2 : ℕ
  bfOffBits : ℕ

structure BitmapInfoHeader where
  biSize : ℕ
  biWidth : ℤ
  biHeight : ℤ
  biPlanes : ℕ
  biBitCount : ℕ
  biCompression : ℕ
  biSizeImage : ℕ
  biXPelsPerMeter : ℤ
  biYPelsPerMeter : ℤ
  biClrUsed : ℕ
  biClrImportant : ℕ

/-- `fread` of a `BITMAPFILEHEADER`, 12 bytes without padding. -/
def freadFileHeader (f : File) : Option (BitmapFileHeader × File) := do
  let (bfSize, f) ← f.fread 4
  let (bfReserved1, f) ← f.fread 2
  let (bfReserved2, f) ← f.fread 2
  let (bfOffBits, f) ← f.fread 4
  return (⟨bfSize, bfReserved1, bfReserved2, bfOffBits⟩, f)

/-- `fread` of a `BITMAPINFOHEADER`, 40 bytes without padding. -/
def freadInfoHeader (f : File) : Option (BitmapInfoHeader × File) := do
  let (biSize, f) ← f.fread 4
  let (biWidth, f) ← f.fread 4
  let (biHeight, f) ← f.fread 4
  let (biPlanes, f) ← f.fread 2
  let (biBitCount, f) ← f.fread 2
  let (biCompression, f) ← f.fread 4
  let (biSizeImage, f) ← f.fread 4
  let (biXPelsPerMeter, f) ← f.fread 4
  let (biYPelsPerMeter, f) ← f.fread 4
  let (biClrUsed, f) ← f.fread 4
  let (biClrImportant, f) ← f.fread 4
  return (⟨biSize, asLong biWidth, asLong biHeight, biPlanes, biBitCount, biCompression,
    biSizeImage, asLong biXPelsPerMeter, asLong biYPelsPerMeter, biClrUsed, biClrImportant⟩, f)

/-! ## Reading the pixels -/

/-- `(u_int16_t)color[1] << 8 | color[0]` of the next two bytes. -/
def readPixelRgb565 (f : File) : Option (ℕ × File) := do
  let (color0, f) ← f.fread 1
  let (color1, f) ← f.fread 1
  return (color1 <<< 8 ||| color0, f)

/-- `(u_int32_t)color[2] << 16 | color[1] << 8 | color[0]` of the next three bytes. -/
def readPixelRgb888 (f : File) : Option (ℕ × File) := do
  let (color0, f) ← f.fread 1
  let (color1, f) ← f.fread 1
  let (color2, f) ← f.fread 1
  return (color2 <<< 16 ||| color1 <<< 8 ||| color0, f)

/-- What the loop over the pixels changes: the position in the file, and the array. -/
structure ReadState where
  file : File
  colorData : Block

/-- `*colorData++ = pixel`, in round `i`. -/
def readBmpPixel (pixel : File → Option (ℕ × File)) (n : ℕ) (s : ReadState) (i : ℕ) :
    Option ReadState := do
  let (v, file) ← pixel s.file
  let colorData ← s.colorData.storeNumber n (n * i) v
  return ⟨file, colorData⟩

/-- Reads `count` pixels from `offBits` on, into elements of `n` bytes. -/
def readBmpData (pixel : File → Option (ℕ × File)) (n : ℕ) (f : File) (offBits : ℤ)
    (colorData : Block) (count : ℤ) : Option Block :=
  (forRange count.toNat (readBmpPixel pixel n) ⟨f.fseek offBits, colorData⟩).map (·.colorData)

def readBmpDataRgb565 : File → ℤ → Block → ℤ → Option Block := readBmpData readPixelRgb565 2

def readBmpDataRgb888 : File → ℤ → Block → ℤ → Option Block := readBmpData readPixelRgb888 4

/-- What `readData` hands out. -/
structure Picture where
  colorData : Block
  biWidth : ℤ
  biHeight : ℤ
  biBitCount : ℤ

/-- `malloc` of `size` bytes; `heap` is what it finds there, `none` when it fails. -/
def mallocPixels (heap : Option Mem) (size : ℕ) : Option Block := heap.map fun m => ⟨some size, m⟩

/-- Reads a file: no result is undefined behaviour, `some none` the return of -1, and
`some (some picture)` the return of 0. -/
def readData (fp : Option File) (heap : Option Mem) : Option (Option Picture) :=
  match fp with
  | none => some none
  | some f => do
      -- the file type is not compared but overwritten
      let (_, f) ← f.fread 2
      let (fileHeader, f) ← freadFileHeader f
      let (infoHeader, f) ← freadInfoHeader f
      if infoHeader.biBitCount ≠ 16 ∧ infoHeader.biBitCount ≠ 24 then return none
      let count ← checked (infoHeader.biWidth * infoHeader.biHeight)
      let size := if infoHeader.biBitCount = 16 then 2 else 4
      match mallocPixels heap (count * size % 2 ^ 32).toNat with
      | none => return none
      | some colorData =>
          let colorData ←
            if infoHeader.biBitCount = 16 then
              readBmpDataRgb565 f (asLong fileHeader.bfOffBits) colorData count
            else readBmpDataRgb888 f (asLong fileHeader.bfOffBits) colorData count
          return some ⟨colorData, infoHeader.biWidth, infoHeader.biHeight, infoHeader.biBitCount⟩

/-! ## What is read -/

section Read

variable {content : Block} {len : ℕ}

lemma fread_eq {n : ℕ} {pos : ℤ} (hc : content.Holds len) (h₀ : 0 ≤ pos) (hpos : pos + n ≤ len) :
    (File.mk content pos).fread n = some (number content.byte n pos, ⟨content, pos + n⟩) := by
  rw [File.fread, Block.loadNumber_of_inside (Block.inside_number hc h₀ hpos)]
  rfl

lemma fread_bind {α : Type} {n : ℕ} {pos : ℤ} {g : ℕ × File → Option α} (hc : content.Holds len)
    (h₀ : 0 ≤ pos) (hpos : pos + n ≤ len) :
    ((File.mk content pos).fread n >>= g) = g (number content.byte n pos, ⟨content, pos + n⟩) := by
  rw [fread_eq hc h₀ hpos]
  rfl

lemma freadFileHeader_eq (hc : content.Holds len) (hlen : 54 ≤ len) :
    freadFileHeader ⟨content, 2⟩ = some (⟨number content.byte 4 2, number content.byte 2 6,
      number content.byte 2 8, number content.byte 4 10⟩, ⟨content, 14⟩) := by
  iterate 4 refine (fread_bind hc (by omega) (by omega)).trans ?_
  rfl

lemma freadInfoHeader_eq (hc : content.Holds len) (hlen : 54 ≤ len) :
    freadInfoHeader ⟨content, 14⟩ = some (⟨number content.byte 4 14,
      asLong (number content.byte 4 18), asLong (number content.byte 4 22),
      number content.byte 2 26, number content.byte 2 28, number content.byte 4 30,
      number content.byte 4 34, asLong (number content.byte 4 38),
      asLong (number content.byte 4 42), number content.byte 4 46, number content.byte 4 50⟩,
      ⟨content, 54⟩) := by
  iterate 11 refine (fread_bind hc (by omega) (by omega)).trans ?_
  rfl

/-- The bytes of a pixel, put together by shifts, make up the number stored there. -/
lemma shift_or_byte {a b : ℕ} (k : ℕ) (hb : b < 2 ^ k) : a <<< k ||| b = b + 2 ^ k * a := by
  rw [← Nat.shiftLeft_add_eq_or_of_lt hb, Nat.shiftLeft_eq]
  ring

lemma readPixelRgb565_eq {pos : ℤ} (hc : content.Holds len) (h₀ : 0 ≤ pos) (hpos : pos + 2 ≤ len) :
    readPixelRgb565 ⟨content, pos⟩ = some (number content.byte 2 pos, ⟨content, pos + 2⟩) := by
  iterate 2 refine (fread_bind hc (by omega) (by omega)).trans ?_
  have hpixel : number content.byte 1 (pos + 1) <<< 8 ||| number content.byte 1 pos
      = number content.byte 2 pos := by
    rw [shift_or_byte 8 (number_lt content.byte 1 pos)]
    simp [number]
  rw [← hpixel]
  simp [add_assoc]

lemma readPixelRgb888_eq {pos : ℤ} (hc : content.Holds len) (h₀ : 0 ≤ pos) (hpos : pos + 3 ≤ len) :
    readPixelRgb888 ⟨content, pos⟩ = some (number content.byte 3 pos, ⟨content, pos + 3⟩) := by
  iterate 3 refine (fread_bind hc (by omega) (by omega)).trans ?_
  have hpixel : number content.byte 1 (pos + 1 + 1) <<< 16 ||| number content.byte 1 (pos + 1) <<< 8
      ||| number content.byte 1 pos = number content.byte 3 pos := by
    have h0 := number_lt content.byte 1 pos
    have h1 := number_lt content.byte 1 (pos + 1)
    rw [Nat.or_assoc, shift_or_byte 8 h0, shift_or_byte 16 (by omega)]
    simp only [number]
    ring
  rw [← hpixel]
  simp [add_assoc]

/-- Pixels of `bytes` bytes in the file, read one by one into elements of `n` bytes: the array
becomes a column of numbers. -/
lemma readBmpData_eq {pixel : File → Option (ℕ × File)} {bytes n offBits count size : ℕ} {m : Mem}
    (hpixel : ∀ pos : ℤ, 0 ≤ pos → pos + bytes ≤ len →
      pixel ⟨content, pos⟩ = some (number content.byte bytes pos, ⟨content, pos + bytes⟩))
    (hdata : offBits + bytes * count ≤ len) (hsize : n * count ≤ size) (pos : ℤ) :
    readBmpData pixel n ⟨content, pos⟩ offBits ⟨some size, m⟩ count
      = some ⟨some size, painted m n n 1 count
          fun i _ => number content.byte bytes (offBits + bytes * i : ℕ)⟩ := by
  let at_ (k : ℕ) : ReadState :=
    ⟨⟨content, ((offBits + bytes * k : ℕ) : ℤ)⟩, ⟨some size, painted m n n 1 k
      fun i _ => number content.byte bytes (offBits + bytes * i : ℕ)⟩⟩
  have hround : ∀ k < count, readBmpPixel pixel n (at_ k) k = some (at_ (k + 1)) := by
    intro k hk
    have hnext : bytes * (k + 1) ≤ bytes * count := Nat.mul_le_mul_left bytes hk
    have hcell : n * (k + 1) ≤ n * count := Nat.mul_le_mul_left n hk
    rw [Nat.mul_succ] at hnext hcell
    have hread := hpixel (offBits + bytes * k : ℕ) (Int.natCast_nonneg _)
      (by exact_mod_cast (by omega : offBits + bytes * k + bytes ≤ len))
    have hstore := @Block.storeNumber_of_inside (at_ k).colorData n
      (number content.byte bytes (offBits + bytes * k : ℕ)) ((n * k : ℕ) : ℤ)
      (@Block.inside_number _ size _ _ (by simp [Block.Holds, at_]) (Int.natCast_nonneg _)
        (by exact_mod_cast (by omega : n * k + n ≤ size)))
    have hpaint := @setNumber_painted m n n 1 k 0
      (fun i _ => number content.byte bytes (offBits + bytes * i : ℕ)) (by omega) Nat.one_pos
    simp only [mul_one, add_zero, Nat.cast_zero, mul_zero] at hpaint
    have hk' : (n : ℤ) * k = ((n * k : ℕ) : ℤ) := by push_cast; rfl
    have hnext' : ((offBits + bytes * k : ℕ) : ℤ) + bytes
        = ((offBits + bytes * (k + 1) : ℕ) : ℤ) := by
      push_cast
      ring
    rw [readBmpPixel, hread, Option.bind_eq_bind, Option.bind_some]
    dsimp only
    rw [hk', hstore, Option.bind_eq_bind, Option.bind_some, hnext', ← hk', hpaint]
    rfl
  have hstart : at_ 0 = ⟨(File.mk content pos).fseek offBits, ⟨some size, m⟩⟩ := by
    simp [at_, File.fseek, painted_zero]
  rw [readBmpData, ← hstart, Int.toNat_natCast, forRange_eq at_ hround]
  rfl

end Read

/-! ## Well-formed files -/

/-- The bytes of a pixel in the file. -/
def storedBytes (biBitCount : ℕ) : ℕ := if biBitCount = 24 then 3 else 2

/-- An uncompressed file of 24 bits per pixel, or of 16 bits as 5, 6 and 5, whose height is positive
and whose rows need no padding. -/
structure BmpFile where
  content : Block
  len : ℕ
  offBits : ℕ
  w : ℕ
  h : ℕ
  bits : ℕ
  size_eq : content.limit = some len
  type_eq : number content.byte 2 0 = 0x4d42
  offBits_eq : number content.byte 4 10 = offBits
  biSize_ge : 40 ≤ number content.byte 4 14
  headers_le : 14 + number content.byte 4 14 ≤ offBits
  biWidth_eq : asLong (number content.byte 4 18) = w
  biHeight_eq : asLong (number content.byte 4 22) = h
  w_pos : 0 < w
  h_pos : 0 < h
  biPlanes_eq : number content.byte 2 26 = 1
  biBitCount_eq : number content.byte 2 28 = bits
  /-- `BI_RGB`, or `BI_BITFIELDS` with the masks of RGB565. -/
  format : bits = 24 ∧ number content.byte 4 30 = 0 ∨
    bits = 16 ∧ number content.byte 4 30 = 3 ∧ number content.byte 4 54 = 0xf800 ∧
      number content.byte 4 58 = 0x7e0 ∧ number content.byte 4 62 = 0x1f ∧ 66 ≤ offBits
  unpadded : storedBytes bits * w % 4 = 0
  data_le : offBits + storedBytes bits * (w * h) ≤ len

namespace BmpFile

/-- The pixel in row `i` and column `j` of the file. -/
def stored (f : BmpFile) (i j : ℕ) : ℕ :=
  number f.content.byte (storedBytes f.bits)
    (f.offBits + storedBytes f.bits * (f.w * i + j) : ℕ)

/-- The pixel in row `i` from the top and column `j`: the bottom row is stored first. -/
def pixel (f : BmpFile) (i j : ℕ) : ℕ := f.stored (f.h - 1 - i) j

/-- The screen `m` shows the picture as it should be. -/
def Upright (f : BmpFile) (kms : KmsConfig) (m : Mem) : Prop :=
  ∀ i < f.h, ∀ j < f.w, number m (pixelBytes f.bits)
    (kms.fbLineSize.toNat * i + pixelBytes f.bits * j) = f.pixel i j

/-- The picture is the same upside down. -/
def Symmetric (f : BmpFile) : Prop :=
  ∀ i < f.h, ∀ j < f.w, f.pixel i j = f.pixel (f.h - 1 - i) j

end BmpFile

/-! ## Upside down -/

section Show

variable {f : BmpFile} {kms : KmsConfig} {fb : Block} {heap : Option Mem} {m : Mem} {pic : Picture}

lemma asLong_of_lt {v : ℕ} (h : v < 2 ^ 31) : asLong v = v := by
  refine Int.bmod_eq_of_le ?_ ?_
  · norm_num
  · norm_num
    omega

lemma BmpFile.bits_cases (f : BmpFile) : f.bits = 16 ∨ f.bits = 24 :=
  f.format.elim (fun h => .inr h.1) fun h => .inl h.1

lemma BmpFile.depth (f : BmpFile) : Depth f.bits :=
  f.bits_cases.imp (fun h => by rw [h]; rfl) fun h => by rw [h]; rfl

/-- The array `readData` fills: the pixels in the order of the file. -/
def BmpFile.colorData (f : BmpFile) (m : Mem) : Block :=
  ⟨some (pixelBytes f.bits * (f.w * f.h)), painted m (pixelBytes f.bits) (pixelBytes f.bits) 1
    (f.w * f.h) fun q _ => number f.content.byte (storedBytes f.bits)
      (f.offBits + storedBytes f.bits * q : ℕ)⟩

/-- Either reader, on a file of its depth. -/
lemma readBmpData_colorData {pixel : File → Option (ℕ × File)} {pos : ℤ}
    (hpixel : ∀ pos : ℤ, 0 ≤ pos → pos + storedBytes f.bits ≤ f.len → pixel ⟨f.content, pos⟩
      = some (number f.content.byte (storedBytes f.bits) pos,
        ⟨f.content, pos + storedBytes f.bits⟩)) :
    readBmpData pixel (pixelBytes f.bits) ⟨f.content, pos⟩ f.offBits
      ⟨some (pixelBytes f.bits * (f.w * f.h)), m⟩ ((f.w * f.h : ℕ) : ℤ) = some (f.colorData m) :=
  readBmpData_eq hpixel f.data_le le_rfl pos

/-- **What `readData` returns** for a well-formed file whose pixels can be addressed. -/
theorem readData_eq (hlen : f.len < 2 ^ 31) (hsize : pixelBytes f.bits * (f.w * f.h) < 2 ^ 32) :
    readData (some ⟨f.content, 0⟩) heap
      = some (heap.map fun m => ⟨f.colorData m, f.w, f.h, f.bits⟩) := by
  have hc : f.content.Holds f.len := by simp [Block.Holds, f.size_eq]
  have h54 : 54 ≤ f.len := by
    have := f.biSize_ge
    have := f.headers_le
    have := f.data_le
    omega
  have hcount : f.w * f.h < 2 ^ 31 := element_lt (pixelBytes_ge f.bits) le_rfl hsize
  have hoff : asLong f.offBits = f.offBits := by
    refine asLong_of_lt ?_
    have := f.data_le
    omega
  have hchecked : checked ((f.w : ℤ) * f.h) = some ((f.w * f.h : ℕ) : ℤ) := by
    rw [← Nat.cast_mul]
    exact checked_of_fits (fits_of_nonneg (by omega) (by omega))
  have hmalloc : (((f.w * f.h : ℕ) : ℤ) * (pixelBytes f.bits : ℤ) % 2 ^ 32).toNat
      = pixelBytes f.bits * (f.w * f.h) := by
    rw [← Nat.cast_mul, mul_comm, Int.emod_eq_of_lt (by omega) (by exact_mod_cast hsize),
      Int.toNat_natCast]
  rw [readData]
  refine (fread_bind hc (by norm_num) (by push_cast; omega)).trans ?_
  change (freadFileHeader ⟨f.content, 2⟩ >>= _) = _
  rw [freadFileHeader_eq hc h54]
  change (freadInfoHeader ⟨f.content, 14⟩ >>= _) = _
  rw [freadInfoHeader_eq hc h54]
  simp only [Option.bind_eq_bind, Option.bind_some, f.biBitCount_eq, f.biWidth_eq, f.biHeight_eq,
    f.offBits_eq, hoff, hchecked]
  have hn : (if f.bits = 16 then 2 else 4) = pixelBytes f.bits := by
    rcases f.bits_cases with h | h <;> rw [h] <;> rfl
  rw [if_neg (by have := f.bits_cases; omega), hn, hmalloc]
  cases heap with
  | none => rfl
  | some m =>
      dsimp only [mallocPixels, Option.map_some]
      rcases f.bits_cases with h | h
      · have hread := @readBmpData_colorData f m readPixelRgb565 54 (by
          rw [h]
          exact fun pos h₀ hpos => readPixelRgb565_eq hc h₀ hpos)
        have hbytes : pixelBytes f.bits = 2 := by rw [h]; rfl
        rw [if_pos h, readBmpDataRgb565, ← hbytes, hread]
        rfl
      · have hread := @readBmpData_colorData f m readPixelRgb888 54 (by
          rw [h]
          exact fun pos h₀ hpos => readPixelRgb888_eq hc h₀ hpos)
        have hbytes : pixelBytes f.bits = 4 := by rw [h]; rfl
        rw [if_neg (by omega), readBmpDataRgb888, ← hbytes, hread]
        rfl

/-- A pixel of the array. -/
lemma number_colorData {q : ℕ} (hq : q < f.w * f.h) :
    number (f.colorData m).byte (pixelBytes f.bits) ((pixelBytes f.bits : ℤ) * q)
      = number f.content.byte (storedBytes f.bits)
        (f.offBits + storedBytes f.bits * q : ℕ) := by
  have hbytes : storedBytes f.bits ≤ pixelBytes f.bits := by
    rcases f.bits_cases with h | h <;> rw [h] <;> decide
  have hvalue := (number_lt f.content.byte (storedBytes f.bits)
    (f.offBits + storedBytes f.bits * q : ℕ)).trans_le
      (Nat.pow_le_pow_right (show 0 < 256 by norm_num) hbytes)
  have hcell := @number_painted m (pixelBytes f.bits) (pixelBytes f.bits) 1 (f.w * f.h) q 0
    (fun q _ => number f.content.byte (storedBytes f.bits)
      (f.offBits + storedBytes f.bits * q : ℕ)) (by omega) Nat.one_pos (by omega) hvalue
  rw [Nat.cast_zero, mul_zero, add_zero] at hcell
  exact hcell

/-- What was read when `readData` has returned 0. -/
lemma eq_of_readData (hsize : pixelBytes f.bits * (f.w * f.h) < 2 ^ 32)
    (hread : readData (fopen f.content) heap = some (some pic)) :
    ∃ m, pic = ⟨f.colorData m, f.w, f.h, f.bits⟩ := by
  have hopen : fopen f.content = if f.len < 2 ^ 31 then some ⟨f.content, 0⟩ else none := by
    simp only [fopen, f.size_eq]
  rw [hopen] at hread
  split_ifs at hread with hlen
  · rw [readData_eq hlen hsize, Option.some.injEq, Option.map_eq_some_iff] at hread
    obtain ⟨m, _, hpic⟩ := hread
    exact ⟨m, hpic.symm⟩
  · cases hread

/-- **Upside down.**  For every well-formed file, every framebuffer of its depth that is large
enough, and whatever `malloc` found: the screen shows the picture as it should be exactly when the
picture is the same upside down. -/
theorem upright_iff_symmetric (hg : kms.Geometry (pixelBytes f.bits))
    (hwidht : f.w ≤ kms.fbWidht.toNat) (hhight : f.h ≤ kms.fbHight.toNat)
    (hfb : fb.Holds kms.fbSize.toNat) (hread : readData (fopen f.content) heap = some (some pic)) :
    ∃ fb', lcdShowPic kms fb pic.colorData pic.biWidth pic.biHeight pic.biBitCount = some fb' ∧
      (f.Upright kms fb'.byte ↔ f.Symmetric) := by
  have hsize : pixelBytes f.bits * (f.w * f.h) < 2 ^ 32 := by
    have hrow : pixelBytes f.bits * f.w ≤ kms.fbLineSize.toNat :=
      (Nat.mul_le_mul_left _ hwidht).trans hg.line_ge
    have hrows : pixelBytes f.bits * f.w * f.h ≤ kms.fbLineSize.toNat * kms.fbHight.toNat :=
      Nat.mul_le_mul hrow hhight
    have := hg.size_ge
    have := kms.fbSize.toNat_lt
    rw [← mul_assoc]
    omega
  obtain ⟨m, rfl⟩ := eq_of_readData hsize hread
  have hcount : f.w * f.h < 2 ^ 31 := element_lt (pixelBytes_ge f.bits) le_rfl hsize
  have hdata : (f.colorData m).Holds (pixelBytes f.bits * (f.w * f.h)) := by
    simp [Block.Holds, BmpFile.colorData]
  refine ⟨_, lcdShowPic_eq f.depth hg hcount hfb hdata, ?_⟩
  -- row `i` of the screen is row `i` of the file
  have hscreen : ∀ i < f.h, ∀ j < f.w,
      number (painted fb.byte (pixelBytes f.bits) kms.fbLineSize.toNat kms.fbWidht.toNat
        (kms.fbHight.toNat * kms.fbWidht.toNat) (picValue (f.colorData m).byte f.w f.h f.bits))
        (pixelBytes f.bits) (kms.fbLineSize.toNat * i + pixelBytes f.bits * j)
        = f.pixel (f.h - 1 - i) j := by
    intro i hi j hj
    have hvisible := index_lt (hj.trans_le hwidht) (hi.trans_le hhight)
    have hcell := number_colorData (m := m) (index_lt hj hi)
    rw [number_painted hg.line_ge (hj.trans_le hwidht)
      (by rwa [mul_comm, mul_comm kms.fbHight.toNat]) (picValue_lt f.depth), picValue,
      if_pos ⟨hj, hi⟩]
    push_cast at hcell
    rw [hcell, BmpFile.pixel, BmpFile.stored, show f.h - 1 - (f.h - 1 - i) = i by omega]
    push_cast
    rfl
  constructor
  · intro hup i hi j hj
    rw [← hup i hi j hj]
    exact hscreen i hi j hj
  · intro hsym i hi j hj
    rw [hsym i hi j hj]
    exact hscreen i hi j hj

end Show

/-- A file of 24 bits per pixel with the pixel data `data`, below 256 pixels wide and high. -/
def bmp24 (w h : UInt8) (data : List UInt8) : Block :=
  let bytes := [0x42, 0x4d, 0, 0, 0, 0, 0, 0, 0, 0, 54, 0, 0, 0, 40, 0, 0, 0, w, 0, 0, 0,
    h, 0, 0, 0, 1, 0, 24, 0, 0, 0, 0, 0, 0, 0, 0, 0, 0, 0, 0, 0, 0, 0, 0, 0, 0, 0, 0, 0, 0, 0, 0, 0]
    ++ data
  ⟨some bytes.length, fun i => bytes.getD i.toNat 0⟩

/-- A row of four black pixels. -/
def blackRow : BmpFile where
  content := bmp24 4 1 (List.replicate 12 0)
  len := 66
  offBits := 54
  w := 4
  h := 1
  bits := 24
  size_eq := rfl
  type_eq := by decide
  offBits_eq := by decide
  biSize_ge := by decide
  headers_le := by decide
  biWidth_eq := by decide
  biHeight_eq := by decide
  w_pos := by decide
  h_pos := by decide
  biPlanes_eq := by decide
  biBitCount_eq := by decide
  format := .inl ⟨rfl, by decide⟩
  unpadded := by decide
  data_le := by decide

/-- A row of four white pixels over a row of four black ones. -/
def whiteOverBlack : BmpFile :=
  { blackRow with
    content := bmp24 4 2 (List.replicate 12 0 ++ List.replicate 12 255)
    len := 78
    h := 2
    size_eq := rfl
    type_eq := by decide
    offBits_eq := by decide
    biSize_ge := by decide
    headers_le := by decide
    biWidth_eq := by decide
    biHeight_eq := by decide
    h_pos := by decide
    biPlanes_eq := by decide
    biBitCount_eq := by decide
    format := .inl ⟨rfl, by decide⟩
    data_le := by decide }

/-- Two rows with the same four pixels. -/
def equalRows : BmpFile :=
  { whiteOverBlack with
    content := bmp24 4 2 [1, 2, 3, 4, 5, 6, 7, 8, 9, 10, 11, 12, 1, 2, 3, 4, 5, 6, 7, 8, 9, 10, 11,
      12]
    size_eq := rfl
    type_eq := by decide
    offBits_eq := by decide
    biSize_ge := by decide
    headers_le := by decide
    biWidth_eq := by decide
    biHeight_eq := by decide
    biPlanes_eq := by decide
    biBitCount_eq := by decide
    format := .inl ⟨rfl, by decide⟩ }

/-- A screen of four by two pixels of four bytes. -/
def smallScreen : KmsConfig := ⟨4, 2, 16, 32⟩

/-- Two equal rows are the same upside down, and are shown as they should be. -/
theorem upright_equal_rows : ∃ pic fb',
    readData (fopen equalRows.content) (some fun _ => 0) = some (some pic) ∧
      lcdShowPic smallScreen (drmFbMmap smallScreen) pic.colorData pic.biWidth pic.biHeight
        pic.biBitCount = some fb' ∧ equalRows.Upright smallScreen fb'.byte := by
  have hread : readData (fopen equalRows.content) (some fun _ => 0) = some (some _) :=
    readData_eq (by decide) (by decide)
  obtain ⟨fb', hshow, hiff⟩ := @upright_iff_symmetric equalRows smallScreen
    (drmFbMmap smallScreen) _ _ ⟨by decide, by decide, by decide, by decide, by decide⟩
    (by decide) (by decide) (by simp [Block.Holds, drmFbMmap]) hread
  have hrows : ∀ i < 2, ∀ j < 4, equalRows.pixel i j = equalRows.pixel (2 - 1 - i) j := by decide
  exact ⟨_, fb', hread, hshow, hiff.mpr hrows⟩

/-- White over black is shown as black over white. -/
theorem upside_down : ∃ pic fb',
    readData (fopen whiteOverBlack.content) (some fun _ => 0) = some (some pic) ∧
      lcdShowPic smallScreen (drmFbMmap smallScreen) pic.colorData pic.biWidth pic.biHeight
        pic.biBitCount = some fb' ∧ ¬ whiteOverBlack.Upright smallScreen fb'.byte := by
  have hread : readData (fopen whiteOverBlack.content) (some fun _ => 0) = some (some _) :=
    readData_eq (by decide) (by decide)
  refine ⟨_, _, hread, lcdShowPic_eq whiteOverBlack.depth
    ⟨by decide, by decide, by decide, by decide, by decide⟩ (by decide)
    (by simp [Block.Holds, drmFbMmap]) (by simp [Block.Holds, BmpFile.colorData]), ?_⟩
  intro hup
  have hcorner := hup 0 (by decide) 0 (by decide)
  exact absurd hcorner (by decide)

end Mp157
