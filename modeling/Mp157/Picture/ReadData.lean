import Mp157.Picture.Bmp

/-!
# Reading any file (`readData` in `bmp.c`)

At the end of a file `fread` leaves the rest of its buffer as it was, and `readData` looks neither
at what its reads and seeks return nor at the file type.  Here it is for files of any content: each
buffer has a content before the first read, and the caller's variables one before the call.  The
product of the sides, which may not fit a `long`, is what a register of 32 bits holds.

* `readBmpData_returns_iff` — when the loop over the pixels stays inside the block.
* `readData_zero_iff` — when it returns 0, and what it has then stored.
* `number_colorData_of_le` — an element whose bytes are in the file is made of them.
-/

namespace Mp157.Bmp

open ByteMemory CLoop CInt

/-! ## The function -/

/-- What the variables that are read into hold before. -/
structure Locals where
  fileType : Mem
  fileHeader : Mem
  infoHeader : Mem
  color : Mem

/-- Buffers full of `x`. -/
def filledLocals (x : UInt8) : Locals := ⟨fun _ => x, fun _ => x, fun _ => x, fun _ => x⟩

/-- How many of `n` bytes are left in the file. -/
def freadCount (f : File) (n : ℕ) : ℕ :=
  match f.content.limit with
  | none => n
  | some len => min n (len - f.pos).toNat

/-- `fread(buffer, 1, n, f)` -/
def fread (f : File) (buffer : Mem) (n : ℕ) : Mem × File :=
  (blit buffer f.content.byte 0 f.pos (freadCount f n), { f with pos := f.pos + freadCount f n })

/-- The 12 bytes of a `BITMAPFILEHEADER`. -/
def fileHeaderAt (m : Mem) : BitmapFileHeader :=
  ⟨number m 4 0, number m 2 4, number m 2 6, number m 4 8⟩

/-- The 40 bytes of a `BITMAPINFOHEADER`. -/
def infoHeaderAt (m : Mem) : BitmapInfoHeader where
  biSize := number m 4 0
  biWidth := asLong (number m 4 4)
  biHeight := asLong (number m 4 8)
  biPlanes := number m 2 12
  biBitCount := number m 2 14
  biCompression := number m 4 16
  biSizeImage := number m 4 20
  biXPelsPerMeter := asLong (number m 4 24)
  biYPelsPerMeter := asLong (number m 4 28)
  biClrUsed := number m 4 32
  biClrImportant := number m 4 36

/-- The two headers, and the file behind them. -/
structure Headers where
  fileHeader : BitmapFileHeader
  infoHeader : BitmapInfoHeader
  file : File

/-- The file type and the two headers.  The file type is not compared but overwritten. -/
def readHeaders (f : File) (locals : Locals) : Headers :=
  let (_, f) := fread f locals.fileType 2
  let (fileHeader, f) := fread f locals.fileHeader 12
  let (infoHeader, f) := fread f locals.infoHeader 40
  ⟨fileHeaderAt fileHeader, infoHeaderAt infoHeader, f⟩

/-- `(u_int16_t)color[1] << 8 | color[0]` -/
def rgb565Value (color : Mem) : ℕ := (color 1).toNat <<< 8 ||| (color 0).toNat

/-- `(u_int32_t)color[2] << 16 | color[1] << 8 | color[0]` -/
def rgb888Value (color : Mem) : ℕ :=
  (color 2).toNat <<< 16 ||| (color 1).toNat <<< 8 ||| (color 0).toNat

/-- What the loop over the pixels changes. -/
structure ReadState where
  file : File
  color : Mem
  colorData : Block

/-- `fread(color, 1, bytes, f1); *colorData++ = value;` in round `i`, with elements of `n` bytes. -/
def readBmpPixel (value : Mem → ℕ) (bytes n : ℕ) (s : ReadState) (i : ℕ) : Option ReadState := do
  let (color, file) := fread s.file s.color bytes
  let colorData ← s.colorData.storeNumber n (n * i) (value color)
  return ⟨file, color, colorData⟩

/-- Reads `count` pixels from `offBits` on, if that can be sought. -/
def readBmpData (value : Mem → ℕ) (bytes n : ℕ) (f : File) (color : Mem) (offBits : ℤ)
    (colorData : Block) (count : ℤ) : Option Block :=
  (forRange count.toNat (readBmpPixel value bytes n) ⟨f.fseek offBits, color, colorData⟩).map
    (·.colorData)

def readBmpDataRgb565 : File → Mem → ℤ → Block → ℤ → Option Block := readBmpData rgb565Value 2 2

def readBmpDataRgb888 : File → Mem → ℤ → Block → ℤ → Option Block := readBmpData rgb888Value 3 4

/-- The caller's variables; a `colorData` that is `NULL` is no block. -/
structure Outputs where
  colorData : Option Block
  biWidth : ℤ
  biHeight : ℤ
  biBitCount : ℤ

/-- A call as `main` makes it: `colorData` is `NULL` before. -/
def emptyOutputs : Outputs := ⟨none, 0, 0, 0⟩

/-- What a call returns and leaves, and how often it has closed the file. -/
structure Result where
  ret : ℤ
  out : Outputs
  closed : ℕ

/-- `*biWidth`, `*biHeight` and `*biBitCount`, which are stored before they are looked at. -/
def Outputs.withHeader (out : Outputs) (infoHeader : BitmapInfoHeader) : Outputs :=
  { out with
    biWidth := infoHeader.biWidth
    biHeight := infoHeader.biHeight
    biBitCount := infoHeader.biBitCount }

/-- What follows the headers: the checks, `malloc`, and the pixels. -/
def readPicture (H : Headers) (locals : Locals) (heap : Option Mem) (out : Outputs) :
    Option Result :=
  let out := out.withHeader H.infoHeader
  if H.infoHeader.biBitCount ≠ 16 ∧ H.infoHeader.biBitCount ≠ 24 then some ⟨-1, out, 1⟩
  else
    let count := wrap (H.infoHeader.biWidth * H.infoHeader.biHeight)
    let size := if H.infoHeader.biBitCount = 16 then 2 else 4
    match mallocPixels heap (count * size % 2 ^ 32).toNat with
    | none => some ⟨-1, { out with colorData := none }, 0⟩
    | some colorData => do
        let colorData ←
          if H.infoHeader.biBitCount = 16 then
            readBmpDataRgb565 H.file locals.color (asLong H.fileHeader.bfOffBits) colorData count
          else readBmpDataRgb888 H.file locals.color (asLong H.fileHeader.bfOffBits) colorData count
        return ⟨0, { out with colorData := some colorData }, 1⟩

/-- Reads a file.  No result: a pixel is written outside the block that `malloc` returned. -/
def readData (fp : Option File) (locals : Locals) (heap : Option Mem) (out : Outputs) :
    Option Result :=
  match fp with
  | none => some ⟨-1, out, 0⟩
  | some f => readPicture (readHeaders f locals) locals heap out

/-! ## The loop over the pixels -/

section Loop

variable {value : Mem → ℕ} {bytes n size : ℕ} {f : File} {color m : Mem} {offBits count : ℤ}

/-- One round: a read, which cannot fail, and a store. -/
lemma readBmpPixel_eq_some {s s' : ReadState} {i : ℕ} :
    readBmpPixel value bytes n s i = some s' ↔
      ∃ b, s.colorData.storeNumber n (n * i) (value (fread s.file s.color bytes).1) = some b ∧
        s' = ⟨(fread s.file s.color bytes).2, (fread s.file s.color bytes).1, b⟩ := by
  refine Option.bind_eq_some_iff.trans (exists_congr ?_)
  intro b
  exact and_congr_right fun _ => Option.some_inj.trans eq_comm

/-- `color` and the file after `k` reads. -/
def colorAfter (f : File) (color : Mem) (bytes : ℕ) : ℕ → Mem × File
  | 0 => (color, f)
  | k + 1 => fread (colorAfter f color bytes k).2 (colorAfter f color bytes k).1 bytes

/-- The array after the loop: element `k` is the value of what the first `k + 1` reads left. -/
def pixelArray (value : Mem → ℕ) (bytes n size : ℕ) (f : File) (color : Mem) (offBits count : ℤ)
    (m : Mem) : Block :=
  ⟨some size, painted m n n 1 count.toNat fun k _ =>
    value (colorAfter (f.fseek offBits) color bytes (k + 1)).1⟩

/-- **The loop**, over a block that is large enough. -/
lemma readBmpData_eq (hsize : n * count.toNat ≤ size) :
    readBmpData value bytes n f color offBits ⟨some size, m⟩ count
      = some (pixelArray value bytes n size f color offBits count m) := by
  let at_ (k : ℕ) : ReadState :=
    ⟨(colorAfter (f.fseek offBits) color bytes k).2,
      (colorAfter (f.fseek offBits) color bytes k).1,
      pixelArray value bytes n size f color offBits k m⟩
  have hround : ∀ k < count.toNat, readBmpPixel value bytes n (at_ k) k = some (at_ (k + 1)) := by
    intro k hk
    have hcell : n * (k + 1) ≤ n * count.toNat := Nat.mul_le_mul_left n hk
    rw [Nat.mul_succ] at hcell
    have hk' : (n : ℤ) * k = ((n * k : ℕ) : ℤ) := by push_cast; rfl
    have hstore := @Block.storeNumber_of_inside (at_ k).colorData n
      (value (colorAfter (f.fseek offBits) color bytes (k + 1)).1) (n * k)
      (@Block.inside_number _ size _ _ (by simp [Block.Holds, at_, pixelArray])
        (by positivity) (by rw [hk']; exact_mod_cast (by omega : n * k + n ≤ size)))
    have hpaint := @setNumber_painted m n n 1 k 0
      (fun k _ => value (colorAfter (f.fseek offBits) color bytes (k + 1)).1) (by omega)
      Nat.one_pos
    simp only [mul_one, add_zero, Nat.cast_zero, mul_zero] at hpaint
    refine readBmpPixel_eq_some.mpr ⟨_, hstore, ?_⟩
    simp only [at_, pixelArray, Int.toNat_natCast, hpaint]
    rfl
  have hstart : at_ 0 = ⟨f.fseek offBits, color, ⟨some size, m⟩⟩ := by
    simp [at_, colorAfter, pixelArray, painted_zero]
  rw [readBmpData, ← hstart, forRange_eq at_ hround]
  simp only [at_, pixelArray, Option.map_some, Int.toNat_natCast]

/-- **When the loop stays inside the block.** -/
theorem readBmpData_returns_iff (hn : 0 < n) :
    (∃ b, readBmpData value bytes n f color offBits ⟨some size, m⟩ count = some b) ↔
      n * count.toNat ≤ size := by
  constructor
  · rintro ⟨b, hb⟩
    rcases Nat.eq_zero_or_pos count.toNat with hzero | hpos
    · simp [hzero]
    · -- the last round has stored the last element
      rw [readBmpData, Option.map_eq_some_iff] at hb
      obtain ⟨s, hloop, -⟩ := hb
      obtain ⟨t, t', hprefix, hlast⟩ := forRange_round hloop (Nat.sub_lt hpos Nat.one_pos)
      have hlimit : t.colorData.limit = some size := by
        refine forRange_post (I := fun s : ReadState => s.colorData.limit = some size) ?_ rfl
          hprefix
        intro s k s' hs hround
        obtain ⟨b', hstore, rfl⟩ := readBmpPixel_eq_some.mp hround
        exact (Block.inside_of_storeNumber hstore).2.trans hs
      obtain ⟨b', hstore, -⟩ := readBmpPixel_eq_some.mp hlast
      have hbyte := (Block.inside_of_storeNumber hstore).1 (n - 1) (Nat.sub_lt hn Nat.one_pos)
      rw [Block.inside, hlimit] at hbyte
      have hlt := (of_decide_eq_true hbyte).2
      have hcells : n * (count.toNat - 1) + n = n * count.toNat := by
        rw [← Nat.mul_succ]
        congr 1
        omega
      have hlt' : n * (count.toNat - 1) + (n - 1) < size := by exact_mod_cast hlt
      omega
  · intro hsize
    exact ⟨_, readBmpData_eq hsize⟩

end Loop

/-! ## The ways to return -/

lemma fopen_eq_some {content : Block} {f : File} (h : fopen content = some f) :
    ∃ len, content.limit = some len ∧ len < 2 ^ 31 ∧ f = ⟨content, 0⟩ := by
  rw [fopen] at h
  split at h
  · cases h
  · next len hlimit =>
      rw [Option.ite_none_right_eq_some] at h
      exact ⟨len, hlimit, h.1, (Option.some.inj h.2).symm⟩

/-- What the two readers make of `color`. -/
def pixelValue (biBitCount : ℕ) : Mem → ℕ := if biBitCount = 16 then rgb565Value else rgb888Value

namespace Headers

/-- `biWidth * biHeight`, exactly. -/
def count (H : Headers) : ℤ := H.infoHeader.biWidth * H.infoHeader.biHeight

/-- The same in 32 bits: how many pixels are read. -/
def pixels (H : Headers) : ℤ := wrap H.count

/-- The bytes asked of `malloc`, in 32 bits. -/
def allocated (H : Headers) : ℕ :=
  (H.pixels * pixelBytes H.infoHeader.biBitCount % 2 ^ 32).toNat

/-- The array, where the loop stays inside. -/
def colorData (H : Headers) (locals : Locals) (m : Mem) : Block :=
  pixelArray (pixelValue H.infoHeader.biBitCount) (storedBytes H.infoHeader.biBitCount)
    (pixelBytes H.infoHeader.biBitCount) H.allocated H.file locals.color
    (asLong H.fileHeader.bfOffBits) H.pixels m

/-- The headers lead to a return of 0, unless `malloc` fails: the depth is one of the two, and the
size asked for is not smaller than what is read. -/
structure Accepted (H : Headers) : Prop where
  depth : Depth H.infoHeader.biBitCount
  size : H.infoHeader.biBitCount = 16 ∨ H.pixels < 2 ^ 30

lemma pixels_of_fits {H : Headers} (hfits : Fits H.count) : H.pixels = H.count := wrap_of_fits hfits

end Headers

section Return

variable {H : Headers} {locals : Locals} {heap : Option Mem} {m : Mem} {out : Outputs}
  {res : Result}

lemma depth_iff {bits : ℕ} : Depth bits ↔ ¬ (bits ≠ 16 ∧ bits ≠ 24) := by
  rw [Depth]
  omega

/-- A depth that is not accepted. -/
lemma readPicture_depth (hdepth : ¬ Depth H.infoHeader.biBitCount) :
    readPicture H locals heap out = some ⟨-1, out.withHeader H.infoHeader, 1⟩ := by
  rw [depth_iff, not_not] at hdepth
  exact if_pos hdepth

/-- `malloc` fails: the file stays open. -/
lemma readPicture_null (hdepth : Depth H.infoHeader.biBitCount) :
    readPicture H locals none out
      = some ⟨-1, { out.withHeader H.infoHeader with colorData := none }, 0⟩ :=
  if_neg (depth_iff.mp hdepth)

/-- `malloc` succeeds: the loop decides. -/
lemma readPicture_malloc (hdepth : Depth H.infoHeader.biBitCount) :
    readPicture H locals (some m) out
      = (readBmpData (pixelValue H.infoHeader.biBitCount) (storedBytes H.infoHeader.biBitCount)
          (pixelBytes H.infoHeader.biBitCount) H.file locals.color
          (asLong H.fileHeader.bfOffBits) ⟨some H.allocated, m⟩ H.pixels).map fun b =>
        ⟨0, { out.withHeader H.infoHeader with colorData := some b }, 1⟩ := by
  refine (if_neg (depth_iff.mp hdepth)).trans ?_
  rw [Headers.allocated]
  dsimp only [mallocPixels, Option.map_some]
  rcases hdepth with h | h
  · obtain h : H.infoHeader.biBitCount = 16 := by exact_mod_cast h
    rw [h]
    exact Option.map_eq_bind.symm
  · obtain h : H.infoHeader.biBitCount = 24 := by exact_mod_cast h
    rw [h]
    exact Option.map_eq_bind.symm

/-- `malloc` is asked for enough, unless the size wraps around. -/
lemma allocated_ge_iff (hdepth : Depth H.infoHeader.biBitCount) :
    pixelBytes H.infoHeader.biBitCount * H.pixels.toNat ≤ H.allocated ↔
      H.infoHeader.biBitCount = 16 ∨ H.pixels < 2 ^ 30 := by
  obtain ⟨hlo, hhi⟩ : Fits H.pixels := fits_wrap H.count
  rw [Headers.allocated]
  rcases hdepth with h | h
  · obtain h : H.infoHeader.biBitCount = 16 := by exact_mod_cast h
    rw [h]
    simp only [pixelBytes]
    norm_num
    omega
  · obtain h : H.infoHeader.biBitCount = 24 := by exact_mod_cast h
    rw [h]
    simp only [pixelBytes]
    norm_num
    omega

/-- A result means that the loop stayed inside the block. -/
lemma size_of_readPicture (hdepth : Depth H.infoHeader.biBitCount)
    (hres : readPicture H locals (some m) out = some res) :
    pixelBytes H.infoHeader.biBitCount * H.pixels.toNat ≤ H.allocated := by
  obtain ⟨b, hb, -⟩ := Option.map_eq_some_iff.mp ((readPicture_malloc hdepth).symm.trans hres)
  exact (readBmpData_returns_iff (lt_of_lt_of_le Nat.two_pos (pixelBytes_ge _))).mp ⟨b, hb⟩

/-- **When the return is 0**, and what was stored then. -/
theorem readPicture_zero_iff :
    (readPicture H locals heap out = some res ∧ res.ret = 0) ↔
      H.Accepted ∧ ∃ m, heap = some m ∧ res =
        ⟨0, { out.withHeader H.infoHeader with colorData := some (H.colorData locals m) }, 1⟩ := by
  by_cases hdepth : Depth H.infoHeader.biBitCount
  swap
  · rw [readPicture_depth hdepth]
    constructor
    · rintro ⟨hres, hret⟩
      rw [← Option.some.inj hres] at hret
      cases hret
    · rintro ⟨haccepted, -⟩
      exact absurd haccepted.depth hdepth
  cases heap with
  | none =>
      rw [readPicture_null hdepth]
      constructor
      · rintro ⟨hres, hret⟩
        rw [← Option.some.inj hres] at hret
        cases hret
      · rintro ⟨-, m, hm, -⟩
        cases hm
  | some m =>
      have hrun := fun hsize => (@readPicture_malloc H locals m out hdepth).trans
        (congrArg _ (readBmpData_eq hsize))
      constructor
      · rintro ⟨hres, hret⟩
        have hsize := size_of_readPicture hdepth hres
        obtain rfl := Option.some.inj ((hrun hsize).symm.trans hres)
        exact ⟨⟨hdepth, (allocated_ge_iff hdepth).mp hsize⟩, m, rfl, rfl⟩
      · rintro ⟨haccepted, m', hm, rfl⟩
        obtain rfl := Option.some.inj hm
        exact ⟨hrun ((allocated_ge_iff hdepth).mpr haccepted.size), rfl⟩

/-- So for a file that is opened. -/
theorem readData_zero_iff {content : Block} :
    (readData (fopen content) locals heap out = some res ∧ res.ret = 0) ↔
      fopen content = some ⟨content, 0⟩ ∧ (readHeaders ⟨content, 0⟩ locals).Accepted ∧
        ∃ m, heap = some m ∧ res =
          ⟨0, { out.withHeader (readHeaders ⟨content, 0⟩ locals).infoHeader with
            colorData := some ((readHeaders ⟨content, 0⟩ locals).colorData locals m) }, 1⟩ := by
  cases hopen : fopen content with
  | none =>
      constructor
      · rintro ⟨hres, hret⟩
        obtain rfl := Option.some.inj hres
        cases hret
      · rintro ⟨hfile, -⟩
        cases hfile
  | some f =>
      obtain ⟨len, -, -, rfl⟩ := fopen_eq_some hopen
      exact readPicture_zero_iff.trans (and_iff_right rfl).symm

end Return

/-! ## Complete reads -/

section Complete

variable {content : Block} {len : ℕ} {buffer color m : Mem} {locals : Locals} {pos : ℤ}

/-- A read that does not come to the end of the file. -/
lemma fread_eq {n : ℕ} (hlimit : content.limit = some len) (hpos : pos + n ≤ len) :
    fread ⟨content, pos⟩ buffer n = (blit buffer content.byte 0 pos n, ⟨content, pos + n⟩) := by
  have hcount : freadCount ⟨content, pos⟩ n = n := by
    simp only [freadCount, hlimit]
    omega
  rw [fread, hcount]

/-- The headers of a file that is long enough. -/
lemma readHeaders_eq (hlimit : content.limit = some len) (hlen : 54 ≤ len) :
    readHeaders ⟨content, 0⟩ locals = ⟨⟨number content.byte 4 2, number content.byte 2 6,
        number content.byte 2 8, number content.byte 4 10⟩,
      ⟨number content.byte 4 14, asLong (number content.byte 4 18),
        asLong (number content.byte 4 22), number content.byte 2 26, number content.byte 2 28,
        number content.byte 4 30, number content.byte 4 34, asLong (number content.byte 4 38),
        asLong (number content.byte 4 42), number content.byte 4 46, number content.byte 4 50⟩,
      ⟨content, 54⟩⟩ := by
  have htype := @fread_eq content len locals.fileType 0 2 hlimit (by push_cast; omega)
  have hfile := @fread_eq content len locals.fileHeader (0 + (2 : ℕ)) 12 hlimit
    (by push_cast; omega)
  have hinfo := @fread_eq content len locals.infoHeader (0 + (2 : ℕ) + (12 : ℕ)) 40 hlimit
    (by push_cast; omega)
  simp only [readHeaders, htype, hfile, hinfo, fileHeaderAt, infoHeaderAt]
  -- each field lies in its header
  simp (disch := norm_num) only [number_blit]
  norm_num

/-- The pixels that a complete header promises. -/
def promisedPixels (m : Mem) : ℤ := asLong (number m 4 18) * asLong (number m 4 22)

lemma readHeaders_file (hlimit : content.limit = some len) (hlen : 54 ≤ len) :
    (readHeaders ⟨content, 0⟩ locals).file = ⟨content, 54⟩ := by
  rw [readHeaders_eq hlimit hlen]

lemma readHeaders_bfOffBits (hlimit : content.limit = some len) (hlen : 54 ≤ len) :
    (readHeaders ⟨content, 0⟩ locals).fileHeader.bfOffBits = number content.byte 4 10 := by
  rw [readHeaders_eq hlimit hlen]

lemma readHeaders_biBitCount (hlimit : content.limit = some len) (hlen : 54 ≤ len) :
    (readHeaders ⟨content, 0⟩ locals).infoHeader.biBitCount = number content.byte 2 28 := by
  rw [readHeaders_eq hlimit hlen]

lemma readHeaders_count (hlimit : content.limit = some len) (hlen : 54 ≤ len) :
    (readHeaders ⟨content, 0⟩ locals).count = promisedPixels content.byte := by
  rw [readHeaders_eq hlimit hlen, promisedPixels, Headers.count]

lemma readHeaders_pixels (hlimit : content.limit = some len) (hlen : 54 ≤ len) :
    (readHeaders ⟨content, 0⟩ locals).pixels = wrap (promisedPixels content.byte) := by
  rw [Headers.pixels, readHeaders_count hlimit hlen]

/-- A complete header of 24 bits is accepted, unless `malloc` fails or what it promises wraps
around. -/
lemma readHeaders_accepted (hlimit : content.limit = some len) (hlen : 54 ≤ len)
    (hbits : number content.byte 2 28 = 24)
    (hpixels : wrap (promisedPixels content.byte) < 2 ^ 30) :
    (readHeaders ⟨content, 0⟩ locals).Accepted := by
  refine ⟨?_, .inr ?_⟩
  · rw [readHeaders_biBitCount hlimit hlen, hbits]
    exact .inr rfl
  · rwa [readHeaders_pixels hlimit hlen]

/-- So is a row of four pixels. -/
lemma readHeaders_blackRow : (readHeaders ⟨blackRow.content, 0⟩ locals).Accepted :=
  @readHeaders_accepted _ 66 locals rfl (by norm_num) (by decide) (by decide)

/-- The bytes of a pixel, put together by shifts, make up the number in `color`. -/
lemma pixelValue_eq {bits : ℕ} (hdepth : Depth bits) :
    pixelValue bits color = number color (storedBytes bits) 0 := by
  have h0 := (color 0).toNat_lt
  have h1 := (color 1).toNat_lt
  rcases hdepth with h | h
  · obtain rfl : bits = 16 := by exact_mod_cast h
    change (color 1).toNat <<< 8 ||| (color 0).toNat = number color 2 0
    rw [shift_or_byte 8 h0]
    simp [number]
  · obtain rfl : bits = 24 := by exact_mod_cast h
    change (color 2).toNat <<< 16 ||| (color 1).toNat <<< 8 ||| (color 0).toNat
      = number color 3 0
    rw [Nat.or_assoc, shift_or_byte 8 h0, shift_or_byte 16 (by omega)]
    simp [number]
    ring

lemma pixelValue_lt {bits : ℕ} (hdepth : Depth bits) :
    pixelValue bits color < 256 ^ pixelBytes bits := by
  have hbytes : storedBytes bits ≤ pixelBytes bits := by
    rcases hdepth with h | h
    · obtain rfl : bits = 16 := by exact_mod_cast h
      decide
    · obtain rfl : bits = 24 := by exact_mod_cast h
      decide
  rw [pixelValue_eq hdepth]
  exact (number_lt _ _ _).trans_le (Nat.pow_le_pow_right (by norm_num) hbytes)

/-- Where the file is after `k` complete reads. -/
lemma colorAfter_file {bytes k : ℕ} (hlimit : content.limit = some len)
    (hpos : pos + bytes * k ≤ len) :
    (colorAfter ⟨content, pos⟩ color bytes k).2 = ⟨content, pos + bytes * k⟩ := by
  induction k with
  | zero => simp [colorAfter]
  | succ k ih =>
      have hnext : (bytes : ℤ) * (k + 1 : ℕ) = bytes * k + bytes := by
        push_cast
        ring
      rw [colorAfter, ih (by omega), fread_eq hlimit (by omega), hnext, add_assoc]

/-- What the last of them left in `color`. -/
lemma number_colorAfter {bytes k : ℕ} (hlimit : content.limit = some len)
    (hpos : pos + bytes * (k + 1 : ℕ) ≤ len) :
    number (colorAfter ⟨content, pos⟩ color bytes (k + 1)).1 bytes 0
      = number content.byte bytes (pos + bytes * k) := by
  have hnext : (bytes : ℤ) * (k + 1 : ℕ) = bytes * k + bytes := by
    push_cast
    ring
  rw [colorAfter, colorAfter_file hlimit (by omega), fread_eq hlimit (by omega),
    number_blit le_rfl (by omega)]
  congr 1
  ring

end Complete

/-! ## The array -/

section Array

variable {H : Headers} {k : ℕ} {m : Mem} {locals : Locals} {content : Block} {len : ℕ}

/-- An element of the array, however much of it was read. -/
lemma number_colorData (hdepth : Depth H.infoHeader.biBitCount) (hk : (k : ℤ) < H.pixels) :
    number (H.colorData locals m).byte (pixelBytes H.infoHeader.biBitCount)
        (pixelBytes H.infoHeader.biBitCount * k)
      = pixelValue H.infoHeader.biBitCount (colorAfter
          (H.file.fseek (asLong H.fileHeader.bfOffBits)) locals.color
          (storedBytes H.infoHeader.biBitCount) (k + 1)).1 := by
  have hcell := @number_painted m (pixelBytes H.infoHeader.biBitCount)
    (pixelBytes H.infoHeader.biBitCount) 1 H.pixels.toNat k 0
    (fun k _ => pixelValue H.infoHeader.biBitCount (colorAfter
      (H.file.fseek (asLong H.fileHeader.bfOffBits)) locals.color
      (storedBytes H.infoHeader.biBitCount) (k + 1)).1) (by omega) Nat.one_pos (by omega)
    (pixelValue_lt hdepth)
  rw [Nat.cast_zero, mul_zero, add_zero] at hcell
  exact hcell

/-- **An element that the file holds completely.** -/
theorem number_colorData_of_le (hdepth : Depth (number content.byte 2 28))
    (hlimit : content.limit = some len) (h54 : 54 ≤ len) (hlen : len < 2 ^ 31)
    (hk : (k : ℤ) < wrap (promisedPixels content.byte))
    (hdata : number content.byte 4 10
      + storedBytes (number content.byte 2 28) * wrap (promisedPixels content.byte) ≤ len) :
    number ((readHeaders ⟨content, 0⟩ locals).colorData locals m).byte
        (pixelBytes (number content.byte 2 28)) (pixelBytes (number content.byte 2 28) * k)
      = number content.byte (storedBytes (number content.byte 2 28))
        (number content.byte 4 10 + storedBytes (number content.byte 2 28) * k) := by
  have hcell := @number_colorData (readHeaders ⟨content, 0⟩ locals) k m locals
  simp only [readHeaders_file hlimit h54, readHeaders_bfOffBits hlimit h54,
    readHeaders_biBitCount hlimit h54, readHeaders_pixels hlimit h54] at hcell
  generalize number content.byte 2 28 = bits at *
  generalize number content.byte 4 10 = off at *
  have hstored : (storedBytes bits : ℤ) * (k + 1 : ℕ)
      ≤ storedBytes bits * wrap (promisedPixels content.byte) :=
    mul_le_mul_of_nonneg_left (by push_cast; omega) (Int.natCast_nonneg _)
  have hnonneg : (0 : ℤ) ≤ storedBytes bits * (k + 1 : ℕ) :=
    mul_nonneg (Int.natCast_nonneg _) (Int.natCast_nonneg _)
  have hoff : asLong off = off := asLong_of_lt (by omega)
  rw [hcell hdepth hk, hoff, File.fseek, if_neg (by omega), pixelValue_eq hdepth,
    number_colorAfter hlimit (by omega)]

end Array

end Mp157.Bmp
