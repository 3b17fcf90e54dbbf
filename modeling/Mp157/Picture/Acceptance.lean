import Mp157.Picture.ReadData

/-!
# Which files are accepted?

`readData` returns 0 for any file whose header, in memory, has one of the two depths; what the
variables held before takes the place of bytes that the file does not have.  And both the product of
the sides and the bytes it asks `malloc` for are computed in arithmetic that wraps around: of a
header that promises `2 ^ 32` pixels none is read.

* `accepts_decodable_iff` — when a return of 0 means that the file could be decoded.
* `pixels_in_block_iff` — when the array holds every pixel that is stored or shown.
-/

namespace Mp157.Bmp

open ByteMemory CLoop CInt

/-! ## Files that can be decoded -/

/-- An uncompressed file of either depth that has all its pixels: those that its header promises,
and those that are read, which are more only where a negative product wraps around. -/
structure Decodable (content : Block) : Prop where
  /-- `BM` -/
  signature : content.byte 0 = 0x42 ∧ content.byte 1 = 0x4d
  headers : content.Holds 54
  /-- 24 bits, or 16 bits as 5, 6 and 5. -/
  format : number content.byte 2 28 = 24 ∧ number content.byte 4 30 = 0 ∨
    number content.byte 2 28 = 16 ∧ number content.byte 4 30 = 3 ∧ content.Holds 66 ∧
      number content.byte 4 54 = 0xf800 ∧ number content.byte 4 58 = 0x7e0 ∧
      number content.byte 4 62 = 0x1f
  offset : content.Holds (number content.byte 4 10)
  pixels : ∀ len ∈ content.limit, number content.byte 4 10
    + storedBytes (number content.byte 2 28) * promisedPixels content.byte ≤ len
  read : ∀ len ∈ content.limit, number content.byte 4 10
    + storedBytes (number content.byte 2 28) * wrap (promisedPixels content.byte) ≤ len

/-- A run that returns 0 has read a file that can be decoded, and every element of the array is the
number in its bytes of the file. -/
def AcceptsDecodable (content : Block) (locals : Locals) (heap : Option Mem) (out : Outputs) :
    Prop :=
  ∀ res, readData (fopen content) locals heap out = some res → res.ret = 0 →
    Decodable content ∧ ∀ b ∈ res.out.colorData, ∀ k : ℕ, k < wrap (promisedPixels content.byte) →
      number b.byte (pixelBytes (number content.byte 2 28))
          (pixelBytes (number content.byte 2 28) * k)
        = number content.byte (storedBytes (number content.byte 2 28))
            (number content.byte 4 10 + storedBytes (number content.byte 2 28) * k)

section Accept

variable {content : Block} {locals : Locals} {heap : Option Mem} {out : Outputs}

/-- The elements of a file that can be decoded are its own. -/
lemma acceptsDecodable_of_decodable (h : Decodable content) :
    AcceptsDecodable content locals heap out := by
  intro res hread hret
  refine ⟨h, ?_⟩
  obtain ⟨hopen, haccepted, m, -, rfl⟩ := readData_zero_iff.mp ⟨hread, hret⟩
  obtain ⟨len, hlimit, hlen, -⟩ := fopen_eq_some hopen
  intro b hb k hk
  obtain rfl := Option.some.inj hb
  have hdepth := haccepted.depth
  rw [readHeaders_biBitCount hlimit (h.headers len hlimit)] at hdepth
  exact number_colorData_of_le hdepth hlimit (h.headers len hlimit) hlen hk (h.read len hlimit)

/-- **When a return of 0 means that the file could be decoded.**  Exactly when it could, or the
return is not 0. -/
theorem accepts_decodable_iff :
    AcceptsDecodable content locals heap out ↔
      Decodable content ∨ fopen content = none ∨ heap = none ∨
        ¬ (readHeaders ⟨content, 0⟩ locals).Accepted := by
  constructor
  · intro haccepts
    by_contra hnone
    simp only [not_or, not_not] at hnone
    obtain ⟨hdecodable, hopen, hheap, haccepted⟩ := hnone
    obtain ⟨f, hf⟩ := Option.ne_none_iff_exists'.mp hopen
    obtain ⟨m, hm⟩ := Option.ne_none_iff_exists'.mp hheap
    obtain ⟨len, -, -, rfl⟩ := fopen_eq_some hf
    obtain ⟨hread, hret⟩ := (@readData_zero_iff locals heap out _ content).mpr
      ⟨hf, haccepted, m, hm, rfl⟩
    exact hdecodable (haccepts _ hread hret).1
  · intro h res hread hret
    obtain ⟨hopen, haccepted, m, hm, -⟩ := readData_zero_iff.mp ⟨hread, hret⟩
    rcases h with hdecodable | hnone | hnone | hrejected
    · exact acceptsDecodable_of_decodable hdecodable res hread hret
    · cases hnone.symm.trans hopen
    · cases hnone.symm.trans hm
    · exact absurd haccepted hrejected

end Accept

/-- 54 bytes of a header of 24 bits, 65536 by 65536. -/
def wrappedHeader : Block :=
  ⟨some 54, fun i => if i = 20 ∨ i = 24 then 1 else (bmp24 0 0 []).byte i⟩

/-- No pixel is read, and none is there. -/
example (locals : Locals) : (readHeaders ⟨wrappedHeader, 0⟩ locals).Accepted ∧
    ¬ Decodable wrappedHeader :=
  ⟨readHeaders_accepted rfl le_rfl (by decide) (by decide),
    fun h => absurd (h.pixels 54 rfl) (by decide)⟩

/-- 54 bytes with a wrong signature: a header of 24 bits, 1 by 1, without the pixel. -/
def wrongSignature : Block :=
  ⟨some 54, fun i => if i = 0 then 0x50 else (bmp24 1 1 []).byte i⟩

/-- The file is accepted, and its pixel is what `color` held before. -/
theorem accepts_wrong_signature :
    (∃ res res', readData (fopen wrongSignature) (filledLocals 0) (some fun _ => 0) emptyOutputs
        = some res ∧
      readData (fopen wrongSignature) (filledLocals 1) (some fun _ => 0) emptyOutputs = some res' ∧
      res.ret = 0 ∧ res'.ret = 0 ∧ ∃ b ∈ res.out.colorData, ∃ b' ∈ res'.out.colorData,
        number b.byte 4 0 = 0 ∧ number b'.byte 4 0 = 0x010101) ∧
    ¬ AcceptsDecodable wrongSignature (filledLocals 0) (some fun _ => 0) emptyOutputs := by
  have hlimit : wrongSignature.limit = some 54 := rfl
  have haccepted : ∀ locals, (readHeaders ⟨wrongSignature, 0⟩ locals).Accepted :=
    fun _ => readHeaders_accepted hlimit le_rfl (by decide) (by decide)
  have hrun : ∀ locals, _ := fun locals =>
    (@readData_zero_iff locals (some fun _ => 0) emptyOutputs _ wrongSignature).mpr
      ⟨rfl, haccepted locals, _, rfl, rfl⟩
  refine ⟨⟨_, _, (hrun _).1, (hrun _).1, rfl, rfl, _, rfl, _, rfl, by decide, by decide⟩, ?_⟩
  intro haccepts
  have hsignature := (haccepts _ (hrun _).1 rfl).1.signature
  exact absurd hsignature (by decide)

/-! ## The size of the array -/

/-- Every element of the array of a result that `lcd_show_pic` can read lies inside. -/
def Result.Showable (res : Result) : Prop :=
  ∀ b ∈ res.out.colorData, ∀ i j : ℕ, i < res.out.biHeight → j < res.out.biWidth →
    ∃ v, getPixel (pixelBytes res.out.biBitCount) b res.out.biWidth i j = some v

/-- Whatever `malloc` finds, no pixel is stored outside the array, and none that can be shown lies
outside. -/
def PixelsInBlock (f : File) (locals : Locals) : Prop :=
  ∀ heap out, ∃ res, readData (some f) locals heap out = some res ∧
    (res.ret = 0 → res.Showable)

section Size

variable {H : Headers} {f : File} {locals : Locals} {out : Outputs} {m : Mem}

/-- A pixel that can be shown is one of `biWidth * biHeight`. -/
lemma getPixel_of_lt {n i j : ℕ} {b : Block} {biWidth biHeight : ℤ}
    (hfits : Fits (biWidth * biHeight)) (hb : b.Holds (n * (biWidth * biHeight).toNat))
    (hi : i < biHeight) (hj : j < biWidth) : ∃ v, getPixel n b biWidth i j = some v := by
  obtain ⟨w, rfl⟩ := Int.eq_ofNat_of_zero_le (show 0 ≤ biWidth by omega)
  obtain ⟨h, rfl⟩ := Int.eq_ofNat_of_zero_le (show 0 ≤ biHeight by omega)
  rw [← Nat.cast_mul, Int.toNat_natCast] at hb
  refine ⟨_, getPixel_eq ?_ hb (by omega) (by omega)⟩
  exact_mod_cast hfits.2

/-- An array that is large enough is large enough for what is shown. -/
lemma showable_of_size (hfits : Fits H.count)
    (hsize : pixelBytes H.infoHeader.biBitCount * H.pixels.toNat ≤ H.allocated) : Result.Showable
      ⟨0, { out.withHeader H.infoHeader with colorData := some (H.colorData locals m) }, 1⟩ := by
  intro b hb i j hi hj
  obtain rfl := Option.some.inj hb
  refine getPixel_of_lt hfits ?_ hi hj
  intro len hlen
  obtain rfl := Option.some.inj hlen
  rwa [Headers.pixels_of_fits hfits] at hsize

/-- **When the array holds every pixel.**  With 16 bits always, with 24 as long as four bytes per
pixel do not wrap around. -/
theorem pixels_in_block_iff (hdepth : Depth (readHeaders f locals).infoHeader.biBitCount)
    (hfits : Fits (readHeaders f locals).count) :
    PixelsInBlock f locals ↔ (readHeaders f locals).infoHeader.biBitCount = 16 ∨
      (readHeaders f locals).count < 2 ^ 30 := by
  change (∀ heap out, ∃ res, readPicture (readHeaders f locals) locals heap out = some res ∧ _) ↔ _
  generalize readHeaders f locals = H at *
  rw [← Headers.pixels_of_fits hfits, ← allocated_ge_iff hdepth]
  constructor
  · intro hblock
    obtain ⟨res, hres, -⟩ := hblock (some fun _ => 0) emptyOutputs
    exact size_of_readPicture hdepth hres
  · intro hsize heap out
    cases heap with
    | none =>
        refine ⟨_, readPicture_null hdepth, ?_⟩
        intro hret
        cases hret
    | some m =>
        obtain ⟨hres, -⟩ := (@readPicture_zero_iff _ locals (some m) out _).mpr
          ⟨⟨hdepth, (allocated_ge_iff hdepth).mp hsize⟩, m, rfl, rfl⟩
        exact ⟨_, hres, fun _ => showable_of_size hfits hsize⟩

end Size

/-- 54 bytes of a header of 24 bits, 32768 by 32768: `malloc` is asked for 0 bytes. -/
def hugeHeader : Block :=
  ⟨some 54, fun i => if i = 19 ∨ i = 23 then 0x80 else (bmp24 0 0 []).byte i⟩

/-- One row of four pixels. -/
theorem pixels_in_block_row :
    Depth (readHeaders ⟨blackRow.content, 0⟩ (filledLocals 0)).infoHeader.biBitCount ∧
      Fits (readHeaders ⟨blackRow.content, 0⟩ (filledLocals 0)).count ∧
      PixelsInBlock ⟨blackRow.content, 0⟩ (filledLocals 0) := by
  obtain ⟨hdepth, hsize⟩ := @readHeaders_blackRow (filledLocals 0)
  have hcount : (readHeaders ⟨blackRow.content, 0⟩ (filledLocals 0)).count = 4 :=
    (@readHeaders_count _ 66 _ rfl (by norm_num)).trans (by decide)
  have hfits : Fits (readHeaders ⟨blackRow.content, 0⟩ (filledLocals 0)).count := by
    rw [hcount]
    decide
  rw [Headers.pixels_of_fits hfits] at hsize
  exact ⟨hdepth, hfits, (pixels_in_block_iff hdepth hfits).mpr hsize⟩

/-- The first pixel is stored in a block of 0 bytes. -/
theorem pixels_outside_block :
    Depth (readHeaders ⟨hugeHeader, 0⟩ (filledLocals 0)).infoHeader.biBitCount ∧
      (readHeaders ⟨hugeHeader, 0⟩ (filledLocals 0)).count = 2 ^ 30 ∧
      (readHeaders ⟨hugeHeader, 0⟩ (filledLocals 0)).allocated = 0 ∧
      ¬ PixelsInBlock ⟨hugeHeader, 0⟩ (filledLocals 0) := by
  have hlimit : hugeHeader.limit = some 54 := rfl
  have hbits := @readHeaders_biBitCount _ _ (filledLocals 0) hlimit le_rfl
  have hcount := @readHeaders_count _ _ (filledLocals 0) hlimit le_rfl
  have hbits24 : (readHeaders ⟨hugeHeader, 0⟩ (filledLocals 0)).infoHeader.biBitCount = 24 :=
    hbits.trans (by decide)
  have hcount30 : (readHeaders ⟨hugeHeader, 0⟩ (filledLocals 0)).count = 2 ^ 30 :=
    hcount.trans (by decide)
  have hfits : Fits (readHeaders ⟨hugeHeader, 0⟩ (filledLocals 0)).count := by
    rw [hcount30]
    decide
  have hpixels := (Headers.pixels_of_fits hfits).trans hcount30
  have hallocated : (readHeaders ⟨hugeHeader, 0⟩ (filledLocals 0)).allocated = 0 := by
    rw [Headers.allocated, hpixels, hbits24]
    decide
  have hdepth : Depth (readHeaders ⟨hugeHeader, 0⟩ (filledLocals 0)).infoHeader.biBitCount := by
    rw [hbits24]
    exact .inr rfl
  refine ⟨hdepth, hcount30, hallocated, ?_⟩
  intro hblock
  obtain ⟨res, hres, -⟩ := hblock (some fun _ => 0) emptyOutputs
  have hsize := size_of_readPicture hdepth hres
  rw [hallocated, hpixels, hbits24] at hsize
  exact absurd hsize (by decide)

end Mp157.Bmp
