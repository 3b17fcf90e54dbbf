import Mp157.Camera.Bounds

/-!
# Are the captured rows read at their stride?

The driver reports how far apart the rows of a frame are (`bytesperline`), and it may pad them.
`v4l2_init` does not look at it, and the conversion goes through the frame as one array.

* `word_of_reaches` — which macropixel a pixel is converted from, after any number of rounds.
* `rows_at_stride_iff` — when that is the macropixel of its row and column.
* `RowsAtStride.returned` — it is then so in the frame that a conversion returns.
-/

namespace Mp157

open ByteMemory CLoop Stages

/-! ## Formats with a stride -/

/-- A format as `VIDIOC_G_FMT` reports it: lines are at least as long as their pixels. -/
structure CapturedFormat extends PixFormat where
  bytesperline : UInt32
  line_ge : 2 * width.toNat ≤ bytesperline.toNat

/-- The word of pixel `lane` (0 or 1) of the macropixel at `off`. -/
def macropixelWord (t : Tables) (f : Mem) (off lane : ℤ) : UInt16 :=
  let p := tablePixel t (f (off + 2 * lane)) (f (off + 1)) (f (off + 3))
  rgb565 (pixelByte p 0) (pixelByte p 1) (pixelByte p 2)

/-- The loop over frame `f` stands in state `s` after `n` rounds. -/
abbrev ConvertReaches (t : Tables) (w h : UInt32) (f base : Mem) (n : ℕ) (s : ConvertState) :
    Prop :=
  Reaches (convertGuard w h) (convertBody t (unbounded f)) ⟨unbounded base, 0, 0⟩ n s

/-- However many rounds the conversion has made, every pixel it has placed, at row `r` and column
`c`, comes from the macropixel that the driver stored for it.  A round places two pixels, the
`2 ^ 30` rounds that positions have room for `2 ^ 31` of them. -/
def RowsAtStride (t : Tables) (fmt : CapturedFormat) : Prop :=
  ∀ yuv rgb n s, ConvertReaches t fmt.width fmt.height yuv rgb n s →
    ∀ r c : ℕ, r < fmt.height.toNat → c < fmt.width.toNat →
      fmt.width.toNat * r + c < 2 * min n (2 ^ 30) →
      word s.rgb.byte (fmt.width.toNat * r + c : ℕ)
        = macropixelWord t yuv (fmt.bytesperline.toNat * r + 4 * (c / 2) : ℕ) (c % 2 : ℕ)

section Conversion

variable {t : Tables} {yuv rgb : Mem} {out : Block} {w h : UInt32} {n : ℕ} {s : ConvertState}

lemma convertAfter_zero : convertAfter t yuv rgb 0 = ⟨unbounded rgb, 0, 0⟩ := by
  simp [convertAfter]

/-- Where the loop stands is told by the number of its rounds, and it goes no further than the
frame. -/
lemma eq_of_reaches (hs : ConvertReaches t w h yuv rgb n s) :
    s = convertAfter t yuv rgb n ∧ min n (2 ^ 30) ≤ convertRounds w h := by
  have hround := fun k (_ : convertGuard w h (convertAfter t yuv rgb k) = true) =>
    convertBody_after t yuv rgb k
  rw [ConvertReaches, ← @convertAfter_zero t yuv] at hs
  refine ⟨hs.eq hround, ?_⟩
  by_contra! hpast
  have hguard := hs.guards hround (convertRounds w h) (by omega)
  rw [convertGuard_after, Nat.mod_eq_of_lt (by omega)] at hguard
  simp at hguard

/-- Every number of rounds that the frame has is made. -/
lemma reaches_convertAfter (hn : n ≤ convertRounds w h) :
    ConvertReaches t w h yuv rgb n (convertAfter t yuv rgb n) := by
  rw [ConvertReaches, ← @convertAfter_zero t yuv]
  refine reaches_of_guards (fun k _ => convertBody_after t yuv rgb k) ?_
  intro k hk
  rw [convertGuard_after]
  exact decide_eq_true ((Nat.mod_le _ _).trans_lt (hk.trans_le hn))

/-- Without a stride there is only one macropixel for pixel `q` of the frame. -/
theorem word_of_reaches (hs : ConvertReaches t w h yuv rgb n s) {q : ℕ}
    (hq : q < 2 * min n (2 ^ 30)) :
    word s.rgb.byte q = macropixelWord t yuv (4 * (q / 2) : ℕ) (q % 2 : ℕ) := by
  obtain ⟨rfl, -⟩ := eq_of_reaches hs
  have hluma : ((4 * (q / 2) : ℕ) : ℤ) + 2 * (q % 2 : ℕ) = 2 * q := by
    omega
  refine (word_convertedMem t yuv _ rgb (Int.natCast_nonneg q) (by omega)).trans ?_
  rw [macropixelWord, hluma]
  rfl

/-- A conversion that returns has made the rounds of its frame. -/
lemma reaches_of_convertYuvToRgb565Buffer
    (hout : convertYuvToRgb565Buffer t (unbounded yuv) (unbounded rgb) w h = some out) :
    convertRounds w h < 2 ^ 30 ∧
      ∃ s, s.rgb = out ∧ ConvertReaches t w h yuv rgb (convertRounds w h) s := by
  rw [convertYuvToRgb565Buffer, Option.map_eq_some_iff] at hout
  obtain ⟨s, hloop, rfl⟩ := hout
  obtain ⟨n, hs⟩ := reaches_of_whileLoop hloop
  have hguard := (whileLoop_post (I := fun _ => True) (fun _ _ _ _ _ => trivial) trivial hloop).2
  obtain ⟨rfl, hn⟩ := eq_of_reaches hs
  rw [convertGuard_after, decide_eq_false_iff_not, not_lt] at hguard
  obtain rfl : n = convertRounds w h := by omega
  exact ⟨by omega, _, rfl, hs⟩

/-- **Rows read at their stride** are so in the frame that is returned. -/
theorem RowsAtStride.returned {fmt : CapturedFormat} (h : RowsAtStride t fmt)
    (hout : convertYuvToRgb565Buffer t (unbounded yuv) (unbounded rgb) fmt.width fmt.height
      = some out) {r c : ℕ} (hr : r < fmt.height.toNat) (hc : c < fmt.width.toNat)
    (hplaced : fmt.width.toNat * r + c < 2 * convertRounds fmt.width fmt.height) :
    word out.byte (fmt.width.toNat * r + c : ℕ)
      = macropixelWord t yuv (fmt.bytesperline.toNat * r + 4 * (c / 2) : ℕ) (c % 2 : ℕ) := by
  obtain ⟨hrounds, s, rfl, hs⟩ := reaches_of_convertYuvToRgb565Buffer hout
  exact h yuv rgb _ s hs r c hr hc (by omega)

end Conversion

/-! ## Two macropixels that differ -/

section Differ

variable {t : Tables}

lemma macropixelWord_init (f : Mem) (off lane : ℤ) :
    macropixelWord (yuvRgbTableInit t) f off lane =
      let p := convertYuvToRgbPixel (f (off + 2 * lane)).toNat (f (off + 1)).toNat
        (f (off + 3)).toNat
      rgb565 (pixelByte p 0) (pixelByte p 1) (pixelByte p 2) := by
  simp only [macropixelWord, tablePixel_init]

/-- A grey frame but for one black luma byte: no other pixel is black, even where the byte is its
chroma. -/
lemma macropixelWord_ne_of_luma {off off' lane : ℤ} (hluma : off + 2 * lane ≠ off') :
    macropixelWord (yuvRgbTableInit t) (fun x => if x = off' then 0 else 128) off lane ≠
      macropixelWord (yuvRgbTableInit t) (fun x => if x = off' then 0 else 128) off' 0 := by
  simp only [macropixelWord_init, mul_zero, add_zero, if_true, if_neg hluma,
    if_neg (show off' + 1 ≠ off' by omega), if_neg (show off' + 3 ≠ off' by omega)]
  by_cases hu : off + 1 = off'
  · simp only [if_pos hu, if_neg (show off + 3 ≠ off' by omega)]
    decide
  · by_cases hv : off + 3 = off'
    · simp only [if_neg hu, if_pos hv]
      decide
    · simp only [if_neg hu, if_neg hv]
      decide

/-- A grey frame but for one chroma byte. -/
lemma macropixelWord_ne_of_chroma (off : ℤ) :
    macropixelWord (yuvRgbTableInit t) (fun x => if x = off + 3 then 255 else 128) (off - 2) 1 ≠
      macropixelWord (yuvRgbTableInit t) (fun x => if x = off + 3 then 255 else 128) off 0 := by
  simp only [macropixelWord_init, if_true, if_neg (show off - 2 + 2 * 1 ≠ off + 3 by omega),
    if_neg (show off - 2 + 1 ≠ off + 3 by omega), if_neg (show off - 2 + 3 ≠ off + 3 by omega),
    if_neg (show off + 2 * 0 ≠ off + 3 by omega), if_neg (show off + 1 ≠ off + 3 by omega)]
  decide

end Differ

/-! ## When the rows are read at their stride -/

/-- With `p` the pixel count modulo `2 ^ 31`: one row only is converted, or the rows follow one
another without padding and in whole macropixels. -/
def CapturedFormat.StrideImmaterial (fmt : CapturedFormat) : Prop :=
  let p := fmt.width.toNat * fmt.height.toNat % 2 ^ 31
  fmt.height.toNat ≤ 1 ∨ p + p % 2 ≤ fmt.width.toNat ∨
    (fmt.bytesperline.toNat = 2 * fmt.width.toNat ∧ fmt.width.toNat % 2 = 0)

section Formats

variable {t : Tables} {fmt : CapturedFormat}

lemma two_mul_convertRounds (w h : UInt32) : 2 * convertRounds w h
    = w.toNat * h.toNat % 2 ^ 31 + w.toNat * h.toNat % 2 ^ 31 % 2 := by
  rw [convertRounds_eq]
  omega

lemma rowsAtStride_of_immaterial (h : fmt.StrideImmaterial) : RowsAtStride t fmt := by
  intro yuv rgb n s hs r c hr hc hplaced
  rw [word_of_reaches hs hplaced]
  have hframe := two_mul_convertRounds fmt.width fmt.height
  have hn := (eq_of_reaches hs).2
  -- the two macropixels are the same
  suffices hsame : 4 * ((fmt.width.toNat * r + c) / 2)
      = fmt.bytesperline.toNat * r + 4 * (c / 2) ∧ (fmt.width.toNat * r + c) % 2 = c % 2 by
    rw [hsame.1, hsame.2]
  rcases h with hrow | hrow | ⟨hline, heven⟩
  · obtain rfl : r = 0 := by omega
    simp
  · obtain rfl : r = 0 := by
      by_contra hr0
      have hle : fmt.width.toNat * 1 ≤ fmt.width.toNat * r :=
        Nat.mul_le_mul_left _ (Nat.pos_of_ne_zero hr0)
      omega
    simp
  · obtain ⟨k, hk⟩ := Nat.dvd_of_mod_eq_zero heven
    rw [hline, hk]
    have hprod : 2 * k * r = 2 * (k * r) := mul_assoc _ _ _
    have hprod' : 2 * (2 * k) * r = 4 * (k * r) := by ring
    rw [hprod, hprod']
    omega

/-- The first pixel of the second row tells the difference, after the last round of the frame. -/
lemma immaterial_of_rowsAtStride (h : RowsAtStride (yuvRgbTableInit t) fmt) :
    fmt.StrideImmaterial := by
  by_contra himmaterial
  simp only [CapturedFormat.StrideImmaterial, not_or, not_le, not_and] at himmaterial
  obtain ⟨hheight, hplaced, hpadded⟩ := himmaterial
  have hwidth : 0 < fmt.width.toNat := by
    by_contra hzero
    simp [Nat.eq_zero_of_not_pos hzero] at hplaced
  have hsecond : fmt.width.toNat
      < 2 * min (convertRounds fmt.width fmt.height) (2 ^ 30) := by
    rwa [min_eq_left (convertRounds_le _ _), two_mul_convertRounds]
  have hpixel : ∀ f : Mem, macropixelWord (yuvRgbTableInit t) f
      (4 * (fmt.width.toNat / 2) : ℕ) (fmt.width.toNat % 2 : ℕ)
        = macropixelWord (yuvRgbTableInit t) f fmt.bytesperline.toNat 0 := by
    intro f
    have hs := @reaches_convertAfter (yuvRgbTableInit t) f (fun _ => 0) fmt.width fmt.height _
      le_rfl
    rw [← word_of_reaches hs hsecond]
    simpa using h _ _ _ _ hs 1 0 hheight hwidth (by simpa using hsecond)
  have hge := fmt.line_ge
  by_cases hline : fmt.bytesperline.toNat = 2 * fmt.width.toNat
  · -- the row begins in the middle of a macropixel
    have hodd := hpadded hline
    refine @macropixelWord_ne_of_chroma t fmt.bytesperline.toNat ?_
    rw [← hpixel]
    congr 1
    · omega
    · omega
  · refine macropixelWord_ne_of_luma ?_ (hpixel fun x => if x = fmt.bytesperline.toNat then 0
      else 128)
    omega

end Formats

section Setup

variable {bmpmode : Bool} {o : SetupCalls} {tables : Tables} {s : SetupState} {fmt : CapturedFormat}

lemma setupDone_tables : (setupDone bmpmode o tables).tables = yuvRgbTableInit tables := by
  simp only [setupDone, rgbUpTo, threadsStart, mappedUpTo, buffersStart, setupStart]

/-- **When captured rows are read at their stride.**  For every format that `v4l2_init` accepts:
exactly when the stride is immaterial. -/
theorem rows_at_stride_iff (hdone : v4l2Init bmpmode o (setupStart tables) = .done s)
    (hfmt : o.gFmt = fmt.toPixFormat) :
    s.camera.fmt = fmt.toPixFormat ∧ (RowsAtStride s.tables fmt ↔ fmt.StrideImmaterial) := by
  obtain ⟨-, rfl⟩ := v4l2Init_eq_done.mp hdone
  rw [setupDone_tables]
  exact ⟨hfmt, immaterial_of_rowsAtStride, rowsAtStride_of_immaterial⟩

/-- 640 by 480 without padding. -/
def vgaUnpadded : CapturedFormat where
  pixelformat := v4l2PixFmtYuyv
  width := 640
  height := 480
  bytesperline := 1280
  line_ge := by decide

/-- 640 by 480 with lines padded to 1344 bytes. -/
def vgaPadded : CapturedFormat where
  pixelformat := v4l2PixFmtYuyv
  width := 640
  height := 480
  bytesperline := 1344
  line_ge := by decide

/-- Without padding the rows are found. -/
theorem rows_at_stride_vga : ∃ s,
    v4l2Init false everyCallSucceeds (setupStart ⟨0, 0, 0, 0, 0⟩) = .done s ∧
      s.camera.fmt = vgaUnpadded.toPixFormat ∧ RowsAtStride s.tables vgaUnpadded := by
  have hdone : v4l2Init false everyCallSucceeds (setupStart ⟨0, 0, 0, 0, 0⟩) = .done _ := rfl
  obtain ⟨hfmt, hiff⟩ := @rows_at_stride_iff _ _ _ _ vgaUnpadded hdone rfl
  exact ⟨_, hdone, hfmt, hiff.mpr (.inr (.inr ⟨rfl, rfl⟩))⟩

/-- With padding the second row is taken from the padding of the first. -/
theorem rows_not_at_stride : ∃ s,
    v4l2Init false everyCallSucceeds (setupStart ⟨0, 0, 0, 0, 0⟩) = .done s ∧
      s.camera.fmt = vgaPadded.toPixFormat ∧ ¬ RowsAtStride s.tables vgaPadded := by
  have hdone : v4l2Init false everyCallSucceeds (setupStart ⟨0, 0, 0, 0, 0⟩) = .done _ := rfl
  refine ⟨_, hdone, rfl, ?_⟩
  rw [(v4l2Init_eq_done.mp hdone).2, setupDone_tables]
  intro h
  have himmaterial := immaterial_of_rowsAtStride h
  simp [CapturedFormat.StrideImmaterial, vgaPadded] at himmaterial

end Setup

end Mp157
