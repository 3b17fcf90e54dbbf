import Mp157.Library.Memory
import Mp157.Library.Loop

/-!
# Showing a picture (`lcd_show_camear` in `drmFun.c`)

The framebuffer is a mapping of `fb_size` bytes with rows `fb_line_size` bytes apart.  A picture
is drawn row by row, each row a loop over the visible columns that copies a word where the
picture has one.  `lcdShowCamearRow_eq` says what one row does, whatever the geometry: it is one
copy (`blit`).  Under the geometry a dumb buffer of 16 bits per pixel has, the rows do not meet,
and the whole function draws exactly the common part of picture and screen (`lcdShowCamear_eq`).
-/

namespace Mp157

open ByteMemory CLoop

/-- The fields of `struct kms_config` that describe the framebuffer. -/
structure KmsConfig where
  fbWidht : UInt32
  fbHight : UInt32
  fbLineSize : UInt32
  fbSize : UInt32

/-- An `unsigned int` converted to `long` or `int`, of 32 bits. -/
def toLong (x : UInt32) : ℤ := (x.toNat : ℤ).bmod (2 ^ 32)

lemma toLong_of_lt {x : UInt32} (h : x.toNat < 2 ^ 31) : toLong x = x.toNat := by
  refine Int.bmod_eq_of_le ?_ ?_
  · norm_num
  · norm_num
    omega

lemma toLong_of_ge {x : UInt32} (h : 2 ^ 31 ≤ x.toNat) : toLong x = x.toNat - 2 ^ 32 := by
  have hlt := x.toNat_lt
  have hmod : (x.toNat : ℤ) % (2 ^ 32 : ℕ) = x.toNat := Int.emod_eq_of_lt (by omega) (by omega)
  refine (Int.bmod_eq_emod _ _).trans ?_
  rw [hmod, if_pos (by omega)]
  norm_num

/-- What the loop over a row changes: the framebuffer and the running index `z`. -/
structure RowState where
  fbMap : Block
  z : ℤ

/-- Column `j` of row `i`. -/
def lcdShowCamearCell (p : Block) (biWidth biHeight : ℤ) (i : ℕ) (s : RowState) (j : ℕ) :
    Option RowState :=
  if (j : ℤ) < biWidth ∧ (i : ℤ) < biHeight then do
    let w ← p.load16 (biWidth * i + j)
    let fbMap ← s.fbMap.store16 s.z w
    return ⟨fbMap, s.z + 1⟩
  else some s

/-- `z = kms.fb_line_size / n * i` with `n = 2`. -/
def rowStart (kms : KmsConfig) (i : ℕ) : ℤ := toLong (kms.fbLineSize / 2 * UInt32.ofNat i)

/-- Row `i`. -/
def lcdShowCamearRow (kms : KmsConfig) (p : Block) (biWidth biHeight : ℤ) (fbMap : Block)
    (i : ℕ) : Option Block :=
  (forRange kms.fbWidht.toNat (lcdShowCamearCell p biWidth biHeight i)
    ⟨fbMap, rowStart kms i⟩).map (·.fbMap)

/-- Draws the picture `p`. -/
def lcdShowCamear (kms : KmsConfig) (fbMap p : Block) (biWidth biHeight : ℤ) : Option Block :=
  forRange kms.fbHight.toNat (lcdShowCamearRow kms p biWidth biHeight) fbMap

/-- The framebuffer as `drm_fb_mmap` leaves it. -/
def drmFbMmap (kms : KmsConfig) : Block := ⟨some kms.fbSize.toNat, fun _ => 0⟩

/-! ## One row -/

/-- How many columns of row `i` are drawn. -/
def drawnColumns (kms : KmsConfig) (biWidth biHeight : ℤ) (i : ℕ) : ℕ :=
  if (i : ℤ) < biHeight then min kms.fbWidht.toNat biWidth.toNat else 0

/-- **A row is a copy.** -/
theorem lcdShowCamearRow_eq {kms : KmsConfig} {p fb : Block} {biWidth biHeight : ℤ} {i : ℕ}
    (hp : ∀ off : ℤ, 2 * (biWidth * i) ≤ off →
      off < 2 * (biWidth * i) + 2 * drawnColumns kms biWidth biHeight i → p.inside off = true)
    (hfb : ∀ off : ℤ, 2 * rowStart kms i ≤ off →
      off < 2 * rowStart kms i + 2 * drawnColumns kms biWidth biHeight i → fb.inside off = true) :
    lcdShowCamearRow kms p biWidth biHeight fb i
      = some ⟨fb.limit, blit fb.byte p.byte (2 * rowStart kms i) (2 * (biWidth * i))
          (2 * drawnColumns kms biWidth biHeight i)⟩ := by
  set n := drawnColumns kms biWidth biHeight i with hn
  let at_ (k : ℕ) : RowState :=
    ⟨⟨fb.limit, blit fb.byte p.byte (2 * rowStart kms i) (2 * (biWidth * i)) (2 * min k n)⟩,
      rowStart kms i + (min k n : ℕ)⟩
  have hcell : ∀ k < kms.fbWidht.toNat,
      lcdShowCamearCell p biWidth biHeight i (at_ k) k = some (at_ (k + 1)) := by
    intro k hk
    rw [lcdShowCamearCell]
    by_cases hdraw : (k : ℤ) < biWidth ∧ (i : ℤ) < biHeight
    · have hkn : k < n := by
        rw [hn, drawnColumns, if_pos hdraw.2]
        omega
      have hload : p.load16 (biWidth * i + k) = some (word p.byte (biWidth * i + k)) :=
        Block.load16_of_inside (hp _ (by omega) (by omega)) (hp _ (by omega) (by omega))
      have hstore := @Block.store16_of_inside (at_ k).fbMap (rowStart kms i + k)
        (word p.byte (biWidth * i + k)) (hfb _ (by omega) (by omega)) (hfb _ (by omega) (by omega))
      have hz : (at_ k).z = rowStart kms i + k := by
        simp only [at_]
        omega
      rw [if_pos hdraw, hload, hz]
      simp only [Option.bind_eq_bind, Option.bind_some, hstore, Option.pure_def]
      simp only [at_, show min k n = k by omega, show min (k + 1) n = k + 1 by omega,
        setWord_blit, Nat.cast_succ, add_assoc]
    · have hnk : n ≤ k := by
        rw [hn, drawnColumns]
        split_ifs with hi
        · have hw : ¬ (k : ℤ) < biWidth := fun hw => hdraw ⟨hw, hi⟩
          omega
        · omega
      rw [if_neg hdraw]
      simp only [at_, show min k n = n by omega, show min (k + 1) n = n by omega]
  have hstart : at_ 0 = ⟨fb, rowStart kms i⟩ := by
    simp [at_, blit_zero]
  have hend : min kms.fbWidht.toNat n = n := by
    rw [hn, drawnColumns]
    split_ifs <;> omega
  rw [lcdShowCamearRow, ← hstart, forRange_eq at_ hcell]
  simp only [at_, hend, Option.map_some]

/-- Over memory whose extent is not in question a row is always drawn. -/
lemma lcdShowCamearRow_unbounded (kms : KmsConfig) (p fb : Mem) (biWidth biHeight : ℤ) (i : ℕ) :
    lcdShowCamearRow kms (unbounded p) biWidth biHeight (unbounded fb) i
      = some (unbounded (blit fb p (2 * rowStart kms i) (2 * (biWidth * i))
          (2 * drawnColumns kms biWidth biHeight i))) :=
  lcdShowCamearRow_eq (fun _ _ _ => rfl) fun _ _ _ => rfl

/-! ## The whole picture -/

/-- A framebuffer of 16 bits per pixel, as the kernel lays out a dumb buffer. -/
structure KmsConfig.Rgb565Geometry (kms : KmsConfig) : Prop where
  widht_le : kms.fbWidht.toNat ≤ 65535
  hight_le : kms.fbHight.toNat ≤ 65535
  line_even : kms.fbLineSize.toNat % 2 = 0
  line_ge : 2 * kms.fbWidht.toNat ≤ kms.fbLineSize.toNat
  size_ge : kms.fbLineSize.toNat * kms.fbHight.toNat ≤ kms.fbSize.toNat
  size_lt : kms.fbSize.toNat < 2 ^ 31

/-- The framebuffer once rows of `columns` words each, and at most `rows` of them, have been
copied from a picture `stride` words wide; rows start `line` bytes apart. -/
def pictureMem (fb p : Mem) (line stride rows columns : ℕ) : Mem :=
  fun off => if 0 ≤ off ∧ off / line < rows ∧ off % line < 2 * columns
    then p (2 * (stride * (off / line)) + off % line) else fb off

/-- A copy of columns into a row, by row and place in it. -/
lemma blit_row (fb p : Mem) {line stride columns : ℕ} (r : ℕ) (hline : 2 * columns ≤ line)
    (off : ℤ) : blit fb p (line * r) (2 * (stride * r)) (2 * columns) off
      = if 0 ≤ off ∧ off / line = r ∧ off % line < 2 * columns
        then p (2 * (stride * (off / line)) + off % line) else fb off := by
  rcases Nat.eq_zero_or_pos line with rfl | hpos
  · obtain rfl : columns = 0 := by omega
    rw [blit, if_neg (by push_cast; omega), if_neg (by push_cast; omega)]
  have hdivmod := Int.mul_ediv_add_emod off line
  have hmod₀ := Int.emod_nonneg off (show (line : ℤ) ≠ 0 by omega)
  rw [blit]
  by_cases hrow : off / line = r
  · -- the row being drawn
    rw [hrow] at hdivmod ⊢
    have hnonneg : (0 : ℤ) ≤ line * r := by positivity
    by_cases hcol : off % line < 2 * columns
    · rw [if_pos (by push_cast; omega), if_pos (by omega)]
      congr 1
      omega
    · rw [if_neg (by push_cast; omega), if_neg (by omega)]
  · -- another row: the copy does not reach it
    have houtside : ¬ ((line : ℤ) * r ≤ off ∧ off < line * r + (2 * columns : ℕ)) := by
      rintro ⟨hlo, hhi⟩
      refine hrow (Int.ediv_eq_iff_of_pos (by omega) |>.mpr ⟨by linarith, ?_⟩)
      push_cast at hhi
      linarith
    rw [if_neg houtside, if_neg fun hin => hrow hin.2.1]

/-- Drawing one more row. -/
lemma blit_pictureMem (fb p : Mem) {line stride columns : ℕ} (r : ℕ) (hline : 2 * columns ≤ line) :
    blit (pictureMem fb p line stride r columns) p (line * r) (2 * (stride * r)) (2 * columns)
      = pictureMem fb p line stride (r + 1) columns := by
  funext off
  rw [blit_row _ _ _ hline]
  simp only [pictureMem]
  by_cases hrow : off / line = r
  · by_cases hcol : 0 ≤ off ∧ off % line < 2 * columns
    · rw [if_pos ⟨hcol.1, hrow, hcol.2⟩, if_pos ⟨hcol.1, by push_cast; omega, hcol.2⟩]
    · rw [if_neg (by tauto), if_neg (by tauto), if_neg (by tauto)]
  · rw [if_neg (by tauto)]
    refine if_congr ?_ rfl rfl
    push_cast
    omega

lemma pictureMem_zero (fb p : Mem) (line stride columns : ℕ) :
    pictureMem fb p line stride 0 columns = fb := by
  funext off
  simp only [pictureMem]
  refine if_neg ?_
  rintro ⟨h₀, hrow, _⟩
  have := Int.ediv_nonneg h₀ (Int.natCast_nonneg line)
  omega

/-- An offset within the columns of a row lies before the end of the rows. -/
lemma lt_of_row {off : ℤ} {stride row rows columns : ℕ} (hrow : row < rows)
    (hcolumns : columns ≤ stride) (hoff : off < stride * row + columns) :
    off < (stride * rows : ℕ) := by
  have hle : stride * (row + 1) ≤ stride * rows := Nat.mul_le_mul_left _ hrow
  rw [Nat.mul_succ] at hle
  push_cast
  zify at hle hcolumns
  linarith

/-- Indices of elements fit an `int`: an element has at least two bytes. -/
lemma element_lt {n q size : ℕ} (hn : 2 ≤ n) (hq : n * q ≤ size) (hsize : size < 2 ^ 32) :
    q < 2 ^ 31 := by
  have hmul : 2 * q ≤ n * q := Nat.mul_le_mul_right q hn
  omega

/-- `fb_line_size / n * i`, in 32 bits: exact where the rows before it lie in a mapping. -/
lemma toLong_line {line : UInt32} {n i size : ℕ} (hn : 2 ≤ n) (hn' : n < 2 ^ 32) (hi : i < 2 ^ 32)
    (hdvd : n ∣ line.toNat) (hrows : line.toNat * i ≤ size) (hsize : size < 2 ^ 32) :
    toLong (line / UInt32.ofNat n * UInt32.ofNat i) = ((line.toNat / n * i : ℕ) : ℤ) := by
  have hlt : line.toNat / n * i < 2 ^ 31 := by
    refine element_lt hn ?_ hsize
    rwa [← mul_assoc, Nat.mul_div_cancel' hdvd]
  have hmul : (line / UInt32.ofNat n * UInt32.ofNat i).toNat = line.toNat / n * i := by
    rw [UInt32.toNat_mul, UInt32.toNat_div, UInt32.toNat_ofNat', UInt32.toNat_ofNat',
      Nat.mod_eq_of_lt hi, Nat.mod_eq_of_lt hn']
    exact Nat.mod_eq_of_lt (hlt.trans (by norm_num))
  rw [toLong_of_lt (by omega), hmul]

lemma rowStart_eq {kms : KmsConfig} (hg : kms.Rgb565Geometry) {i : ℕ}
    (hi : i < kms.fbHight.toNat) : 2 * rowStart kms i = kms.fbLineSize.toNat * i := by
  have hdvd : 2 ∣ kms.fbLineSize.toNat := Nat.dvd_of_mod_eq_zero hg.line_even
  have hrows : kms.fbLineSize.toNat * i ≤ kms.fbLineSize.toNat * kms.fbHight.toNat :=
    Nat.mul_le_mul_left _ hi.le
  have hhight := hg.hight_le
  have hstart := toLong_line le_rfl (by norm_num) (by omega) hdvd (hrows.trans hg.size_ge)
    kms.fbSize.toNat_lt
  have hhalf : 2 * (kms.fbLineSize.toNat / 2 * i) = kms.fbLineSize.toNat * i := by
    rw [← mul_assoc, Nat.mul_div_cancel' hdvd]
  rw [rowStart]
  change 2 * toLong (kms.fbLineSize / UInt32.ofNat 2 * UInt32.ofNat i) = _
  rw [hstart]
  exact_mod_cast hhalf

/-- The sizes of a picture in memory, as `long`: exact where anything is drawn. -/
lemma drawnColumns_eq (kms : KmsConfig) {w h : UInt32} (hsize : 2 * w.toNat * h.toNat < 2 ^ 31)
    (i : ℕ) : drawnColumns kms (toLong w) (toLong h) i
      = if i < h.toNat then min kms.fbWidht.toNat w.toNat else 0 := by
  rcases Nat.eq_zero_or_pos w.toNat with hw | hw
  · have hwide : toLong w = 0 := by
      rw [toLong_of_lt (by omega), hw, Nat.cast_zero]
    simp [drawnColumns, hw, hwide]
  rcases Nat.eq_zero_or_pos h.toNat with hh | hh
  · have hhigh : toLong h = 0 := by
      rw [toLong_of_lt (by omega), hh, Nat.cast_zero]
    rw [drawnColumns, hhigh, if_neg (by omega), if_neg (by omega)]
  · have hwide : 2 * w.toNat * 1 ≤ 2 * w.toNat * h.toNat := Nat.mul_le_mul_left _ hh
    have hhigh : 2 * 1 * h.toNat ≤ 2 * w.toNat * h.toNat :=
      Nat.mul_le_mul_right _ (Nat.mul_le_mul_left _ hw)
    rw [drawnColumns, toLong_of_lt (by omega), toLong_of_lt (by omega), Int.toNat_natCast]
    simp only [Nat.cast_lt]

/-- **A row of the visible part.**  Every access is inside the two mappings. -/
theorem lcdShowCamearRow_fits {kms : KmsConfig} (hg : kms.Rgb565Geometry) {w h : UInt32}
    (hsize : 2 * w.toNat * h.toNat < 2 ^ 31) {fb p : Block} (hfb : fb.Holds kms.fbSize.toNat)
    (hp : p.Holds (2 * w.toNat * h.toNat)) {i : ℕ} (hi : i < kms.fbHight.toNat) :
    lcdShowCamearRow kms p (toLong w) (toLong h) fb i
      = some ⟨fb.limit, blit fb.byte p.byte (kms.fbLineSize.toNat * i) (2 * (w.toNat * i))
          (2 * if i < h.toNat then min kms.fbWidht.toNat w.toNat else 0)⟩ := by
  set line := kms.fbLineSize.toNat with hline
  set columns := min kms.fbWidht.toNat w.toNat with hcolumns
  have hfit : 2 * columns ≤ line := by
    have := hg.line_ge
    omega
  have hdrawn := drawnColumns_eq kms hsize i
  by_cases hih : i < h.toNat
  · rw [if_pos hih, ← hcolumns] at hdrawn
    -- a picture with a row is narrow enough for its width to be exact
    have hwlong : toLong w = w.toNat := by
      refine toLong_of_lt ?_
      have : 2 * w.toNat * 1 ≤ 2 * w.toNat * h.toNat := Nat.mul_le_mul_left _ (by omega)
      omega
    have hsrc : 2 * (toLong w * i) = 2 * ((w.toNat : ℤ) * i) := by rw [hwlong]
    have hdst := rowStart_eq hg hi
    rw [← hline] at hdst
    rw [lcdShowCamearRow_eq, hdrawn, hsrc, hdst, if_pos hih]
    · intro off hlo hhi
      rw [hsrc] at hlo hhi
      rw [hdrawn] at hhi
      have hstart : (0 : ℤ) ≤ (w.toNat : ℤ) * i :=
        mul_nonneg (Int.natCast_nonneg _) (Int.natCast_nonneg _)
      have hend := @lt_of_row off (2 * w.toNat) i h.toNat (2 * columns) hih
        (Nat.mul_le_mul_left _ (min_le_right _ _)) (by push_cast; linarith)
      exact Block.inside_of_holds hp (by linarith) hend
    · intro off hlo hhi
      rw [hdst] at hlo hhi
      rw [hdrawn] at hhi
      have hstart : (0 : ℤ) ≤ (line : ℤ) * i :=
        mul_nonneg (Int.natCast_nonneg _) (Int.natCast_nonneg _)
      have hend := lt_of_row hi hfit (by push_cast; linarith)
      refine Block.inside_of_holds hfb (by linarith) (hend.trans_le ?_)
      exact_mod_cast hg.size_ge
  · rw [if_neg hih] at hdrawn
    rw [lcdShowCamearRow_eq (by intro off h₁ h₂; omega) (by intro off h₁ h₂; omega), hdrawn,
      if_neg hih, Nat.mul_zero, blit_zero, blit_zero]

/-- **The whole function.**  It draws the common part of picture and screen, and every access is
inside the two mappings. -/
theorem lcdShowCamear_eq {kms : KmsConfig} (hg : kms.Rgb565Geometry) {w h : UInt32}
    (hsize : 2 * w.toNat * h.toNat < 2 ^ 31) {fb p : Block} (hfb : fb.Holds kms.fbSize.toNat)
    (hp : p.Holds (2 * w.toNat * h.toNat)) :
    lcdShowCamear kms fb p (toLong w) (toLong h)
      = some ⟨fb.limit, pictureMem fb.byte p.byte kms.fbLineSize.toNat w.toNat
          (min kms.fbHight.toNat h.toNat) (min kms.fbWidht.toNat w.toNat)⟩ := by
  set line := kms.fbLineSize.toNat with hline
  set columns := min kms.fbWidht.toNat w.toNat with hcolumns
  have hfit : 2 * columns ≤ line := by
    have := hg.line_ge
    omega
  let at_ (i : ℕ) : Block :=
    ⟨fb.limit, pictureMem fb.byte p.byte line w.toNat (min i h.toNat) columns⟩
  have hrow : ∀ i < kms.fbHight.toNat,
      lcdShowCamearRow kms p (toLong w) (toLong h) (at_ i) i = some (at_ (i + 1)) := by
    intro i hi
    rw [@lcdShowCamearRow_fits _ hg w h hsize (at_ i) p hfb hp i hi, ← hline, ← hcolumns]
    by_cases hih : i < h.toNat
    · have hblit := @blit_pictureMem fb.byte p.byte line w.toNat columns i hfit
      simp only [at_, if_pos hih, show min i h.toNat = i by omega,
        show min (i + 1) h.toNat = i + 1 by omega, hblit]
    · simp only [at_, if_neg hih, show min i h.toNat = h.toNat by omega,
        show min (i + 1) h.toNat = h.toNat by omega, Nat.mul_zero, blit_zero]
  have hstart : at_ 0 = fb := by
    simp [at_, pictureMem_zero]
  have hloop := forRange_eq at_ hrow
  rw [hstart] at hloop
  exact hloop

end Mp157
