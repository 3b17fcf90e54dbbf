import Mp157.Camera.Screen
import Mp157.Library.Grid

/-!
# Filling the background (`drm_draw_background` in `drmFun.c`)

Both programs fill the framebuffer with one colour after another.  A pass counts pixels of 2 or 4
bytes, and stores words of 2 bytes.

* `drawPasses_eq` — what is in the framebuffer after any of the passes.
* `background_covers_iff` — when every visible pixel then has the colour of the pass.
-/

namespace Mp157

open ByteMemory CLoop

/-! ## The function -/

/-- The program that shows a picture, and the one that shows the camera. -/
inductive Program
  | picture
  | camera
deriving DecidableEq

/-- `color[]` -/
def Program.colors : Program → List ℕ
  | .picture => [0xf800, 0x7e0, 0x1f]
  | .camera => [0xf800, 0x7e0, 0x1f, 0xffff]

/-- `n`: the bytes of a pixel. -/
def backgroundBytes (bmpmode : Bool) : ℕ := if bmpmode then 4 else 2

/-- `for(i = 0; i < (kms.fb_size / n); i++) ((uint16_t *)kms.fb_map)[i] = color;` -/
def drawPass (kms : KmsConfig) (bmpmode : Bool) (fbMap : Block) (color : ℕ) : Option Block :=
  forRange (kms.fbSize.toNat / backgroundBytes bmpmode)
    (fun fbMap i => fbMap.storeNumber 2 (2 * i) color) fbMap

/-- One pass for every colour. -/
def drawPasses (kms : KmsConfig) (bmpmode : Bool) (colors : List ℕ) (fbMap : Block) :
    Option Block :=
  colors.foldlM (drawPass kms bmpmode) fbMap

def drmDrawBackground (p : Program) (kms : KmsConfig) (bmpmode : Bool) (fbMap : Block) :
    Option Block :=
  drawPasses kms bmpmode p.colors fbMap

/-! ## What a pass leaves -/

/-- Memory full of the words of a colour. -/
def stripes (color : ℕ) : Mem := fun off => UInt8.ofNat (color / 256 ^ (off % 2).toNat)

/-- The first `t` words are of a colour. -/
def coloured (m : Mem) (t color : ℕ) : Mem :=
  fun off => if 0 ≤ off ∧ off < 2 * t then stripes color off else m off

section Pass

variable {kms : KmsConfig} {bmpmode : Bool} {m : Mem} {l : Option ℕ} {color color' t : ℕ}

lemma coloured_zero : coloured m 0 color = m := by
  funext off
  exact if_neg (by push_cast; omega)

/-- Another colour takes the place of the first. -/
lemma coloured_coloured : coloured (coloured m t color) t color' = coloured m t color' := by
  funext off
  simp only [coloured]
  split_ifs <;> rfl

/-- One more word. -/
lemma setNumber_coloured :
    setNumber (coloured m t color) 2 (2 * t) color = coloured m (t + 1) color := by
  funext off
  by_cases hin : 2 * (t : ℤ) ≤ off ∧ off < 2 * t + 2
  · obtain ⟨k, hk⟩ := Int.eq_ofNat_of_zero_le (sub_nonneg.mpr hin.1)
    obtain rfl : off = 2 * t + k := by omega
    have hk2 : ((2 * (t : ℤ) + k) % 2).toNat = k := by omega
    rw [setNumber_inside (by omega), coloured, if_pos (by push_cast; omega), stripes, hk2]
  · rw [setNumber_outside (by push_cast; omega), coloured, coloured]
    exact if_congr (by push_cast; omega) rfl rfl

/-- **One pass.** -/
lemma drawPass_eq (hfb : Block.Holds ⟨l, m⟩ kms.fbSize.toNat) :
    drawPass kms bmpmode ⟨l, m⟩ color
      = some ⟨l, coloured m (kms.fbSize.toNat / backgroundBytes bmpmode) color⟩ := by
  set count := kms.fbSize.toNat / backgroundBytes bmpmode with hcount
  have hle : 2 * count ≤ kms.fbSize.toNat := by
    rw [hcount, backgroundBytes]
    split_ifs
    · omega
    · omega
  let at_ (k : ℕ) : Block := ⟨l, coloured m k color⟩
  have hround : ∀ k < count, (at_ k).storeNumber 2 (2 * k) color = some (at_ (k + 1)) := by
    intro k hk
    rw [Block.storeNumber_of_inside (Block.inside_number (b := at_ k) hfb (by positivity)
      (by push_cast; omega)), setNumber_coloured]
  have hstart : at_ 0 = ⟨l, m⟩ := by
    simp [at_, coloured_zero]
  rw [drawPass, ← hstart]
  exact forRange_eq at_ hround

/-- **After the passes.**  Only the last colour is left, and what no pass reaches is as before. -/
theorem drawPasses_eq (hfb : Block.Holds ⟨l, m⟩ kms.fbSize.toNat) (colors : List ℕ) :
    drawPasses kms bmpmode (colors ++ [color]) ⟨l, m⟩
      = some ⟨l, coloured m (kms.fbSize.toNat / backgroundBytes bmpmode) color⟩ := by
  induction colors generalizing m with
  | nil => simp [drawPasses, drawPass_eq hfb]
  | cons c colors ih =>
      rw [drawPasses, List.cons_append, List.foldlM_cons, drawPass_eq hfb]
      refine (ih (m := coloured m _ c) hfb).trans ?_
      rw [coloured_coloured]

end Pass

/-! ## The visible pixels -/

/-- Lines of whole pixels, one behind the other. -/
structure KmsConfig.Lines (kms : KmsConfig) (n : ℕ) : Prop where
  line_ge : n * kms.fbWidht.toNat ≤ kms.fbLineSize.toNat
  line_dvd : n ∣ kms.fbLineSize.toNat
  size_eq : kms.fbSize.toNat = kms.fbLineSize.toNat * kms.fbHight.toNat

/-- After each pass every visible pixel has the value of the colour, whatever was there before. -/
def BackgroundCovers (p : Program) (kms : KmsConfig) (bmpmode : Bool) : Prop :=
  ∃ value : ℕ → ℕ, ∀ fb : Block, fb.Holds kms.fbSize.toNat →
    ∀ cs c, cs ++ [c] <+: p.colors →
      ∃ fb', drawPasses kms bmpmode (cs ++ [c]) fb = some fb' ∧
        ∀ i < kms.fbHight.toNat, ∀ j < kms.fbWidht.toNat,
          number fb'.byte (backgroundBytes bmpmode)
            (kms.fbLineSize.toNat * i + backgroundBytes bmpmode * j) = value c

section Cover

variable {p : Program} {kms : KmsConfig} {bmpmode : Bool} {m : Mem} {t c i j : ℕ}

/-- A pixel in the coloured part; pixels begin at even offsets. -/
lemma number_coloured {n line : ℕ} (hline : 2 ∣ line) (hn : 2 ∣ n)
    (ht : line * i + n * j + n ≤ 2 * t) :
    number (coloured m t c) n (line * i + n * j) = number (stripes c) n 0 := by
  obtain ⟨a, rfl⟩ := hline
  obtain ⟨b, rfl⟩ := hn
  refine number_congr ?_
  intro k hk
  have hoff : ((2 * a : ℕ) : ℤ) * i + (2 * b : ℕ) * j + k = 2 * (a * i + b * j : ℕ) + k := by
    push_cast
    ring
  have ht' : 2 * (a * i + b * j) + 2 * b ≤ 2 * t := by
    linarith
  rw [hoff, coloured, if_pos (by omega), stripes, stripes]
  congr 3
  omega

/-- The last pixel is in the coloured part. -/
def LastCovered (kms : KmsConfig) (bmpmode : Bool) : Prop :=
  kms.fbLineSize.toNat * (kms.fbHight.toNat - 1) + backgroundBytes bmpmode * kms.fbWidht.toNat
    ≤ 2 * (kms.fbSize.toNat / backgroundBytes bmpmode)

lemma two_dvd_backgroundBytes : 2 ∣ backgroundBytes bmpmode := by
  rw [backgroundBytes]
  split_ifs
  · norm_num
  · norm_num

/-- Then every pixel is. -/
lemma backgroundCovers_of_last (hg : kms.Lines (backgroundBytes bmpmode))
    (hlast : LastCovered kms bmpmode) : BackgroundCovers p kms bmpmode := by
  refine ⟨fun c => number (stripes c) (backgroundBytes bmpmode) 0, ?_⟩
  rintro ⟨l, m⟩ hfb cs c -
  refine ⟨_, drawPasses_eq hfb cs, ?_⟩
  intro i hi j hj
  refine number_coloured (two_dvd_backgroundBytes.trans hg.line_dvd) two_dvd_backgroundBytes ?_
  have hrow : kms.fbLineSize.toNat * i ≤ kms.fbLineSize.toNat * (kms.fbHight.toNat - 1) :=
    Nat.mul_le_mul_left _ (by omega)
  have hcolumn : backgroundBytes bmpmode * (j + 1) ≤ backgroundBytes bmpmode * kms.fbWidht.toNat :=
    Nat.mul_le_mul_left _ hj
  rw [LastCovered] at hlast
  rw [Nat.mul_succ] at hcolumn
  omega

/-- And if it is not, what was in its last byte before remains visible. -/
lemma last_of_backgroundCovers (hw : 0 < kms.fbWidht.toNat) (hh : 0 < kms.fbHight.toNat)
    (hcovers : BackgroundCovers p kms bmpmode) : LastCovered kms bmpmode := by
  by_contra hlast
  obtain ⟨value, hvalue⟩ := hcovers
  have hfirst : [] ++ [0xf800] <+: p.colors := by
    cases p
    all_goals decide
  have hpixel : ∀ x : UInt8, number (coloured (fun _ => x)
      (kms.fbSize.toNat / backgroundBytes bmpmode) 0xf800) (backgroundBytes bmpmode)
      (kms.fbLineSize.toNat * (kms.fbHight.toNat - 1 : ℕ)
        + backgroundBytes bmpmode * (kms.fbWidht.toNat - 1 : ℕ)) = value 0xf800 := by
    intro x
    obtain ⟨fb', hdraw, hpixels⟩ := hvalue ⟨none, fun _ => x⟩ (by simp [Block.Holds]) [] _ hfirst
    obtain rfl := Option.some.inj ((drawPasses_eq (by simp [Block.Holds]) []).symm.trans hdraw)
    exact hpixels _ (by omega) _ (by omega)
  have hbytes : 0 < backgroundBytes bmpmode := by
    cases bmpmode
    all_goals decide
  have hbyte := number_injective ((hpixel 0).trans (hpixel 1).symm) (Nat.sub_lt hbytes Nat.one_pos)
  rw [LastCovered] at hlast
  generalize backgroundBytes bmpmode = n at *
  have hend : n * (kms.fbWidht.toNat - 1) + n = n * kms.fbWidht.toNat := by
    rw [← Nat.mul_succ]
    congr 1
    omega
  -- the last byte of the last pixel is behind the coloured part
  have hout : ¬ ((kms.fbLineSize.toNat * (kms.fbHight.toNat - 1 : ℕ)
      + n * (kms.fbWidht.toNat - 1 : ℕ) + (n - 1 : ℕ) : ℤ) < 2 * (kms.fbSize.toNat / n : ℕ)) := by
    have hlast' : ¬ (kms.fbLineSize.toNat * (kms.fbHight.toNat - 1)
        + n * (kms.fbWidht.toNat - 1) + (n - 1) < 2 * (kms.fbSize.toNat / n)) := by
      omega
    exact_mod_cast hlast'
  simp only [coloured, hout, and_false, if_false] at hbyte
  exact absurd hbyte (by decide)

/-- The coloured part is all of the framebuffer, or its first half. -/
lemma lastCovered_iff (hg : kms.Lines (backgroundBytes bmpmode)) (hw : 0 < kms.fbWidht.toNat)
    (hh : 0 < kms.fbHight.toNat) : LastCovered kms bmpmode ↔
      bmpmode = false ∨ (kms.fbHight.toNat = 1 ∧ 8 * kms.fbWidht.toNat ≤ kms.fbLineSize.toNat) := by
  obtain ⟨q, hq⟩ := hg.line_dvd
  have hge := hg.line_ge
  have hrows : q * (kms.fbHight.toNat - 1) + q = q * kms.fbHight.toNat := by
    rw [← Nat.mul_succ]
    congr 1
    omega
  rw [LastCovered, hg.size_eq, hq, mul_assoc, mul_assoc]
  cases bmpmode with
  | false =>
      simp only [backgroundBytes, Bool.false_eq_true, if_false, true_or, iff_true] at hq hge ⊢
      omega
  | true =>
      simp only [backgroundBytes, if_true, Bool.true_eq_false, false_or] at hq hge ⊢
      constructor
      · intro hlast
        have hone : kms.fbHight.toNat = 1 := by
          by_contra hne
          have htwo : q * 2 ≤ q * kms.fbHight.toNat := Nat.mul_le_mul_left q (by omega)
          omega
        rw [hone] at hlast hrows
        exact ⟨hone, by omega⟩
      · rintro ⟨hone, hwide⟩
        rw [hone]
        omega

/-- **When every pass covers the screen.**  With 2 bytes per pixel; with 4 only a screen of one line
that is at least twice as long as its pixels, or none at all. -/
theorem background_covers_iff (hg : kms.Lines (backgroundBytes bmpmode)) :
    BackgroundCovers p kms bmpmode ↔ bmpmode = false ∨ kms.fbWidht.toNat = 0 ∨
      kms.fbHight.toNat = 0 ∨
      (kms.fbHight.toNat = 1 ∧ 8 * kms.fbWidht.toNat ≤ kms.fbLineSize.toNat) := by
  by_cases hnone : kms.fbWidht.toNat = 0 ∨ kms.fbHight.toNat = 0
  · refine iff_of_true ?_ (by omega)
    refine ⟨fun _ => 0, ?_⟩
    rintro ⟨l, m⟩ hfb cs c -
    exact ⟨_, drawPasses_eq hfb cs, fun i hi j hj => by omega⟩
  · have hw : 0 < kms.fbWidht.toNat := by omega
    have hh : 0 < kms.fbHight.toNat := by omega
    have hlast := lastCovered_iff hg hw hh
    constructor
    · intro hcovers
      rcases hlast.mp (last_of_backgroundCovers hw hh hcovers) with hmode | hline
      · exact .inl hmode
      · exact .inr (.inr (.inr hline))
    · intro h
      exact backgroundCovers_of_last hg (hlast.mpr (by tauto))

end Cover

/-- A screen of 2 by 2 pixels of 2 bytes. -/
theorem background_covers_small : BackgroundCovers .picture ⟨2, 2, 4, 8⟩ false :=
  (background_covers_iff ⟨by decide, by decide, by decide⟩).mpr (.inl rfl)

/-- A screen of 1 by 2 pixels of 4 bytes: the pixel of row 1 is as it was. -/
theorem background_leaves_half :
    (∃ fb', drmDrawBackground .picture ⟨1, 2, 4, 8⟩ true ⟨some 8, fun _ => 0x77⟩ = some fb' ∧
      number fb'.byte 4 4 = 0x77777777) ∧
    ¬ BackgroundCovers .picture ⟨1, 2, 4, 8⟩ true := by
  refine ⟨⟨_, rfl, by decide⟩, ?_⟩
  intro hcovers
  have hlast := last_of_backgroundCovers (by decide) (by decide) hcovers
  rw [LastCovered] at hlast
  exact absurd hlast (by decide)

end Mp157
