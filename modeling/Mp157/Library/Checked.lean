import Mathlib.Tactic

/-!
# Signed arithmetic of 32 bits

The result of a signed operation that does not fit can be taken in two ways.  `checked` gives none,
so a computation built from `checked` operations that returns has not overflowed anywhere.  `wrap`
is what a register holds: the exact result but for multiples of `2 ^ 32`.  Where the exact result
fits, the two agree with it (`checked_of_fits`, `wrap_of_fits`).
-/

namespace CInt

/-- The value fits a signed integer of 32 bits. -/
def Fits (x : ℤ) : Prop := -2 ^ 31 ≤ x ∧ x < 2 ^ 31

instance (x : ℤ) : Decidable (Fits x) := inferInstanceAs (Decidable (_ ∧ _))

/-- The result of a signed operation, if it fits. -/
def checked (x : ℤ) : Option ℤ := if Fits x then some x else none

lemma checked_of_fits {x : ℤ} (h : Fits x) : checked x = some x := if_pos h

lemma checked_eq_some {x y : ℤ} (h : checked x = some y) : Fits x ∧ y = x := by
  rw [checked, Option.ite_none_right_eq_some] at h
  exact ⟨h.1, (Option.some.inj h.2).symm⟩

lemma fits_of_nonneg {x : ℤ} (h₀ : 0 ≤ x) (h : x < 2 ^ 31) : Fits x := ⟨by omega, h⟩

/-- The result of a signed operation, in a register. -/
def wrap (x : ℤ) : ℤ := x.bmod (2 ^ 32)

lemma fits_wrap (x : ℤ) : Fits (wrap x) := by
  have hle := Int.le_bmod (x := x) (m := 2 ^ 32) (by norm_num)
  have hlt := Int.bmod_lt (x := x) (m := 2 ^ 32) (by norm_num)
  norm_num at hle hlt
  exact ⟨hle, hlt⟩

lemma wrap_of_fits {x : ℤ} (h : Fits x) : wrap x = x := by
  obtain ⟨hle, hlt⟩ := h
  exact Int.bmod_eq_of_le (by norm_num; omega) (by norm_num; omega)

end CInt
