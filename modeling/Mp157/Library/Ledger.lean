import Mathlib.Data.List.Perm.Basic
import Mathlib.Data.List.Nodup
import Mathlib.Data.List.Range

/-!
# A ledger of objects

Objects are handed out and given back.  Each one handed out is new, so its number says which it is.
`Owes` says which of them are still to be given back; `settled_iff` is the balance at the end.
-/

namespace Ledger

/-- How many objects have been handed out, and which have been given back, the last one first. -/
structure Book where
  obtained : ℕ
  freed : List ℕ
deriving DecidableEq

variable {b : Book} {owed : List ℕ}

/-- One more object is handed out; it is number `b.obtained`. -/
def Book.obtain (b : Book) : Book := { b with obtained := b.obtained + 1 }

/-- Object `h` is given back. -/
def Book.free (h : ℕ) (b : Book) : Book := { b with freed := h :: b.freed }

/-- Everything handed out has been given back once. -/
def Book.Settled (b : Book) : Prop := ∀ h < b.obtained, b.freed.count h = 1

/-- The objects handed out are those owed and those given back. -/
def Book.Owes (b : Book) (owed : List ℕ) : Prop :=
  (owed ++ b.freed).Perm (List.range b.obtained)

/-- Nothing has been handed out yet. -/
lemma Book.owes_start : (⟨0, []⟩ : Book).Owes [] := List.Perm.refl _

lemma Book.Owes.obtain (h : b.Owes owed) : b.obtain.Owes (b.obtained :: owed) := by
  have hnew : (List.range (b.obtained + 1)).Perm (b.obtained :: List.range b.obtained) := by
    rw [List.range_succ]
    exact List.perm_append_singleton _ _
  exact (List.Perm.cons _ h).trans hnew.symm

lemma Book.Owes.free {k : ℕ} (h : b.Owes (k :: owed)) : (b.free k).Owes owed :=
  List.perm_middle.trans h

/-- **The balance.**  Everything is given back once exactly when nothing is owed. -/
theorem Book.Owes.settled_iff (h : b.Owes owed) : b.Settled ↔ owed = [] := by
  have hcount : ∀ k < b.obtained, owed.count k + b.freed.count k = 1 := by
    intro k hk
    rw [← List.count_append, h.count_eq]
    exact List.count_eq_one_of_mem List.nodup_range (List.mem_range.mpr hk)
  constructor
  · intro hsettled
    refine List.eq_nil_iff_forall_not_mem.mpr ?_
    intro k hk
    have hlt : k < b.obtained :=
      List.mem_range.mp (h.subset (List.mem_append_left _ hk))
    have hone := hsettled k hlt
    have hsum := hcount k hlt
    have hpos := List.count_pos_iff.mpr hk
    omega
  · rintro rfl k hk
    simpa using hcount k hk

/-- The objects are given back in whatever order, but what is owed stays as it was. -/
def Balanced (b b' : Book) : Prop := ∀ owed, b.Owes owed → b'.Owes owed

lemma Balanced.refl (b : Book) : Balanced b b := fun _ h => h

lemma Balanced.trans {b' b'' : Book} (h : Balanced b b') (h' : Balanced b' b'') : Balanced b b'' :=
  fun owed howed => h' owed (h owed howed)

/-- What is handed out and, when everything after it is balanced, given back. -/
lemma Balanced.bracket {b' : Book} (h : Balanced b.obtain b') :
    Balanced b (b'.free b.obtained) :=
  fun _ howed => (h _ howed.obtain).free

/-! ## Owners -/

/-- When an owner of nothing comes to own `bs`, they all come to own that much more. -/
theorem flatMap_update_perm {α β : Type*} [DecidableEq α] {owners : List α} {owns : α → List β}
    {k : α} (hnodup : owners.Nodup) (hk : k ∈ owners) (hnone : owns k = []) (bs : List β) :
    (owners.flatMap (Function.update owns k bs)).Perm (owners.flatMap owns ++ bs) := by
  induction owners with
  | nil => cases hk
  | cons a owners ih =>
      obtain ⟨hnew, hrest⟩ := List.nodup_cons.mp hnodup
      rw [List.flatMap_cons, List.flatMap_cons]
      rcases eq_or_ne a k with rfl | hne
      · have hothers : owners.flatMap (Function.update owns a bs) = owners.flatMap owns := by
          refine List.flatMap_congr ?_
          intro b hb
          exact Function.update_of_ne (ne_of_mem_of_not_mem hb hnew) _ _
        rw [Function.update_self, hnone, hothers]
        exact List.perm_append_comm
      · rw [Function.update_of_ne hne, List.append_assoc]
        exact (ih hrest ((List.mem_cons.mp hk).resolve_left hne.symm)).append_left _

end Ledger
