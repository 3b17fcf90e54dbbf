import Mathlib.Tactic
import Mp157.Library.Transition

/-!
# Place/transition nets

A net moves tokens between places: transition `t` takes `pre t p` tokens from place `p` and puts
`post t p` there.  Concurrent programs are counted with them: a place is a spot where a resource
can be, a token is the resource, a transition is the step that hands it on.

* `Net.Fires`, `Net.FiresSeq` — one firing and a sequence of firings.
* `Net.FiresSeq.state_equation` — what a sequence leaves in a place is what was there, plus what
  its transitions put, minus what they took; the order of the firings does not matter.
* `Net.FiresSeq.balance` — the state equation for a place fed by one transition and emptied by
  another, in the form used for counting: tokens now plus leavings = tokens before plus arrivals.
* `Net.FiresSeq.conserved` — places that every transition leaves with as many tokens as it found
  (a place invariant).
* `Net.firesSeq_of_run` — a transition system whose steps move the tokens of a net runs through
  firing sequences of it.
-/

namespace Petri

/-- How many tokens lie in each place. -/
abbrev Marking (P : Type*) := P → ℕ

/-- A net, by what each transition takes from and puts into each place. -/
structure Net (P T : Type*) where
  pre : T → P → ℕ
  post : T → P → ℕ

namespace Net

variable {P T : Type*} (N : Net P T)

/-- `t` can fire in `m` and leads to `m'`. -/
def Fires (m : Marking P) (t : T) (m' : Marking P) : Prop :=
  ∀ p, N.pre t p ≤ m p ∧ m' p + N.pre t p = m p + N.post t p

/-- The transitions of the list fire one after another, from `m` to `m'`. -/
inductive FiresSeq (m : Marking P) : List T → Marking P → Prop
  | nil : FiresSeq m [] m
  | snoc {ts : List T} {t : T} {m₁ m₂ : Marking P} :
      FiresSeq m ts m₁ → N.Fires m₁ t m₂ → FiresSeq m (ts ++ [t]) m₂

variable {N} {m m' : Marking P} {ts : List T}

/-- **The state equation.** -/
theorem FiresSeq.state_equation (h : N.FiresSeq m ts m') (p : P) :
    m' p + (ts.map fun t => N.pre t p).sum = m p + (ts.map fun t => N.post t p).sum := by
  induction h with
  | nil => rfl
  | snoc _ hfire ih =>
      have hp := (hfire p).2
      simp only [List.map_append, List.map_cons, List.map_nil, List.sum_append, List.sum_cons,
        List.sum_nil, Nat.add_zero]
      omega

/-! ## Counting -/

/-- A sum that counts one for each occurrence of `a` is the number of occurrences. -/
lemma sum_map_indicator [DecidableEq T] (a : T) (ts : List T) :
    (ts.map fun t => if t = a then 1 else 0).sum = ts.count a := by
  induction ts with
  | nil => rfl
  | cons t ts ih =>
      simp only [List.map_cons, List.sum_cons, ih, List.count_cons, beq_iff_eq]
      split_ifs <;> omega

/-- **Arrivals and leavings.**  In a place that only `a` feeds and only `b` empties, one token at
a time, the tokens now plus the firings of `b` are the tokens at the start plus those of `a`. -/
theorem FiresSeq.balance [DecidableEq T] {p : P} {a b : T}
    (hpost : ∀ t, N.post t p = if t = a then 1 else 0)
    (hpre : ∀ t, N.pre t p = if t = b then 1 else 0) (h : N.FiresSeq m ts m') :
    m' p + ts.count b = m p + ts.count a := by
  have heq := h.state_equation p
  simp only [hpost, hpre, sum_map_indicator] at heq
  exact heq

/-! ## Conserved places -/

variable (N) in
/-- Every transition takes from the places as many tokens as it puts there. -/
def Conserves (ps : List P) : Prop :=
  ∀ t, (ps.map (N.pre t)).sum = (ps.map (N.post t)).sum

lemma Fires.sum_places {t : T} (h : N.Fires m t m') (ps : List P) :
    (ps.map m').sum + (ps.map (N.pre t)).sum = (ps.map m).sum + (ps.map (N.post t)).sum := by
  induction ps with
  | nil => rfl
  | cons p ps ih =>
      have hp := (h p).2
      simp only [List.map_cons, List.sum_cons]
      omega

/-- **Place invariants.** -/
theorem FiresSeq.conserved {ps : List P} (hps : N.Conserves ps) (h : N.FiresSeq m ts m') :
    (ps.map m').sum = (ps.map m).sum := by
  induction h with
  | nil => rfl
  | @snoc _ t _ _ _ hfire ih =>
      have hsum := hfire.sum_places ps
      have ht := hps t
      omega

/-! ## Systems that move tokens -/

open Transition in
/-- **From runs to firing sequences.**  Each action moves no token or is a transition. -/
theorem firesSeq_of_run {S L : Type*} {step : S → L → Option S} {s₀ s : S} {tr : List (S × L)}
    {tokens : S → Marking P} {move : L → Option T}
    (hstep : ∀ s l s', step s l = some s' →
      (move l = none ∧ tokens s' = tokens s) ∨
      ∃ t, move l = some t ∧ N.Fires (tokens s) t (tokens s'))
    (h : Run step s₀ tr s) :
    N.FiresSeq (tokens s₀) (tr.filterMap fun e => move e.2) (tokens s) := by
  induction h with
  | nil => exact FiresSeq.nil
  | snoc _ hst ih =>
      rw [List.filterMap_append]
      rcases hstep _ _ _ hst with ⟨hmove, htok⟩ | ⟨t, hmove, hfire⟩
      · simpa [hmove, htok] using ih
      · simpa [hmove] using ih.snoc hfire

end Net

end Petri
