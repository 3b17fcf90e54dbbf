import Mathlib.Tactic

/-!
# Runs of a labelled transition function

A system is a partial function `step : S → L → Option S`: in state `s` the action `l` is either
not enabled (`none`) or leads to one next state.  Nondeterminism is in the choice of `l`.

* `Run step s₀ tr s` — the actions recorded in `tr` lead from `s₀` to `s`.  Every entry of `tr`
  is the state in which an action was taken together with the action, so that a statement about
  a run can speak of what a step read as well as of which step it was.
* `Run.cut` — a run through an entry splits there: the entry's state is the one its prefix
  reaches.  This is how a fact proved of every run is used in the middle of one.
* `Run.invariant`, `Run.invariant_trace`, `Run.invariant_when` — the induction rules.
* `replay` — runs a list of actions; `run_of_replay` reads the result as a run.
-/

namespace Transition

universe u v

variable {S : Type u} {L : Type v}

/-- A recorded run: each entry is a state and the action taken in it. -/
inductive Run (step : S → L → Option S) (s₀ : S) : List (S × L) → S → Prop
  | nil : Run step s₀ [] s₀
  | snoc {tr : List (S × L)} {s s' : S} {l : L} :
      Run step s₀ tr s → step s l = some s' → Run step s₀ (tr ++ [(s, l)]) s'

/-- Some run leads from `s₀` to `s`. -/
def Reachable (step : S → L → Option S) (s₀ s : S) : Prop :=
  ∃ tr, Run step s₀ tr s

/-- The action can be taken in `s`. -/
def Enabled (step : S → L → Option S) (s : S) (l : L) : Prop :=
  ∃ s', step s l = some s'

/-- What a step with a guard does. -/
lemma guarded_eq_some {p : Prop} [Decidable p] {s s' : S} :
    (if p then some s else none) = some s' ↔ p ∧ s' = s := by
  split_ifs with h <;> simp [h, eq_comm]

variable {step : S → L → Option S} {s₀ s s' : S} {tr : List (S × L)}

lemma Run.single {l : L} (h : step s l = some s') : Run step s [(s, l)] s' :=
  Run.snoc Run.nil h

lemma Run.append {s₁ : S} {tr₁ tr₂ : List (S × L)} (h₁ : Run step s₀ tr₁ s₁)
    (h₂ : Run step s₁ tr₂ s) : Run step s₀ (tr₁ ++ tr₂) s := by
  induction h₂ with
  | nil => simpa using h₁
  | snoc _ hstep ih =>
      rw [← List.append_assoc]
      exact Run.snoc ih hstep

/-- A run over `tr₁ ++ tr₂` passes through a state between the two parts. -/
lemma Run.split {tr₁ tr₂ : List (S × L)} (h : Run step s₀ (tr₁ ++ tr₂) s) :
    ∃ s₁, Run step s₀ tr₁ s₁ ∧ Run step s₁ tr₂ s := by
  induction tr₂ using List.reverseRecOn generalizing s with
  | nil => exact ⟨s, by simpa using h, Run.nil⟩
  | append_singleton tr₂ e ih =>
      rw [← List.append_assoc] at h
      generalize htr : tr₁ ++ tr₂ ++ [e] = tr at h
      cases h with
      | nil => simp at htr
      | snoc hrun hstep =>
          obtain ⟨rfl, he⟩ := List.append_inj' htr rfl
          obtain rfl : e = (_, _) := by simpa using he
          obtain ⟨s₁, h₁, h₂⟩ := ih hrun
          exact ⟨s₁, h₁, Run.snoc h₂ hstep⟩

/-- **Cutting a run at an entry.**  The prefix reaches the state the entry records, and the
entry's action is the next step. -/
theorem Run.cut {pre post : List (S × L)} {t : S} {l : L}
    (h : Run step s₀ (pre ++ (t, l) :: post) s) :
    Run step s₀ pre t ∧ ∃ t', step t l = some t' ∧ Run step t' post s := by
  rw [List.append_cons] at h
  obtain ⟨t', h₁, h₂⟩ := h.split
  generalize htr : pre ++ [(t, l)] = tr at h₁
  cases h₁ with
  | nil => simp at htr
  | snoc hrun hstep =>
      obtain ⟨rfl, he⟩ := List.append_inj' htr rfl
      simp only [List.cons.injEq, Prod.mk.injEq, and_true] at he
      obtain ⟨rfl, rfl⟩ := he
      exact ⟨hrun, t', hstep, h₂⟩

lemma Reachable.refl (s : S) : Reachable step s s := ⟨[], Run.nil⟩

/-- **Invariants of states.**  A predicate kept by every step holds all along a run. -/
theorem Run.invariant {I : S → Prop} (h : Run step s₀ tr s) (h₀ : I s₀)
    (hstep : ∀ s l s', I s → step s l = some s' → I s') : I s := by
  induction h with
  | nil => exact h₀
  | snoc _ hst ih => exact hstep _ _ _ ih hst

/-- **Invariants of histories.**  As `Run.invariant`, for a predicate that also reads what has
happened so far; the step may use that the history is a run. -/
theorem Run.invariant_trace {I : List (S × L) → S → Prop} (h : Run step s₀ tr s) (h₀ : I [] s₀)
    (hstep : ∀ tr s l s', Run step s₀ tr s → I tr s → step s l = some s' →
      I (tr ++ [(s, l)]) s') : I tr s := by
  induction h with
  | nil => exact h₀
  | snoc hrun hst ih => exact hstep _ _ _ _ hrun ih hst

/-- **Invariants of restricted runs.**  As `Run.invariant`, for runs whose steps all meet a
condition on the state before and the action. -/
theorem Run.invariant_when {I : S → Prop} {C : S → L → Prop} (h : Run step s₀ tr s)
    (hall : ∀ e ∈ tr, C e.1 e.2) (h₀ : I s₀)
    (hstep : ∀ s l s', C s l → I s → step s l = some s' → I s') : I s := by
  induction h with
  | nil => exact h₀
  | @snoc tr s s' l _ hst ih =>
      have hthis : C s l := hall (s, l) (by simp)
      have hbefore := ih fun e he => hall e (List.mem_append_left _ he)
      exact hstep s l s' hthis hbefore hst

lemma Reachable.invariant {I : S → Prop} (h : Reachable step s₀ s) (h₀ : I s₀)
    (hstep : ∀ s l s', I s → step s l = some s' → I s') : I s := by
  obtain ⟨tr, htr⟩ := h
  exact htr.invariant h₀ hstep

/-- A loop of actions, through the states `at_`. -/
lemma run_range {at_ : ℕ → S} {l : ℕ → L} {n : ℕ}
    (h : ∀ k < n, step (at_ k) (l k) = some (at_ (k + 1))) :
    Run step (at_ 0) ((List.range n).map fun k => (at_ k, l k)) (at_ n) := by
  induction n with
  | zero => exact Run.nil
  | succ n ih =>
      rw [List.range_succ, List.map_append]
      exact (ih fun k hk => h k (Nat.lt_succ_of_lt hk)).snoc (h n (Nat.lt_succ_self n))

/-! ## Replaying a list of actions -/

/-- Take the actions in order; the history and the last state, if every one was enabled. -/
def replay (step : S → L → Option S) : S → List L → Option (List (S × L) × S)
  | s, [] => some ([], s)
  | s, l :: ls => (step s l).bind fun s' =>
      (replay step s' ls).map fun r => ((s, l) :: r.1, r.2)

theorem run_of_replay :
    ∀ (ls : List L) {s₀ s : S} {tr : List (S × L)},
      replay step s₀ ls = some (tr, s) → Run step s₀ tr s
  | [], s₀, s, tr, h => by
      simp only [replay, Option.some.injEq, Prod.mk.injEq] at h
      obtain ⟨rfl, rfl⟩ := h
      exact Run.nil
  | l :: ls, s₀, s, tr, h => by
      simp only [replay, Option.bind_eq_some_iff, Option.map_eq_some_iff] at h
      obtain ⟨s₁, hstep, ⟨tr', s'⟩, hrest, he⟩ := h
      simp only [Prod.mk.injEq] at he
      obtain ⟨rfl, rfl⟩ := he
      exact (Run.single hstep).append (run_of_replay ls hrest)

lemma map_snd_of_replay :
    ∀ (ls : List L) {s₀ s : S} {tr : List (S × L)},
      replay step s₀ ls = some (tr, s) → tr.map Prod.snd = ls
  | [], s₀, s, tr, h => by
      simp only [replay, Option.some.injEq, Prod.mk.injEq] at h
      rw [← h.1, List.map_nil]
  | l :: ls, s₀, s, tr, h => by
      simp only [replay, Option.bind_eq_some_iff, Option.map_eq_some_iff] at h
      obtain ⟨s₁, _, ⟨tr', s'⟩, hrest, he⟩ := h
      rw [← (Prod.mk.inj he).1, List.map_cons, map_snd_of_replay ls hrest]

/-- The history has the actions of the list. -/
lemma forall_of_replay {ls : List L} (h : replay step s₀ ls = some (tr, s)) {P : L → Prop}
    (hall : ∀ l ∈ ls, P l) : ∀ e ∈ tr, P e.2 := by
  intro e he
  refine hall e.2 ?_
  rw [← map_snd_of_replay ls h]
  exact List.mem_map_of_mem he

/-! ## Simulation -/

section Simulation

variable {T : Type u} {M : Type v} {step' : T → M → Option T}

/-- **Projection of recorded runs.**  If every step of one system is, seen through `abs`, no step
of another or the step `f` names, then a run projects to the run that `f` picks out of it. -/
theorem Run.project {abs : S → T} {f : L → Option M} (h : Run step s₀ tr s)
    (hsim : ∀ s l s', step s l = some s' →
      (f l = none ∧ abs s' = abs s) ∨ ∃ m, f l = some m ∧ step' (abs s) m = some (abs s')) :
    Run step' (abs s₀) (tr.filterMap fun e => (f e.2).map fun m => (abs e.1, m)) (abs s) := by
  induction h with
  | nil => exact Run.nil
  | snoc _ hst ih =>
      rw [List.filterMap_append]
      rcases hsim _ _ _ hst with ⟨hnone, hsame⟩ | ⟨m, hsome, hm⟩
      · simpa [hnone, hsame] using ih
      · simpa [hsome] using ih.snoc hm

/-- **Simulation.**  If every step of one system is, seen through `abs`, no step or one of another,
then it reaches, so seen, only what the other reaches. -/
theorem Reachable.simulates {abs : S → T} (h : Reachable step s₀ s)
    (hsim : ∀ s l s', step s l = some s' →
      abs s' = abs s ∨ ∃ m, step' (abs s) m = some (abs s')) :
    Reachable step' (abs s₀) (abs s) := by
  refine Reachable.invariant (I := fun s => Reachable step' (abs s₀) (abs s)) h
    (Reachable.refl _) ?_
  rintro s l s' ⟨tr, htr⟩ hst
  rcases hsim s l s' hst with hsame | ⟨m, hm⟩
  · exact ⟨tr, hsame ▸ htr⟩
  · exact ⟨_, htr.snoc hm⟩

end Simulation

end Transition
