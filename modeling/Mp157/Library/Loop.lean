import Mathlib.Tactic

/-!
# Loops over fallible bodies

`forRange` is a counting loop, `whileLoop` a loop with a guard and a bound on its rounds; a body
may have no result, and then neither has the loop.  Both rules take the state at the start of
each round as a function of the round's number: the loop runs through it.

A loop has no result when a round it comes to has none (`whileLoop_eq_none`), and a counting loop
that has one went through every round (`forRange_round`).  What it leaves has every invariant of its
body (`forRange_post`); a guarded loop also ends where its guard fails (`whileLoop_post`).  Two
counting loops whose bodies correspond correspond themselves (`forRange_simulates`).

A guarded loop that never returns still has rounds: `Reaches` says where it stands after each of
them, and a loop that returns does so in a state it reaches (`reaches_of_whileLoop`).
-/

namespace CLoop

universe u

variable {σ : Type u}

/-- `for (i = 0; i < n; i++) body` -/
def forRange (n : ℕ) (body : σ → ℕ → Option σ) (s : σ) : Option σ :=
  (List.range n).foldlM body s

@[simp] lemma forRange_zero (body : σ → ℕ → Option σ) (s : σ) : forRange 0 body s = some s := rfl

lemma forRange_succ (n : ℕ) (body : σ → ℕ → Option σ) (s : σ) :
    forRange (n + 1) body s = (forRange n body s).bind fun s' => body s' n := by
  simp [forRange, List.range_succ, List.foldlM_append]

/-- **The rule of the counting loop.** -/
theorem forRange_eq {body : σ → ℕ → Option σ} (at_ : ℕ → σ) :
    ∀ {n : ℕ}, (∀ k < n, body (at_ k) k = some (at_ (k + 1))) →
      forRange n body (at_ 0) = some (at_ n)
  | 0, _ => rfl
  | n + 1, h => by
      rw [forRange_succ, forRange_eq at_ fun k hk => h k (by omega)]
      exact h n (by omega)

/-- A counting loop returns when every round keeps an invariant and has a result. -/
theorem forRange_exists {body : σ → ℕ → Option σ} {I : σ → Prop} {n : ℕ} {s : σ} (h₀ : I s)
    (hbody : ∀ t, ∀ k < n, I t → ∃ t', body t k = some t' ∧ I t') :
    ∃ s', forRange n body s = some s' ∧ I s' := by
  induction n with
  | zero => exact ⟨s, rfl, h₀⟩
  | succ n ih =>
      obtain ⟨t, ht, hI⟩ := ih fun t k hk => hbody t k (by omega)
      obtain ⟨t', ht', hI'⟩ := hbody t n (Nat.lt_succ_self n) hI
      exact ⟨t', by rw [forRange_succ, ht, Option.bind_some, ht'], hI'⟩

/-- A counting loop that returns has been through every round. -/
lemma forRange_round {body : σ → ℕ → Option σ} {n k : ℕ} {s s' : σ}
    (h : forRange n body s = some s') (hk : k < n) :
    ∃ t t', forRange k body s = some t ∧ body t k = some t' := by
  induction n generalizing s' with
  | zero => exact absurd hk (Nat.not_lt_zero k)
  | succ n ih =>
      rw [forRange_succ, Option.bind_eq_some_iff] at h
      obtain ⟨t, ht, hlast⟩ := h
      rcases Nat.lt_succ_iff_lt_or_eq.mp hk with hlt | rfl
      · exact ih ht hlt
      · exact ⟨t, s', ht, hlast⟩

/-- **What a counting loop leaves**: every invariant of its body. -/
theorem forRange_post {body : σ → ℕ → Option σ} {I : σ → Prop}
    (hbody : ∀ t k t', I t → body t k = some t' → I t') {n : ℕ} {s s' : σ} (h₀ : I s)
    (h : forRange n body s = some s') : I s' := by
  induction n generalizing s' with
  | zero =>
      obtain rfl := Option.some.inj h
      exact h₀
  | succ n ih =>
      rw [forRange_succ, Option.bind_eq_some_iff] at h
      obtain ⟨t, ht, hlast⟩ := h
      exact hbody t n s' (ih ht) hlast

/-- **Two counting loops side by side.**  Where the first returns, so does the second, in a related
state. -/
theorem forRange_simulates {τ : Type u} {body : σ → ℕ → Option σ} {body' : τ → ℕ → Option τ}
    {R : σ → τ → Prop}
    (hbody : ∀ s t k s', R s t → body s k = some s' → ∃ t', body' t k = some t' ∧ R s' t')
    {n : ℕ} {s s' : σ} {t : τ} (h₀ : R s t) (h : forRange n body s = some s') :
    ∃ t', forRange n body' t = some t' ∧ R s' t' := by
  induction n generalizing s' with
  | zero =>
      obtain rfl := Option.some.inj h
      exact ⟨t, rfl, h₀⟩
  | succ n ih =>
      rw [forRange_succ, Option.bind_eq_some_iff] at h
      obtain ⟨s₁, hs₁, hlast⟩ := h
      obtain ⟨t₁, ht₁, hR⟩ := ih hs₁
      obtain ⟨t', ht', hR'⟩ := hbody s₁ t₁ n s' hR hlast
      exact ⟨t', by rw [forRange_succ, ht₁, Option.bind_some, ht'], hR'⟩

/-- `while (guard) body`, given up after `fuel` rounds. -/
def whileLoop : ℕ → (σ → Bool) → (σ → Option σ) → σ → Option σ
  | 0, _, _, _ => none
  | fuel + 1, guard, body, s =>
      if guard s then (body s).bind (whileLoop fuel guard body) else some s

/-- **The rule of the guarded loop.**  The guard holds for `k` rounds and then fails. -/
theorem whileLoop_eq {guard : σ → Bool} {body : σ → Option σ} (at_ : ℕ → σ) (k : ℕ)
    (hexit : guard (at_ k) = false) :
    ∀ {fuel j : ℕ}, j ≤ k → k < j + fuel →
      (∀ i, j ≤ i → i < k → guard (at_ i) = true ∧ body (at_ i) = some (at_ (i + 1))) →
      whileLoop fuel guard body (at_ j) = some (at_ k)
  | 0, j, hjk, hfuel, _ => absurd hfuel (by omega)
  | fuel + 1, j, hjk, hfuel, h => by
      rw [whileLoop]
      rcases hjk.eq_or_lt with rfl | hlt
      · simp [hexit]
      · obtain ⟨hguard, hbody⟩ := h j le_rfl hlt
        rw [if_pos hguard, hbody, Option.bind_some]
        exact whileLoop_eq at_ k hexit (by omega) (by omega)
          fun i hi hik => h i (by omega) hik

/-- A guarded loop that comes to a round without a result has none. -/
theorem whileLoop_eq_none {guard : σ → Bool} {body : σ → Option σ} (at_ : ℕ → σ) (k : ℕ)
    (hguard : guard (at_ k) = true) (hbody : body (at_ k) = none) :
    ∀ {fuel j : ℕ}, j ≤ k →
      (∀ i, j ≤ i → i < k → guard (at_ i) = true ∧ body (at_ i) = some (at_ (i + 1))) →
      whileLoop fuel guard body (at_ j) = none
  | 0, _, _, _ => rfl
  | fuel + 1, j, hjk, h => by
      rw [whileLoop]
      rcases hjk.eq_or_lt with rfl | hlt
      · rw [if_pos hguard, hbody, Option.bind_none]
      · obtain ⟨hguard', hbody'⟩ := h j le_rfl hlt
        rw [if_pos hguard', hbody', Option.bind_some]
        exact whileLoop_eq_none at_ k hguard hbody (by omega) fun i hi hik => h i (by omega) hik

/-- **What a guarded loop leaves**: its invariant, and a guard that fails. -/
theorem whileLoop_post {guard : σ → Bool} {body : σ → Option σ} {I : σ → Prop}
    (hbody : ∀ s s', I s → guard s = true → body s = some s' → I s') :
    ∀ {fuel : ℕ} {s s' : σ}, I s → whileLoop fuel guard body s = some s' →
      I s' ∧ guard s' = false
  | 0, _, _, _, h => by cases h
  | fuel + 1, s, s', hI, h => by
      rw [whileLoop] at h
      split_ifs at h with hguard
      · obtain ⟨t, ht, hrest⟩ := Option.bind_eq_some_iff.mp h
        exact whileLoop_post hbody (hbody s t hI hguard ht) hrest
      · obtain rfl := Option.some.inj h
        exact ⟨hI, by simpa using hguard⟩

/-- After `n` rounds begun in `s` the loop `while (guard) body` stands in a state. -/
inductive Reaches (guard : σ → Bool) (body : σ → Option σ) (s : σ) : ℕ → σ → Prop
  | start : Reaches guard body s 0 s
  | round {n : ℕ} {t t' : σ} (h : Reaches guard body s n t) (hguard : guard t = true)
      (hbody : body t = some t') : Reaches guard body s (n + 1) t'

section Reaches

variable {guard : σ → Bool} {body : σ → Option σ} {s : σ}

/-- The rounds after the first are rounds of a loop begun one round later. -/
lemma Reaches.first {n : ℕ} {s₁ s' : σ} (hguard : guard s = true) (hbody : body s = some s₁)
    (h : Reaches guard body s₁ n s') : Reaches guard body s (n + 1) s' := by
  induction h with
  | start => exact Reaches.start.round hguard hbody
  | round _ hg hb ih => exact ih.round hg hb

/-- Where the loop stands is told by the number of its rounds. -/
lemma Reaches.eq {at_ : ℕ → σ}
    (hround : ∀ n, guard (at_ n) = true → body (at_ n) = some (at_ (n + 1))) {n : ℕ} {s' : σ}
    (h : Reaches guard body (at_ 0) n s') : s' = at_ n := by
  induction h with
  | start => rfl
  | round _ hg hb ih =>
      subst ih
      exact Option.some.inj (hb.symm.trans (hround _ hg))

/-- A round was made only where the guard held. -/
lemma Reaches.guards {at_ : ℕ → σ}
    (hround : ∀ n, guard (at_ n) = true → body (at_ n) = some (at_ (n + 1))) {n : ℕ} {s' : σ}
    (h : Reaches guard body (at_ 0) n s') : ∀ k < n, guard (at_ k) = true := by
  induction h with
  | start => exact fun k hk => absurd hk (Nat.not_lt_zero k)
  | round h hg _ ih =>
      intro k hk
      rcases Nat.lt_succ_iff_lt_or_eq.mp hk with hlt | rfl
      · exact ih k hlt
      · exact h.eq hround ▸ hg

/-- Rounds whose guards hold are reached. -/
lemma reaches_of_guards {at_ : ℕ → σ}
    (hround : ∀ n, guard (at_ n) = true → body (at_ n) = some (at_ (n + 1))) :
    ∀ {n : ℕ}, (∀ k < n, guard (at_ k) = true) → Reaches guard body (at_ 0) n (at_ n)
  | 0, _ => .start
  | n + 1, h => (reaches_of_guards hround fun k hk => h k (by omega)).round (h n (by omega))
      (hround n (h n (by omega)))

/-- A loop that returns does so in a state it reaches. -/
theorem reaches_of_whileLoop : ∀ {fuel : ℕ} {s s' : σ}, whileLoop fuel guard body s = some s' →
    ∃ n, Reaches guard body s n s'
  | 0, _, _, h => by cases h
  | fuel + 1, s, s', h => by
      rw [whileLoop] at h
      split_ifs at h with hguard
      · obtain ⟨t, ht, hrest⟩ := Option.bind_eq_some_iff.mp h
        obtain ⟨n, hn⟩ := reaches_of_whileLoop hrest
        exact ⟨n + 1, hn.first hguard ht⟩
      · obtain rfl := Option.some.inj h
        exact ⟨0, .start⟩

end Reaches

end CLoop
