import Mathlib.Tactic

/-!
# Set-up in stages

A set-up is a sequence of stages over a state of what has been acquired.  A stage is done with a
new state, fails and leaves the state it has reached, or crashes.  Failing keeps the state: what
an early return leaves behind is what the cleanup has to deal with.

`Keeps` is for facts that hold whichever way the set-up ends, `stages_eq_done` for when a loop is
done and what it has done by then.  `tryEach` is the other loop: it goes through alternatives
until one does not fail, and `tryEach_eq_done` says which one that is.  Where alternatives that fail
leave something behind, `tryEach_rounds` carries what is true of it from one to the next.
-/

namespace Stages

universe u

/-- How a stage ends. -/
inductive Outcome (σ : Type u)
  | done (s : σ)
  | failed (s : σ)
  | crashed

variable {σ : Type u}

/-- Go on with the next stage, if this one is done. -/
def Outcome.andThen : Outcome σ → (σ → Outcome σ) → Outcome σ
  | .done s, f => f s
  | .failed s, _ => .failed s
  | .crashed, _ => .crashed

/-- The stages `body 0`, ..., `body (n - 1)`. -/
def stages (n : ℕ) (body : ℕ → σ → Outcome σ) (s : σ) : Outcome σ :=
  (List.range n).foldl (fun r i => r.andThen (body i)) (.done s)

lemma stages_succ (n : ℕ) (body : ℕ → σ → Outcome σ) (s : σ) :
    stages (n + 1) body s = (stages n body s).andThen (body n) := by
  simp [stages, List.range_succ]

lemma Outcome.andThen_eq_done {r : Outcome σ} {f : σ → Outcome σ} {s : σ} :
    r.andThen f = .done s ↔ ∃ s', r = .done s' ∧ f s' = .done s := by
  cases r <;> simp [Outcome.andThen]

lemma Outcome.andThen_eq_crashed {r : Outcome σ} {f : σ → Outcome σ} :
    r.andThen f = .crashed ↔ r = .crashed ∨ ∃ s, r = .done s ∧ f s = .crashed := by
  cases r <;> simp [Outcome.andThen]

lemma Outcome.andThen_eq_failed {r : Outcome σ} {f : σ → Outcome σ} {s : σ} :
    r.andThen f = .failed s ↔ r = .failed s ∨ ∃ s', r = .done s' ∧ f s' = .failed s := by
  cases r <;> simp [Outcome.andThen]

/-- **When a loop is done.**  Round `k` is done exactly when `P k` holds, and leads through the
states `at_`. -/
theorem stages_eq_done {body : ℕ → σ → Outcome σ} {P : ℕ → Prop} (at_ : ℕ → σ)
    (hbody : ∀ k s, body k (at_ k) = .done s ↔ P k ∧ s = at_ (k + 1)) {n : ℕ} {s : σ} :
    stages n body (at_ 0) = .done s ↔ (∀ k < n, P k) ∧ s = at_ n := by
  induction n generalizing s with
  | zero => simp [stages, eq_comm]
  | succ n ih =>
      rw [stages_succ, Outcome.andThen_eq_done]
      constructor
      · rintro ⟨s', hs', hround⟩
        obtain ⟨hbefore, rfl⟩ := ih.mp hs'
        obtain ⟨hthis, rfl⟩ := (hbody n s).mp hround
        refine ⟨?_, rfl⟩
        intro k hk
        rcases Nat.lt_succ_iff_lt_or_eq.mp hk with hlt | rfl
        · exact hbefore k hlt
        · exact hthis
      · rintro ⟨hall, rfl⟩
        have hbefore := fun k hk => hall k (Nat.lt_succ_of_lt hk)
        exact ⟨at_ n, ih.mpr ⟨hbefore, rfl⟩, (hbody n _).mpr ⟨hall n (Nat.lt_succ_self n), rfl⟩⟩

/-- **Where it stops else.**  In the first round that is not done. -/
theorem stages_eq_of_ne_done {body : ℕ → σ → Outcome σ} {P : ℕ → Prop} (at_ : ℕ → σ)
    (hbody : ∀ k s, body k (at_ k) = .done s ↔ P k ∧ s = at_ (k + 1)) {n : ℕ} {r : Outcome σ}
    (hr : ∀ t, r ≠ .done t) :
    stages n body (at_ 0) = r ↔ ∃ k < n, (∀ j < k, P j) ∧ body k (at_ k) = r := by
  induction n with
  | zero => simp [stages, (hr _).symm]
  | succ n ih =>
      rw [stages_succ]
      by_cases hall : ∀ j < n, P j
      · rw [(stages_eq_done at_ hbody).mpr ⟨hall, rfl⟩, Outcome.andThen]
        constructor
        · intro hlast
          exact ⟨n, Nat.lt_succ_self n, hall, hlast⟩
        · rintro ⟨k, hk, -, hstop⟩
          rcases Nat.lt_succ_iff_lt_or_eq.mp hk with hlt | rfl
          · exact absurd (hstop.symm.trans ((hbody k _).mpr ⟨hall k hlt, rfl⟩)) (hr _)
          · exact hstop
      · have hsame : (stages n body (at_ 0)).andThen (body n) = stages n body (at_ 0) := by
          cases hloop : stages n body (at_ 0) with
          | done t => exact absurd ((stages_eq_done at_ hbody).mp hloop).1 hall
          | failed t => rfl
          | crashed => rfl
        rw [hsame, ih]
        constructor
        · rintro ⟨k, hk, h⟩
          exact ⟨k, Nat.lt_succ_of_lt hk, h⟩
        · rintro ⟨k, hk, hbefore, hstop⟩
          rcases Nat.lt_succ_iff_lt_or_eq.mp hk with hlt | rfl
          · exact ⟨k, hlt, hbefore, hstop⟩
          · exact absurd hbefore hall

/-- Filling one more entry of an array. -/
lemma update_filled {α : Type*} (f g : ℕ → α) (k : ℕ) :
    Function.update (fun i => if i < k then f i else g i) k (f k)
      = fun i => if i < k + 1 then f i else g i := by
  funext i
  rcases lt_trichotomy i k with hi | rfl | hi
  · rw [Function.update_of_ne hi.ne, if_pos hi, if_pos (by omega)]
  · rw [Function.update_self, if_pos (by omega)]
  · rw [Function.update_of_ne hi.ne', if_neg (by omega), if_neg (by omega)]

/-- `P` holds of the state the outcome leaves, if there is one. -/
def Outcome.Leaves (P : σ → Prop) : Outcome σ → Prop
  | .done s | .failed s => P s
  | .crashed => True

/-- However the stage ends, it keeps `P`. -/
def Keeps (P : σ → Prop) (f : σ → Outcome σ) : Prop := ∀ s, P s → (f s).Leaves P

variable {P : σ → Prop}

lemma Outcome.Leaves.andThen {r : Outcome σ} {f : σ → Outcome σ} (hr : r.Leaves P)
    (hf : Keeps P f) : (r.andThen f).Leaves P := by
  cases r with
  | done s => exact hf s hr
  | failed s => exact hr
  | crashed => trivial

/-- **The loop rule.** -/
theorem Keeps.stages {body : ℕ → σ → Outcome σ} (hbody : ∀ i, Keeps P (body i)) :
    ∀ n, Keeps P (stages n body)
  | 0 => fun _ hs => hs
  | n + 1 => fun s hs => by
      rw [stages_succ]
      exact (Keeps.stages hbody n s hs).andThen (hbody n)

/-- `P` holds of the state when the stage is done, `Q` when it has failed. -/
def Outcome.Ends (P Q : σ → Prop) : Outcome σ → Prop
  | .done s => P s
  | .failed s => Q s
  | .crashed => True

section Ends

variable {P P' Q : σ → Prop}

lemma Outcome.Ends.andThen {r : Outcome σ} {f : σ → Outcome σ} (hr : r.Ends P Q)
    (hf : ∀ s, P s → (f s).Ends P' Q) : (r.andThen f).Ends P' Q := by
  cases r with
  | done s => exact hf s hr
  | failed s => exact hr
  | crashed => trivial

/-- **The loop rule with rounds.**  `I k` holds when round `k` begins. -/
theorem stages_ends {body : ℕ → σ → Outcome σ} {I : ℕ → σ → Prop} {n : ℕ}
    (hround : ∀ k < n, ∀ s, I k s → (body k s).Ends (I (k + 1)) Q) {s : σ} (hs : I 0 s) :
    (stages n body s).Ends (I n) Q := by
  induction n with
  | zero => exact hs
  | succ n ih =>
      rw [stages_succ]
      exact (ih fun k hk => hround k (Nat.lt_succ_of_lt hk)).andThen (hround n (Nat.lt_succ_self n))

end Ends

/-! ## Alternatives -/

section Alternatives

variable {α : Type*}

/-- Try the next alternative, if this one fails. -/
def Outcome.orElse : Outcome σ → (σ → Outcome σ) → Outcome σ
  | .failed s, f => f s
  | r, _ => r

/-- Try the alternatives in order until one does not fail. -/
def tryEach (body : α → σ → Outcome σ) : List α → σ → Outcome σ
  | [], s => .failed s
  | a :: as, s => (body a s).orElse (tryEach body as)

/-- An alternative that fails leaves the state as it was. -/
def Restores (body : α → σ → Outcome σ) : Prop := ∀ a s s', body a s = .failed s' → s' = s

variable {body : α → σ → Outcome σ} {s s' : σ}

lemma Outcome.orElse_eq_done {r : Outcome σ} {f : σ → Outcome σ} :
    r.orElse f = .done s' ↔ r = .done s' ∨ ∃ t, r = .failed t ∧ f t = .done s' := by
  cases r <;> simp [Outcome.orElse]

lemma Outcome.orElse_eq_failed {r : Outcome σ} {f : σ → Outcome σ} :
    r.orElse f = .failed s' ↔ ∃ t, r = .failed t ∧ f t = .failed s' := by
  cases r <;> simp [Outcome.orElse]

lemma Outcome.orElse_eq_crashed {r : Outcome σ} {f : σ → Outcome σ} :
    r.orElse f = .crashed ↔ r = .crashed ∨ ∃ t, r = .failed t ∧ f t = .crashed := by
  cases r <;> simp [Outcome.orElse]

@[simp] lemma Outcome.orElse_failed (r : Outcome σ) : r.orElse .failed = r := by
  cases r <;> rfl

/-- A failing first alternative is as if it were not there. -/
lemma tryEach_cons_failed {a : α} {as : List α} (ha : body a s = .failed s) :
    tryEach body (a :: as) s = tryEach body as s := by
  rw [tryEach, ha, Outcome.orElse]

lemma tryEach_of_failed {as : List α} (hall : ∀ a ∈ as, body a s = .failed s) :
    tryEach body as s = .failed s := by
  induction as with
  | nil => rfl
  | cons a as ih =>
      obtain ⟨hfirst, hrest⟩ := List.forall_mem_cons.mp hall
      rw [tryEach_cons_failed hfirst, ih hrest]

/-- **When a search fails.** -/
theorem tryEach_eq_failed (hbody : Restores body) {as : List α} :
    tryEach body as s = .failed s' ↔ (∀ a ∈ as, body a s = .failed s) ∧ s' = s := by
  induction as with
  | nil => simp [tryEach, eq_comm]
  | cons a as ih =>
      rw [List.forall_mem_cons]
      cases hround : body a s with
      | done t => simp [tryEach, hround, Outcome.orElse]
      | crashed => simp [tryEach, hround, Outcome.orElse]
      | failed t =>
          obtain rfl := (hbody a s t hround).symm
          rw [tryEach_cons_failed hround, ih]
          simp

/-- When every alternative fails or ends in `r`, and one ends in `r`, so does the search. -/
lemma tryEach_eq_of_mem {r : Outcome σ} (hr : ∀ t, r ≠ .failed t) {as : List α}
    (hall : ∀ a ∈ as, body a s = .failed s ∨ body a s = r) (hone : ∃ a ∈ as, body a s = r) :
    tryEach body as s = r := by
  induction as with
  | nil => simp at hone
  | cons a as ih =>
      obtain ⟨hfirst, hrest⟩ := List.forall_mem_cons.mp hall
      rcases hfirst with hfailed | hdone
      · rw [tryEach_cons_failed hfailed]
        obtain ⟨b, hb, hbr⟩ := hone
        rcases List.mem_cons.mp hb with rfl | hmem
        · exact absurd (hbr.symm.trans hfailed) (hr s)
        · exact ih hrest ⟨b, hmem, hbr⟩
      · rw [tryEach, hdone]
        cases r with
        | failed t => exact absurd rfl (hr t)
        | done t => rfl
        | crashed => rfl

lemma Outcome.orElse_eq {r r' : Outcome σ} {f : σ → Outcome σ} (hr' : ∀ t, r' ≠ .failed t) :
    r.orElse f = r' ↔ r = r' ∨ ∃ t, r = .failed t ∧ f t = r' := by
  cases r with
  | done s => simp [Outcome.orElse]
  | crashed => simp [Outcome.orElse]
  | failed s => simp [Outcome.orElse, (hr' s).symm]

/-- **Which alternative decides.**  The first that does not fail. -/
theorem tryEach_eq {r : Outcome σ} (hr : ∀ t, r ≠ .failed t) (hbody : Restores body)
    {as : List α} : tryEach body as s = r ↔ ∃ before a after, as = before ++ a :: after ∧
      (∀ b ∈ before, body b s = .failed s) ∧ body a s = r := by
  induction as with
  | nil => simp [tryEach, (hr s).symm]
  | cons a as ih =>
      constructor
      · intro heq
        rw [tryEach, Outcome.orElse_eq hr] at heq
        rcases heq with hfirst | ⟨t, hfirst, hrest⟩
        · exact ⟨[], a, as, rfl, by simp, hfirst⟩
        · obtain rfl := (hbody a s t hfirst).symm
          obtain ⟨before, b, after, rfl, hbefore, hb⟩ := ih.mp hrest
          exact ⟨a :: before, b, after, rfl, List.forall_mem_cons.mpr ⟨hfirst, hbefore⟩, hb⟩
      · rintro ⟨before, b, after, has, hbefore, hb⟩
        cases before with
        | nil =>
            obtain ⟨rfl, rfl⟩ := List.cons.inj has
            exact (Outcome.orElse_eq hr).mpr (.inl hb)
        | cons first before =>
            obtain ⟨rfl, rfl⟩ := List.cons.inj has
            obtain ⟨hfirst, hrest⟩ := List.forall_mem_cons.mp hbefore
            rw [tryEach_cons_failed hfirst]
            exact ih.mpr ⟨before, b, after, rfl, hrest, hb⟩

/-- **Which alternative is taken.** -/
theorem tryEach_eq_done (hbody : Restores body) {as : List α} :
    tryEach body as s = .done s' ↔ ∃ before a after, as = before ++ a :: after ∧
      (∀ b ∈ before, body b s = .failed s) ∧ body a s = .done s' := by
  refine tryEach_eq ?_ hbody
  intro t h
  cases h

/-- **Where a search crashes.** -/
theorem tryEach_eq_crashed (hbody : Restores body) {as : List α} :
    tryEach body as s = .crashed ↔ ∃ before a after, as = before ++ a :: after ∧
      (∀ b ∈ before, body b s = .failed s) ∧ body a s = .crashed := by
  refine tryEach_eq ?_ hbody
  intro t h
  cases h

/-- A search is done if it can reach an alternative that is, crashing at none before it. -/
theorem exists_tryEach_eq_done (hbody : Restores body) {before after : List α} {a : α}
    (hbefore : ∀ b ∈ before, body b s ≠ .crashed) (ha : body a s = .done s') :
    ∃ t, tryEach body (before ++ a :: after) s = .done t := by
  induction before with
  | nil => exact ⟨s', Outcome.orElse_eq_done.mpr (.inl ha)⟩
  | cons first before ih =>
      obtain ⟨hfirst, hrest⟩ := List.forall_mem_cons.mp hbefore
      cases hround : body first s with
      | done t => exact ⟨t, Outcome.orElse_eq_done.mpr (.inl hround)⟩
      | crashed => exact absurd hround hfirst
      | failed t =>
          obtain rfl := (hbody first s t hround).symm
          rw [List.cons_append, tryEach_cons_failed hround]
          exact ih hrest

lemma tryEach_append (as bs : List α) :
    tryEach body (as ++ bs) s = (tryEach body as s).orElse (tryEach body bs) := by
  induction as generalizing s with
  | nil => rfl
  | cons a as ih =>
      rw [List.cons_append, tryEach, tryEach]
      cases body a s with
      | done t => rfl
      | failed t => exact ih
      | crashed => rfl

/-- **Numbered alternatives.**  `I k` is true of what the alternatives before number `k` leave
behind: a search that ends, ends in a round that began with it. -/
theorem tryEach_rounds {body : ℕ → σ → Outcome σ} {I : ℕ → σ → Prop} {n : ℕ} {s : σ} (hzero : I 0 s)
    (hround : ∀ k < n, ∀ t t', I k t → body k t = .failed t' → I (k + 1) t') :
    (∃ t, tryEach body (List.range n) s = .failed t ∧ I n t) ∨
      ∃ k < n, ∃ t, I k t ∧ tryEach body (List.range n) s = body k t ∧
        ∀ t', body k t ≠ .failed t' := by
  induction n with
  | zero => exact .inl ⟨s, rfl, hzero⟩
  | succ n ih =>
      rw [List.range_succ, tryEach_append]
      rcases ih fun k hk => hround k (Nat.lt_succ_of_lt hk) with
        ⟨t, ht, hn⟩ | ⟨k, hk, t, ht, heq, hne⟩
      · simp only [ht, Outcome.orElse, tryEach]
        cases hlast : body n t with
        | done t' => exact .inr ⟨n, Nat.lt_succ_self n, t, hn, hlast.symm, by simp [hlast]⟩
        | crashed => exact .inr ⟨n, Nat.lt_succ_self n, t, hn, hlast.symm, by simp [hlast]⟩
        | failed t' => exact .inl ⟨t', rfl, hround n (Nat.lt_succ_self n) t t' hn hlast⟩
      · refine .inr ⟨k, Nat.lt_succ_of_lt hk, t, ht, ?_, hne⟩
        rw [heq]
        cases hend : body k t with
        | done t' => rfl
        | crashed => rfl
        | failed t' => exact absurd hend (hne t')

/-! ## Outcomes seen through a function -/

section Map

universe v

variable {τ : Type v} {f : σ → τ}

/-- The outcome, with what `f` shows of the state. -/
def Outcome.map (f : σ → τ) : Outcome σ → Outcome τ
  | .done s => .done (f s)
  | .failed s => .failed (f s)
  | .crashed => .crashed

lemma Outcome.map_eq_done {r : Outcome σ} {t : τ} :
    r.map f = .done t ↔ ∃ s, r = .done s ∧ f s = t := by
  cases r <;> simp [Outcome.map]

lemma Outcome.map_eq_failed {r : Outcome σ} {t : τ} :
    r.map f = .failed t ↔ ∃ s, r = .failed s ∧ f s = t := by
  cases r <;> simp [Outcome.map]

lemma Outcome.map_eq_crashed {r : Outcome σ} : r.map f = .crashed ↔ r = .crashed := by
  cases r <;> simp [Outcome.map]

lemma Outcome.map_map {υ : Type*} (g : τ → υ) (r : Outcome σ) :
    (r.map f).map g = r.map (g ∘ f) := by
  cases r <;> rfl

lemma Outcome.map_orElse {r : Outcome σ} {g : σ → Outcome σ} {g' : τ → Outcome τ}
    (hg : ∀ s, (g s).map f = g' (f s)) : (r.orElse g).map f = (r.map f).orElse g' := by
  cases r with
  | done s => rfl
  | failed s => exact hg s
  | crashed => rfl

/-- **A search seen through `f`.**  It is a search itself, if every alternative is one. -/
theorem map_tryEach {β : Type*} (g : α → β) {body' : β → τ → Outcome τ} {as : List α}
    (hbody : ∀ a ∈ as, ∀ s, (body a s).map f = body' (g a) (f s)) (s : σ) :
    (tryEach body as s).map f = tryEach body' (as.map g) (f s) := by
  induction as generalizing s with
  | nil => rfl
  | cons a as ih =>
      obtain ⟨hfirst, hrest⟩ := List.forall_mem_cons.mp hbody
      rw [List.map_cons, tryEach, tryEach, Outcome.map_orElse fun t => ih hrest t, hfirst]

end Map

end Alternatives

end Stages
