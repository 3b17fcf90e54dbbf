import Mathlib.Tactic

/-!
# Message queues with typed receive

A queue of messages, each with a type.  Sending appends; receiving asks for a type and takes the
first message of it, wherever it stands, leaving the order of the others as it was.  Receiving
has no result when no message of the type is queued.  Seen through one type the queue is first in,
first out: `ofType_send` and `ofType_receive`.
-/

namespace MessageQueue

variable {τ α : Type*}

/-- The messages in the order they were sent, each with its type. -/
abbrev Queue (τ α : Type*) := List (τ × α)

/-- Append a message. -/
def send (q : Queue τ α) (t : τ) (a : α) : Queue τ α := q ++ [(t, a)]

/-- Take the first message of type `t`. -/
def receive [DecidableEq τ] (t : τ) : Queue τ α → Option (α × Queue τ α)
  | [] => none
  | m :: q => if m.1 = t then some (m.2, q)
      else (receive t q).map fun r => (r.1, m :: r.2)

@[simp] lemma mem_send (q : Queue τ α) (t : τ) (a : α) (m : τ × α) :
    m ∈ send q t a ↔ m ∈ q ∨ m = (t, a) := by
  simp [send]

lemma countP_send (q : Queue τ α) (t : τ) (a : α) (p : τ × α → Bool) :
    (send q t a).countP p = q.countP p + if p (t, a) then 1 else 0 := by
  simp [send, List.countP_append, List.countP_singleton]

variable [DecidableEq τ]

/-- What is received was queued, and is the only thing that leaves. -/
theorem receive_perm {t : τ} {a : α} :
    ∀ {q q' : Queue τ α}, receive t q = some (a, q') → q.Perm ((t, a) :: q')
  | [], _, h => by simp [receive] at h
  | m :: q, q', h => by
      rw [receive] at h
      split_ifs at h with hm
      · simp only [Option.some.injEq, Prod.mk.injEq] at h
        obtain ⟨rfl, rfl⟩ := h
        rw [← hm]
      · simp only [Option.map_eq_some_iff, Prod.exists, Prod.mk.injEq] at h
        obtain ⟨b, q₁, hq, rfl, rfl⟩ := h
        exact ((receive_perm hq).cons m).trans (List.Perm.swap _ _ _)

lemma countP_receive {t : τ} {a : α} {q q' : Queue τ α} (h : receive t q = some (a, q'))
    (p : τ × α → Bool) : q.countP p = q'.countP p + if p (t, a) then 1 else 0 := by
  rw [(receive_perm h).countP_eq, List.countP_cons]

lemma mem_of_mem_receive {t : τ} {a : α} {q q' : Queue τ α} (h : receive t q = some (a, q'))
    {m : τ × α} (hm : m ∈ q') : m ∈ q :=
  (receive_perm h).mem_iff.mpr (List.mem_cons_of_mem _ hm)

/-- In a queue of one type, receiving it takes the front. -/
lemma receive_front {t : τ} {m : τ × α} (hm : m.1 = t) (q : Queue τ α) :
    receive t (m :: q) = some (m.2, q) := by
  rw [receive, if_pos hm]

/-! ## One type -/

/-- The messages of type `t`, in order. -/
def ofType (t : τ) (q : Queue τ α) : List α := (q.filter fun m => m.1 = t).map Prod.snd

lemma ofType_send (q : Queue τ α) (t : τ) (a : α) : ofType t (send q t a) = ofType t q ++ [a] := by
  simp [ofType, send]

/-- What is received is the first message of its type. -/
theorem ofType_receive {t : τ} {a : α} :
    ∀ {q q' : Queue τ α}, receive t q = some (a, q') → ofType t q = a :: ofType t q'
  | [], _, h => by simp [receive] at h
  | m :: q, q', h => by
      rw [receive] at h
      split_ifs at h with hm
      · simp only [Option.some.injEq, Prod.mk.injEq] at h
        obtain ⟨rfl, rfl⟩ := h
        simp [ofType, hm]
      · simp only [Option.map_eq_some_iff, Prod.exists, Prod.mk.injEq] at h
        obtain ⟨b, q₁, hq, rfl, rfl⟩ := h
        have hrest := ofType_receive hq
        simpa [ofType, hm] using hrest

/-- Receiving does not look at what the messages hold. -/
lemma receive_map {β : Type*} (f : α → β) (t : τ) (q : Queue τ α) :
    receive t (q.map (Prod.map id f)) =
      (receive t q).map fun r => (f r.1, r.2.map (Prod.map id f)) := by
  induction q with
  | nil => rfl
  | cons m q ih =>
      rw [List.map_cons, receive, receive, ih]
      by_cases hm : m.1 = t
      · simp [hm]
      · simp [hm, Option.map_map, Function.comp_def]

end MessageQueue
