import Mp157.Pipeline.Work

/-!
# How long a message waits

The display thread takes the messages in the order in which they were sent, and every pass over the
screen takes it the same number of steps.  So a message that is queued is received at a step of the
display thread that is known in advance, whatever the other threads send meanwhile.

* `message_latency` — in every continuation the message is still queued, with those before it that
  have not been received; or that step was the receipt of it.
-/

namespace Mp157

open Transition MessageQueue

/-- The steps that the display thread has taken. -/
def displaySteps {n : ℕ} (tr : Trace n) : ℕ := tr.countP fun e => e.2.agent = .display

section Latency

variable {c : Config} {m : Memories c.uCount} {s s' : State c.uCount} {tr : Trace c.uCount}
  {l : Label c.uCount} {i : Fin c.uCount} {before after : Queue ℕ (Fin c.uCount)}

/-- The steps up to the end of the pass in progress. -/
def passLeft (c : Config) : DisplayThread c.uCount → ℕ
  | .receiving => 0
  | .showing _ row => c.kms.fbHight.toNat - row + 1

/-- How many steps of the display thread come before the receipt of a message, if the messages
`before` are queued before it. -/
def waitingSteps (c : Config) (s : State c.uCount) (before : Queue ℕ (Fin c.uCount)) : ℕ :=
  passLeft c s.display + before.length * showSteps c

lemma displaySteps_snoc (tr : Trace c.uCount) (s : State c.uCount) (l : Label c.uCount) :
    displaySteps (tr ++ [(s, l)]) = displaySteps tr + if l.agent = .display then 1 else 0 := by
  simp [displaySteps, List.countP_append, List.countP_singleton]

/-- The message has not been received; `before'` are those still queued before it. -/
def Waiting (c : Config) (s : State c.uCount) (i : Fin c.uCount)
    (before : Queue ℕ (Fin c.uCount)) (tr : Trace c.uCount) (s' : State c.uCount) : Prop :=
  ∃ before' after', s'.queue = before' ++ (frameMsg, i) :: after' ∧ before' <:+ before ∧
    displaySteps tr + waitingSteps c s' before' = waitingSteps c s before

/-- Its receipt was the step after `waitingSteps` steps of the display thread. -/
def Received (c : Config) (s : State c.uCount) (i : Fin c.uCount)
    (before : Queue ℕ (Fin c.uCount)) (tr : Trace c.uCount) : Prop :=
  ∃ pre t post, tr = pre ++ (t, .recvMsg i) :: post ∧ displaySteps pre = waitingSteps c s before

/-- Other threads do not make it wait longer. -/
lemma waitingSteps_of_other (hstep : step c s l = some s') (hl : l.agent ≠ .display)
    (before : Queue ℕ (Fin c.uCount)) : waitingSteps c s' before = waitingSteps c s before := by
  rw [waitingSteps, waitingSteps, (step_frame hstep).display hl]

/-- They only send. -/
lemma queue_of_other (hstep : step c s l = some s') (hl : l.agent ≠ .display) :
    ∃ sent, s'.queue = s.queue ++ sent := by
  by_cases hsend : ∃ j, l = .sendMsg j
  · obtain ⟨j, rfl⟩ := hsend
    obtain ⟨_, rfl⟩ := step_sendMsg.mp hstep
    exact ⟨_, rfl⟩
  · refine ⟨[], ?_⟩
    rw [List.append_nil]
    refine (step_frame hstep).queue (not_exists.mp hsend) ?_
    rintro j rfl
    exact hl rfl

/-- The display thread draws a row, or ends a pass: one step less. -/
lemma waitingSteps_of_drawing (hstep : step c s l = some s') (hl : l.agent = .display)
    (hrecv : ∀ j, l ≠ .recvMsg j) (before : Queue ℕ (Fin c.uCount)) :
    s'.queue = s.queue ∧ 1 + waitingSteps c s' before = waitingSteps c s before := by
  cases l with
  | recvMsg j => exact absurd rfl (hrecv j)
  | showRow j row =>
      obtain ⟨⟨hd, hrow⟩, _, _, rfl⟩ := step_showRow.mp hstep
      refine ⟨rfl, ?_⟩
      simp only [waitingSteps, hd, passLeft]
      omega
  | shown j =>
      obtain ⟨row, hd, hrow, rfl⟩ := step_shown.mp hstep
      refine ⟨rfl, ?_⟩
      simp only [waitingSteps, hd, passLeft]
      omega
  | _ => cases hl

/-- **The step lemma.** -/
lemma Waiting.next {s₁ s₂ : State c.uCount} (h : Waiting c s i before tr s₁)
    (htypes : ∀ msg ∈ s₁.queue, msg.1 = frameMsg) (hstep : step c s₁ l = some s₂) :
    Waiting c s i before (tr ++ [(s₁, l)]) s₂ ∨ Received c s i before (tr ++ [(s₁, l)]) := by
  obtain ⟨before', after', hqueue, hsuffix, hsteps⟩ := h
  by_cases hl : l.agent = .display
  swap
  · obtain ⟨sent, hsent⟩ := queue_of_other hstep hl
    refine .inl ⟨before', after' ++ sent, by simp [hsent, hqueue], hsuffix, ?_⟩
    rw [displaySteps_snoc, if_neg hl, waitingSteps_of_other hstep hl]
    exact hsteps
  by_cases hrecv : ∃ j, l = .recvMsg j
  swap
  · obtain ⟨hsame, hless⟩ := waitingSteps_of_drawing hstep hl (not_exists.mp hrecv) before'
    refine .inl ⟨before', after', hsame.trans hqueue, hsuffix, ?_⟩
    rw [displaySteps_snoc, if_pos hl]
    omega
  obtain ⟨j, rfl⟩ := hrecv
  obtain ⟨queue, hd, hreceive, rfl⟩ := step_recvMsg.mp hstep
  rw [waitingSteps, hd, passLeft, Nat.zero_add] at hsteps
  cases before' with
  | nil =>
      -- it is the first one
      rw [hqueue, List.nil_append, receive_front (m := (frameMsg, i)) rfl] at hreceive
      obtain ⟨rfl, -⟩ := Prod.mk.inj (Option.some.inj hreceive)
      rw [List.length_nil, Nat.zero_mul, Nat.add_zero] at hsteps
      exact .inr ⟨tr, s₁, [], rfl, hsteps⟩
  | cons msg before' =>
      have htype : msg.1 = frameMsg := htypes msg (by simp [hqueue])
      rw [hqueue, List.cons_append, receive_front htype] at hreceive
      obtain ⟨-, rfl⟩ := Prod.mk.inj (Option.some.inj hreceive)
      refine .inl ⟨before', after', rfl, (List.suffix_cons _ _).trans hsuffix, ?_⟩
      rw [displaySteps_snoc, if_pos hl, ← hsteps, waitingSteps, passLeft, List.length_cons,
        Nat.add_mul, showSteps]
      omega

/-- **The latency of a message.**  In every continuation of every run: either the display thread has
taken at most `waitingSteps` steps, and the message is still queued, with nothing new before it; or
the step after these `waitingSteps` was its receipt. -/
theorem message_latency {tr₀ : Trace c.uCount} (h : PipelineRun c m tr₀ s)
    (hqueue : s.queue = before ++ (frameMsg, i) :: after) (hrun : Run (step c) s tr s') :
    (displaySteps tr ≤ waitingSteps c s before ∧
      ∃ before' after', s'.queue = before' ++ (frameMsg, i) :: after' ∧ before' <:+ before) ∨
    (waitingSteps c s before < displaySteps tr ∧ ∃ pre t post,
      tr = pre ++ (t, .recvMsg i) :: post ∧ displaySteps pre = waitingSteps c s before) := by
  have hinv : Waiting c s i before tr s' ∨ Received c s i before tr := by
    refine hrun.invariant_trace
      (I := fun tr s' => Waiting c s i before tr s' ∨ Received c s i before tr)
      (.inl ⟨before, after, hqueue, List.suffix_refl _, Nat.zero_add _⟩) ?_
    rintro tr s₁ l s₂ hrun₁ (hwaiting | ⟨pre, t, post, rfl, hpre⟩) hstep
    · exact hwaiting.next (queue_types (h.append hrun₁)) hstep
    · exact .inr ⟨pre, t, post ++ [(s₁, l)], by simp, hpre⟩
  rcases hinv with ⟨before', after', hqueue', hsuffix, hsteps⟩ | ⟨pre, t, post, rfl, hpre⟩
  · exact .inl ⟨by omega, before', after', hqueue', hsuffix⟩
  · refine .inr ⟨?_, pre, t, post, rfl, hpre⟩
    rw [displaySteps, List.countP_append, ← displaySteps, hpre, List.countP_cons_of_pos rfl]
    omega

end Latency

/-- A second message waits for the two steps that are left of the pass for the first. -/
theorem message_latency_second : ∃ tr₀ s tr s' pre t post,
    PipelineRun (macropixelConfig 1 Nat.one_pos) (zeroMemories 1) tr₀ s ∧
    s.queue = [(frameMsg, 0)] ∧ Run (step (macropixelConfig 1 Nat.one_pos)) s tr s' ∧
    tr = pre ++ (t, .recvMsg 0) :: post ∧ displaySteps pre = 2 := by
  have hruns : ∃ tr₀ s tr s', PipelineRun (macropixelConfig 1 Nat.one_pos) (zeroMemories 1) tr₀ s ∧
      s.queue = [] ++ (frameMsg, 0) :: [] ∧ Run (step (macropixelConfig 1 Nat.one_pos)) s tr s' ∧
      waitingSteps (macropixelConfig 1 Nat.one_pos) s [] = 2 ∧ displaySteps tr = 3 :=
    ⟨_, _, _, _, run_of_replay [.driverDone 0, .poll, .dqbuf 0, .semPost 0, .semWait 0, .convert 0,
      .converted 0, .sendMsg 0, .qbuf 0, .driverDone 0, .recvMsg 0, .poll, .dqbuf 0, .semPost 0,
      .semWait 0, .convert 0, .converted 0, .sendMsg 0] rfl, rfl,
      run_of_replay [.showRow 0 0, .qbuf 0, .shown 0, .recvMsg 0] rfl, rfl, rfl⟩
  obtain ⟨tr₀, s, tr, s', h, hqueue, hrun, hwaiting, hsteps⟩ := hruns
  rcases message_latency h hqueue hrun with ⟨hearly, -⟩ | ⟨-, pre, t, post, htr, hpre⟩
  · omega
  · exact ⟨tr₀, s, tr, s', pre, t, post, h, hqueue, hrun, htr, hpre.trans hwaiting⟩

end Mp157
