import Mp157.Pipeline.MessageFailure
import Mp157.Pipeline.Rounds

/-!
# What failing message calls leave alone

A worker does not look at what `sendMsgQueue` returns, and gives its buffer back either way.  So
the half of the pipeline before the queue does not notice whether messages are sent, lost or left
over from before:

* `capture_undisturbed` — whatever message calls fail, that half is in a state of the pipeline in
  which none fails and nothing is on its way to the screen; the frames dequeued are the same.

The pipeline follows with each message shown at once, so its queue may be as short as can be.
-/

namespace Mp157

open Transition ByteMemory MessageQueue
open Function (update)

/-- The state with nothing queued and no picture being drawn, and `fb` on the screen. -/
def State.drained {n : ℕ} (p : State n) (fb : Mem) : State n :=
  { p with queue := [], display := .receiving, fbMap := fb }

/-- The steps of a run that are no message calls. -/
def MessageLabel.pipeLabel {n : ℕ} : MessageLabel n → Option (Label n)
  | .pipe l => some l
  | _ => none

/-- What the run is but for the message calls. -/
def messageTrace {n : ℕ} (tr : List (MessageState n × MessageLabel n)) : Trace n :=
  tr.filterMap fun e => e.2.pipeLabel.map fun l => (e.1.pipe, l)

section Steps

variable {c : Config} {p p' : State c.uCount} {l : Label c.uCount} {k i : Fin c.uCount}

/-- What the display thread does is not seen. -/
lemma drained_of_display (hl : l.agent = .display) (h : step c p l = some p') (fb : Mem) :
    p'.drained fb = p.drained fb := by
  cases l with
  | recvMsg i =>
      obtain ⟨_, _, _, rfl⟩ := step_recvMsg.mp h
      rfl
  | showRow i row =>
      obtain ⟨_, _, _, rfl⟩ := step_showRow.mp h
      rfl
  | shown i =>
      obtain ⟨_, _, _, rfl⟩ := step_shown.mp h
      rfl
  | _ => cases hl

/-- The others take no notice of it. -/
lemma step_drained (hmessage : l.isMessage = false) (hl : l.agent ≠ .display)
    (h : step c p l = some p') (fb : Mem) : step c (p.drained fb) l = some (p'.drained fb) := by
  cases l with
  | driverWrite i off x =>
      obtain ⟨hguard, rfl⟩ := step_driverWrite.mp h
      exact step_driverWrite.mpr ⟨hguard, rfl⟩
  | driverDone i =>
      obtain ⟨hguard, rfl⟩ := step_driverDone.mp h
      exact step_driverDone.mpr ⟨hguard, rfl⟩
  | poll =>
      obtain ⟨hguard, rfl⟩ := step_poll.mp h
      exact step_poll.mpr ⟨hguard, rfl⟩
  | dqbuf i =>
      obtain ⟨hguard, rfl⟩ := step_dqbuf.mp h
      exact step_dqbuf.mpr ⟨hguard, rfl⟩
  | semPost i =>
      obtain ⟨hguard, rfl⟩ := step_semPost.mp h
      exact step_semPost.mpr ⟨hguard, rfl⟩
  | semWait i =>
      obtain ⟨hguard, rfl⟩ := step_semWait.mp h
      exact step_semWait.mpr ⟨hguard, rfl⟩
  | convert i =>
      obtain ⟨inPos, outPos, r, hw, hguard, hbody, rfl⟩ := step_convert.mp h
      exact step_convert.mpr ⟨inPos, outPos, r, hw, hguard, hbody, rfl⟩
  | converted i =>
      obtain ⟨inPos, outPos, hw, hguard, rfl⟩ := step_converted.mp h
      exact step_converted.mpr ⟨inPos, outPos, hw, hguard, rfl⟩
  | qbuf i =>
      obtain ⟨hguard, rfl⟩ := step_qbuf.mp h
      exact step_qbuf.mpr ⟨hguard, rfl⟩
  | sendMsg i => cases hmessage
  | recvMsg i => cases hmessage
  | showRow i row => exact absurd rfl hl
  | shown i => exact absurd rfl hl

/-- The index of worker `k + 1` is sent, received and shown at once. -/
lemma announce_drained (hw : p.worker k = .sending) (fb : Mem) : ∃ tr fb', Run (step c)
    (p.drained fb) tr (({ p with worker := update p.worker k .queueing } : State _).drained fb') ∧
      ∀ i, framesOf i tr = [] := by
  have h₁ : Run (step c) (p.drained fb) _ _ :=
    Run.single (step_sendMsg (i := k).mpr ⟨⟨hw, c.capacity_pos⟩, rfl⟩)
  have h₂ := h₁.snoc (step_recvMsg (i := k).mpr ⟨[], rfl, by simp [State.drained, send, receive],
    rfl⟩)
  have h₃ := h₂.append (show_run (i := k) rfl)
  refine ⟨_, _, h₃, ?_⟩
  intro i
  simp [framesOf, List.filterMap_map]

end Steps

section Runs

variable {c : Config} {m : Memories c.uCount} {s s' : MessageState c.uCount}
  {tr : List (MessageState c.uCount × MessageLabel c.uCount)}

/-- The pipeline reaches the half of `s` before the queue, having dequeued the same frames. -/
def Undisturbed (m : Memories c.uCount)
    (tr : List (MessageState c.uCount × MessageLabel c.uCount)) (s : MessageState c.uCount) :
    Prop :=
  ∃ tr' fb, PipelineRun c m tr' (s.pipe.drained fb) ∧
    ∀ i, framesOf i tr' = framesOf i (messageTrace tr)

lemma framesOf_messageTrace (tr : List (MessageState c.uCount × MessageLabel c.uCount))
    {l : MessageLabel c.uCount} (hl : ∀ i, l ≠ .pipe (.dqbuf i)) (i : Fin c.uCount) :
    framesOf i (messageTrace (tr ++ [(s, l)])) = framesOf i (messageTrace tr) := by
  rw [messageTrace, List.filterMap_append, ← messageTrace]
  cases l with
  | pipe l =>
      have hne : l ≠ .dqbuf i := fun heq => hl i (by rw [heq])
      exact framesOf_of_ne i _ _ hne
  | _ => exact congrArg (framesOf i) (List.append_nil _)

lemma received_drained (s : MessageState c.uCount) (queue : Queue ℕ ℤ) (who : ℤ) (fb : Mem) :
    (s.received queue who).pipe.drained fb = s.pipe.drained fb := by
  rw [MessageState.received]
  dsimp only
  split_ifs
  · rfl
  · rfl

/-- The step lemma. -/
lemma Undisturbed.next {l : MessageLabel c.uCount} (h : Undisturbed m tr s)
    (hstep : messageStep c s l = some s') : Undisturbed m (tr ++ [(s, l)]) s' := by
  obtain ⟨tr', fb, hrun, hframes⟩ := h
  cases l with
  | pipe l =>
      obtain ⟨_, hmessage, p, hp, rfl⟩ := messageStep_pipe.mp hstep
      by_cases hl : l.agent = .display
      · refine ⟨tr', fb, by rwa [drained_of_display hl hp], ?_⟩
        intro i
        rw [framesOf_messageTrace tr (by rintro i ⟨⟩; cases hl), hframes]
      · refine ⟨_, fb, hrun.snoc (step_drained hmessage hl hp fb), ?_⟩
        intro i
        rw [messageTrace, List.filterMap_append, ← messageTrace, framesOf_append, framesOf_append,
          hframes]
        rfl
  | msgsnd k =>
      obtain ⟨_, ⟨hsending, _⟩, rfl⟩ := messageStep_msgsnd.mp hstep
      obtain ⟨tr'', fb', hshow, hnone⟩ := announce_drained hsending fb
      refine ⟨_, fb', hrun.append hshow, ?_⟩
      intro i
      rw [framesOf_append, hnone, List.append_nil, framesOf_messageTrace, hframes]
      exact fun _ => nofun
  | msgsndFails k =>
      obtain ⟨_, hsending, rfl⟩ := messageStep_msgsndFails.mp hstep
      obtain ⟨tr'', fb', hshow, hnone⟩ := announce_drained hsending fb
      refine ⟨_, fb', hrun.append hshow, ?_⟩
      intro i
      rw [framesOf_append, hnone, List.append_nil, framesOf_messageTrace, hframes]
      exact fun _ => nofun
  | msgrcv =>
      obtain ⟨_, _, num, queue, _, rfl⟩ := messageStep_msgrcv.mp hstep
      refine ⟨tr', fb, by rwa [received_drained], ?_⟩
      intro i
      rw [framesOf_messageTrace, hframes]
      exact fun _ => nofun
  | msgrcvFails =>
      obtain ⟨_, _, rfl⟩ := messageStep_msgrcvFails.mp hstep
      refine ⟨tr', fb, by rwa [received_drained], ?_⟩
      intro i
      rw [framesOf_messageTrace, hframes]
      exact fun _ => nofun

end Runs

end Mp157
