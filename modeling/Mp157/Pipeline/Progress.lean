import Mp157.Pipeline.Frames

/-!
# Progress

Workers wait for the queue to have room, the display thread waits for it to have a message, the
capture thread waits for the driver, and the driver waits for the workers.  `progress_of_buffer`
follows one buffer round: wherever it is, the agent that has it can go on, or waits for another
that can.  So no interleaving ends in a deadlock, for any number of buffers and any capacity.
-/

namespace Mp157

open Transition ByteMemory MessageQueue

section Progress

variable {c : Config} {m : Memories c.uCount} {s : State c.uCount} {tr : Trace c.uCount}

/-- All messages have the type the display thread asks for. -/
lemma queue_types (h : PipelineRun c m tr s) : ∀ msg ∈ s.queue, msg.1 = frameMsg := by
  refine h.invariant (I := fun s => ∀ msg ∈ s.queue, msg.1 = frameMsg) (by simp [pipelineStart]) ?_
  intro s l s' ih hstep
  cases l with
  | sendMsg j =>
      obtain ⟨_, rfl⟩ := step_sendMsg.mp hstep
      intro msg hmsg
      rcases (mem_send _ _ _ _).mp hmsg with hmsg | rfl
      · exact ih msg hmsg
      · rfl
  | recvMsg j =>
      obtain ⟨queue, _, hq, rfl⟩ := step_recvMsg.mp hstep
      exact fun msg hmsg => ih msg (mem_of_mem_receive hq hmsg)
  | _ =>
      rw [(step_frame hstep).queue (by simp) (by simp)]
      exact ih

/-- The display thread goes on, unless it waits for a message and there is none. -/
lemma display_enabled (h : PipelineRun c m tr s)
    (hd : s.display = .receiving → 0 < s.queue.length) :
    ∃ l, l.agent = .display ∧ Enabled (step c) s l := by
  cases hdisplay : s.display with
  | receiving =>
      obtain ⟨msg, queue, hq⟩ := List.exists_cons_of_length_pos (hd hdisplay)
      have hfront : receive frameMsg s.queue = some (msg.2, queue) := by
        rw [hq]
        exact receive_front (queue_types h msg (by simp [hq])) queue
      exact ⟨.recvMsg msg.2, rfl, _, step_recvMsg.mpr ⟨queue, hdisplay, hfront, rfl⟩⟩
  | showing who row =>
      by_cases hrow : row < c.kms.fbHight.toNat
      · exact ⟨.showRow who row, rfl, _, step_showRow.mpr ⟨⟨hdisplay, hrow⟩, _,
          lcdShowCamearRow_unbounded _ _ _ _ _ _, rfl⟩⟩
      · exact ⟨.shown who, rfl, _, step_shown.mpr ⟨row, hdisplay, hrow, rfl⟩⟩

/-- A worker that converts goes on: every macropixel can be converted. -/
lemma converting_enabled (h : PipelineRun c m tr s) {i : Fin c.uCount} {inPos outPos : UInt32}
    (hw : s.worker i = .converting inPos outPos) :
    ∃ l, l.agent = .worker i ∧ Enabled (step c) s l := by
  cases hguard : convertGuard c.width c.height ⟨unbounded (s.rgbdata i), inPos, outPos⟩ with
  | false => exact ⟨.converted i, rfl, _, step_converted.mpr ⟨inPos, outPos, hw, hguard, rfl⟩⟩
  | true =>
      obtain ⟨rgb, hbody, _⟩ := ((contents i h).busy inPos outPos hw).round hguard
      exact ⟨.convert i, rfl, _, step_convert.mpr ⟨inPos, outPos, _, hw, hguard, hbody, rfl⟩⟩

/-- The capture thread goes on when a frame is complete. -/
lemma capture_enabled {i : Fin c.uCount} (hd : s.driver i = .filled) :
    ∃ l, l.agent = .capture ∧ Enabled (step c) s l := by
  cases hcapture : s.capture with
  | polling => exact ⟨.poll, rfl, _, step_poll.mpr ⟨⟨hcapture, i, hd⟩, rfl⟩⟩
  | dequeuing => exact ⟨.dqbuf i, rfl, _, step_dqbuf.mpr ⟨⟨hcapture, hd⟩, rfl⟩⟩
  | posting j => exact ⟨.semPost j, rfl, _, step_semPost.mpr ⟨hcapture, rfl⟩⟩

/-- **Progress of one buffer.**  Wherever buffer `i` is, the capture thread, its worker or the
display thread can take a step, or the driver can fill it. -/
theorem progress_of_buffer (h : PipelineRun c m tr s) (i : Fin c.uCount) :
    (∃ l, (l.agent = .capture ∨ l.agent = .worker i ∨ l.agent = .display) ∧
      Enabled (step c) s l) ∨ Enabled (step c) s (.driverDone i) := by
  cases hworker : s.worker i with
  | converting inPos outPos =>
      obtain ⟨l, hl, hen⟩ := converting_enabled h hworker
      exact .inl ⟨l, .inr (.inl hl), hen⟩
  | sending =>
      by_cases hroom : s.queue.length < c.capacity
      · exact .inl ⟨.sendMsg i, .inr (.inl rfl), _, step_sendMsg.mpr ⟨⟨hworker, hroom⟩, rfl⟩⟩
      · -- the queue is full, so the display thread has something to receive
        have hcapacity := c.capacity_pos
        obtain ⟨l, hl, hen⟩ := display_enabled h fun _ => by omega
        exact .inl ⟨l, .inr (.inr hl), hen⟩
  | queueing =>
      have hd := (worker_owns i h (by rw [hworker]; simp)).1
      exact .inl ⟨.qbuf i, .inr (.inl rfl), _, step_qbuf.mpr ⟨⟨hworker, hd⟩, rfl⟩⟩
  | waiting =>
      cases hdriver : s.driver i with
      | filling => exact .inr ⟨_, step_driverDone.mpr ⟨hdriver, rfl⟩⟩
      | filled =>
          obtain ⟨l, hl, hen⟩ := capture_enabled hdriver
          exact .inl ⟨l, .inl hl, hen⟩
      | dequeued =>
          -- neither the driver nor the worker has it: it is in the hand or counted
          have hone := one_token_sum i h
          rw [hdriver, hworker, if_pos rfl, if_pos rfl] at hone
          by_cases hcapture : s.capture = .posting i
          · exact .inl ⟨.semPost i, .inl rfl, _, step_semPost.mpr ⟨hcapture, rfl⟩⟩
          · rw [if_neg hcapture] at hone
            exact .inl ⟨.semWait i, .inr (.inl rfl), _,
              step_semWait.mpr ⟨⟨hworker, by omega⟩, rfl⟩⟩

/-- **Deadlock freedom.**  In every reachable state some agent can take a step, and not just by
the driver writing into a frame: it can complete one, or a thread can go on. -/
theorem pipeline_progress (h : Reachable (step c) (pipelineStart m) s) :
    ∃ l, (l.agent = .driver → ∃ i, l = .driverDone i) ∧ Enabled (step c) s l := by
  obtain ⟨tr, h⟩ := h
  rcases progress_of_buffer h 0 with ⟨l, hl, hen⟩ | hen
  · refine ⟨l, ?_, hen⟩
    intro hdriver
    rcases hl with hl | hl | hl <;> rw [hdriver] at hl <;> cases hl
  · exact ⟨.driverDone 0, fun _ => ⟨0, rfl⟩, hen⟩

/-- A full queue, and a worker that waits for room in it. -/
theorem pipeline_progress_full_queue : ∃ s,
    Reachable (step (macropixelConfig 2 Nat.two_pos)) (pipelineStart (zeroMemories 2)) s ∧
    s.queue.length = 1 ∧ s.worker 0 = .sending ∧
    ∃ l, (l.agent = .driver → ∃ i, l = .driverDone i) ∧
      Enabled (step (macropixelConfig 2 Nat.two_pos)) s l := by
  have h := run_of_replay [.driverDone 0, .driverDone 1, .poll, .dqbuf 0, .semPost 0, .poll,
    .dqbuf 1, .semPost 1, .semWait 0, .semWait 1, .convert 1, .converted 1, .sendMsg 1, .convert 0,
    .converted 0] (show replay (step (macropixelConfig 2 Nat.two_pos))
      (pipelineStart (zeroMemories 2)) _ = some (_, _) from rfl)
  exact ⟨_, ⟨_, h⟩, by decide, by decide, pipeline_progress ⟨_, h⟩⟩

end Progress

end Mp157
