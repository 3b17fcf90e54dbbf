import Mp157.Program.Model

/-!
# Messages of an earlier run

`createMsgQueue` opens the queue of a fixed key and takes it as it is, and such a queue outlives
the process.  So a run may begin with messages of the run before it, which the display thread
takes for its own.

* `calls_before_conversion` — a call of `lcd_show_camear` that no message of this run accounts
  for uses up one of the messages left behind.  When none was left for index `k`, every call on
  `rgbdata[k]` follows a conversion into it.
* `stale_message_shown` — when one was left, `rgbdata[k]` may be shown before anything was
  converted into it.
-/

namespace Mp157

open Transition MessageQueue

/-- The start of a run that finds messages with the indices `left` in the queue. -/
def programStartWith {n : ℕ} (m : Memories n) (left : List (Fin n)) : ProgramState n :=
  { programStart m with
    pipe := { pipelineStart m with queue := left.map fun k => (frameMsg, k) } }

section Freshness

variable {c : Config} {m : Memories c.uCount} {left : List (Fin c.uCount)}
  {tr : List (ProgramState c.uCount × ProgramLabel c.uCount)} {s s' : ProgramState c.uCount}
  (k : Fin c.uCount)

/-- What is queued and received was left behind or sent in this run. -/
lemma queue_balance_with (h : Run (programStep c) (programStartWith m left) tr s) :
    (s.pipe.queue.countP fun msg => msg.2 = k) + occurrences (pipeTrace tr) (.recvMsg k)
      = left.count k + occurrences (pipeTrace tr) (.sendMsg k) := by
  have hbalance := place_balance_from k (pipeTrace_run h) (p := .queued) (a := .send) (b := .recv)
    (fun t => by cases t <;> decide) (fun t => by cases t <;> decide)
  have hleft : (left.map fun k => (frameMsg, k)).countP (fun msg => msg.2 = k) = left.count k := by
    rw [List.countP_map]
    exact List.countP_congr fun j _ => by simp
  rw [← hleft]
  exact hbalance

/-- Worker `k + 1` sends only what it has converted. -/
lemma sends_le_conversions (h : Run (programStep c) (programStartWith m left) tr s) :
    occurrences (pipeTrace tr) (.sendMsg k) ≤ occurrences (pipeTrace tr) (.converted k) := by
  have hbalance := place_balance_from k (pipeTrace_run h) (p := .sending) (a := .converted)
    (b := .send) (fun t => by cases t <;> decide) (fun t => by cases t <;> decide)
  have hstart : tokens k (programStartWith m left).pipe .sending = 0 := rfl
  rw [hstart] at hbalance
  change _ + occurrences (pipeTrace tr) (.sendMsg k)
    = 0 + occurrences (pipeTrace tr) (.converted k) at hbalance
  omega

/-- **Calls of `lcd_show_camear` and conversions.**  Whatever the queue held at the start, at every
call on `rgbdata[k]` the calls on it so far are fewer than the messages left for `k` and the
conversions worker `k + 1` has completed in this run. -/
theorem calls_before_conversion (h : Run (programStep c) (programStartWith m left) tr s)
    (hcall : programStep c s (.pipe (.recvMsg k)) = some s') :
    occurrences (pipeTrace tr) (.recvMsg k)
      < left.count k + occurrences (pipeTrace tr) (.converted k) := by
  obtain ⟨_, pipe, hrecv, _⟩ := programStep_pipe.mp hcall
  obtain ⟨queue, _, hq, _⟩ := step_recvMsg.mp hrecv
  have hbalance := queue_balance_with k h
  have hsends := sends_le_conversions k h
  have hqueued := countP_receive hq fun msg => msg.2 = k
  simp only [decide_true, if_true] at hqueued
  omega

end Freshness

/-- A message was left; the display thread shows it, and then the first frame of this run. -/
theorem calls_before_conversion_left : ∃ tr s s',
    Run (programStep (macropixelConfig 1 Nat.one_pos))
      (programStartWith (zeroMemories 1) [0]) tr s ∧
    programStep (macropixelConfig 1 Nat.one_pos) s (.pipe (.recvMsg 0)) = some s' ∧
    occurrences (pipeTrace tr) (.recvMsg 0) = 1 ∧
    1 < 1 + occurrences (pipeTrace tr) (.converted 0) := by
  have h := run_of_replay [.main true, .main true, .main true, .main true, .createWorker true,
    .search 0, .main true, .main true, .main true, .pipe (.recvMsg 0), .pipe (.showRow 0 0),
    .pipe (.shown 0), .pipe (.driverDone 0), .pipe .poll, .pipe (.dqbuf 0), .pipe (.semPost 0),
    .pipe (.semWait 0), .pipe (.convert 0), .pipe (.converted 0), .pipe (.sendMsg 0)]
    (show replay (programStep (macropixelConfig 1 Nat.one_pos))
      (programStartWith (zeroMemories 1) [0]) _ = some (_, _) from rfl)
  have hcounts := calls_before_conversion 0 h
    (programStep_pipe.mpr ⟨rfl, _, step_recvMsg.mpr ⟨[], rfl, rfl, rfl⟩, rfl⟩)
  exact ⟨_, _, _, h, programStep_pipe.mpr ⟨rfl, _, step_recvMsg.mpr ⟨[], rfl, rfl, rfl⟩, rfl⟩,
    by decide, hcounts⟩

/-- A message was left, and `rgbdata[0]` is shown before any conversion. -/
theorem stale_message_shown : ∃ tr s s',
    Run (programStep (macropixelConfig 1 Nat.one_pos))
      (programStartWith (zeroMemories 1) [0]) tr s ∧
    programStep (macropixelConfig 1 Nat.one_pos) s (.pipe (.recvMsg 0)) = some s' ∧
    occurrences (pipeTrace tr) (.converted 0) = 0 := by
  have h := run_of_replay [.main true, .main true, .main true, .main true, .main true, .main true,
    .main true] (show replay (programStep (macropixelConfig 1 Nat.one_pos))
      (programStartWith (zeroMemories 1) [0]) _ = some (_, _) from rfl)
  exact ⟨_, _, _, h, programStep_pipe.mpr ⟨rfl, _, step_recvMsg.mpr ⟨[], rfl, rfl, rfl⟩, rfl⟩,
    rfl⟩

end Mp157
