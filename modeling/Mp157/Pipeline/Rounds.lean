import Mp157.Pipeline.Frames

/-!
# Rounds of the threads

A thread that is alone can finish what it has begun.  These are the runs in which one does: they
show what the pipeline can do, where the invariants say what it cannot.

* `convert_run`, `show_run` — a whole conversion, and a whole pass over the screen.
* `frame_run` — a frame is captured and converted, and its worker is about to announce it.
* `announce_run` — it is announced and shown, and everything about its buffer is as before.
* `run_sameAt` — a run about other buffers leaves a buffer alone.
-/

namespace Mp157

open Transition ByteMemory MessageQueue
open Function (update)

/-! ## Whole loops -/

section Rounds

variable {c : Config} {s : State c.uCount} {i : Fin c.uCount}

/-- The conversion of buffer `i`, before macropixel `k`. -/
def conversionAt (c : Config) (s : State c.uCount) (i : Fin c.uCount) (k : ℕ) : State c.uCount :=
  { s with
    rgbdata := update s.rgbdata i (convertedMem c.tables (s.pBuffers i) k (s.rgbdata i))
    worker := update s.worker i (.converting (UInt32.ofNat (4 * k)) (UInt32.ofNat (4 * k))) }

/-- A whole conversion. -/
lemma convert_run (hw : s.worker i = .converting 0 0)
    (hrounds : convertRounds c.width c.height < 2 ^ 30) :
    Run (step c) s
      (((List.range (convertRounds c.width c.height)).map fun k =>
        (conversionAt c s i k, Label.convert i))
        ++ [(conversionAt c s i (convertRounds c.width c.height), .converted i)])
      { conversionAt c s i (convertRounds c.width c.height) with
        worker := update s.worker i .sending } := by
  have hstart : conversionAt c s i 0 = s := by
    simp [conversionAt, ← hw]
  have hround : ∀ k < convertRounds c.width c.height,
      step c (conversionAt c s i k) (.convert i) = some (conversionAt c s i (k + 1)) := by
    intro k hk
    have hbody := @convertBody_eq c.tables (unbounded (s.pBuffers i)) none
      (convertedMem c.tables (s.pBuffers i) k (s.rgbdata i)) k (by omega) (unbounded_holds _ _)
      (unbounded_holds _ _)
    rw [unbounded_byte, convertedMem_succ] at hbody
    have hrgb : (conversionAt c s i k).rgbdata i
        = convertedMem c.tables (s.pBuffers i) k (s.rgbdata i) := Function.update_self ..
    refine step_convert.mpr ⟨_, _, _, Function.update_self .., ?_, by rw [hrgb]; exact hbody, ?_⟩
    · exact (convertGuard_position (by omega) _ _).trans (by simpa using hk)
    · simp [conversionAt]
  have hloop := run_range hround
  rw [hstart] at hloop
  refine hloop.snoc (step_converted.mpr ⟨_, _, Function.update_self .., ?_, ?_⟩)
  · exact (convertGuard_position hrounds _ _).trans (by simp)
  · simp [conversionAt]

/-- The screen once rows `0` to `k - 1` of `rgbdata[i]` are copied. -/
def rowsDrawn (c : Config) (s : State c.uCount) (i : Fin c.uCount) : ℕ → Mem
  | 0 => s.fbMap
  | k + 1 => blit (rowsDrawn c s i k) (s.rgbdata i) (2 * rowStart c.kms k)
      (2 * (toLong c.width * k)) (2 * drawnColumns c.kms (toLong c.width) (toLong c.height) k)

/-- The pass over `rgbdata[i]`, before row `k`. -/
def drawingAt (c : Config) (s : State c.uCount) (i : Fin c.uCount) (k : ℕ) : State c.uCount :=
  { s with fbMap := rowsDrawn c s i k, display := .showing i k }

/-- A whole pass. -/
lemma show_run (hd : s.display = .showing i 0) :
    Run (step c) s
      (((List.range c.kms.fbHight.toNat).map fun k => (drawingAt c s i k, Label.showRow i k))
        ++ [(drawingAt c s i c.kms.fbHight.toNat, .shown i)])
      { drawingAt c s i c.kms.fbHight.toNat with display := .receiving } := by
  have hstart : drawingAt c s i 0 = s := by
    simp [drawingAt, rowsDrawn, ← hd]
  have hrow : ∀ k < c.kms.fbHight.toNat,
      step c (drawingAt c s i k) (.showRow i k) = some (drawingAt c s i (k + 1)) :=
    fun k hk => step_showRow.mpr ⟨⟨rfl, hk⟩, _, lcdShowCamearRow_unbounded _ _ _ _ _ _, rfl⟩
  have hloop := run_range hrow
  rw [hstart] at hloop
  exact hloop.snoc (step_shown.mpr ⟨_, rfl, lt_irrefl _, rfl⟩)

/-- Buffer `i` is with the driver, and its worker and the capture thread wait. -/
structure Idle (i : Fin c.uCount) (s : State c.uCount) : Prop where
  driver : s.driver i = .filling
  capture : s.capture = .polling
  sem : s.sem i = 0
  worker : s.worker i = .waiting

/-- Worker `i + 1` has converted a frame, and is about to announce it. -/
structure Holding (i : Fin c.uCount) (s : State c.uCount) : Prop where
  driver : s.driver i = .dequeued
  capture : s.capture = .polling
  sem : s.sem i = 0
  worker : s.worker i = .sending

/-- These steps bring one frame of index `i`, number `number`, through its conversion. -/
structure Brings (i : Fin c.uCount) (number : ℕ) (tr : Trace c.uCount) : Prop where
  index : ∀ e ∈ tr, ∀ j, j ≠ i → e.2.index ≠ some j
  shown : ∀ e ∈ tr, ∀ j, e.2 ≠ .shown j
  frames : ∃ content, framesOf i tr = [⟨content, number⟩]
  converted : occurrences tr (.converted i) = 1

/-- **A frame is captured and converted.** -/
lemma frame_run (h : Idle i s) (hrounds : convertRounds c.width c.height < 2 ^ 30) :
    ∃ tr s', Run (step c) s tr s' ∧ Holding i s' ∧ Brings i s.captured tr ∧
      s'.queue = s.queue ∧ s'.display = s.display ∧ s'.captured = s.captured + 1 := by
  have h₁ : Run (step c) s _ _ := Run.single (step_driverDone (i := i).mpr ⟨h.driver, rfl⟩)
  have h₂ := h₁.snoc (step_poll.mpr ⟨⟨h.capture, i, by simp⟩, rfl⟩)
  have h₃ := h₂.snoc (step_dqbuf (i := i).mpr ⟨⟨rfl, by simp⟩, rfl⟩)
  have h₄ := h₃.snoc (step_semPost (i := i).mpr ⟨rfl, rfl⟩)
  have h₅ := h₄.snoc (step_semWait (i := i).mpr ⟨⟨h.worker, by simp⟩, rfl⟩)
  have h₆ := h₅.append (convert_run (i := i) (by simp) hrounds)
  refine ⟨_, _, h₆, ⟨by simp [conversionAt], rfl, by simp [conversionAt, h.sem], by simp⟩,
    ⟨?_, ?_, ?_, ?_⟩, rfl, rfl, rfl⟩
  · rintro e he j hj
    simp only [List.mem_append, List.mem_singleton, List.mem_map, or_assoc] at he
    rcases he with rfl | rfl | rfl | rfl | rfl | ⟨k, -, rfl⟩ | rfl
    all_goals simp [Label.index, hj.symm]
  · rintro e he j
    simp only [List.mem_append, List.mem_singleton, List.mem_map, or_assoc] at he
    rcases he with rfl | rfl | rfl | rfl | rfl | ⟨k, -, rfl⟩ | rfl
    all_goals simp
  · simp [framesOf, List.filterMap_map]
  · simp [occurrences, List.count_eq_zero]

/-- These steps announce the frame that worker `i + 1` holds, and bring it to the screen. -/
structure Announces (i : Fin c.uCount) (tr : Trace c.uCount) : Prop where
  index : ∀ e ∈ tr, ∀ j, j ≠ i → e.2.index ≠ some j
  shown : ∀ e ∈ tr, ∀ j, e.2 ≠ .shown j
  frames : framesOf i tr = []
  converted : occurrences tr (.converted i) = 0

/-- **A frame is announced and shown**, where no other is. -/
lemma announce_run (h : Holding i s) (hqueue : s.queue = []) (hdisplay : s.display = .receiving) :
    ∃ tr t s', Run (step c) s (tr ++ [(t, .shown i)]) s' ∧ Idle i s' ∧ Announces i tr ∧
      s'.queue = [] ∧ s'.display = .receiving ∧ s'.captured = s.captured := by
  have hcapacity : s.queue.length < c.capacity := by
    rw [hqueue]
    exact c.capacity_pos
  have h₁ : Run (step c) s _ _ :=
    Run.single (step_sendMsg (i := i).mpr ⟨⟨h.worker, hcapacity⟩, rfl⟩)
  have h₂ := h₁.snoc (step_qbuf (i := i).mpr ⟨⟨by simp, h.driver⟩, rfl⟩)
  have h₃ := h₂.snoc (step_recvMsg (i := i).mpr
    ⟨[], hdisplay, by simp [hqueue, send, receive], rfl⟩)
  have h₄ := h₃.append (show_run (i := i) rfl)
  rw [← List.append_assoc] at h₄
  refine ⟨_, _, _, h₄, ⟨by simp [drawingAt], h.capture, h.sem, by simp [drawingAt]⟩,
    ⟨?_, ?_, ?_, ?_⟩, rfl, rfl, rfl⟩
  · rintro e he j hj
    simp only [List.mem_append, List.mem_singleton, List.mem_map, or_assoc] at he
    rcases he with rfl | rfl | rfl | ⟨k, -, rfl⟩
    all_goals simp [Label.index, hj.symm]
  · rintro e he j
    simp only [List.mem_append, List.mem_singleton, List.mem_map, or_assoc] at he
    rcases he with rfl | rfl | rfl | ⟨k, -, rfl⟩
    all_goals simp
  · simp [framesOf, List.filterMap_map]
  · simp [occurrences, List.count_eq_zero]

end Rounds

/-! ## Others meanwhile -/

section Others

variable {c : Config} {s s' : State c.uCount} {tr : Trace c.uCount} {j : Fin c.uCount}

/-- **Frame rule for runs.** -/
lemma run_sameAt (h : Run (step c) s tr s') (hne : ∀ e ∈ tr, e.2.index ≠ some j) :
    SameAt j s s' := by
  refine h.invariant_when (C := fun _ l => l.index ≠ some j) hne ⟨rfl, rfl, rfl, rfl, rfl, rfl⟩ ?_
  intro s₁ l s₂ hl hsame hstep
  have hthis := step_sameAt hstep hl
  exact ⟨hthis.driver.trans hsame.driver, hthis.sequence.trans hsame.sequence,
    hthis.pBuffers.trans hsame.pBuffers, hthis.sem.trans hsame.sem,
    hthis.worker.trans hsame.worker, hthis.rgbdata.trans hsame.rgbdata⟩

lemma framesOf_eq_nil (hne : ∀ e ∈ tr, e.2.index ≠ some j) : framesOf j tr = [] := by
  refine List.filterMap_eq_nil_iff.mpr ?_
  intro e he
  refine if_neg ?_
  intro hdq
  exact hne e he (by rw [hdq, Label.index])

lemma converted_eq_zero (hne : ∀ e ∈ tr, e.2.index ≠ some j) :
    occurrences tr (.converted j) = 0 := by
  refine occurrences_eq_zero fun e he heq => ?_
  exact hne e he (by rw [heq, Label.index])

end Others

end Mp157
