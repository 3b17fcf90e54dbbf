import Mp157.Library.Transition
import Mp157.Library.MessageQueue
import Mp157.Camera.Conversion
import Mp157.Camera.Screen

/-!
# The camera pipeline

Frames travel through four kinds of agents that share no lock:

* the **driver** fills the capture buffers it owns, in any order and byte by byte;
* the **capture thread** (`thread_fun` in `cameraFun.c`) polls, takes a filled buffer with
  `VIDIOC_DQBUF` and posts the semaphore of that buffer;
* **worker** `i + 1` (`ProcessingImages`) waits on `sem[i]`, converts capture buffer `i` into
  `rgbdata[i]`, sends the index `i` with type 1234 and gives the buffer back with `VIDIOC_QBUF`;
* the **display thread** (`thread_fun` in `drmFun.c`) receives an index and draws `rgbdata` of it.

`step` is one step of one of them, in any interleaving: a conversion takes one step for each
macropixel, a drawing one for each row.  No call fails here; the program with its failures and
with `main` is `Mp157.Program.Model`.  Worker `i + 1` has `who = i + 1` from the start.
-/

namespace Mp157

open ByteMemory MessageQueue Transition

/-- What `v4l2_init` and `drm_init` have fixed when the threads run. -/
structure Config where
  /-- Number of capture buffers and of workers. -/
  uCount : ℕ
  uCount_pos : 0 < uCount
  /-- `camera.fmt.fmt.pix.width` and `height`. -/
  width : UInt32
  height : UInt32
  tables : Tables
  kms : KmsConfig
  /-- How many messages the queue takes before `msgsnd` blocks. -/
  capacity : ℕ
  capacity_pos : 0 < capacity

instance (c : Config) : NeZero c.uCount := ⟨c.uCount_pos.ne'⟩

/-! ## States -/

/-- A capture buffer as the driver sees it. -/
inductive DriverSlot
  /-- Queued; the driver is to fill it. -/
  | filling
  /-- A frame is complete, `VIDIOC_DQBUF` may return the buffer. -/
  | filled
  /-- User space has it. -/
  | dequeued
deriving DecidableEq

/-- Where the capture thread is in its loop. -/
inductive CaptureThread (n : ℕ)
  | polling
  | dequeuing
  /-- Between `VIDIOC_DQBUF`, which returned `index`, and `sem_post`. -/
  | posting (index : Fin n)
deriving DecidableEq

/-- Where a worker is in its loop. -/
inductive Worker
  /-- At `sem_wait`. -/
  | waiting
  /-- In the loop of `convert_yuv_to_rgb565_buffer`, with its `in` and `out`. -/
  | converting (inPos outPos : UInt32)
  /-- At `sendMsgQueue`. -/
  | sending
  /-- At `VIDIOC_QBUF`. -/
  | queueing
deriving DecidableEq

def Worker.isConverting : Worker → Bool
  | .converting _ _ => true
  | _ => false

lemma Worker.isConverting_iff {w : Worker} :
    w.isConverting = true ↔ ∃ inPos outPos, w = .converting inPos outPos := by
  cases w <;> simp [Worker.isConverting]

lemma Worker.ne_waiting {w : Worker} (h : w.isConverting = true) : w ≠ .waiting := by
  rintro rfl
  cases h

/-- Where the display thread is in its loop. -/
inductive DisplayThread (n : ℕ)
  /-- At `recvMsgQueue`. -/
  | receiving
  /-- In `lcd_show_camear` of `rgbdata[who]`, before row `row`. -/
  | showing (who : Fin n) (row : ℕ)
deriving DecidableEq

structure State (n : ℕ) where
  driver : Fin n → DriverSlot
  /-- Capture number of the frame last completed in each buffer (`v4l2_buffer.sequence`). -/
  sequence : Fin n → ℕ
  /-- Frames completed so far. -/
  captured : ℕ
  /-- Content of the capture mappings `pBuffers[i].pStart`. -/
  pBuffers : Fin n → Mem
  capture : CaptureThread n
  sem : Fin n → ℕ
  worker : Fin n → Worker
  rgbdata : Fin n → Mem
  queue : Queue ℕ (Fin n)
  display : DisplayThread n
  fbMap : Mem

/-- Contents that nothing has set: the mappings, the allocated buffers and the screen. -/
structure Memories (n : ℕ) where
  pBuffers : Fin n → Mem
  rgbdata : Fin n → Mem
  fbMap : Mem

/-- The state `v4l2_init` leaves, with every thread before the first round of its loop: all
buffers are queued, all semaphores are 0, the message queue is empty. -/
def pipelineStart {n : ℕ} (m : Memories n) : State n where
  driver := fun _ => .filling
  sequence := fun _ => 0
  captured := 0
  pBuffers := m.pBuffers
  capture := .polling
  sem := fun _ => 0
  worker := fun _ => .waiting
  rgbdata := m.rgbdata
  queue := []
  display := .receiving
  fbMap := m.fbMap

/-! ## Steps -/

inductive Label (n : ℕ)
  /-- The driver writes a byte of a buffer user space does not have. -/
  | driverWrite (i : Fin n) (off : ℤ) (x : UInt8)
  /-- The driver completes the frame in buffer `i`. -/
  | driverDone (i : Fin n)
  /-- `poll` reports `POLLIN`. -/
  | poll
  /-- `VIDIOC_DQBUF` returns buffer `i`. -/
  | dqbuf (i : Fin n)
  | semPost (i : Fin n)
  | semWait (i : Fin n)
  /-- One macropixel. -/
  | convert (i : Fin n)
  /-- The conversion loop ends. -/
  | converted (i : Fin n)
  | sendMsg (i : Fin n)
  /-- `VIDIOC_QBUF` gives buffer `i` back. -/
  | qbuf (i : Fin n)
  /-- `recvMsgQueue` returns `i`. -/
  | recvMsg (i : Fin n)
  /-- One row. -/
  | showRow (i : Fin n) (row : ℕ)
  /-- `lcd_show_camear` returns. -/
  | shown (i : Fin n)
deriving DecidableEq

/-- Who takes a step. -/
inductive Agent (n : ℕ)
  | driver
  | capture
  | worker (i : Fin n)
  | display
deriving DecidableEq

def Label.agent {n : ℕ} : Label n → Agent n
  | .driverWrite _ _ _ | .driverDone _ => .driver
  | .poll | .dqbuf _ | .semPost _ => .capture
  | .semWait i | .convert i | .converted i | .sendMsg i | .qbuf i => .worker i
  | .recvMsg _ | .showRow _ _ | .shown _ => .display

/-- The type of the messages, as in `sendMsgQueue(camera->msg_id, 1234, who-1)`. -/
def frameMsg : ℕ := 1234

variable (c : Config)

open Function (update)

/-- One step. -/
def step (s : State c.uCount) : Label c.uCount → Option (State c.uCount)
  | .driverWrite i off x =>
      if s.driver i ≠ .dequeued then
        some { s with pBuffers := update s.pBuffers i (update (s.pBuffers i) off x) }
      else none
  | .driverDone i =>
      if s.driver i = .filling then
        some { s with
          driver := update s.driver i .filled
          sequence := update s.sequence i s.captured
          captured := s.captured + 1 }
      else none
  | .poll =>
      if s.capture = .polling ∧ ∃ i, s.driver i = .filled then
        some { s with capture := .dequeuing }
      else none
  | .dqbuf i =>
      if s.capture = .dequeuing ∧ s.driver i = .filled then
        some { s with driver := update s.driver i .dequeued, capture := .posting i }
      else none
  | .semPost i =>
      if s.capture = .posting i then
        some { s with sem := update s.sem i (s.sem i + 1), capture := .polling }
      else none
  | .semWait i =>
      if s.worker i = .waiting ∧ 0 < s.sem i then
        some { s with
          sem := update s.sem i (s.sem i - 1)
          worker := update s.worker i (.converting 0 0) }
      else none
  | .convert i =>
      match s.worker i with
      | .converting inPos outPos =>
          if convertGuard c.width c.height ⟨unbounded (s.rgbdata i), inPos, outPos⟩ then
            (convertBody c.tables (unbounded (s.pBuffers i))
              ⟨unbounded (s.rgbdata i), inPos, outPos⟩).map fun r =>
              { s with
                rgbdata := update s.rgbdata i r.rgb.byte
                worker := update s.worker i (.converting r.inPos r.outPos) }
          else none
      | _ => none
  | .converted i =>
      match s.worker i with
      | .converting inPos outPos =>
          if convertGuard c.width c.height ⟨unbounded (s.rgbdata i), inPos, outPos⟩ then none
          else some { s with worker := update s.worker i .sending }
      | _ => none
  | .sendMsg i =>
      if s.worker i = .sending ∧ s.queue.length < c.capacity then
        some { s with
          queue := send s.queue frameMsg i
          worker := update s.worker i .queueing }
      else none
  | .qbuf i =>
      if s.worker i = .queueing ∧ s.driver i = .dequeued then
        some { s with
          driver := update s.driver i .filling
          worker := update s.worker i .waiting }
      else none
  | .recvMsg i =>
      if s.display = .receiving then
        match receive frameMsg s.queue with
        | some (who, queue) =>
            if who = i then some { s with queue := queue, display := .showing i 0 } else none
        | none => none
      else none
  | .showRow i row =>
      if s.display = .showing i row ∧ row < c.kms.fbHight.toNat then
        (lcdShowCamearRow c.kms (unbounded (s.rgbdata i)) (toLong c.width) (toLong c.height)
          (unbounded s.fbMap) row).map fun fbMap =>
          { s with fbMap := fbMap.byte, display := .showing i (row + 1) }
      else none
  | .shown i =>
      match s.display with
      | .showing who row =>
          if who = i ∧ ¬ row < c.kms.fbHight.toNat then
            some { s with display := .receiving }
          else none
      | .receiving => none

/-- A recorded run of the pipeline. -/
abbrev Trace (n : ℕ) := List (State n × Label n)

/-- The runs from the state `v4l2_init` leaves. -/
def PipelineRun (m : Memories c.uCount) (tr : Trace c.uCount) (s : State c.uCount) : Prop :=
  Run (step c) (pipelineStart m) tr s

/-! ## What each step does

One lemma for each label, from which every invariant is derived.
-/

section Inversion

variable {c} {s s' : State c.uCount} {i : Fin c.uCount}

@[simp] lemma step_driverWrite {off : ℤ} {x : UInt8} :
    step c s (.driverWrite i off x) = some s' ↔ s.driver i ≠ .dequeued ∧
      s' = { s with pBuffers := update s.pBuffers i (update (s.pBuffers i) off x) } :=
  guarded_eq_some

@[simp] lemma step_driverDone :
    step c s (.driverDone i) = some s' ↔ s.driver i = .filling ∧
      s' = { s with
        driver := update s.driver i .filled
        sequence := update s.sequence i s.captured
        captured := s.captured + 1 } :=
  guarded_eq_some

@[simp] lemma step_poll :
    step c s .poll = some s' ↔ (s.capture = .polling ∧ ∃ i, s.driver i = .filled) ∧
      s' = { s with capture := .dequeuing } :=
  guarded_eq_some

@[simp] lemma step_dqbuf :
    step c s (.dqbuf i) = some s' ↔ (s.capture = .dequeuing ∧ s.driver i = .filled) ∧
      s' = { s with driver := update s.driver i .dequeued, capture := .posting i } :=
  guarded_eq_some

@[simp] lemma step_semPost :
    step c s (.semPost i) = some s' ↔ s.capture = .posting i ∧
      s' = { s with sem := update s.sem i (s.sem i + 1), capture := .polling } :=
  guarded_eq_some

@[simp] lemma step_semWait :
    step c s (.semWait i) = some s' ↔ (s.worker i = .waiting ∧ 0 < s.sem i) ∧
      s' = { s with
        sem := update s.sem i (s.sem i - 1)
        worker := update s.worker i (.converting 0 0) } :=
  guarded_eq_some

@[simp] lemma step_convert :
    step c s (.convert i) = some s' ↔ ∃ inPos outPos r, s.worker i = .converting inPos outPos ∧
      convertGuard c.width c.height ⟨unbounded (s.rgbdata i), inPos, outPos⟩ = true ∧
      convertBody c.tables (unbounded (s.pBuffers i)) ⟨unbounded (s.rgbdata i), inPos, outPos⟩
        = some r ∧
      s' = { s with
        rgbdata := update s.rgbdata i r.rgb.byte
        worker := update s.worker i (.converting r.inPos r.outPos) } := by
  simp only [step]
  split
  · next inPos outPos hw =>
      simp only [Option.ite_none_right_eq_some, Option.map_eq_some_iff]
      constructor
      · rintro ⟨hguard, r, hbody, rfl⟩
        exact ⟨inPos, outPos, r, hw, hguard, hbody, rfl⟩
      · rintro ⟨_, _, r, hw', hguard, hbody, rfl⟩
        cases hw.symm.trans hw'
        exact ⟨hguard, r, hbody, rfl⟩
  · next hw =>
      simp only [reduceCtorEq, false_iff]
      rintro ⟨inPos, outPos, r, hconv, -⟩
      exact hw _ _ hconv

@[simp] lemma step_converted :
    step c s (.converted i) = some s' ↔ ∃ inPos outPos, s.worker i = .converting inPos outPos ∧
      convertGuard c.width c.height ⟨unbounded (s.rgbdata i), inPos, outPos⟩ = false ∧
      s' = { s with worker := update s.worker i .sending } := by
  simp only [step]
  split
  · next inPos outPos hw =>
      simp only [Option.ite_none_left_eq_some, Option.some.injEq, Bool.not_eq_true]
      constructor
      · rintro ⟨hguard, rfl⟩
        exact ⟨inPos, outPos, hw, hguard, rfl⟩
      · rintro ⟨_, _, hw', hguard, rfl⟩
        cases hw.symm.trans hw'
        exact ⟨hguard, rfl⟩
  · next hw =>
      simp only [reduceCtorEq, false_iff]
      rintro ⟨inPos, outPos, hconv, -⟩
      exact hw _ _ hconv

@[simp] lemma step_sendMsg :
    step c s (.sendMsg i) = some s' ↔ (s.worker i = .sending ∧ s.queue.length < c.capacity) ∧
      s' = { s with
        queue := send s.queue frameMsg i
        worker := update s.worker i .queueing } :=
  guarded_eq_some

@[simp] lemma step_qbuf :
    step c s (.qbuf i) = some s' ↔ (s.worker i = .queueing ∧ s.driver i = .dequeued) ∧
      s' = { s with
        driver := update s.driver i .filling
        worker := update s.worker i .waiting } :=
  guarded_eq_some

@[simp] lemma step_recvMsg :
    step c s (.recvMsg i) = some s' ↔ ∃ queue, s.display = .receiving ∧
      receive frameMsg s.queue = some (i, queue) ∧
      s' = { s with queue := queue, display := .showing i 0 } := by
  simp only [step, Option.ite_none_right_eq_some]
  cases hq : receive frameMsg s.queue with
  | none => simp
  | some r =>
      simp only [Option.ite_none_right_eq_some, Option.some.injEq]
      constructor
      · rintro ⟨hd, hi, rfl⟩
        exact ⟨r.2, hd, by rw [← hi], rfl⟩
      · rintro ⟨queue, hd, rfl, rfl⟩
        exact ⟨hd, rfl, rfl⟩

@[simp] lemma step_showRow {row : ℕ} :
    step c s (.showRow i row) = some s' ↔
      (s.display = .showing i row ∧ row < c.kms.fbHight.toNat) ∧ ∃ fbMap,
      lcdShowCamearRow c.kms (unbounded (s.rgbdata i)) (toLong c.width) (toLong c.height)
        (unbounded s.fbMap) row = some fbMap ∧
      s' = { s with fbMap := fbMap.byte, display := .showing i (row + 1) } := by
  simp only [step, Option.ite_none_right_eq_some, Option.map_eq_some_iff]
  exact and_congr_right fun _ => exists_congr fun fbMap => and_congr_right fun _ => eq_comm

@[simp] lemma step_shown :
    step c s (.shown i) = some s' ↔ ∃ row, s.display = .showing i row ∧
      ¬ row < c.kms.fbHight.toNat ∧ s' = { s with display := .receiving } := by
  simp only [step]
  split
  · next who row hd =>
      simp only [Option.ite_none_right_eq_some, Option.some.injEq]
      constructor
      · rintro ⟨⟨rfl, hrow⟩, rfl⟩
        exact ⟨row, hd, hrow, rfl⟩
      · rintro ⟨_, hd', hrow, rfl⟩
        cases hd.symm.trans hd'
        exact ⟨⟨rfl, hrow⟩, rfl⟩
  · next hd => simp [hd]

end Inversion

/-! ## What each step leaves alone -/

/-- Every part of the state is changed by the steps it names here, and by no other. -/
structure StepFrame {n : ℕ} (s s' : State n) (l : Label n) : Prop where
  driver : ∀ i, l ≠ .driverDone i → l ≠ .dqbuf i → l ≠ .qbuf i → s'.driver i = s.driver i
  sequence : ∀ i, l ≠ .driverDone i → s'.sequence i = s.sequence i
  captured : (∀ i, l ≠ .driverDone i) → s'.captured = s.captured
  pBuffers : ∀ i, (∀ off x, l ≠ .driverWrite i off x) → s'.pBuffers i = s.pBuffers i
  capture : l.agent ≠ .capture → s'.capture = s.capture
  sem : ∀ i, l ≠ .semPost i → l ≠ .semWait i → s'.sem i = s.sem i
  worker : ∀ i, l.agent ≠ .worker i → s'.worker i = s.worker i
  rgbdata : ∀ i, l ≠ .convert i → s'.rgbdata i = s.rgbdata i
  queue : (∀ i, l ≠ .sendMsg i) → (∀ i, l ≠ .recvMsg i) → s'.queue = s.queue
  display : l.agent ≠ .display → s'.display = s.display
  fbMap : (∀ i row, l ≠ .showRow i row) → s'.fbMap = s.fbMap

section Frame

variable {c} {s s' : State c.uCount} {l : Label c.uCount}

theorem step_frame (h : step c s l = some s') : StepFrame s s' l := by
  cases l with
  | driverWrite j off x =>
      obtain ⟨_, rfl⟩ := step_driverWrite.mp h
      constructor <;> simp +contextual [Label.agent, eq_comm]
  | driverDone j =>
      obtain ⟨_, rfl⟩ := step_driverDone.mp h
      constructor <;> simp +contextual [Label.agent, eq_comm]
  | poll =>
      obtain ⟨_, rfl⟩ := step_poll.mp h
      constructor <;> simp +contextual [Label.agent, eq_comm]
  | dqbuf j =>
      obtain ⟨_, rfl⟩ := step_dqbuf.mp h
      constructor <;> simp +contextual [Label.agent, eq_comm]
  | semPost j =>
      obtain ⟨_, rfl⟩ := step_semPost.mp h
      constructor <;> simp +contextual [Label.agent, eq_comm]
  | semWait j =>
      obtain ⟨_, rfl⟩ := step_semWait.mp h
      constructor <;> simp +contextual [Label.agent, eq_comm]
  | convert j =>
      obtain ⟨_, _, _, _, _, _, rfl⟩ := step_convert.mp h
      constructor <;> simp +contextual [Label.agent, eq_comm]
  | converted j =>
      obtain ⟨_, _, _, _, rfl⟩ := step_converted.mp h
      constructor <;> simp +contextual [Label.agent, eq_comm]
  | sendMsg j =>
      obtain ⟨_, rfl⟩ := step_sendMsg.mp h
      constructor <;> simp +contextual [Label.agent, eq_comm]
  | qbuf j =>
      obtain ⟨_, rfl⟩ := step_qbuf.mp h
      constructor <;> simp +contextual [Label.agent, eq_comm]
  | recvMsg j =>
      obtain ⟨_, _, _, rfl⟩ := step_recvMsg.mp h
      constructor <;> simp +contextual [Label.agent, eq_comm]
  | showRow j row =>
      obtain ⟨_, _, _, rfl⟩ := step_showRow.mp h
      constructor <;> simp +contextual [Label.agent, eq_comm]
  | shown j =>
      obtain ⟨_, _, _, rfl⟩ := step_shown.mp h
      constructor <;> simp +contextual [Label.agent, eq_comm]

end Frame

/-! ## A small pipeline -/

/-- `n` buffers, a picture of one macropixel and a screen that shows it. -/
abbrev macropixelConfig (n : ℕ) (hn : 0 < n) : Config where
  uCount := n
  uCount_pos := hn
  width := 2
  height := 1
  tables := yuvRgbTableInit ⟨0, 0, 0, 0, 0⟩
  kms := ⟨2, 1, 4, 4⟩
  capacity := 1
  capacity_pos := Nat.one_pos

/-- All memory is zero. -/
def zeroMemories (n : ℕ) : Memories n := ⟨fun _ _ => 0, fun _ _ => 0, fun _ => 0⟩

end Mp157
