import Mp157.Pipeline.Progress

/-!
# The camera program

`main` opens the camera, sets it up and starts the capture thread, and only then opens the
display.  The capture thread creates the workers and goes into its loop; a thread ends when its
ioctl fails.  `main` joins `tid[0]`, `tid[1]` and the display thread before it cleans up; an
initialisation step that fails jumps to the cleanup.

A program state is a pipeline state (`Mp157.Pipeline.Model`) together with how far `main` and the
life of each thread have come.  Here the set-up steps, the creation of threads, `VIDIOC_DQBUF` and
`VIDIOC_QBUF` may fail; a worker finds its own number (`search`).  When `main` returns, the process
is gone.
-/

namespace Mp157

open Transition

/-! ## States -/

/-- Where `main` is: at the call named. -/
inductive Main
  | cameraOpen
  | v4l2Init
  /-- In `camera_thread`, at `VIDIOC_STREAMON`. -/
  | streamOn
  /-- In `camera_thread`, at `pthread_create` of `tid[0]`. -/
  | createCapture
  | drmOpen
  | drmInit
  | drmThread
  /-- `pthread_join(camera.tid[0],NULL)` -/
  | joinCapture
  /-- `pthread_join(camera.tid[1],NULL)` -/
  | joinWorker
  /-- `pthread_join(kms.tid,NULL)` -/
  | joinDisplay
  /-- `err3` -/
  | closeDrm
  /-- `err2`, at the call of `free_v4l2_memory`. -/
  | freeMemory
  /-- In `free_v4l2_memory`. -/
  | freeing
  | closeCamera
  /-- `err1`: `main` has returned. -/
  | exited
deriving DecidableEq

/-- Where `main` goes on, by the outcome of the call. -/
def Main.next (ok : Bool) : Main → Main
  | .cameraOpen => if ok then .v4l2Init else .exited
  | .v4l2Init => if ok then .streamOn else .freeMemory
  | .streamOn => if ok then .createCapture else .freeMemory
  | .createCapture => if ok then .drmOpen else .freeMemory
  | .drmOpen => if ok then .drmInit else .freeMemory
  | .drmInit => if ok then .drmThread else .closeDrm
  | .drmThread => if ok then .joinCapture else .closeDrm
  | .joinCapture => .joinWorker
  | .joinWorker => .joinDisplay
  | .joinDisplay => .closeDrm
  | .closeDrm => .freeMemory
  | .freeMemory => .freeing
  | .freeing => .closeCamera
  | .closeCamera => .exited
  | .exited => .exited

/-- The calls whose failure `main` looks at. -/
def Main.canFail : Main → Bool
  | .cameraOpen | .v4l2Init | .streamOn | .createCapture | .drmOpen | .drmInit | .drmThread => true
  | _ => false

/-- The opening of the display, after the camera threads were started. -/
def Main.opensDisplay : Main → Bool
  | .drmOpen | .drmInit | .drmThread => true
  | _ => false

/-- The cleanup code. -/
def Main.inCleanup : Main → Bool
  | .closeDrm | .freeMemory | .freeing | .closeCamera | .exited => true
  | _ => false

/-- `free_v4l2_memory` has begun, and the process lives. -/
def Main.tornDown : Main → Bool
  | .freeing | .closeCamera => true
  | _ => false

/-- The life of the capture thread. -/
inductive CaptureLife (n : ℕ)
  | notCreated
  /-- At `pthread_create` of the worker with index `k`. -/
  | creating (k : Fin n)
  | looping
  /-- It has returned: a worker could not be created. -/
  | createFailed
  /-- It has returned: `VIDIOC_DQBUF` failed. -/
  | dqbufFailed
deriving DecidableEq

def CaptureLife.ended {n : ℕ} : CaptureLife n → Bool
  | .createFailed | .dqbufFailed => true
  | _ => false

/-- The life of a worker. -/
inductive WorkerLife
  | notCreated
  /-- In the loop that looks for its number in `tid`. -/
  | searching
  | running
  /-- It has returned: `VIDIOC_QBUF` failed. -/
  | qbufFailed
deriving DecidableEq

def WorkerLife.alive : WorkerLife → Bool
  | .searching | .running => true
  | _ => false

structure ProgramState (n : ℕ) where
  main : Main
  /-- `VIDIOC_STREAMON` has succeeded: the driver fills buffers. -/
  streaming : Bool
  capture : CaptureLife n
  worker : Fin n → WorkerLife
  displayStarted : Bool
  pipe : State n

def programStart {n : ℕ} (m : Memories n) : ProgramState n where
  main := .cameraOpen
  streaming := false
  capture := .notCreated
  worker := fun _ => .notCreated
  displayStarted := false
  pipe := pipelineStart m

/-! ## Steps -/

inductive ProgramLabel (n : ℕ)
  /-- The call `main` is at returns. -/
  | main (ok : Bool)
  /-- The capture thread creates its next worker, or fails to. -/
  | createWorker (ok : Bool)
  /-- The worker finds its number. -/
  | search (i : Fin n)
  | dqbufFails
  | qbufFails (i : Fin n)
  /-- A step of the driver or of a thread that is in its loop. -/
  | pipe (l : Label n)

variable (c : Config)

open Function (update)

/-- The call `main` is at can return so. -/
def mainReturns (s : ProgramState c.uCount) (ok : Bool) : Bool :=
  match s.main with
  | .exited => false
  | .joinCapture => ok && s.capture.ended
  -- a worker that was never created has no id to wait for
  | .joinWorker => ok && !(s.worker 0).alive
  -- the display thread has no end
  | .joinDisplay => false
  | main => ok || main.canFail

/-- The agent of a pipeline step is there to take it. -/
def agentRuns (s : ProgramState c.uCount) : Agent c.uCount → Bool
  | .driver => s.main != .exited && s.streaming
  | .capture => s.main != .exited && s.capture = .looping
  | .worker i => s.main != .exited && s.worker i = .running
  | .display => s.main != .exited && s.displayStarted

/-- Once the last worker is created the capture thread goes into its loop. -/
def afterCreate (k : Fin c.uCount) : CaptureLife c.uCount :=
  if h : k.val + 1 < c.uCount then .creating ⟨k.val + 1, h⟩ else .looping

/-- One step of the program. -/
def programStep (s : ProgramState c.uCount) : ProgramLabel c.uCount →
    Option (ProgramState c.uCount)
  | .main ok =>
      if mainReturns c s ok then
        some { s with
          main := s.main.next ok
          streaming := s.streaming || (s.main = .streamOn && ok)
          capture := if s.main = .createCapture ∧ ok then .creating 0 else s.capture
          displayStarted := s.displayStarted || (s.main = .drmThread && ok) }
      else none
  | .createWorker ok =>
      match s.capture with
      | .creating k =>
          if s.main = .exited then none
          else if ok then
            some { s with
              worker := update s.worker k .searching
              capture := afterCreate c k }
          else some { s with capture := .createFailed }
      | _ => none
  | .search i =>
      if s.main ≠ .exited ∧ s.worker i = .searching then
        some { s with worker := update s.worker i .running }
      else none
  | .dqbufFails =>
      if agentRuns c s .capture ∧ s.pipe.capture = .dequeuing then
        some { s with capture := .dqbufFailed }
      else none
  | .qbufFails i =>
      if agentRuns c s (.worker i) ∧ s.pipe.worker i = .queueing then
        some { s with worker := update s.worker i .qbufFailed }
      else none
  | .pipe l =>
      if agentRuns c s l.agent then
        (step c s.pipe l).map fun pipe => { s with pipe := pipe }
      else none

/-- The runs of the program. -/
def ProgramRun (m : Memories c.uCount) (tr : List (ProgramState c.uCount × ProgramLabel c.uCount))
    (s : ProgramState c.uCount) : Prop :=
  Run (programStep c) (programStart m) tr s

/-! ## What each step does -/

section Inversion

variable {c} {s s' : ProgramState c.uCount} {i : Fin c.uCount}

lemma programStep_main {ok : Bool} :
    programStep c s (.main ok) = some s' ↔ mainReturns c s ok = true ∧
      s' = { s with
        main := s.main.next ok
        streaming := s.streaming || (s.main = .streamOn && ok)
        capture := if s.main = .createCapture ∧ ok then .creating 0 else s.capture
        displayStarted := s.displayStarted || (s.main = .drmThread && ok) } :=
  guarded_eq_some

lemma programStep_createWorker {ok : Bool} :
    programStep c s (.createWorker ok) = some s' ↔ ∃ k, s.capture = .creating k ∧
      s.main ≠ .exited ∧ s' = if ok then
        { s with worker := update s.worker k .searching, capture := afterCreate c k }
        else { s with capture := .createFailed } := by
  simp only [programStep]
  split
  · next k hk =>
      constructor
      · intro h
        refine ⟨k, hk, ?_⟩
        split_ifs at h with hexit hok
        · exact ⟨hexit, by simpa [hok] using h.symm⟩
        · exact ⟨hexit, by simpa [hok] using h.symm⟩
      · rintro ⟨k', hk', hexit, rfl⟩
        cases hk.symm.trans hk'
        rw [if_neg hexit]
        split_ifs <;> rfl
  · next hne =>
      simp only [reduceCtorEq, false_iff]
      rintro ⟨k, hk, -⟩
      exact hne k hk

lemma programStep_search :
    programStep c s (.search i) = some s' ↔ (s.main ≠ .exited ∧ s.worker i = .searching) ∧
      s' = { s with worker := update s.worker i .running } :=
  guarded_eq_some

lemma programStep_dqbufFails :
    programStep c s .dqbufFails = some s' ↔
      (agentRuns c s .capture = true ∧ s.pipe.capture = .dequeuing) ∧
      s' = { s with capture := .dqbufFailed } :=
  guarded_eq_some

lemma programStep_qbufFails :
    programStep c s (.qbufFails i) = some s' ↔
      (agentRuns c s (.worker i) = true ∧ s.pipe.worker i = .queueing) ∧
      s' = { s with worker := update s.worker i .qbufFailed } :=
  guarded_eq_some

lemma programStep_pipe {l : Label c.uCount} :
    programStep c s (.pipe l) = some s' ↔ agentRuns c s l.agent = true ∧
      ∃ pipe, step c s.pipe l = some pipe ∧ s' = { s with pipe := pipe } := by
  simp only [programStep, Option.ite_none_right_eq_some, Option.map_eq_some_iff]
  exact and_congr_right fun _ => exists_congr fun pipe => and_congr_right fun _ => eq_comm

end Inversion

/-! ## The pipeline of a program run -/

/-- The pipeline step a program step is, if it is one. -/
def ProgramLabel.pipeline {n : ℕ} : ProgramLabel n → Option (Label n)
  | .pipe l => some l
  | _ => none

/-- What a run of the program is for the pipeline. -/
def pipeTrace {n : ℕ} (tr : List (ProgramState n × ProgramLabel n)) : Trace n :=
  tr.filterMap fun e => e.2.pipeline.map fun l => (e.1.pipe, l)

/-- A step of the program is a step of its pipeline or leaves that alone. -/
lemma programStep_pipeline {c : Config} {s s' : ProgramState c.uCount}
    {l : ProgramLabel c.uCount} (hstep : programStep c s l = some s') :
    (l.pipeline = none ∧ s'.pipe = s.pipe) ∨
      ∃ d, l.pipeline = some d ∧ step c s.pipe d = some s'.pipe := by
  cases l with
  | main ok =>
      obtain ⟨_, rfl⟩ := programStep_main.mp hstep
      exact .inl ⟨rfl, rfl⟩
  | createWorker ok =>
      obtain ⟨k, _, _, rfl⟩ := programStep_createWorker.mp hstep
      cases ok <;> exact .inl ⟨rfl, rfl⟩
  | search i =>
      obtain ⟨_, rfl⟩ := programStep_search.mp hstep
      exact .inl ⟨rfl, rfl⟩
  | dqbufFails =>
      obtain ⟨_, rfl⟩ := programStep_dqbufFails.mp hstep
      exact .inl ⟨rfl, rfl⟩
  | qbufFails i =>
      obtain ⟨_, rfl⟩ := programStep_qbufFails.mp hstep
      exact .inl ⟨rfl, rfl⟩
  | pipe l =>
      obtain ⟨_, pipe, hpipe, rfl⟩ := programStep_pipe.mp hstep
      exact .inr ⟨l, rfl, hpipe⟩

/-- **A run of the program is a run of its pipeline.** -/
theorem pipeTrace_run {c : Config} {s₀ s : ProgramState c.uCount}
    {tr : List (ProgramState c.uCount × ProgramLabel c.uCount)} (h : Run (programStep c) s₀ tr s) :
    Run (step c) s₀.pipe (pipeTrace tr) s.pipe :=
  h.project fun _ _ _ => programStep_pipeline

/-- **The threads of the program run the pipeline.**  What holds of every reachable state of the
pipeline holds of the pipeline part of every reachable state of the program. -/
theorem program_projects {c : Config} {m : Memories c.uCount} {s : ProgramState c.uCount}
    (h : Reachable (programStep c) (programStart m) s) :
    Reachable (step c) (pipelineStart m) s.pipe := by
  obtain ⟨tr, h⟩ := h
  exact ⟨_, pipeTrace_run h⟩

end Mp157
