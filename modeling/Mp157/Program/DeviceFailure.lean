import Mp157.Program.Model

/-!
# When a device call fails

The capture thread returns when `VIDIOC_DQBUF` fails, a worker when `VIDIOC_QBUF` fails; `main`
waits for `tid[0]`, `tid[1]` and the display thread, and cleans up after that.

* `dqbuf_failure_sticks` — after a failed `VIDIOC_DQBUF` nobody wakes the workers or the display
  thread any more: the program blocks for ever, in its joins.
* `survives_device_failures` — as long as `VIDIOC_DQBUF` has not failed and one worker is left,
  its buffer keeps going round, and the program is not stuck.
-/

namespace Mp157

open Transition
open Function (update update_apply)

/-- A thread has ended because its device call failed. -/
def DeviceFailed {n : ℕ} (s : ProgramState n) : Prop :=
  s.capture = .dqbufFailed ∨ ∃ i, s.worker i = .qbufFailed

/-- A thread has ended so, the cleanup was not reached, and from here on nothing but the driver
can take a step: `main` and every thread that is left are blocked for ever. -/
structure Stuck (c : Config) (s : ProgramState c.uCount) : Prop where
  failed : DeviceFailed s
  before : s.main.inCleanup = false
  blocked : ∀ s', Reachable (programStep c) s s' → ∀ l, Enabled (programStep c) s' l →
    ∃ d, l = .pipe d ∧ d.agent = .driver

/-! ## Failures that leave a worker -/

/-- The step is no failure of `VIDIOC_DQBUF`, and no failure of `VIDIOC_QBUF` in the last worker
that has not had one. -/
def survivable {n : ℕ} (s : ProgramState n) : ProgramLabel n → Bool
  | .dqbufFails => false
  | .qbufFails i => decide (∃ j, j ≠ i ∧ s.worker j ≠ .qbufFailed)
  | _ => true

/-- The calls before the capture thread exists. -/
def Main.beforeCapture : Main → Bool
  | .cameraOpen | .v4l2Init | .streamOn | .createCapture => true
  | _ => false

def Main.joins : Main → Bool
  | .joinCapture | .joinWorker | .joinDisplay => true
  | _ => false

/-- What such failures leave intact. -/
structure Survives {n : ℕ} (s : ProgramState n) : Prop where
  early : s.main.beforeCapture = true → s.capture = .notCreated
  streaming : s.main = .createCapture ∨ s.capture ≠ .notCreated → s.streaming = true
  capture : s.capture ≠ .dqbufFailed
  /-- Before its loop the capture thread has woken no worker. -/
  untouched : s.capture ≠ .looping → ∀ i, s.pipe.worker i = .waiting ∧ s.pipe.sem i = 0
  created : s.capture = .looping → ∀ i, s.worker i ≠ .notCreated
  creating : ∀ k, s.capture = .creating k → ∀ i < k, s.worker i ≠ .notCreated
  live : ∃ j, s.worker j ≠ .qbufFailed
  failed : ∀ i, s.worker i = .qbufFailed → s.capture = .looping
  display : s.main.joins = true → s.displayStarted = true

section Survival

variable {c : Config} {m : Memories c.uCount} {s s' : ProgramState c.uCount}

lemma Survives.start (m : Memories c.uCount) : Survives (programStart m) where
  early _ := rfl
  streaming := by simp [programStart]
  capture := nofun
  untouched _ _ := ⟨rfl, rfl⟩
  created := nofun
  creating := nofun
  live := ⟨0, nofun⟩
  failed := nofun
  display := nofun

lemma Main.beforeCapture_next {main : Main} {ok : Bool}
    (h : (main.next ok).beforeCapture = true) : main.beforeCapture = true := by
  cases main <;> cases ok <;> first | rfl | cases h

lemma Main.createCapture_next {main : Main} {ok : Bool} (h : main.next ok = .createCapture) :
    main = .streamOn ∧ ok = true := by
  cases main <;> cases ok <;> simp_all [Main.next]

lemma Main.joins_next {main : Main} {ok : Bool} (h : (main.next ok).joins = true) :
    main.joins = true ∨ main = .drmThread ∧ ok = true := by
  cases main <;> cases ok <;> simp_all [Main.next, Main.joins]

lemma Survives.main (h : Survives s) {ok : Bool} (hstep : programStep c s (.main ok) = some s') :
    Survives s' := by
  obtain ⟨_, rfl⟩ := programStep_main.mp hstep
  have hdisplay : (s.main.next ok).joins = true →
      (s.displayStarted || (s.main = .drmThread && ok)) = true := by
    intro hjoins
    rcases Main.joins_next hjoins with hjoin | ⟨hthread, hok⟩
    · simp [h.display hjoin]
    · simp [hthread, hok]
  have hstreaming : s.streaming = true → (s.streaming || (s.main = .streamOn && ok)) = true :=
    fun hon => by simp [hon]
  by_cases hcreate : s.main = .createCapture ∧ ok = true
  · -- the capture thread is created now, so it did not exist
    have hnone := h.early (by rw [hcreate.1]; rfl)
    have hnotLooping : s.capture ≠ .looping := by simp [hnone]
    exact
      { early := by simp [hcreate.1, hcreate.2, Main.next, Main.beforeCapture]
        streaming := fun _ => hstreaming (h.streaming (.inl hcreate.1))
        capture := by simp [hcreate]
        untouched := fun _ => h.untouched hnotLooping
        created := by simp [hcreate]
        creating := by simp [hcreate]
        live := h.live
        failed := fun i hi => absurd (h.failed i hi) hnotLooping
        display := hdisplay }
  · simp only [hcreate, if_false]
    exact
      { early := fun hearly => h.early (Main.beforeCapture_next hearly)
        streaming := by
          rintro (hnext | hcreated)
          · obtain ⟨hon, hok⟩ := Main.createCapture_next hnext
            simp [hon, hok]
          · exact hstreaming (h.streaming (.inr hcreated))
        capture := h.capture
        untouched := h.untouched
        created := h.created
        creating := h.creating
        live := h.live
        failed := h.failed
        display := hdisplay }

lemma Survives.createWorker (h : Survives s) {ok : Bool}
    (hstep : programStep c s (.createWorker ok) = some s') : Survives s' := by
  obtain ⟨k, hk, _, rfl⟩ := programStep_createWorker.mp hstep
  have hnotLooping : s.capture ≠ .looping := by simp [hk]
  have hnoFailure : ∀ i, s.worker i ≠ .qbufFailed := fun i hi => hnotLooping (h.failed i hi)
  have hstreaming := h.streaming (.inr (by simp [hk]))
  have hlate : s.main.beforeCapture ≠ true := by
    intro hearly
    rw [h.early hearly] at hk
    cases hk
  cases ok with
  | false =>
      exact
        { early := fun hearly => absurd hearly hlate
          streaming := fun _ => hstreaming
          capture := nofun
          untouched := fun _ => h.untouched hnotLooping
          created := nofun
          creating := nofun
          live := h.live
          failed := fun i hi => absurd hi (hnoFailure i)
          display := h.display }
  | true =>
      have hnew : ∀ i, i ≤ k → update s.worker k .searching i ≠ .notCreated := by
        intro i hi
        rcases hi.eq_or_lt with rfl | hlt
        · simp
        · rw [Function.update_of_ne hlt.ne]
          exact h.creating k hk i hlt
      exact
        { early := fun hearly => absurd hearly hlate
          streaming := fun _ => hstreaming
          capture := by simp only [afterCreate, if_true]; split_ifs <;> simp
          untouched := fun _ => h.untouched hnotLooping
          created := fun hloop i => by
            refine hnew i (Nat.le_of_lt_succ ?_)
            simp only [afterCreate, if_true] at hloop
            split_ifs at hloop with hk'
            omega
          creating := fun k' hk' i hi => by
            refine hnew i (Nat.le_of_lt_succ ?_)
            simp only [afterCreate, if_true] at hk'
            split_ifs at hk' with hlt
            obtain rfl := CaptureLife.creating.inj hk'
            exact hi
          live := ⟨k, by simp⟩
          failed := fun i hi => by
            rcases eq_or_ne i k with rfl | hne
            · simp at hi
            · exact absurd (by simpa [hne] using hi) (hnoFailure i)
          display := h.display }

lemma Survives.search (h : Survives s) {i : Fin c.uCount}
    (hstep : programStep c s (.search i) = some s') : Survives s' := by
  obtain ⟨⟨_, hi⟩, rfl⟩ := programStep_search.mp hstep
  have hcreated : ∀ j, s.worker j ≠ .notCreated →
      update s.worker i .running j ≠ .notCreated := by
    intro j hj
    rcases eq_or_ne j i with rfl | hne
    · simp
    · rwa [Function.update_of_ne hne]
  exact
    { early := h.early
      streaming := h.streaming
      capture := h.capture
      untouched := h.untouched
      created := fun hloop j => hcreated j (h.created hloop j)
      creating := fun k hk j hj => hcreated j (h.creating k hk j hj)
      live := ⟨i, by simp⟩
      failed := fun j hj => by
        rcases eq_or_ne j i with rfl | hne
        · simp at hj
        · exact h.failed j (by simpa [hne] using hj)
      display := h.display }

lemma Survives.qbufFails (h : Survives s) {i : Fin c.uCount}
    (hlast : survivable s (.qbufFails i) = true)
    (hstep : programStep c s (.qbufFails i) = some s') : Survives s' := by
  obtain ⟨⟨_, hqueueing⟩, rfl⟩ := programStep_qbufFails.mp hstep
  obtain ⟨j, hj, hlive⟩ := of_decide_eq_true hlast
  -- the worker was woken, so the capture thread is in its loop
  have hloop : s.capture = .looping := by
    by_contra hne
    rw [(h.untouched hne i).1] at hqueueing
    cases hqueueing
  exact
    { early := h.early
      streaming := h.streaming
      capture := h.capture
      untouched := h.untouched
      created := fun _ k => by
        rcases eq_or_ne k i with rfl | hne
        · simp
        · simpa [hne] using h.created hloop k
      creating := fun k hk => by
        rw [show s.capture = .creating k from hk] at hloop
        cases hloop
      live := ⟨j, by simpa [hj] using hlive⟩
      failed := fun _ _ => hloop
      display := h.display }

/-- A worker takes steps only when it was woken. -/
lemma step_awake {p p' : State c.uCount} {l : Label c.uCount} {j : Fin c.uCount}
    (h : step c p l = some p') (hl : l.agent = .worker j) :
    p.worker j ≠ .waiting ∨ 0 < p.sem j := by
  cases l with
  | semWait i =>
      obtain rfl := Agent.worker.inj hl
      exact .inr (step_semWait.mp h).1.2
  | convert i =>
      obtain rfl := Agent.worker.inj hl
      obtain ⟨_, _, _, hw, _⟩ := step_convert.mp h
      exact .inl (by simp [hw])
  | converted i =>
      obtain rfl := Agent.worker.inj hl
      obtain ⟨_, _, hw, _⟩ := step_converted.mp h
      exact .inl (by simp [hw])
  | sendMsg i =>
      obtain rfl := Agent.worker.inj hl
      exact .inl (by simp [(step_sendMsg.mp h).1.1])
  | qbuf i =>
      obtain rfl := Agent.worker.inj hl
      exact .inl (by simp [(step_qbuf.mp h).1.1])
  | _ => cases hl

lemma Survives.pipe (h : Survives s) {l : Label c.uCount}
    (hstep : programStep c s (.pipe l) = some s') : Survives s' := by
  obtain ⟨hruns, pipe, hpipe, rfl⟩ := programStep_pipe.mp hstep
  have hframe := step_frame hpipe
  refine
    { early := h.early
      streaming := h.streaming
      capture := h.capture
      untouched := fun hloop i => ?_
      created := h.created
      creating := h.creating
      live := h.live
      failed := h.failed
      display := h.display }
  have hnot : l.agent ≠ .capture := by
    intro hagent
    simp [hagent, agentRuns, hloop] at hruns
  have hworker : ∀ j, l.agent ≠ .worker j := by
    intro j hagent
    obtain ⟨hw, hsem⟩ := h.untouched hloop j
    rcases step_awake hpipe hagent with hawake | hawake
    · exact hawake hw
    · omega
  rw [hframe.worker i (hworker i), hframe.sem i (fun hl => hnot (by rw [hl]; rfl))
    fun hl => hworker i (by rw [hl]; rfl)]
  exact h.untouched hloop i

/-- **After failures that leave a worker, the rest of the program is intact.** -/
theorem survives {tr : List (ProgramState c.uCount × ProgramLabel c.uCount)}
    (h : ProgramRun c m tr s) (hsurvivable : ∀ e ∈ tr, survivable e.1 e.2 = true) :
    Survives s := by
  refine h.invariant_when (C := fun s l => survivable s l = true) hsurvivable
    (Survives.start m) ?_
  intro s l s' hthis hbefore hstep
  cases l with
  | main ok => exact hbefore.main hstep
  | createWorker ok => exact hbefore.createWorker hstep
  | search i => exact hbefore.search hstep
  | dqbufFails => cases hthis
  | qbufFails i => exact hbefore.qbufFails hthis hstep
  | pipe l => exact hbefore.pipe hstep

/-- Before the joins `main` itself goes on. -/
lemma main_enabled (hjoins : s.main.joins = false) (hcleanup : s.main.inCleanup = false) :
    Enabled (programStep c) s (.main true) := by
  refine ⟨_, programStep_main.mpr ⟨?_, rfl⟩⟩
  rw [mainReturns]
  cases hmain : s.main <;> simp_all [Main.joins, Main.inCleanup]

/-- A thread that runs, at a step the pipeline allows it. -/
lemma pipe_enabled {l : Label c.uCount} (hruns : agentRuns c s l.agent = true)
    (hen : Enabled (step c) s.pipe l) : Enabled (programStep c) s (.pipe l) := by
  obtain ⟨pipe, hpipe⟩ := hen
  exact ⟨_, programStep_pipe.mpr ⟨hruns, pipe, hpipe, rfl⟩⟩

/-- **Not stuck while a worker is left.**  With the capture thread in its loop, the display thread
started and worker `j + 1` running, buffer `j` keeps one of them from being blocked for ever. -/
lemma not_stuck_of_running (h : Reachable (programStep c) (programStart m) s)
    (hloop : s.capture = .looping) (hdisplay : s.displayStarted = true)
    (hstreaming : s.streaming = true) {j : Fin c.uCount} (hj : s.worker j = .running) :
    ¬ Stuck c s := by
  intro hstuck
  have halive : s.main ≠ .exited := by
    intro hexit
    have hbefore := hstuck.before
    rw [hexit] at hbefore
    cases hbefore
  obtain ⟨tr, hpipe⟩ := program_projects h
  rcases progress_of_buffer hpipe j with ⟨l, hl, hen⟩ | hen
  · have hruns : agentRuns c s l.agent = true := by
      rcases hl with hl | hl | hl <;> simp [hl, agentRuns, halive, hloop, hdisplay, hj]
    obtain ⟨d, hd, hdriver⟩ := hstuck.blocked s (.refl _) _ (pipe_enabled hruns hen)
    obtain rfl := ProgramLabel.pipe.inj hd
    rw [hdriver] at hl
    rcases hl with hl | hl | hl <;> cases hl
  · -- once the driver has filled the buffer, the capture thread goes on
    obtain ⟨pipe, hdone⟩ := hen
    have hfilled : pipe.driver j = .filled := by
      obtain ⟨_, rfl⟩ := step_driverDone.mp hdone
      simp
    obtain ⟨l, hl, hen⟩ := @capture_enabled c pipe j hfilled
    have hstep : programStep c s (.pipe (.driverDone j)) = some { s with pipe := pipe } :=
      programStep_pipe.mpr ⟨by simp [Label.agent, agentRuns, halive, hstreaming], pipe, hdone, rfl⟩
    have hruns : agentRuns c { s with pipe := pipe } l.agent = true := by
      simp [hl, agentRuns, halive, hloop]
    obtain ⟨d, hd, hdriver⟩ :=
      hstuck.blocked _ ⟨_, Run.single hstep⟩ _ (pipe_enabled hruns hen)
    obtain rfl := ProgramLabel.pipe.inj hd
    rw [hdriver] at hl
    cases hl

/-- **Device failures that leave a worker do not block the program.**  In a run in which
`VIDIOC_DQBUF` does not fail and `VIDIOC_QBUF` never fails in the last worker left, no state is
stuck. -/
theorem survives_device_failures
    {tr : List (ProgramState c.uCount × ProgramLabel c.uCount)} (h : ProgramRun c m tr s)
    (hsurvivable : ∀ e ∈ tr, survivable e.1 e.2 = true) : ¬ Stuck c s := by
  intro hstuck
  have hs := survives h hsurvivable
  have hloop : s.capture = .looping := by
    rcases hstuck.failed with hcapture | ⟨i, hi⟩
    · exact absurd hcapture hs.capture
    · exact hs.failed i hi
  cases hjoins : s.main.joins with
  | false =>
      obtain ⟨d, hd, _⟩ :=
        hstuck.blocked s (.refl _) _ (main_enabled hjoins hstuck.before)
      cases hd
  | true =>
      obtain ⟨j, hj⟩ := hs.live
      cases hworker : s.worker j with
      | notCreated => exact hs.created hloop j hworker
      | qbufFailed => exact hj hworker
      | searching =>
          have hen : Enabled (programStep c) s (.search j) := by
            refine ⟨_, programStep_search.mpr ⟨⟨?_, hworker⟩, rfl⟩⟩
            intro hexit
            rw [hexit] at hjoins
            cases hjoins
          obtain ⟨d, hd, _⟩ := hstuck.blocked s (.refl _) _ hen
          cases hd
      | running =>
          have hstreaming := hs.streaming (.inr (by simp [hloop]))
          exact not_stuck_of_running ⟨tr, h⟩ hloop (hs.display hjoins) hstreaming hworker hstuck

/-- Two workers, and the `VIDIOC_QBUF` of the second fails. -/
theorem survives_device_failures_one_worker : ∃ s,
    Reachable (programStep (macropixelConfig 2 Nat.two_pos)) (programStart (zeroMemories 2)) s ∧
    DeviceFailed s ∧ ¬ Stuck (macropixelConfig 2 Nat.two_pos) s := by
  have h := run_of_replay [.main true, .main true, .main true, .main true, .createWorker true,
    .createWorker true, .search 0, .search 1, .main true, .main true, .main true,
    .pipe (.driverDone 1), .pipe .poll, .pipe (.dqbuf 1), .pipe (.semPost 1), .pipe (.semWait 1),
    .pipe (.convert 1), .pipe (.converted 1), .pipe (.sendMsg 1), .qbufFails 1]
    (show replay (programStep (macropixelConfig 2 Nat.two_pos)) (programStart (zeroMemories 2)) _
      = some (_, _) from rfl)
  exact ⟨_, ⟨_, h⟩, .inr ⟨1, rfl⟩, survives_device_failures h (by decide)⟩

end Survival

/-! ## A failure of `VIDIOC_DQBUF` -/

/-- The capture thread has ended, the workers wait at their semaphores, the display thread waits
for a message, and `main` waits for `tid[1]`. -/
structure Drained {n : ℕ} [NeZero n] (s : ProgramState n) : Prop where
  main : s.main = .joinWorker
  capture : s.capture = .dqbufFailed
  worker : ∀ i, s.worker i = .running
  asleep : ∀ i, s.pipe.worker i = .waiting ∧ s.pipe.sem i = 0
  queue : s.pipe.queue = []
  display : s.pipe.display = .receiving

section Drained

variable {c : Config} {m : Memories c.uCount} {s s' : ProgramState c.uCount}

/-- The display thread takes steps only when there is a message or a pass to finish. -/
lemma step_display_awake {p p' : State c.uCount} {l : Label c.uCount} (h : step c p l = some p')
    (hl : l.agent = .display) : p.display ≠ .receiving ∨ p.queue ≠ [] := by
  cases l with
  | recvMsg i =>
      obtain ⟨queue, _, hq, _⟩ := step_recvMsg.mp h
      right
      intro hempty
      rw [hempty] at hq
      cases hq
  | showRow i row => exact .inl (by simp [(step_showRow.mp h).1.1])
  | shown i =>
      obtain ⟨row, hd, _⟩ := step_shown.mp h
      exact .inl (by simp [hd])
  | _ => cases hl

/-- The driver wakes nobody. -/
lemma step_driver {p p' : State c.uCount} {l : Label c.uCount} (h : step c p l = some p')
    (hl : l.agent = .driver) : p'.worker = p.worker ∧ p'.sem = p.sem ∧ p'.queue = p.queue ∧
      p'.display = p.display := by
  cases l with
  | driverWrite i off x =>
      obtain ⟨_, rfl⟩ := step_driverWrite.mp h
      exact ⟨rfl, rfl, rfl, rfl⟩
  | driverDone i =>
      obtain ⟨_, rfl⟩ := step_driverDone.mp h
      exact ⟨rfl, rfl, rfl, rfl⟩
  | _ => cases hl

/-- Only the driver moves, and it wakes nobody. -/
lemma Drained.step (h : Drained s) {l : ProgramLabel c.uCount}
    (hstep : programStep c s l = some s') :
    (∃ d, l = .pipe d ∧ d.agent = .driver) ∧ Drained s' := by
  cases l with
  | main ok =>
      obtain ⟨hreturns, _⟩ := programStep_main.mp hstep
      simp [mainReturns, h.main, h.worker, WorkerLife.alive] at hreturns
  | createWorker ok =>
      obtain ⟨k, hk, _⟩ := programStep_createWorker.mp hstep
      rw [h.capture] at hk
      cases hk
  | search i =>
      obtain ⟨⟨_, hi⟩, _⟩ := programStep_search.mp hstep
      rw [h.worker i] at hi
      cases hi
  | dqbufFails =>
      obtain ⟨⟨hruns, _⟩, _⟩ := programStep_dqbufFails.mp hstep
      simp [agentRuns, h.capture] at hruns
  | qbufFails i =>
      obtain ⟨⟨_, hi⟩, _⟩ := programStep_qbufFails.mp hstep
      rw [(h.asleep i).1] at hi
      cases hi
  | pipe l =>
      obtain ⟨hruns, pipe, hpipe, rfl⟩ := programStep_pipe.mp hstep
      have hdriver : l.agent = .driver := by
        cases hagent : l.agent with
        | driver => rfl
        | capture => simp [hagent, agentRuns, h.capture] at hruns
        | worker i =>
            obtain ⟨hw, hsem⟩ := h.asleep i
            rcases step_awake hpipe hagent with hawake | hawake
            · exact absurd hw hawake
            · omega
        | display => exact absurd (step_display_awake hpipe hagent) (by simp [h.display, h.queue])
      obtain ⟨hworker, hsem, hqueue, hdisplay⟩ := step_driver hpipe hdriver
      refine ⟨⟨l, rfl, hdriver⟩, h.main, h.capture, h.worker, ?_, ?_, ?_⟩
      · intro i
        rw [hworker, hsem]
        exact h.asleep i
      · rw [hqueue]
        exact h.queue
      · rw [hdisplay]
        exact h.display

/-- **A drained program is stuck.** -/
theorem Drained.stuck (h : Drained s) : Stuck c s where
  failed := .inl h.capture
  before := by rw [h.main]; rfl
  blocked := by
    intro s' hreach l hen
    have hs' : Drained s' := hreach.invariant h fun s l s' hs hstep => (hs.step hstep).2
    obtain ⟨s'', hstep⟩ := hen
    exact (hs'.step hstep).1

end Drained

/-- `VIDIOC_DQBUF` fails while the only worker waits at its semaphore. -/
theorem dqbuf_failure_sticks : ∃ s,
    Reachable (programStep (macropixelConfig 1 Nat.one_pos)) (programStart (zeroMemories 1)) s ∧
    Stuck (macropixelConfig 1 Nat.one_pos) s := by
  have h := run_of_replay [.main true, .main true, .main true, .main true, .createWorker true,
    .search 0, .main true, .main true, .main true, .pipe (.driverDone 0), .pipe .poll, .dqbufFails,
    .main true]
    (show replay (programStep (macropixelConfig 1 Nat.one_pos)) (programStart (zeroMemories 1)) _
      = some (_, _) from rfl)
  exact ⟨_, ⟨_, h⟩, Drained.stuck ⟨rfl, rfl, by decide, by decide, rfl, rfl⟩⟩

end Mp157
