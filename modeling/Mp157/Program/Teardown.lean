import Mp157.Program.Model

/-!
# Teardown

`free_v4l2_memory` unmaps the capture buffers and frees `sem`, `tid` and `rgbdata`.  The joins
before it keep the threads from using them, but a step of the display set-up that fails jumps over
the joins, with the capture thread and its workers already running (`use_after_teardown`).  In
every run in which the display opens, nothing is used after it is freed
(`no_use_after_teardown`).
-/

namespace Mp157

open Transition

/-- A step of a thread that reads or writes the capture mappings, `sem`, `tid` or `rgbdata`. -/
def ProgramLabel.touches {n : ℕ} : ProgramLabel n → Bool
  | .createWorker _ | .search _ => true
  | .pipe (.semPost _) | .pipe (.semWait _) | .pipe (.convert _) | .pipe (.showRow _ _) => true
  | _ => false

/-- The memory is being freed, or is, and a thread can still use it. -/
def UsesAfterTeardown (c : Config) (s : ProgramState c.uCount) : Prop :=
  s.main.tornDown = true ∧ ∃ l, ProgramLabel.touches l = true ∧ Enabled (programStep c) s l

/-- The step is no failure of `drm_Open`, `drm_init` or `drm_thread`. -/
def displayOpens {n : ℕ} (s : ProgramState n) : ProgramLabel n → Bool
  | .main ok => ok || !s.main.opensDisplay
  | _ => true

/-- From the start of the capture thread up to the joins. -/
def Main.threadsRun : Main → Bool
  | .drmOpen | .drmInit | .drmThread | .joinCapture | .joinWorker | .joinDisplay => true
  | _ => false

/-- No thread but `main` was created. -/
structure NoThreads {n : ℕ} (s : ProgramState n) : Prop where
  capture : s.capture = .notCreated
  worker : ∀ i, s.worker i = .notCreated
  display : s.displayStarted = false

section Teardown

variable {c : Config} {m : Memories c.uCount} {s s' : ProgramState c.uCount}

/-- Without threads, nothing touches the memory. -/
lemma NoThreads.untouched (h : NoThreads s) {l : ProgramLabel c.uCount} (hl : l.touches = true) :
    ¬ Enabled (programStep c) s l := by
  rintro ⟨s', hstep⟩
  cases l with
  | createWorker ok =>
      obtain ⟨k, hk, _⟩ := programStep_createWorker.mp hstep
      rw [h.capture] at hk
      cases hk
  | search i =>
      obtain ⟨⟨_, hi⟩, _⟩ := programStep_search.mp hstep
      rw [h.worker i] at hi
      cases hi
  | pipe l =>
      obtain ⟨hruns, _⟩ := programStep_pipe.mp hstep
      cases l <;> simp [ProgramLabel.touches] at hl <;>
        simp [Label.agent, agentRuns, h.capture, h.worker, h.display] at hruns
  | _ => cases hl

/-- A call of `main` starts the first thread or leaves the process without any. -/
lemma NoThreads.main (h : NoThreads s) {ok : Bool} (hrun : s.main.threadsRun = false)
    (hstep : programStep c s (.main ok) = some s') : s'.main.threadsRun = true ∨ NoThreads s' := by
  obtain ⟨_, rfl⟩ := programStep_main.mp hstep
  by_cases hcreate : s.main = .createCapture ∧ ok = true
  · left
    simp [hcreate.1, hcreate.2, Main.next, Main.threadsRun]
  · right
    have hdisplay : s.main ≠ .drmThread := by
      intro heq
      rw [heq] at hrun
      cases hrun
    exact ⟨by simp [hcreate, h.capture], h.worker, by simp [hdisplay, h.display]⟩

/-- The other steps leave `main` where it is and create no first thread. -/
lemma NoThreads.other {l : ProgramLabel c.uCount} (hl : ∀ ok, l ≠ .main ok)
    (hstep : programStep c s l = some s') : s'.main = s.main ∧ (NoThreads s → NoThreads s') := by
  cases l with
  | main ok => exact absurd rfl (hl ok)
  | createWorker ok =>
      obtain ⟨k, hk, _, rfl⟩ := programStep_createWorker.mp hstep
      refine ⟨by cases ok <;> rfl, ?_⟩
      intro h
      rw [h.capture] at hk
      cases hk
  | search i =>
      obtain ⟨⟨_, hi⟩, rfl⟩ := programStep_search.mp hstep
      refine ⟨rfl, ?_⟩
      intro h
      rw [h.worker i] at hi
      cases hi
  | dqbufFails =>
      obtain ⟨⟨hruns, _⟩, rfl⟩ := programStep_dqbufFails.mp hstep
      refine ⟨rfl, ?_⟩
      intro h
      simp [agentRuns, h.capture] at hruns
  | qbufFails i =>
      obtain ⟨⟨hruns, _⟩, rfl⟩ := programStep_qbufFails.mp hstep
      refine ⟨rfl, ?_⟩
      intro h
      simp [agentRuns, h.worker] at hruns
  | pipe l =>
      obtain ⟨_, pipe, _, rfl⟩ := programStep_pipe.mp hstep
      exact ⟨rfl, fun h => ⟨h.capture, h.worker, h.display⟩⟩

/-- From the joins `main` does not come back, because the display thread has no end. -/
lemma Main.threadsRun_next {ok : Bool} (hreturns : mainReturns c s ok = true)
    (hrun : s.main.threadsRun = true) (hopens : displayOpens s (.main ok) = true) :
    (s.main.next ok).threadsRun = true := by
  rw [mainReturns] at hreturns
  rw [displayOpens] at hopens
  cases hmain : s.main <;> rw [hmain] at hreturns hrun hopens <;> cases ok <;>
    simp_all [Main.threadsRun, Main.next, Main.opensDisplay]

/-- While the display opens, threads run only before the cleanup. -/
lemma threads_before_cleanup {tr : List (ProgramState c.uCount × ProgramLabel c.uCount)}
    (h : ProgramRun c m tr s) (hopens : ∀ e ∈ tr, displayOpens e.1 e.2 = true) :
    s.main.threadsRun = true ∨ NoThreads s := by
  refine h.invariant_when (I := fun s => s.main.threadsRun = true ∨ NoThreads s)
    (C := fun s l => displayOpens s l = true) hopens (.inr ⟨rfl, fun _ => rfl, rfl⟩) ?_
  intro s l s' hthis hbefore hstep
  by_cases hmain : ∃ ok, l = .main ok
  · obtain ⟨ok, rfl⟩ := hmain
    cases hrun : s.main.threadsRun with
    | true =>
        obtain ⟨hreturns, rfl⟩ := programStep_main.mp hstep
        exact .inl (Main.threadsRun_next hreturns hrun hthis)
    | false =>
        have hnone : NoThreads s := hbefore.resolve_left (by simp [hrun])
        exact hnone.main hrun hstep
  · obtain ⟨hsame, hkeep⟩ := NoThreads.other (fun ok hok => hmain ⟨ok, hok⟩) hstep
    rw [hsame]
    exact hbefore.imp_right hkeep

/-- **No use after teardown, when the display opens.**  In every run in which no step of the
display set-up fails, whatever else fails and whichever threads end, no thread can touch the
memory once `free_v4l2_memory` has begun. -/
theorem no_use_after_teardown {tr : List (ProgramState c.uCount × ProgramLabel c.uCount)}
    (h : ProgramRun c m tr s) (hopens : ∀ e ∈ tr, displayOpens e.1 e.2 = true) :
    ¬ UsesAfterTeardown c s := by
  rintro ⟨htorn, l, hl, hen⟩
  rcases threads_before_cleanup h hopens with hrun | hnone
  · cases hmain : s.main <;> rw [hmain] at htorn hrun <;>
      simp [Main.tornDown, Main.threadsRun] at htorn hrun
  · exact hnone.untouched hl hen

/-- `v4l2_init` fails: the memory is freed, and there is no thread to use it. -/
theorem no_use_after_teardown_setup : ∃ s,
    Reachable (programStep (macropixelConfig 1 Nat.one_pos)) (programStart (zeroMemories 1)) s ∧
    s.main = .freeing ∧ ¬ UsesAfterTeardown (macropixelConfig 1 Nat.one_pos) s := by
  have h := run_of_replay [.main true, .main false, .main true]
    (show replay (programStep (macropixelConfig 1 Nat.one_pos)) (programStart (zeroMemories 1)) _
      = some (_, _) from rfl)
  exact ⟨_, ⟨_, h⟩, rfl, no_use_after_teardown h (by decide)⟩

/-- `drm_Open` fails while the capture thread holds a frame: `main` frees `sem`, and the thread
posts it. -/
theorem use_after_teardown : ∃ s,
    Reachable (programStep (macropixelConfig 1 Nat.one_pos)) (programStart (zeroMemories 1)) s ∧
    UsesAfterTeardown (macropixelConfig 1 Nat.one_pos) s := by
  have h := run_of_replay [.main true, .main true, .main true, .main true, .createWorker true,
    .search 0, .pipe (.driverDone 0), .pipe .poll, .pipe (.dqbuf 0), .main false, .main true]
    (show replay (programStep (macropixelConfig 1 Nat.one_pos)) (programStart (zeroMemories 1)) _
      = some (_, _) from rfl)
  exact ⟨_, ⟨_, h⟩, rfl, .pipe (.semPost 0), rfl, _, programStep_pipe.mpr ⟨rfl, _,
    step_semPost.mpr ⟨rfl, rfl⟩, rfl⟩⟩

end Teardown

end Mp157
