import Mp157.Program.Startup
import Mp157.Program.Model

/-!
# The start as a run of the program

`Program/Startup.lean` follows `main` call by call with all its data, and nothing else happens.  In
`Program/Model.lean` the calls only succeed or fail, and the threads run in between.

* `startup_simulated` — every start that returns, or comes to the joins, is a run of the program
  in which only `main` takes steps, with the same answers to its calls.

So what holds of every run of the program holds after every such start, whatever the threads do.
-/

namespace Mp157.Startup

open Stages Drm Transition

/-- The calls of `main` that succeed. -/
def Calls.Answers (o : Calls) : Main → Prop
  | .cameraOpen => o.CameraOpens
  | .v4l2Init => o.setup.CheckedSucceed
  | .streamOn => o.streamOn = true
  | .createCapture => o.createCapture = .stored true
  | .drmOpen => o.device.Succeed
  | .drmInit => ∃ d, Drm.drmInit false o.drm (drmStart kmsStart o.crtc) = .done d
  | .drmThread => o.createDisplay = true
  | _ => True

/-- These are the answers that `main` gets from the call `m` on. -/
def Consistent (o : Calls) : Main → List Bool → Prop
  | _, [] => True
  | m, ok :: oks => (m.canFail = true → (ok = true ↔ o.Answers m)) ∧ Consistent o (m.next ok) oks

section Runs

variable {c : Config} {o : Calls} {s : State} {p p' : ProgramState c.uCount}
  {tr : List (ProgramState c.uCount × ProgramLabel c.uCount)}

/-- In this run only `main` takes steps, and its calls end as they do in `o`. -/
def Follows (o : Calls) (tr : List (ProgramState c.uCount × ProgramLabel c.uCount)) : Prop :=
  ∀ e ∈ tr, ∃ ok, e.2 = .main ok ∧ (e.1.main.canFail = true → (ok = true ↔ o.Answers e.1.main))

/-- The run along such answers. -/
lemma follows_of_consistent : ∀ {oks : List Bool} {p p' : ProgramState c.uCount}
    {tr : List (ProgramState c.uCount × ProgramLabel c.uCount)}, Consistent o p.main oks →
    replay (programStep c) p (oks.map .main) = some (tr, p') → Follows o tr
  | [], p, p', tr, _, hrun => by
      simp only [List.map_nil, replay, Option.some.injEq, Prod.mk.injEq] at hrun
      obtain ⟨rfl, -⟩ := hrun
      exact fun e he => absurd he (List.not_mem_nil)
  | ok :: oks, p, p', tr, hcons, hrun => by
      obtain ⟨hthis, hrest⟩ := hcons
      simp only [List.map_cons, replay, Option.bind_eq_some_iff, Option.map_eq_some_iff] at hrun
      obtain ⟨p₁, hstep, ⟨tr', q⟩, hreplay, heq⟩ := hrun
      obtain ⟨rfl, -⟩ := Prod.mk.inj heq
      obtain ⟨-, rfl⟩ := programStep_main.mp hstep
      refine List.forall_mem_cons.mpr ⟨⟨ok, rfl, hthis⟩, ?_⟩
      exact follows_of_consistent hrest hreplay

/-- Some run of the program, in which only `main` takes steps, ends with `main` at the call `at_`
and the stream and the threads started as in `s`. -/
def Simulated (c : Config) (m : Memories c.uCount) (o : Calls) (s : State) (at_ : Main)
    (display : Bool) : Prop :=
  ∃ tr p, Run (programStep c) (programStart m) tr p ∧ Follows o tr ∧ p.main = at_ ∧
    p.streaming = s.streaming ∧ (p.capture ≠ .notCreated ↔ s.capture = true) ∧
    p.displayStarted = display

/-- A start that returned -1 has stored no number through a missing `tid`: that crashes. -/
lemma mallocTid_of_failed (hfailed : main o = .failed s) (hopen : o.CameraOpens)
    (hchecked : o.setup.CheckedSucceed) (hstream : o.streamOn = true)
    (hstored : o.createCapture ≠ .refused) : o.setup.mallocTid = true := by
  by_contra htid
  have hcrash := captureHalf_eq_crashed.mpr
    (.inr ⟨hchecked, hstream, Bool.eq_false_of_not_eq_true htid, hstored⟩)
  rw [main_of_opens hopen, hcrash] at hfailed
  cases hfailed

/-- Along consistent answers, if these start what `s` says. -/
lemma Simulated.of_answers {m : Memories c.uCount} {at_ : Main} {display : Bool} (oks : List Bool)
    (hcons : Consistent o .cameraOpen oks)
    (hrun : replay (programStep c) (programStart m) (oks.map .main) = some (tr, p))
    (hmain : p.main = at_) (hstream : p.streaming = true ↔ s.streaming = true)
    (hcapture : p.capture ≠ .notCreated ↔ s.capture = true)
    (hdisplay : p.displayStarted = display) : Simulated c m o s at_ display :=
  ⟨tr, p, run_of_replay _ hrun, follows_of_consistent hcons hrun, hmain,
    Bool.eq_iff_iff.mpr hstream, hcapture, hdisplay⟩

/-- The capture thread was not created: `err2` follows at once, if the camera is open. -/
lemma simulated_without_capture {m : Memories c.uCount} (hfailed : main o = .failed s)
    (hnot : ¬ (o.CameraOpens ∧ o.CaptureStarts)) : Simulated c m o s .exited false := by
  obtain ⟨hstream, hcapture⟩ := streaming_and_capture hfailed
  have hnone : (CaptureLife.notCreated : CaptureLife c.uCount) ≠ .notCreated ↔ s.capture = true :=
    iff_of_false (fun h => h rfl) (mt hcapture.mp hnot)
  by_cases hopen : o.CameraOpens
  swap
  · refine Simulated.of_answers [false] ?_ rfl rfl (iff_of_false Bool.false_ne_true ?_) hnone rfl
    · simp [Consistent, Main.canFail, Calls.Answers, hopen]
    · exact fun h => hopen (hstream.mp h).1
  by_cases hchecked : o.setup.CheckedSucceed
  swap
  · refine Simulated.of_answers [true, false, true, true, true] ?_ rfl rfl
      (iff_of_false Bool.false_ne_true ?_) hnone rfl
    · simp [Consistent, Main.next, Main.canFail, Calls.Answers, hopen, hchecked]
    · exact fun h => hchecked (hstream.mp h).2.1
  by_cases hon : o.streamOn = true
  swap
  · refine Simulated.of_answers [true, true, false, true, true, true] ?_ rfl rfl
      (iff_of_false Bool.false_ne_true ?_) hnone rfl
    · simp [Consistent, Main.next, Main.canFail, Calls.Answers, hopen, hchecked, hon]
    · exact fun h => hon (hstream.mp h).2.2
  have hcreate : ¬ o.createCapture = .stored true := by
    intro hcreate
    have htid := mallocTid_of_failed hfailed hopen hchecked hon (by simp [hcreate])
    exact hnot ⟨hopen, hchecked, hon, htid, hcreate⟩
  refine Simulated.of_answers [true, true, true, false, true, true, true] ?_ rfl rfl
    (iff_of_true rfl (hstream.mpr ⟨hopen, hchecked, hon⟩)) hnone rfl
  simp [Consistent, Main.next, Main.canFail, Calls.Answers, hopen, hchecked, hon, hcreate]

/-- The capture thread runs: `err2` follows if the display cannot be opened, else `err3`. -/
lemma simulated_with_capture {m : Memories c.uCount} (hfailed : main o = .failed s)
    (hopen : o.CameraOpens) (hstarts : o.CaptureStarts) : Simulated c m o s .exited false := by
  obtain ⟨hstream, hcapture⟩ := streaming_and_capture hfailed
  have hstreaming : true = true ↔ s.streaming = true :=
    iff_of_true rfl (hstream.mpr ⟨hopen, hstarts.setup, hstarts.streamOn⟩)
  have hsome : (CaptureLife.creating 0 : CaptureLife c.uCount) ≠ .notCreated ↔ s.capture = true :=
    iff_of_true nofun (hcapture.mpr ⟨hopen, hstarts⟩)
  by_cases hdevice : o.device.Succeed
  swap
  · refine Simulated.of_answers [true, true, true, true, false, true, true, true] ?_ rfl rfl
      hstreaming hsome rfl
    simp [Consistent, Main.next, Main.canFail, Calls.Answers, hopen, hstarts.setup,
      hstarts.streamOn, hstarts.createCapture, hdevice]
  by_cases hinit : ∃ d, Drm.drmInit false o.drm (drmStart kmsStart o.crtc) = .done d
  swap
  · refine Simulated.of_answers [true, true, true, true, true, false, true, true, true, true] ?_
      rfl rfl hstreaming hsome rfl
    simp [Consistent, Main.next, Main.canFail, Calls.Answers, hopen, hstarts.setup,
      hstarts.streamOn, hstarts.createCapture, hdevice, not_exists.mp hinit]
  obtain ⟨d, hd⟩ := hinit
  have hdisplay : ¬ o.createDisplay = true := by
    intro hdisplay
    cases (main_eq_done.mpr ⟨hopen, hstarts, hdevice, d, hd, hdisplay, rfl⟩).symm.trans hfailed
  refine Simulated.of_answers [true, true, true, true, true, true, false, true, true, true, true] ?_
    rfl rfl hstreaming hsome rfl
  simp [Consistent, Main.next, Main.canFail, Calls.Answers, hopen, hstarts.setup,
    hstarts.streamOn, hstarts.createCapture, hdevice, hd, hdisplay]

/-- **The start is a run of the program.**  For every outcome of the calls: when `main` comes to the
joins, or returns -1, it does so after a run of the program in which only `main` takes steps, each
of its calls succeeds or fails as it does here, and the stream and the threads are started alike. -/
theorem startup_simulated (c : Config) (m : Memories c.uCount) (o : Calls) :
    (∀ s, main o = .done s → Simulated c m o s .joinCapture true) ∧
      ∀ s, main o = .failed s → Simulated c m o s .exited false := by
  constructor
  · intro s hdone
    obtain ⟨hopen, hstarts, hdevice, d, hd, hcreate, rfl⟩ := main_eq_done.mp hdone
    refine Simulated.of_answers (List.replicate 7 true) ?_ rfl rfl (iff_of_true rfl rfl)
      (iff_of_true nofun rfl) rfl
    simp [Consistent, List.replicate, Main.next, Main.canFail, Calls.Answers, hopen, hstarts.setup,
      hstarts.streamOn, hstarts.createCapture, hdevice, hcreate, hd]
  · intro s hfailed
    by_cases hstarts : o.CameraOpens ∧ o.CaptureStarts
    · exact simulated_with_capture hfailed hstarts.1 hstarts.2
    · exact simulated_without_capture hfailed hstarts

end Runs

end Mp157.Startup
