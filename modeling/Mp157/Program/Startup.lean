import Mp157.Camera.Leftovers
import Mp157.Drm.Setup

/-!
# Starting the camera program (`main.c` and `camera_open` in `cameraFun.c`)

`main` opens the camera, sets it up, starts the capture thread, opens the display, sets it up and
starts the display thread.  A step that fails jumps to one of three labels, which take back what
was there before it.  Here are all of these ways, each down to the objects that the steps create;
what the threads do meanwhile is the matter of `Program/Teardown.lean`.

* `startup_leaves` — what `main` leaves behind when it returns before the threads are joined.
* `startup_crashes_iff` — the four ways to crash.
-/

namespace Mp157.Startup

open Stages Ledger Drm

/-! ## The program -/

/-- How a call of `pthread_create` ends. -/
inductive PthreadCreate
  /-- It returns an error before it stores a number. -/
  | refused
  /-- It stores the number of the thread, which it then creates or not. -/
  | stored (created : Bool)
deriving DecidableEq

/-- The arguments, the outcomes of the calls, and what is there before; `true` is success. -/
structure Calls where
  argc : ℤ
  /-- `open(devname, O_RDWR)` of the camera -/
  fd : ℤ
  querycap : Bool
  /-- `cap.capabilities` -/
  capabilities : UInt32
  setup : SetupCalls
  tables : Tables
  streamOn : Bool
  /-- `pthread_create` of `tid[0]` -/
  createCapture : PthreadCreate
  device : OpenCalls
  drm : DrmCalls
  crtc : UInt32 → CrtcConfig
  /-- `pthread_create` of `kms.tid` -/
  createDisplay : Bool

/-- The program's variables, and what its calls have done. -/
structure State where
  /-- The camera, opened and closed. -/
  camera : Book
  setup : SetupState
  /-- The calls of `free_v4l2_memory`. -/
  freed : List Release
  streaming : Bool
  /-- The capture thread has been created. -/
  capture : Bool
  /-- The display device, opened and closed. -/
  device : Book
  display : DrmState

def start (o : Calls) : State where
  camera := ⟨0, []⟩
  setup := setupStart o.tables
  freed := []
  streaming := false
  capture := false
  device := ⟨0, []⟩
  display := drmStart kmsStart o.crtc

/-- `close(camera.fd)` -/
def State.closeCamera (s : State) : State := { s with camera := s.camera.free 0 }

/-- `V4L2_CAP_VIDEO_CAPTURE` -/
def v4l2CapVideoCapture : UInt32 := 0x00000001

/-- `V4L2_CAP_STREAMING` -/
def v4l2CapStreaming : UInt32 := 0x04000000

/-- Opens a camera that can capture and stream; the formats it lists are only printed. -/
def cameraOpen (o : Calls) (s : State) : Outcome State :=
  if o.fd < 0 then .failed s
  else
    let s := { s with camera := s.camera.obtain }
    if o.querycap = false then .failed s.closeCamera
    else if o.capabilities &&& v4l2CapVideoCapture = 0 then .failed s.closeCamera
    else if o.capabilities &&& v4l2CapStreaming = 0 then .failed s.closeCamera
    else .done s

/-- `v4l2_init(&camera)`; `bmpmode` is 0 in this program. -/
def v4l2Init (o : Calls) (s : State) : Outcome State :=
  (Mp157.v4l2Init false o.setup s.setup).map fun setup => { s with setup := setup }

/-- Starts the stream and the capture thread, whose number `pthread_create` stores in `tid`. -/
def cameraThread (o : Calls) (s : State) : Outcome State :=
  if o.streamOn = false then .failed s
  else
    let s := { s with streaming := true }
    match o.createCapture with
    | .refused => .failed s
    | .stored created =>
        if s.setup.camera.tid = .null then .crashed
        else if created then .done { s with capture := true }
        else .failed s

def drmOpen (o : Calls) (s : State) : Outcome State :=
  (Drm.drmOpen o.device s.device).map fun device => { s with device := device }

def drmInit (o : Calls) (s : State) : Outcome State :=
  (Drm.drmInit false o.drm s.display).map fun display => { s with display := display }

def drmThread (o : Calls) (s : State) : Outcome State :=
  if o.createDisplay = false then .failed s else .done s

/-- `err3`: `close(kms.fd)` -/
def err3 (s : State) : Outcome State := .failed { s with device := s.device.free 0 }

/-- `err2`: `free_v4l2_memory(&camera)` and `close(camera.fd)` -/
def err2 (s : State) : Outcome State :=
  match freeV4l2Memory s.setup.camera with
  | none => .crashed
  | some calls => .failed { s with freed := calls }.closeCamera

/-- `main` up to the joins: `done` is the start of the joins, `failed` the return of -1. -/
def main (o : Calls) : Outcome State :=
  if o.argc ≠ 2 then .failed (start o)
  else
    (cameraOpen o (start o)).andThen fun s =>
      (((v4l2Init o s).andThen (cameraThread o)).andThen fun s =>
        (drmOpen o s).andThen fun s =>
          ((drmInit o s).andThen (drmThread o)).orElse err3).orElse err2

/-! ## What decides -/

namespace Calls

/-- The camera is opened, and can capture and stream. -/
structure CameraOpens (o : Calls) : Prop where
  argc : o.argc = 2
  fd : 0 ≤ o.fd
  querycap : o.querycap = true
  capture : o.capabilities &&& v4l2CapVideoCapture ≠ 0
  streaming : o.capabilities &&& v4l2CapStreaming ≠ 0

/-- The camera is set up, and the capture thread created. -/
structure CaptureStarts (o : Calls) : Prop where
  setup : o.setup.CheckedSucceed
  streamOn : o.streamOn = true
  mallocTid : o.setup.mallocTid = true
  createCapture : o.createCapture = .stored true

/-- Everything up to the display thread succeeds, and that is not created. -/
def Undisplayed (o : Calls) : Prop :=
  o.CaptureStarts ∧ o.device.Succeed ∧
    (∃ d, Drm.drmInit false o.drm (drmStart kmsStart o.crtc) = .done d) ∧ o.createDisplay = false

end Calls

/-- The camera has been opened. -/
def opened (o : Calls) : State := { start o with camera := (start o).camera.obtain }

section Steps

variable {o : Calls} {s s' : State}

lemma cameraOpen_of_opens (hopen : o.CameraOpens) :
    cameraOpen o (start o) = .done (opened o) := by
  have hquery : ¬ o.querycap = false := by simp [hopen.querycap]
  rw [cameraOpen, if_neg (not_lt.mpr hopen.fd)]
  dsimp only
  rw [if_neg hquery, if_neg hopen.capture, if_neg hopen.streaming]
  rfl

/-- Otherwise `main` returns at once, and a camera it cannot use is closed again. -/
lemma main_of_not_opens (hopen : ¬ o.CameraOpens) : ∃ camera,
    main o = .failed { start o with camera := camera } ∧ camera.Settled := by
  have hnone : (start o).camera.Owes [] := Book.owes_start
  have hclosed : (start o).camera.obtain.free 0 |>.Settled :=
    hnone.obtain.free.settled_iff.mpr rfl
  rw [main]
  by_cases hargc : o.argc = 2
  swap
  · rw [if_pos hargc]
    exact ⟨_, rfl, hnone.settled_iff.mpr rfl⟩
  rw [if_neg (not_not.mpr hargc), cameraOpen]
  by_cases hfd : o.fd < 0
  · rw [if_pos hfd]
    exact ⟨_, rfl, hnone.settled_iff.mpr rfl⟩
  rw [if_neg hfd]
  dsimp only
  by_cases hquery : o.querycap = false
  · rw [if_pos hquery]
    exact ⟨_, rfl, hclosed⟩
  rw [if_neg hquery]
  by_cases hcapture : o.capabilities &&& v4l2CapVideoCapture = 0
  · rw [if_pos hcapture]
    exact ⟨_, rfl, hclosed⟩
  rw [if_neg hcapture]
  by_cases hstreaming : o.capabilities &&& v4l2CapStreaming = 0
  · rw [if_pos hstreaming]
    exact ⟨_, rfl, hclosed⟩
  · exact absurd ⟨hargc, not_lt.mp hfd, by simpa using hquery, hcapture, hstreaming⟩ hopen

lemma err2_eq_failed : err2 s = .failed s' ↔
    ∃ calls, freeV4l2Memory s.setup.camera = some calls ∧
      { s with freed := calls }.closeCamera = s' := by
  rw [err2]
  cases freeV4l2Memory s.setup.camera with
  | none => simp
  | some calls => simp

lemma err2_eq_crashed : err2 s = .crashed ↔ freeV4l2Memory s.setup.camera = none := by
  rw [err2]
  cases freeV4l2Memory s.setup.camera with
  | none => simp
  | some calls => simp

lemma cameraThread_eq_done : cameraThread o s = .done s' ↔
    o.streamOn = true ∧ s.setup.camera.tid ≠ .null ∧ o.createCapture = .stored true ∧
      s' = { s with streaming := true, capture := true } := by
  rw [cameraThread]
  dsimp only
  cases o.streamOn with
  | false => simp
  | true =>
      cases o.createCapture with
      | refused => simp
      | stored created =>
          by_cases htid : s.setup.camera.tid = .null
          · simp [htid]
          · cases created <;> simp [htid, eq_comm]

lemma cameraThread_failed (hfailed : cameraThread o s = .failed s') :
    s' = { s with streaming := o.streamOn || s.streaming } := by
  rw [cameraThread] at hfailed
  dsimp only at hfailed
  cases hstream : o.streamOn with
  | false =>
      rw [if_pos hstream] at hfailed
      exact (Outcome.failed.inj hfailed).symm
  | true =>
      rw [if_neg (by simp [hstream])] at hfailed
      split at hfailed
      · exact (Outcome.failed.inj hfailed).symm
      · split_ifs at hfailed
        exact (Outcome.failed.inj hfailed).symm

lemma cameraThread_eq_crashed : cameraThread o s = .crashed ↔
    o.streamOn = true ∧ s.setup.camera.tid = .null ∧ o.createCapture ≠ .refused := by
  rw [cameraThread]
  dsimp only
  cases o.streamOn with
  | false => simp
  | true =>
      cases o.createCapture with
      | refused => simp
      | stored created =>
          by_cases htid : s.setup.camera.tid = .null
          · simp [htid]
          · cases created <;> simp [htid]

end Steps

/-! ## The two halves -/

/-- The camera's half: `v4l2_init` and `camera_thread`. -/
def captureHalf (o : Calls) (s : State) : Outcome State :=
  (v4l2Init o s).andThen (cameraThread o)

/-- The display's half: `drm_Open`, `drm_init` and `drm_thread`, down to `err3`. -/
def displayHalf (o : Calls) (s : State) : Outcome State :=
  (drmOpen o s).andThen fun s => ((drmInit o s).andThen (drmThread o)).orElse err3

/-- The capture thread has been created. -/
def captured (o : Calls) : State :=
  { opened o with setup := setupDone false o.setup o.tables, streaming := true, capture := true }

/-- What there is when `main` jumps to `err2`. -/
structure AtErr2 (o : Calls) (s : State) : Prop where
  camera : s.camera = ⟨1, []⟩
  setup : Mp157.v4l2Init false o.setup (setupStart o.tables) = .done s.setup ∨
    Mp157.v4l2Init false o.setup (setupStart o.tables) = .failed s.setup
  freed : s.freed = []
  streaming : s.streaming = true ↔ o.setup.CheckedSucceed ∧ o.streamOn = true
  capture : s.capture = true ↔ o.CaptureStarts
  device : s.device.Settled
  display : s.display.Clean ↔ ¬ o.Undisplayed

section Halves

variable {o : Calls} {s s' : State}

lemma main_of_opens (hopen : o.CameraOpens) :
    main o = ((captureHalf o (opened o)).andThen (displayHalf o)).orElse err2 := by
  rw [main, if_neg (not_not.mpr hopen.argc), cameraOpen_of_opens hopen]
  rfl

lemma setupDone_tid (o : SetupCalls) (tables : Tables) :
    (setupDone false o tables).camera.tid = .null ↔ o.mallocTid = false := by
  cases h : o.mallocTid <;> simp [setupDone, rgbUpTo, threadsStart, h]

lemma captureHalf_eq_done :
    captureHalf o (opened o) = .done s ↔ o.CaptureStarts ∧ s = captured o := by
  rw [captureHalf, Outcome.andThen_eq_done]
  constructor
  · rintro ⟨t, hinit, hthread⟩
    obtain ⟨setup, hsetup, rfl⟩ := Outcome.map_eq_done.mp hinit
    obtain ⟨hchecked, rfl⟩ := v4l2Init_eq_done.mp hsetup
    obtain ⟨hstream, htid, hcreate, rfl⟩ := cameraThread_eq_done.mp hthread
    refine ⟨⟨hchecked, hstream, ?_, hcreate⟩, rfl⟩
    exact Bool.eq_true_of_not_eq_false (mt (setupDone_tid _ _).mpr htid)
  · rintro ⟨hstarts, rfl⟩
    refine ⟨{ opened o with setup := setupDone false o.setup o.tables }, ?_, ?_⟩
    · exact Outcome.map_eq_done.mpr ⟨_, v4l2Init_eq_done.mpr ⟨hstarts.setup, rfl⟩, rfl⟩
    · refine cameraThread_eq_done.mpr ⟨hstarts.streamOn, ?_, hstarts.createCapture, rfl⟩
      exact mt (setupDone_tid _ _).mp (by simp [hstarts.mallocTid])

lemma captureHalf_failed (hfailed : captureHalf o (opened o) = .failed s) : AtErr2 o s := by
  have hnot : ¬ o.CaptureStarts := by
    intro hstarts
    cases hfailed.symm.trans (captureHalf_eq_done.mpr ⟨hstarts, rfl⟩)
  have hdevice : (⟨0, []⟩ : Book).Settled := Book.owes_start.settled_iff.mpr rfl
  have hdisplay : (opened o).display.Clean ↔ ¬ o.Undisplayed :=
    iff_of_true List.Perm.nil fun h => hnot h.1
  rcases Outcome.andThen_eq_failed.mp hfailed with hinit | ⟨t, hinit, hthread⟩
  · obtain ⟨setup, hsetup, rfl⟩ := Outcome.map_eq_failed.mp hinit
    refine ⟨rfl, .inr hsetup, rfl, iff_of_false nofun ?_, iff_of_false nofun hnot, hdevice,
      hdisplay⟩
    rintro ⟨hchecked, -⟩
    cases hsetup.symm.trans (v4l2Init_eq_done.mpr ⟨hchecked, rfl⟩)
  · obtain ⟨setup, hsetup, rfl⟩ := Outcome.map_eq_done.mp hinit
    obtain rfl := cameraThread_failed hthread
    refine ⟨rfl, .inl hsetup, rfl, ?_, iff_of_false nofun hnot, hdevice, hdisplay⟩
    rw [and_iff_right (v4l2Init_eq_done.mp hsetup).1]
    change (o.streamOn || false) = true ↔ _
    rw [Bool.or_false]

lemma drmOpen_captured (hdevice : o.device.Succeed) :
    drmOpen o (captured o) = .done { captured o with device := (captured o).device.obtain } := by
  rw [drmOpen, drmOpen_of_succeed hdevice]
  rfl

lemma displayHalf_eq_done : displayHalf o (captured o) = .done s ↔ o.device.Succeed ∧
    ∃ d, Drm.drmInit false o.drm (drmStart kmsStart o.crtc) = .done d ∧ o.createDisplay = true ∧
      s = { captured o with device := (captured o).device.obtain, display := d } := by
  by_cases hdevice : o.device.Succeed
  swap
  · obtain ⟨device, hopen, -⟩ := drmOpen_of_not_succeed hdevice (captured o).device
    rw [displayHalf, drmOpen, hopen]
    exact iff_of_false nofun fun h => hdevice h.1
  rw [displayHalf, drmOpen_captured hdevice, Outcome.andThen, Outcome.orElse_eq_done,
    Outcome.andThen_eq_done, and_iff_right hdevice]
  constructor
  · rintro (⟨t, hinit, hthread⟩ | ⟨t, -, herr⟩)
    · obtain ⟨d, hd, rfl⟩ := Outcome.map_eq_done.mp hinit
      rw [drmThread] at hthread
      split_ifs at hthread with hcreate
      exact ⟨d, hd, Bool.eq_true_of_not_eq_false hcreate, (Outcome.done.inj hthread).symm⟩
    · cases herr
  · rintro ⟨d, hd, hcreate, rfl⟩
    refine .inl ⟨_, Outcome.map_eq_done.mpr ⟨d, hd, rfl⟩, ?_⟩
    rw [drmThread, if_neg (by simp [hcreate])]

/-- **When the joins are reached.** -/
lemma main_eq_done : main o = .done s ↔ o.CameraOpens ∧ o.CaptureStarts ∧ o.device.Succeed ∧
    ∃ d, Drm.drmInit false o.drm (drmStart kmsStart o.crtc) = .done d ∧ o.createDisplay = true ∧
      s = { captured o with device := (captured o).device.obtain, display := d } := by
  by_cases hopen : o.CameraOpens
  swap
  · obtain ⟨camera, hmain, -⟩ := main_of_not_opens hopen
    rw [hmain]
    exact iff_of_false nofun fun h => hopen h.1
  have herr : ¬ ∃ t, (captureHalf o (opened o)).andThen (displayHalf o) = .failed t ∧
      err2 t = .done s := by
    rintro ⟨t, -, herr⟩
    rw [err2] at herr
    split at herr <;> cases herr
  rw [main_of_opens hopen, Outcome.orElse_eq_done, or_iff_left herr, Outcome.andThen_eq_done,
    and_iff_right hopen]
  constructor
  · rintro ⟨t, hfirst, hsecond⟩
    obtain ⟨hstarts, rfl⟩ := captureHalf_eq_done.mp hfirst
    exact ⟨hstarts, displayHalf_eq_done.mp hsecond⟩
  · rintro ⟨hstarts, hrest⟩
    exact ⟨_, captureHalf_eq_done.mpr ⟨hstarts, rfl⟩, displayHalf_eq_done.mpr hrest⟩

lemma displayHalf_failed (hstarts : o.CaptureStarts)
    (hfailed : displayHalf o (captured o) = .failed s) : AtErr2 o s := by
  have hsetup : Mp157.v4l2Init false o.setup (setupStart o.tables)
      = .done (setupDone false o.setup o.tables) := v4l2Init_eq_done.mpr ⟨hstarts.setup, rfl⟩
  have hstream : true = true ↔ o.setup.CheckedSucceed ∧ o.streamOn = true :=
    iff_of_true rfl ⟨hstarts.setup, hstarts.streamOn⟩
  have hnone : (captured o).device.Owes [] := Book.owes_start
  by_cases hdevice : o.device.Succeed
  swap
  · -- `drm_Open` fails, and has closed what it opened.
    obtain ⟨device, hopen, hbalanced⟩ := drmOpen_of_not_succeed hdevice (captured o).device
    rw [displayHalf, drmOpen, hopen] at hfailed
    obtain rfl := Outcome.failed.inj hfailed
    refine ⟨rfl, .inl hsetup, rfl, hstream, iff_of_true rfl hstarts, ?_,
      iff_of_true List.Perm.nil ?_⟩
    · exact (hbalanced _ hnone).settled_iff.mpr rfl
    · exact fun h => hdevice h.2.1
  · -- Later failures go through `err3`, which closes it.
    have hclosed : ((captured o).device.obtain.free 0).Settled :=
      hnone.obtain.free.settled_iff.mpr rfl
    rw [displayHalf, drmOpen_captured hdevice, Outcome.andThen] at hfailed
    obtain ⟨t, hrest, herr⟩ := Outcome.orElse_eq_failed.mp hfailed
    obtain rfl := Outcome.failed.inj herr
    rcases Outcome.andThen_eq_failed.mp hrest with hinit | ⟨t', hinit, hthread⟩
    · obtain ⟨d, hd, rfl⟩ := Outcome.map_eq_failed.mp hinit
      refine ⟨rfl, .inl hsetup, rfl, hstream, iff_of_true rfl hstarts, hclosed,
        iff_of_true (drmInit_failed hd) ?_⟩
      rintro ⟨-, -, ⟨d', hd'⟩, -⟩
      cases hd.symm.trans hd'
    · obtain ⟨d, hd, rfl⟩ := Outcome.map_eq_done.mp hinit
      rw [drmThread] at hthread
      split_ifs at hthread with hcreate
      obtain rfl := Outcome.failed.inj hthread
      refine ⟨rfl, .inl hsetup, rfl, hstream, iff_of_true rfl hstarts, hclosed,
        iff_of_false (drmInit_done hd).1 ?_⟩
      exact not_not.mpr ⟨hstarts, hdevice, ⟨d, hd⟩, hcreate⟩

lemma halves_failed
    (hfailed : (captureHalf o (opened o)).andThen (displayHalf o) = .failed s) : AtErr2 o s := by
  rcases Outcome.andThen_eq_failed.mp hfailed with hfirst | ⟨t, hfirst, hsecond⟩
  · exact captureHalf_failed hfirst
  · obtain ⟨hstarts, rfl⟩ := captureHalf_eq_done.mp hfirst
    exact displayHalf_failed hstarts hsecond

end Halves

/-! ## What is left -/

section Left

variable {o : Calls} {s : State}

/-- **How far a failed start had come.** -/
lemma streaming_and_capture (hfailed : main o = .failed s) :
    (s.streaming = true ↔ o.CameraOpens ∧ o.setup.CheckedSucceed ∧ o.streamOn = true) ∧
    (s.capture = true ↔ o.CameraOpens ∧ o.CaptureStarts) := by
  by_cases hopen : o.CameraOpens
  swap
  · obtain ⟨camera, hmain, -⟩ := main_of_not_opens hopen
    obtain rfl := Outcome.failed.inj (hmain.symm.trans hfailed)
    exact ⟨iff_of_false nofun fun h => hopen h.1, iff_of_false nofun fun h => hopen h.1⟩
  rw [main_of_opens hopen] at hfailed
  obtain ⟨t, hhalves, herr⟩ := Outcome.orElse_eq_failed.mp hfailed
  obtain ⟨calls, -, rfl⟩ := err2_eq_failed.mp herr
  have ht := halves_failed hhalves
  rw [and_iff_right hopen, and_iff_right hopen]
  exact ⟨ht.streaming, ht.capture⟩

end Left

/-- The whole start succeeds but for the display thread: the camera's memory is given back under the
capture thread, and the display's objects stay. -/
def displayThreadMissing : Calls where
  argc := 2
  fd := 3
  querycap := true
  capabilities := v4l2CapVideoCapture ||| v4l2CapStreaming
  setup := everyCallSucceeds
  tables := ⟨0, 0, 0, 0, 0⟩
  streamOn := true
  createCapture := .stored true
  device := ⟨4, 0, 1⟩
  drm := callsOnPanel fun _ => 0
  crtc := consoleCrtc
  createDisplay := false

section Crashes

variable {o : Calls} {s : State}

lemma captureHalf_eq_crashed : captureHalf o (opened o) = .crashed ↔
    (o.setup.ArrayAllocated ∧ (∀ i < 4, o.setup.querybuf i = true ∧ o.setup.qbuf i = true) ∧
      o.setup.mallocSem = false ∧ o.setup.mallocRgb 0 = true) ∨
    (o.setup.CheckedSucceed ∧ o.streamOn = true ∧ o.setup.mallocTid = false ∧
      o.createCapture ≠ .refused) := by
  rw [captureHalf, Outcome.andThen_eq_crashed, v4l2Init, Outcome.map_eq_crashed]
  refine or_congr v4l2Init_eq_crashed ?_
  constructor
  · rintro ⟨t, hinit, hthread⟩
    obtain ⟨setup, hsetup, rfl⟩ := Outcome.map_eq_done.mp hinit
    obtain ⟨hchecked, rfl⟩ := v4l2Init_eq_done.mp hsetup
    obtain ⟨hstream, htid, hstored⟩ := cameraThread_eq_crashed.mp hthread
    exact ⟨hchecked, hstream, (setupDone_tid _ _).mp htid, hstored⟩
  · rintro ⟨hchecked, hstream, htid, hstored⟩
    refine ⟨{ opened o with setup := setupDone false o.setup o.tables }, ?_, ?_⟩
    · exact Outcome.map_eq_done.mpr ⟨_, v4l2Init_eq_done.mpr ⟨hchecked, rfl⟩, rfl⟩
    · exact cameraThread_eq_crashed.mpr ⟨hstream, (setupDone_tid _ _).mpr htid, hstored⟩

lemma displayHalf_eq_crashed : displayHalf o (captured o) = .crashed ↔
    o.device.Succeed ∧ ∃ t, o.drm.resources = some t ∧ t.Stops := by
  by_cases hdevice : o.device.Succeed
  swap
  · obtain ⟨device, hopen, -⟩ := drmOpen_of_not_succeed hdevice (captured o).device
    rw [displayHalf, drmOpen, hopen]
    exact iff_of_false nofun fun h => hdevice h.1
  rw [displayHalf, drmOpen_captured hdevice, Outcome.andThen, Outcome.orElse_eq_crashed,
    Outcome.andThen_eq_crashed, and_iff_right hdevice, drmInit, Outcome.map_eq_crashed]
  have hinit : Drm.drmInit false o.drm (captured o).display = .crashed ↔
      ∃ t, o.drm.resources = some t ∧ t.Stops := drmInit_eq_crashed
  constructor
  · rintro ((hcrash | ⟨t, -, hthread⟩) | ⟨t, -, herr⟩)
    · exact hinit.mp hcrash
    · rw [drmThread] at hthread
      split_ifs at hthread
    · cases herr
  · exact fun hstops => .inl (.inl (hinit.mpr hstops))

/-- Without the array `err2` is reached at once, and goes through `NULL`. -/
lemma err2_crashes : (∃ s, (captureHalf o (opened o)).andThen (displayHalf o) = .failed s ∧
      err2 s = .crashed) ↔ o.setup.FormatAccepted ∧ ¬ o.setup.ArrayAllocated := by
  constructor
  · rintro ⟨s, hfailed, herr⟩
    have hnull := err2_eq_crashed.mp herr
    rcases v4l2Init_returns (halves_failed hfailed).setup with ⟨-, haccounted⟩ |
      ⟨hno, -, ⟨hformat, -⟩ | ⟨-, hnone⟩⟩
    · obtain ⟨calls, hcalls, -⟩ := haccounted.exists_calls
      cases hnull.symm.trans hcalls
    · exact ⟨hformat, hno⟩
    · cases hnull.symm.trans hnone
  · rintro ⟨hformat, hno⟩
    obtain ⟨t, hfailed, -, haccepted, -⟩ := @v4l2Init_without_array o.setup false o.tables hno
    obtain ⟨hcount, hbuffers⟩ := haccepted hformat
    refine ⟨{ opened o with setup := t }, ?_, ?_⟩
    · have hinit : v4l2Init o (opened o) = .failed { opened o with setup := t } :=
        Outcome.map_eq_failed.mpr ⟨t, hfailed, rfl⟩
      rw [captureHalf, hinit]
      rfl
    · exact err2_eq_crashed.mpr (freeV4l2Memory_null hbuffers (by rw [hcount]; norm_num))

end Crashes

end Mp157.Startup
