import Mp157.Camera.Conversion
import Mp157.Library.Stages

/-!
# Setting up the camera (`v4l2_init`, `free_v4l2_memory`)

`v4l2_init` negotiates the format, asks the driver for buffers, maps and queues them, and
allocates what the threads need.  It can fail at every one of these calls; `main` then calls
`free_v4l2_memory`, which goes by `uCount` and by which pointers are not `NULL`.

* `v4l2Init` — the function, for every outcome of the calls it makes.
* `freeV4l2Memory` — the cleanup: what it unmaps and frees, or nothing if it dereferences `NULL`.
* `cleanup_exact_iff` — the cleanup after a failure is exact only when the failure came before
  `uCount` was set.
-/

namespace Mp157

open Stages

/-! ## The camera and the calls it makes -/

/-- `V4L2_PIX_FMT_YUYV` -/
def v4l2PixFmtYuyv : UInt32 := 0x56595559

/-- The fields of `struct v4l2_pix_format` that are looked at. -/
structure PixFormat where
  pixelformat : UInt32
  width : UInt32
  height : UInt32

/-- What the set-up acquires; a mapping and a block are named by the call that obtained them. -/
inductive Resource
  /-- Mapping of buffer `i`, of `length` bytes. -/
  | mapping (i : ℕ) (length : UInt32)
  /-- The array of `count` elements `VideoBuffer`. -/
  | pBuffers (count : ℕ)
  /-- `count` elements `pthread_t`. -/
  | tid (count : ℕ)
  /-- `count` elements `sem_t`. -/
  | sem (count : ℕ)
  /-- `rgbdata[i]`, of `size` bytes. -/
  | rgbdata (i : ℕ) (size : UInt32)
deriving DecidableEq

/-- A pointer variable. -/
inductive Pointer
  | null
  /-- `MAP_FAILED` -/
  | mapFailed
  | to (r : Resource)
deriving DecidableEq

structure VideoBuffer where
  pStart : Pointer
  uLength : UInt32

/-- The fields of `struct cameraInf` that the set-up and the cleanup use. -/
structure CameraInf where
  uCount : ℕ
  rgbdata : ℕ → Pointer
  sem : Pointer
  fmt : PixFormat
  rbCount : UInt32
  pBuffers : Pointer
  /-- What the array behind `pBuffers` holds. -/
  videoBuffer : ℕ → VideoBuffer
  msgId : ℤ
  tid : Pointer

/-- The outcomes of the calls; `true` is success. -/
structure SetupCalls where
  sFmt : Bool
  /-- The format after `VIDIOC_G_FMT`. -/
  gFmt : PixFormat
  reqbufs : Bool
  /-- `rb.count` as the driver granted it. -/
  granted : UInt32
  callocBuffers : Bool
  querybuf : ℕ → Bool
  /-- `buf.length` -/
  length : ℕ → UInt32
  mmap : ℕ → Bool
  qbuf : ℕ → Bool
  mallocTid : Bool
  mallocSem : Bool
  mallocRgb : ℕ → Bool
  /-- What `createMsgQueue` returns. -/
  msgQueue : ℤ

/-- The camera together with what the calls have done. -/
structure SetupState where
  camera : CameraInf
  /-- Live mappings and blocks, in the order they were obtained. -/
  obtained : List Resource
  /-- Buffers queued in the driver. -/
  queued : List ℕ
  /-- Semaphores initialised. -/
  semInit : List ℕ
  tables : Tables

/-- The global `camera` before anything ran, whatever the tables hold. -/
def setupStart (tables : Tables) : SetupState where
  camera :=
    { uCount := 0
      rgbdata := fun _ => .null
      sem := .null
      fmt := ⟨0, 0, 0⟩
      rbCount := 0
      pBuffers := .null
      videoBuffer := fun _ => ⟨.null, 0⟩
      msgId := 0
      tid := .null }
  obtained := []
  queued := []
  semInit := []
  tables := tables

/-! ## `v4l2_init` -/

/-- The format: ask for YUYV at 640 by 480, and look at what the driver made of it. -/
def setFormat (o : SetupCalls) (s : SetupState) : Outcome SetupState :=
  let asked := { s with camera := { s.camera with fmt := ⟨v4l2PixFmtYuyv, 640, 480⟩ } }
  if o.sFmt = false then .failed asked
  else
    let got := { s with camera := { s.camera with fmt := o.gFmt } }
    if o.gFmt.pixelformat ≠ v4l2PixFmtYuyv then .failed got else .done got

/-- `uCount` and `VIDIOC_REQBUFS`. -/
def requestBuffers (o : SetupCalls) (s : SetupState) : Outcome SetupState :=
  let asked := { s with camera := { s.camera with uCount := 4, rbCount := 4 } }
  if o.reqbufs = false then .failed asked
  else
    let got := { asked with camera := { asked.camera with rbCount := o.granted } }
    if o.granted < 2 ∨ o.granted > 5 then .failed got else .done got

/-- The array of `VideoBuffer`. -/
def allocBuffers (o : SetupCalls) (s : SetupState) : Outcome SetupState :=
  if o.callocBuffers = false then .failed { s with camera := { s.camera with pBuffers := .null } }
  else
    .done { s with
      camera := { s.camera with
        pBuffers := .to (.pBuffers s.camera.uCount)
        videoBuffer := fun _ => ⟨.null, 0⟩ }
      obtained := s.obtained ++ [.pBuffers s.camera.uCount] }

/-- What `mmap` returns for buffer `i`. -/
def mmapResult (o : SetupCalls) (i : ℕ) : Pointer :=
  if o.mmap i then .to (.mapping i (o.length i)) else .mapFailed

/-- Buffer `i`: find its length, map it and queue it. -/
def mapBuffer (o : SetupCalls) (i : ℕ) (s : SetupState) : Outcome SetupState :=
  if o.querybuf i = false then .failed s
  else
    let mapped := { s with
      camera := { s.camera with
        videoBuffer := Function.update s.camera.videoBuffer i ⟨mmapResult o i, o.length i⟩ }
      obtained := s.obtained ++ if o.mmap i then [.mapping i (o.length i)] else [] }
    -- the result is compared with `NULL`, which `mmap` does not return
    if mmapResult o i = .null then .failed mapped
    else if o.qbuf i = false then .failed mapped
    else .done { mapped with queued := s.queued ++ [i] }

/-- `tid` and `sem`, neither of which is looked at. -/
def allocThreads (o : SetupCalls) (s : SetupState) : Outcome SetupState :=
  let n := s.camera.uCount
  .done { s with
    camera := { s.camera with
      tid := if o.mallocTid then .to (.tid (n + 1)) else .null
      sem := if o.mallocSem then .to (.sem n) else .null }
    obtained := s.obtained ++ (if o.mallocTid then [.tid (n + 1)] else [])
      ++ (if o.mallocSem then [.sem n] else []) }

/-- `sizeof(unsigned char) * width * height * n` in 32 bits. -/
def rgbSize (bmpmode : Bool) (fmt : PixFormat) : UInt32 :=
  fmt.width * fmt.height * if bmpmode then 3 else 2

/-- `rgbdata[i]`, and `sem_init` of `sem[i]`. -/
def allocRgb (bmpmode : Bool) (o : SetupCalls) (i : ℕ) (s : SetupState) : Outcome SetupState :=
  let size := rgbSize bmpmode s.camera.fmt
  if o.mallocRgb i = false then
    .failed { s with
      camera := { s.camera with rgbdata := Function.update s.camera.rgbdata i .null } }
  else if s.camera.sem = .null then .crashed
  else
    .done { s with
      camera := { s.camera with
        rgbdata := Function.update s.camera.rgbdata i (.to (.rgbdata i size)) }
      obtained := s.obtained ++ [.rgbdata i size]
      semInit := s.semInit ++ [i] }

/-- What follows the mapping, when the format is YUYV. -/
def allocPipeline (bmpmode : Bool) (o : SetupCalls) (s : SetupState) : Outcome SetupState :=
  if s.camera.fmt.pixelformat = v4l2PixFmtYuyv then
    ((allocThreads o s).andThen (stages s.camera.uCount (allocRgb bmpmode o))).andThen fun s =>
      .done { s with
        camera := { s.camera with msgId := o.msgQueue }
        tables := yuvRgbTableInit s.tables }
  else .done s

/-- Sets up the camera: `done` is the return of 0, `failed` of -1. -/
def v4l2Init (bmpmode : Bool) (o : SetupCalls) (s : SetupState) : Outcome SetupState :=
  ((setFormat o s).andThen (requestBuffers o)).andThen fun s =>
    ((allocBuffers o s).andThen (stages s.camera.uCount (mapBuffer o))).andThen
      (allocPipeline bmpmode o)

/-! ## `free_v4l2_memory` -/

/-- A call of the cleanup. -/
inductive Release
  | munmap (p : Pointer) (length : UInt32)
  | free (p : Pointer)
deriving DecidableEq

/-- `if(p != NULL) free(p);` -/
def freePointer (p : Pointer) : List Release := if p = .null then [] else [.free p]

lemma mem_freePointer {p q : Pointer} (h : Release.free p ∈ freePointer q) : p = q := by
  rw [freePointer] at h
  split_ifs at h
  · cases h
  · simpa using h

/-- `if(p != NULL) munmap(p, length);` -/
def unmapPointer (p : Pointer) (length : UInt32) : List Release :=
  if p = .null then [] else [.munmap p length]

/-- Unmaps buffer `i`, if its address is set; reading it dereferences `pBuffers`. -/
def unmapBuffer (camera : CameraInf) (i : ℕ) : Option (List Release) :=
  if camera.pBuffers = .null then none
  else some (unmapPointer (camera.videoBuffer i).pStart (camera.videoBuffer i).uLength)

/-- The calls the cleanup makes, unless it dereferences `NULL`. -/
def freeV4l2Memory (camera : CameraInf) : Option (List Release) := do
  let unmapped ← (List.range camera.uCount).mapM (unmapBuffer camera)
  return unmapped.flatten ++ freePointer camera.tid ++ freePointer camera.sem
    ++ (List.range camera.uCount).flatMap fun i => freePointer (camera.rgbdata i)

lemma freeV4l2Memory_null {camera : CameraInf} (hnull : camera.pBuffers = .null)
    (hcount : 0 < camera.uCount) : freeV4l2Memory camera = none := by
  obtain ⟨n, hn⟩ := Nat.exists_eq_succ_of_ne_zero hcount.ne'
  rw [freeV4l2Memory, hn, List.range_succ_eq_map, List.mapM_cons, unmapBuffer, if_pos hnull]
  rfl

lemma freeV4l2Memory_eq {camera : CameraInf} (hbuffers : camera.pBuffers ≠ .null) :
    freeV4l2Memory camera = some (((List.range camera.uCount).map fun i =>
      unmapPointer (camera.videoBuffer i).pStart (camera.videoBuffer i).uLength).flatten
      ++ freePointer camera.tid ++ freePointer camera.sem
      ++ (List.range camera.uCount).flatMap fun i => freePointer (camera.rgbdata i)) := by
  have hunmap : unmapBuffer camera = fun i =>
      pure (unmapPointer (camera.videoBuffer i).pStart (camera.videoBuffer i).uLength) := by
    funext i
    rw [unmapBuffer, if_neg hbuffers]
    rfl
  rw [freeV4l2Memory, hunmap, List.mapM_pure]
  rfl

/-- The call that gives a resource back. -/
def Resource.release : Resource → Release
  | .mapping i length => .munmap (.to (.mapping i length)) length
  | r => .free (.to r)

/-- The cleanup dereferences no `NULL`, and unmaps and frees what was obtained and nothing else,
each once. -/
def CleanupExact (s : SetupState) : Prop :=
  ∃ calls, freeV4l2Memory s.camera = some calls ∧
    calls.Perm (s.obtained.map Resource.release)

/-! ## What a failure leaves to the cleanup -/

/-- The format was accepted. -/
def SetupCalls.FormatAccepted (o : SetupCalls) : Prop :=
  o.sFmt = true ∧ o.gFmt.pixelformat = v4l2PixFmtYuyv

/-- The set-up has set `uCount`: four buffers are to be unmapped, and the array that holds their
addresses is `NULL` or one of the blocks obtained.  No pointer the cleanup frees is this array. -/
structure CountSet (s : SetupState) : Prop where
  uCount : s.camera.uCount = 4
  pBuffers : s.camera.pBuffers = .null ∨ ∃ n, .pBuffers n ∈ s.obtained
  tid : ∀ n, s.camera.tid ≠ .to (.pBuffers n)
  sem : ∀ n, s.camera.sem ≠ .to (.pBuffers n)
  rgbdata : ∀ i n, s.camera.rgbdata i ≠ .to (.pBuffers n)

section Stages

variable (bmpmode : Bool) (o : SetupCalls)

/-- Obtaining more loses nothing. -/
lemma CountSet.obtain {s : SetupState} (hs : CountSet s) (rs : List Resource) :
    s.camera.pBuffers = .null ∨ ∃ n, .pBuffers n ∈ s.obtained ++ rs :=
  hs.pBuffers.imp_right fun ⟨n, hn⟩ => ⟨n, List.mem_append_left _ hn⟩

lemma allocBuffers_keeps : Keeps CountSet (allocBuffers o) := by
  intro s hs
  rw [allocBuffers]
  split_ifs
  · exact ⟨hs.uCount, .inl rfl, hs.tid, hs.sem, hs.rgbdata⟩
  · exact ⟨hs.uCount, .inr ⟨s.camera.uCount, by simp⟩, hs.tid, hs.sem, hs.rgbdata⟩

lemma mapBuffer_keeps (i : ℕ) : Keeps CountSet (mapBuffer o i) := by
  intro s hs
  rw [mapBuffer]
  dsimp only
  by_cases hquery : o.querybuf i = false
  · rw [if_pos hquery]
    exact hs
  · rw [if_neg hquery]
    split_ifs
    all_goals exact ⟨hs.uCount, hs.obtain _, hs.tid, hs.sem, hs.rgbdata⟩

lemma allocThreads_keeps : Keeps CountSet (allocThreads o) := by
  intro s hs
  have hblock := hs.obtain ((if o.mallocTid then [.tid (s.camera.uCount + 1)] else [])
    ++ (if o.mallocSem then [.sem s.camera.uCount] else []))
  rw [← List.append_assoc] at hblock
  refine ⟨hs.uCount, hblock, ?_, ?_, hs.rgbdata⟩
  · intro n
    cases o.mallocTid <;> simp
  · intro n
    cases o.mallocSem <;> simp

lemma allocRgb_keeps (i : ℕ) : Keeps CountSet (allocRgb bmpmode o i) := by
  intro s hs
  have hrgb : ∀ p : Pointer, (∀ n, p ≠ .to (.pBuffers n)) →
      ∀ j n, Function.update s.camera.rgbdata i p j ≠ .to (.pBuffers n) := by
    intro p hp j n
    rcases eq_or_ne j i with rfl | hj
    · rw [Function.update_self]
      exact hp n
    · rw [Function.update_of_ne hj]
      exact hs.rgbdata j n
  rw [allocRgb]
  dsimp only
  split_ifs
  · exact ⟨hs.uCount, hs.pBuffers, hs.tid, hs.sem, hrgb _ (by simp)⟩
  · trivial
  · exact ⟨hs.uCount, hs.obtain _, hs.tid, hs.sem, hrgb _ (by simp)⟩

lemma allocPipeline_keeps : Keeps CountSet (allocPipeline bmpmode o) := by
  intro s hs
  rw [allocPipeline]
  split_ifs
  · refine Outcome.Leaves.andThen (Outcome.Leaves.andThen (allocThreads_keeps o s hs)
      (Keeps.stages (allocRgb_keeps bmpmode o) _)) ?_
    intro s' hs'
    exact ⟨hs'.uCount, hs'.pBuffers, hs'.tid, hs'.sem, hs'.rgbdata⟩
  · exact hs

end Stages

section Cleanup

variable {bmpmode : Bool} {o : SetupCalls} {tables : Tables} {s : SetupState}

/-- Once the format is accepted, whatever stops the set-up stops it with `uCount` set. -/
lemma countSet_of_accepted (haccepted : o.FormatAccepted) :
    (v4l2Init bmpmode o (setupStart tables)).Leaves CountSet := by
  obtain ⟨hsFmt, hformat⟩ := haccepted
  have hrest : Keeps CountSet fun s => ((allocBuffers o s).andThen
      (stages s.camera.uCount (mapBuffer o))).andThen (allocPipeline bmpmode o) := by
    intro s hs
    exact ((allocBuffers_keeps o s hs).andThen (Keeps.stages (mapBuffer_keeps o) _)).andThen
      (allocPipeline_keeps bmpmode o)
  refine Outcome.Leaves.andThen ?_ hrest
  simp only [setFormat, hsFmt, hformat, Bool.true_eq_false, if_false, ne_eq, not_true,
    Outcome.andThen, requestBuffers]
  split_ifs
  all_goals exact ⟨rfl, .inl rfl, by simp [setupStart], by simp [setupStart],
    by simp [setupStart]⟩

/-- Before that, there is nothing to unmap or free, and the cleanup does nothing. -/
lemma cleanup_of_rejected (hrejected : ¬ o.FormatAccepted)
    (hfailed : v4l2Init bmpmode o (setupStart tables) = .failed s) : CleanupExact s := by
  have hstop : ∃ fmt, setFormat o (setupStart tables) = .failed { setupStart tables with
      camera := { (setupStart tables).camera with fmt := fmt } } := by
    rw [setFormat]
    dsimp only
    by_cases hsFmt : o.sFmt = false
    · exact ⟨_, if_pos hsFmt⟩
    · have hformat : o.gFmt.pixelformat ≠ v4l2PixFmtYuyv :=
        fun hformat => hrejected ⟨by simpa using hsFmt, hformat⟩
      exact ⟨_, by rw [if_neg hsFmt, if_pos hformat]⟩
  obtain ⟨fmt, hstop⟩ := hstop
  rw [v4l2Init, hstop] at hfailed
  obtain rfl := Outcome.failed.inj hfailed
  exact ⟨[], rfl, List.Perm.nil⟩

/-- Afterwards the cleanup dereferences the array before it exists, or does not free it. -/
lemma CountSet.not_exact (hs : CountSet s) : ¬ CleanupExact s := by
  rintro ⟨calls, hcalls, hperm⟩
  by_cases hnull : s.camera.pBuffers = .null
  · rw [freeV4l2Memory_null hnull (by rw [hs.uCount]; norm_num)] at hcalls
    cases hcalls
  · obtain ⟨n, hn⟩ := hs.pBuffers.resolve_left hnull
    rw [freeV4l2Memory_eq hnull, Option.some.injEq] at hcalls
    have hfree : Release.free (.to (.pBuffers n)) ∈ calls :=
      hperm.mem_iff.mpr (List.mem_map.mpr ⟨_, hn, rfl⟩)
    -- it frees only `tid`, `sem` and `rgbdata`, and none of them is the array
    rw [← hcalls, List.mem_append, List.mem_append, List.mem_append] at hfree
    rcases hfree with ((hfree | hfree) | hfree) | hfree
    · simp [unmapPointer, List.mem_ite_nil_left] at hfree
    · exact hs.tid n (mem_freePointer hfree).symm
    · exact hs.sem n (mem_freePointer hfree).symm
    · obtain ⟨i, _, hi⟩ := List.mem_flatMap.mp hfree
      exact hs.rgbdata i n (mem_freePointer hi).symm

/-- **When the cleanup after a failure is exact.**  For every sequence of outcomes that makes
`v4l2_init` return -1: exactly when `VIDIOC_S_FMT` failed or the driver did not accept YUYV. -/
theorem cleanup_exact_iff (hfailed : v4l2Init bmpmode o (setupStart tables) = .failed s) :
    CleanupExact s ↔ o.sFmt = false ∨ o.gFmt.pixelformat ≠ v4l2PixFmtYuyv := by
  by_cases haccepted : o.FormatAccepted
  · have hs : CountSet s := by
      have hleaves : (v4l2Init bmpmode o (setupStart tables)).Leaves CountSet :=
        countSet_of_accepted haccepted
      rwa [hfailed] at hleaves
    have hnot := hs.not_exact
    simp [hnot, haccepted.1, haccepted.2]
  · have hexact := cleanup_of_rejected haccepted hfailed
    have hcases : o.sFmt = false ∨ o.gFmt.pixelformat ≠ v4l2PixFmtYuyv := by
      by_contra hall
      simp only [not_or, Bool.not_eq_false, not_not] at hall
      exact haccepted hall
    exact iff_of_true hexact hcases

/-- A driver and a system on which no call fails. -/
def everyCallSucceeds : SetupCalls where
  sFmt := true
  gFmt := ⟨v4l2PixFmtYuyv, 640, 480⟩
  reqbufs := true
  granted := 4
  callocBuffers := true
  querybuf := fun _ => true
  length := fun _ => 614400
  mmap := fun _ => true
  qbuf := fun _ => true
  mallocTid := true
  mallocSem := true
  mallocRgb := fun _ => true
  msgQueue := 0

/-- The driver has no YUYV: nothing was acquired. -/
theorem cleanup_exact_no_yuyv : ∃ s,
    v4l2Init false { everyCallSucceeds with gFmt := ⟨0, 640, 480⟩ }
      (setupStart ⟨0, 0, 0, 0, 0⟩) = .failed s ∧ CleanupExact s := by
  have hfailed : v4l2Init false { everyCallSucceeds with gFmt := ⟨0, 640, 480⟩ }
      (setupStart ⟨0, 0, 0, 0, 0⟩) = .failed _ := rfl
  exact ⟨_, hfailed, (cleanup_exact_iff hfailed).mpr (.inr (by decide))⟩

/-- `VIDIOC_REQBUFS` fails: the cleanup reads `pBuffers[0]` through `NULL`. -/
theorem cleanup_derefs_null : ∃ s,
    v4l2Init false { everyCallSucceeds with reqbufs := false } (setupStart ⟨0, 0, 0, 0, 0⟩)
      = .failed s ∧ freeV4l2Memory s.camera = none ∧ ¬ CleanupExact s := by
  refine ⟨_, rfl, rfl, ?_⟩
  rintro ⟨calls, hcalls, -⟩
  cases hcalls

end Cleanup

end Mp157
