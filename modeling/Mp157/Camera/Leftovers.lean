import Mp157.Camera.SetupGuarantee
import Mp157.Library.Ledger

/-!
# What the cleanup gives back (`v4l2_init`, then `free_v4l2_memory`)

`main` calls `free_v4l2_memory` however `v4l2_init` has ended.  `Camera/Setup.lean` says when that
leaves nothing behind after a failure; here is what it leaves, however the set-up ended.

* `v4l2Init_eq_crashed` — the one way for the set-up to crash.
* `cleanup_leaves` — the cleanup crashes only where the array of buffers could not be allocated;
  else it gives everything back once, but for that array, and unmaps `MAP_FAILED` besides.
-/

namespace Mp157

open Stages

/-! ## What a pointer owns -/

/-- What the pointer points to. -/
def Pointer.resource : Pointer → List Resource
  | .to r => [r]
  | _ => []

/-- The array `pBuffers`. -/
def Resource.isArray : Resource → Bool
  | .pBuffers _ => true
  | _ => false

/-- The call gives something back: `munmap` of `MAP_FAILED` does not. -/
def Release.effective : Release → Bool
  | .munmap .mapFailed _ => false
  | _ => true

/-- The pointer is `NULL`, or owns a block that `free` gives back. -/
def Pointer.OwnsBlock (p : Pointer) : Prop :=
  p = .null ∨ ∃ r, p = .to r ∧ r.isArray = false ∧ r.release = .free (.to r)

/-- The address is not set, is `MAP_FAILED`, or is that of a mapping as long as it says. -/
def VideoBuffer.OwnsMapping (b : VideoBuffer) (i : ℕ) : Prop :=
  b.pStart = .null ∨ b.pStart = .mapFailed ∨ b.pStart = .to (.mapping i b.uLength)

/-- What the pointers of the camera own, but for the array. -/
def CameraInf.owned (camera : CameraInf) : List Resource :=
  (List.range 4).flatMap (fun i => (camera.videoBuffer i).pStart.resource)
    ++ camera.tid.resource ++ camera.sem.resource
    ++ (List.range 4).flatMap fun i => (camera.rgbdata i).resource

/-- Every pointer that the cleanup goes by owns what it names. -/
structure CameraInf.Owns (camera : CameraInf) : Prop where
  videoBuffer : ∀ i, (camera.videoBuffer i).OwnsMapping i
  tid : camera.tid.OwnsBlock
  sem : camera.sem.OwnsBlock
  rgbdata : ∀ i, (camera.rgbdata i).OwnsBlock

/-- The array is there, and everything else obtained is owned by one of the pointers. -/
structure Accounted (s : SetupState) : Prop where
  uCount : s.camera.uCount = 4
  pBuffers : s.camera.pBuffers = .to (.pBuffers 4)
  obtained : s.obtained.Perm (.pBuffers 4 :: s.camera.owned)
  owns : s.camera.Owns

section Cleanup

variable {s : SetupState} {p : Pointer} {b : VideoBuffer} {camera : CameraInf} {i : ℕ}

lemma Pointer.OwnsBlock.free (h : p.OwnsBlock) :
    (freePointer p).filter Release.effective = p.resource.map Resource.release := by
  rcases h with rfl | ⟨r, rfl, -, hfree⟩
  · rfl
  · rw [Pointer.resource, List.map_singleton, hfree]
    rfl

lemma Pointer.OwnsBlock.not_array (h : p.OwnsBlock) : ∀ r ∈ p.resource, r.isArray = false := by
  rcases h with rfl | ⟨r, rfl, harray, -⟩
  · simp [Pointer.resource]
  · simpa [Pointer.resource] using harray

lemma VideoBuffer.OwnsMapping.unmap (h : b.OwnsMapping i) :
    (unmapPointer b.pStart b.uLength).filter Release.effective
      = b.pStart.resource.map Resource.release := by
  rcases h with h | h | h
  · rw [h]
    rfl
  · rw [h]
    rfl
  · rw [h]
    rfl

lemma VideoBuffer.OwnsMapping.not_array (h : b.OwnsMapping i) :
    ∀ r ∈ b.pStart.resource, r.isArray = false := by
  rcases h with h | h | h
  · simp [h, Pointer.resource]
  · simp [h, Pointer.resource]
  · simp [h, Pointer.resource, Resource.isArray]

/-- The array is not among what the pointers own. -/
lemma CameraInf.Owns.not_array (h : camera.Owns) : ∀ r ∈ camera.owned, r.isArray = false := by
  intro r hr
  simp only [CameraInf.owned, List.mem_append, List.mem_flatMap] at hr
  rcases hr with ((⟨i, -, hr⟩ | hr) | hr) | ⟨i, -, hr⟩
  · exact (h.videoBuffer i).not_array r hr
  · exact h.tid.not_array r hr
  · exact h.sem.not_array r hr
  · exact (h.rgbdata i).not_array r hr

/-- **The cleanup.**  It gives back what the pointers own. -/
lemma Accounted.cleanup (h : Accounted s) : ∃ calls, freeV4l2Memory s.camera = some calls ∧
    calls.filter Release.effective = s.camera.owned.map Resource.release := by
  have hbuffers : s.camera.pBuffers ≠ .null := by simp [h.pBuffers]
  refine ⟨_, freeV4l2Memory_eq hbuffers, ?_⟩
  have hunmap : ((List.range 4).map fun i => unmapPointer (s.camera.videoBuffer i).pStart
      (s.camera.videoBuffer i).uLength).flatten.filter Release.effective
        = ((List.range 4).flatMap fun i => (s.camera.videoBuffer i).pStart.resource).map
          Resource.release := by
    rw [← List.flatMap_def, List.filter_flatMap, List.map_flatMap]
    exact List.flatMap_congr fun i _ => (h.owns.videoBuffer i).unmap
  have hrgb : ((List.range 4).flatMap fun i => freePointer (s.camera.rgbdata i)).filter
      Release.effective = ((List.range 4).flatMap fun i => (s.camera.rgbdata i).resource).map
        Resource.release := by
    rw [List.filter_flatMap, List.map_flatMap]
    exact List.flatMap_congr fun i _ => (h.owns.rgbdata i).free
  rw [h.uCount, CameraInf.owned]
  simp only [List.filter_append, List.map_append, hunmap, hrgb, h.owns.tid.free, h.owns.sem.free]

/-- What was obtained is the array, and what the pointers own. -/
lemma Accounted.obtained_filter (h : Accounted s) :
    (s.obtained.filter fun r => !r.isArray).Perm s.camera.owned ∧
      s.obtained.filter Resource.isArray = [.pBuffers 4] := by
  have hothers : s.camera.owned.filter (fun r => !r.isArray) = s.camera.owned :=
    List.filter_eq_self.mpr fun r hr => by simp [h.owns.not_array r hr]
  have harrays : s.camera.owned.filter Resource.isArray = [] :=
    List.filter_eq_nil_iff.mpr fun r hr => by simp [h.owns.not_array r hr]
  constructor
  · have hperm := h.obtained.filter fun r => !r.isArray
    rwa [List.filter_cons_of_neg (by simp [Resource.isArray]), hothers] at hperm
  · have hperm := h.obtained.filter Resource.isArray
    rw [List.filter_cons_of_pos rfl, harrays] at hperm
    exact List.perm_singleton.mp hperm

end Cleanup

/-! ## What the set-up leaves to it -/

/-- When buffer `k` is about to be mapped: nothing later is there. -/
structure AtBuffer (k : ℕ) (s : SetupState) : Prop where
  accounted : Accounted s
  format : s.camera.fmt.pixelformat = v4l2PixFmtYuyv
  buffers : ∀ i ≥ k, (s.camera.videoBuffer i).pStart = .null
  tid : s.camera.tid = .null
  sem : s.camera.sem = .null
  rgbdata : ∀ i, s.camera.rgbdata i = .null

/-- When `rgbdata[k]` is about to be allocated. -/
structure AtRgb (k : ℕ) (s : SetupState) : Prop where
  accounted : Accounted s
  rgbdata : ∀ i ≥ k, s.camera.rgbdata i = .null

section Rounds

variable {o : SetupCalls} {s : SetupState} {bmpmode : Bool} {k : ℕ}

lemma resource_null : Pointer.null.resource = [] := rfl

lemma resource_ite (c : Bool) (r : Resource) :
    (if c then Pointer.to r else .null).resource = if c then [r] else [] := by
  cases c
  · rfl
  · rfl

lemma mmapResult_ownsMapping (o : SetupCalls) (k : ℕ) :
    (VideoBuffer.mk (mmapResult o k) (o.length k)).OwnsMapping k := by
  rw [VideoBuffer.OwnsMapping, mmapResult]
  split_ifs
  · exact .inr (.inr rfl)
  · exact .inr (.inl rfl)

lemma mmapResult_resource (o : SetupCalls) (k : ℕ) :
    (mmapResult o k).resource = if o.mmap k then [.mapping k (o.length k)] else [] := by
  rw [mmapResult]
  split_ifs
  · rfl
  · rfl

lemma owned_videoBuffer {camera : CameraInf} (hk : k < 4)
    (hnull : (camera.videoBuffer k).pStart = .null) (b : VideoBuffer) :
    ({ camera with videoBuffer := Function.update camera.videoBuffer k b }.owned).Perm
      (camera.owned ++ b.pStart.resource) := by
  have howners := @Ledger.flatMap_update_perm _ _ _ _
    (fun i => (camera.videoBuffer i).pStart.resource) k List.nodup_range
    (List.mem_range.mpr hk) (by rw [hnull]; rfl) b.pStart.resource
  have hupdate := funext (Function.apply_update (fun _ => fun b : VideoBuffer => b.pStart.resource)
    camera.videoBuffer k b)
  rw [← hupdate] at howners
  rw [List.perm_iff_count]
  intro r
  have hcount := howners.count_eq r
  simp only [CameraInf.owned, List.count_append] at hcount ⊢
  omega

lemma owned_rgbdata {camera : CameraInf} (hk : k < 4) (hnull : camera.rgbdata k = .null)
    (p : Pointer) :
    ({ camera with rgbdata := Function.update camera.rgbdata k p }.owned).Perm
      (camera.owned ++ p.resource) := by
  have howners := @Ledger.flatMap_update_perm _ _ _ _ (fun i => (camera.rgbdata i).resource) k
    List.nodup_range (List.mem_range.mpr hk) (by rw [hnull]; rfl) p.resource
  have hupdate := funext (Function.apply_update (fun _ => Pointer.resource) camera.rgbdata k p)
  rw [← hupdate] at howners
  rw [List.perm_iff_count]
  intro r
  have hcount := howners.count_eq r
  simp only [CameraInf.owned, List.count_append] at hcount ⊢
  omega

/-- Buffer `k` is mapped: its address owns the mapping, if there is one. -/
lemma AtBuffer.mapped (h : AtBuffer k s) (hk : k < 4) (queued : List ℕ) :
    AtBuffer (k + 1) { s with
      camera := { s.camera with
        videoBuffer := Function.update s.camera.videoBuffer k ⟨mmapResult o k, o.length k⟩ }
      obtained := s.obtained ++ if o.mmap k then [.mapping k (o.length k)] else []
      queued := queued } := by
  have howned := owned_videoBuffer hk (h.buffers k le_rfl) ⟨mmapResult o k, o.length k⟩
  rw [mmapResult_resource] at howned
  refine ⟨⟨h.accounted.uCount, h.accounted.pBuffers, ?_, ?_, h.accounted.owns.tid,
    h.accounted.owns.sem, h.accounted.owns.rgbdata⟩, h.format, ?_, h.tid, h.sem, h.rgbdata⟩
  · exact (h.accounted.obtained.append_right _).trans (howned.symm.cons _)
  · intro i
    dsimp only
    rcases eq_or_ne i k with rfl | hne
    · rw [Function.update_self]
      exact mmapResult_ownsMapping o i
    · rw [Function.update_of_ne hne]
      exact h.accounted.owns.videoBuffer i
  · intro i hi
    dsimp only
    rw [Function.update_of_ne (by omega)]
    exact h.buffers i (by omega)

lemma mapBuffer_ends (hk : k < 4) (h : AtBuffer k s) :
    (mapBuffer o k s).Ends (AtBuffer (k + 1)) Accounted := by
  rw [mapBuffer]
  dsimp only
  rw [if_neg (mmapResult_ne_null k)]
  by_cases hquery : o.querybuf k = false
  · rw [if_pos hquery]
    exact h.accounted
  rw [if_neg hquery]
  by_cases hqbuf : o.qbuf k = false
  · rw [if_pos hqbuf]
    exact (h.mapped hk s.queued).accounted
  · rw [if_neg hqbuf]
    exact h.mapped hk _

/-- `tid` and `sem` own what was allocated for them. -/
lemma allocThreads_ends (h : AtBuffer k s) : (allocThreads o s).Ends (AtRgb 0) Accounted := by
  have hcount := h.accounted.uCount
  refine ⟨⟨hcount, h.accounted.pBuffers, ?_, h.accounted.owns.videoBuffer, ?_, ?_,
    h.accounted.owns.rgbdata⟩, fun i _ => h.rgbdata i⟩
  · rw [List.perm_iff_count]
    intro r
    have hobtained := h.accounted.obtained.count_eq r
    simp only [CameraInf.owned, h.tid, h.sem, resource_null, resource_ite, List.count_append,
      List.count_cons, List.count_nil] at hobtained ⊢
    omega
  · rcases o.mallocTid
    · exact .inl rfl
    · exact .inr ⟨_, rfl, rfl, rfl⟩
  · rcases o.mallocSem
    · exact .inl rfl
    · exact .inr ⟨_, rfl, rfl, rfl⟩

/-- `rgbdata[k]` owns its block. -/
lemma allocRgb_ends (hk : k < 4) (h : AtRgb k s) :
    (allocRgb bmpmode o k s).Ends (AtRgb (k + 1)) Accounted := by
  have hblock : ∀ p : Pointer, p.OwnsBlock → ∀ i,
      (Function.update s.camera.rgbdata k p i).OwnsBlock := by
    intro p hp i
    rcases eq_or_ne i k with rfl | hne
    · rw [Function.update_self]
      exact hp
    · rw [Function.update_of_ne hne]
      exact h.accounted.owns.rgbdata i
  rw [allocRgb]
  dsimp only
  split_ifs
  · have howned := owned_rgbdata hk (h.rgbdata k le_rfl) .null
    rw [resource_null, List.append_nil] at howned
    exact ⟨h.accounted.uCount, h.accounted.pBuffers,
      h.accounted.obtained.trans (howned.symm.cons _), h.accounted.owns.videoBuffer,
      h.accounted.owns.tid, h.accounted.owns.sem, hblock _ (.inl rfl)⟩
  · trivial
  · have howned := owned_rgbdata hk (h.rgbdata k le_rfl)
      (.to (.rgbdata k (rgbSize bmpmode s.camera.fmt)))
    refine ⟨⟨h.accounted.uCount, h.accounted.pBuffers, ?_, h.accounted.owns.videoBuffer,
      h.accounted.owns.tid, h.accounted.owns.sem, hblock _ (.inr ⟨_, rfl, rfl, rfl⟩)⟩, ?_⟩
    · exact (h.accounted.obtained.append_right _).trans (howned.symm.cons _)
    · intro i hi
      dsimp only
      rw [Function.update_of_ne (by omega)]
      exact h.rgbdata i (by omega)

end Rounds

/-! ## However the set-up ends -/

/-- The array of buffers is asked for, and there. -/
structure SetupCalls.ArrayAllocated (o : SetupCalls) : Prop where
  format : o.FormatAccepted
  reqbufs : o.reqbufs = true ∧ 2 ≤ o.granted ∧ o.granted ≤ 5
  callocBuffers : o.callocBuffers = true

section Ends

variable {o : SetupCalls} {s : SetupState} {bmpmode : Bool} {tables : Tables}

lemma atBuffer_buffersStart (hformat : o.FormatAccepted) : AtBuffer 0 (buffersStart o tables) :=
  { accounted :=
      { uCount := rfl
        pBuffers := rfl
        obtained := List.Perm.refl _
        owns := ⟨fun _ => .inl rfl, .inl rfl, .inl rfl, fun _ => .inl rfl⟩ }
    format := hformat.2
    buffers := fun _ _ => rfl
    tid := rfl
    sem := rfl
    rgbdata := fun _ => rfl }

/-- Up to the array. -/
lemma v4l2Init_of_array (h : o.ArrayAllocated) : v4l2Init bmpmode o (setupStart tables)
    = (stages 4 (mapBuffer o) (buffersStart o tables)).andThen (allocPipeline bmpmode o) := by
  rw [v4l2Init, setFormat_eq_done.mpr ⟨h.format, rfl⟩, Outcome.andThen,
    requestBuffers_eq_done.mpr ⟨h.reqbufs, rfl⟩, Outcome.andThen]
  dsimp only
  rw [allocBuffers_eq_done.mpr ⟨h.callocBuffers, rfl⟩]
  rfl

/-- With the array everything is accounted for, whatever stops the set-up. -/
lemma v4l2Init_ends (h : o.ArrayAllocated) :
    (v4l2Init bmpmode o (setupStart tables)).Ends Accounted Accounted := by
  rw [v4l2Init_of_array h]
  have hmapped := stages_ends (fun k hk s (hs : AtBuffer k s) => mapBuffer_ends (o := o) hk hs)
    (@atBuffer_buffersStart o tables h.format)
  refine hmapped.andThen ?_
  intro s hs
  rw [allocPipeline, if_pos hs.format]
  have hrgb : ∀ s, AtRgb 0 s → (stages 4 (allocRgb bmpmode o) s).Ends (AtRgb 4) Accounted :=
    fun s => stages_ends fun k hk s hs => allocRgb_ends hk hs
  rw [hs.accounted.uCount]
  refine ((allocThreads_ends hs).andThen hrgb).andThen ?_
  intro s hs
  obtain ⟨hvideo, htid, hsem, hrgb⟩ := hs.accounted.owns
  exact ⟨hs.accounted.uCount, hs.accounted.pBuffers, hs.accounted.obtained,
    ⟨hvideo, htid, hsem, hrgb⟩⟩

lemma requestBuffers_failed (hreq : ¬ (o.reqbufs = true ∧ 2 ≤ o.granted ∧ o.granted ≤ 5)) :
    ∃ t, requestBuffers o s = .failed t ∧ t.obtained = s.obtained ∧ t.camera.uCount = 4 ∧
      t.camera.pBuffers = s.camera.pBuffers := by
  rw [requestBuffers]
  dsimp only
  by_cases hreqbufs : o.reqbufs = false
  · rw [if_pos hreqbufs]
    exact ⟨_, rfl, rfl, rfl, rfl⟩
  by_cases hgranted : o.granted < 2 ∨ o.granted > 5
  · rw [if_neg hreqbufs, if_pos hgranted]
    exact ⟨_, rfl, rfl, rfl, rfl⟩
  · rw [not_or, gt_iff_lt, UInt32.not_lt, UInt32.not_lt] at hgranted
    exact absurd ⟨by simpa using hreqbufs, hgranted⟩ hreq

/-- Without it the set-up has failed, and obtained nothing. -/
lemma v4l2Init_without_array (hno : ¬ o.ArrayAllocated) :
    ∃ s, v4l2Init bmpmode o (setupStart tables) = .failed s ∧ s.obtained = [] ∧
      (o.FormatAccepted → s.camera.uCount = 4 ∧ s.camera.pBuffers = .null) ∧
      (¬ o.FormatAccepted → CleanupExact s) := by
  by_cases hformat : o.FormatAccepted
  swap
  · have hstop : ∃ s, v4l2Init bmpmode o (setupStart tables) = .failed s ∧ s.obtained = [] := by
      rw [v4l2Init, setFormat]
      dsimp only
      by_cases hsFmt : o.sFmt = false
      · rw [if_pos hsFmt]
        exact ⟨_, rfl, rfl⟩
      · have hpixel : o.gFmt.pixelformat ≠ v4l2PixFmtYuyv :=
          fun hpixel => hformat ⟨by simpa using hsFmt, hpixel⟩
        rw [if_neg hsFmt, if_pos hpixel]
        exact ⟨_, rfl, rfl⟩
    obtain ⟨s, hs, hobtained⟩ := hstop
    exact ⟨s, hs, hobtained, fun h => absurd h hformat, fun _ => cleanup_of_rejected hformat hs⟩
  rw [v4l2Init, setFormat_eq_done.mpr ⟨hformat, rfl⟩, Outcome.andThen]
  by_cases hreq : o.reqbufs = true ∧ 2 ≤ o.granted ∧ o.granted ≤ 5
  · have hcalloc : o.callocBuffers = false := by
      by_contra hcalloc
      exact hno ⟨hformat, hreq, by simpa using hcalloc⟩
    rw [requestBuffers_eq_done.mpr ⟨hreq, rfl⟩, Outcome.andThen, allocBuffers]
    dsimp only
    rw [if_pos hcalloc]
    exact ⟨_, rfl, rfl, fun _ => ⟨rfl, rfl⟩, fun h => absurd hformat h⟩
  · obtain ⟨t, hfailed, hobtained, hcount, hbuffers⟩ := @requestBuffers_failed o
      { setupStart tables with camera := { (setupStart tables).camera with fmt := o.gFmt } } hreq
    rw [hfailed]
    exact ⟨t, rfl, hobtained, fun _ => ⟨hcount, hbuffers⟩, fun h => absurd hformat h⟩

lemma mapBuffer_ne_crashed {k : ℕ} : mapBuffer o k s ≠ .crashed := by
  rw [mapBuffer]
  dsimp only
  rw [if_neg (mmapResult_ne_null k)]
  by_cases hquery : o.querybuf k = false
  · rw [if_pos hquery]
    simp
  rw [if_neg hquery]
  by_cases hqbuf : o.qbuf k = false
  · rw [if_pos hqbuf]
    simp
  · rw [if_neg hqbuf]
    simp

lemma allocRgb_eq_crashed {k : ℕ} :
    allocRgb bmpmode o k s = .crashed ↔ s.camera.sem = .null ∧ o.mallocRgb k = true := by
  rw [allocRgb]
  dsimp only
  cases o.mallocRgb k with
  | false => simp
  | true =>
      by_cases hsem : s.camera.sem = .null
      · simp [hsem]
      · simp [hsem]

/-- Without semaphores the first round decides. -/
lemma allocPipeline_eq_crashed (hcount : s.camera.uCount = 4)
    (hformat : s.camera.fmt.pixelformat = v4l2PixFmtYuyv) :
    allocPipeline bmpmode o s = .crashed ↔ o.mallocSem = false ∧ o.mallocRgb 0 = true := by
  rw [allocPipeline, if_pos hformat, hcount, Outcome.andThen_eq_crashed]
  have hnot : ∀ r : Outcome SetupState, (∃ s, r = .done s ∧ Outcome.done { s with
      camera := { s.camera with msgId := o.msgQueue }
      tables := yuvRgbTableInit s.tables } = .crashed) ↔ False := by simp
  rw [hnot, or_false]
  cases hsem : o.mallocSem with
  | false =>
      let t : SetupState := { s with
        camera := { s.camera with
          tid := if o.mallocTid then .to (.tid (s.camera.uCount + 1)) else .null
          sem := .null }
        obtained := s.obtained ++ (if o.mallocTid then [.tid (s.camera.uCount + 1)] else []) }
      have hthreads : allocThreads o s = .done t := by
        simp [allocThreads, hsem, t]
      have hloop := @stages_eq_of_ne_done _ (allocRgb bmpmode o) (fun _ => False) (fun _ => t)
        (fun k _ => iff_of_false (allocRgb_ne_done rfl k) (fun h => h.1)) 4 .crashed
        (by simp)
      rw [hthreads, Outcome.andThen, hloop]
      constructor
      · rintro ⟨k, -, hbefore, hcrash⟩
        obtain rfl : k = 0 := by
          by_contra hk
          exact hbefore 0 (by omega)
        exact ⟨rfl, (allocRgb_eq_crashed.mp hcrash).2⟩
      · rintro ⟨-, hrgb⟩
        exact ⟨0, by norm_num, by simp, allocRgb_eq_crashed.mpr ⟨rfl, hrgb⟩⟩
  | true =>
      have hnull : (threadsStart o s).camera.sem ≠ .null := by simp [threadsStart]
      have hloop := @stages_eq_of_ne_done _ (allocRgb bmpmode o) (fun k => o.mallocRgb k = true)
        (rgbUpTo bmpmode (threadsStart o s)) (fun k _ => allocRgb_eq_done hnull k) 4 .crashed
        (by simp)
      rw [rgbUpTo_zero] at hloop
      rw [allocThreads_eq hsem, Outcome.andThen, hloop]
      refine iff_of_false ?_ (by simp)
      rintro ⟨k, -, -, hcrash⟩
      exact hnull (allocRgb_eq_crashed.mp hcrash).1

/-- **When the set-up crashes.**  Everything up to the semaphores succeeds, there are none, and
`rgbdata[0]` is there: `sem_init` stores through `NULL`. -/
theorem v4l2Init_eq_crashed : v4l2Init bmpmode o (setupStart tables) = .crashed ↔
    o.ArrayAllocated ∧ (∀ i < 4, o.querybuf i = true ∧ o.qbuf i = true) ∧
      o.mallocSem = false ∧ o.mallocRgb 0 = true := by
  by_cases harray : o.ArrayAllocated
  swap
  · obtain ⟨t, hfailed, _⟩ :=
      @v4l2Init_without_array o bmpmode tables harray
    rw [hfailed]
    exact iff_of_false nofun fun h => harray h.1
  have hdone := fun s' => @stages_eq_done _ (mapBuffer o)
    (fun k => o.querybuf k = true ∧ o.qbuf k = true) (mappedUpTo o (buffersStart o tables))
    (fun k _ => mapBuffer_eq_done k) 4 s'
  have hcrash := @stages_eq_of_ne_done _ (mapBuffer o)
    (fun k => o.querybuf k = true ∧ o.qbuf k = true) (mappedUpTo o (buffersStart o tables))
    (fun k _ => mapBuffer_eq_done k) 4 .crashed (fun _ => nofun)
  rw [mappedUpTo_zero] at hcrash
  simp only [mappedUpTo_zero] at hdone
  rw [v4l2Init_of_array harray, Outcome.andThen_eq_crashed, and_iff_right harray]
  constructor
  · rintro (hloop | ⟨s, hloop, hrest⟩)
    · obtain ⟨k, -, -, hmap⟩ := hcrash.mp hloop
      exact absurd hmap mapBuffer_ne_crashed
    · obtain ⟨hall, rfl⟩ := (hdone s).mp hloop
      exact ⟨hall, (allocPipeline_eq_crashed rfl harray.format.2).mp hrest⟩
  · rintro ⟨hall, hrest⟩
    exact .inr ⟨_, (hdone _).mpr ⟨hall, rfl⟩,
      (allocPipeline_eq_crashed rfl harray.format.2).mpr hrest⟩

/-! ## What is left -/

/-- The calls give back everything obtained, once, except the array of buffers. -/
def SetupState.GivesBack (s : SetupState) (calls : List Release) : Prop :=
  (calls.filter Release.effective).Perm
    ((s.obtained.filter fun r => !r.isArray).map Resource.release)

/-- **The ways to return.**  With the array everything is accounted for; without it nothing was
obtained, and the cleanup has nothing to do or crashes. -/
lemma v4l2Init_returns (hret : v4l2Init bmpmode o (setupStart tables) = .done s ∨
      v4l2Init bmpmode o (setupStart tables) = .failed s) :
    (o.ArrayAllocated ∧ Accounted s) ∨
      (¬ o.ArrayAllocated ∧ s.obtained = [] ∧
        (o.FormatAccepted ∧ freeV4l2Memory s.camera = none ∨
          ¬ o.FormatAccepted ∧ freeV4l2Memory s.camera = some [])) := by
  by_cases harray : o.ArrayAllocated
  · have hends := @v4l2Init_ends o bmpmode tables harray
    rcases hret with hret | hret
    · rw [hret] at hends
      exact .inl ⟨harray, hends⟩
    · rw [hret] at hends
      exact .inl ⟨harray, hends⟩
  · obtain ⟨t, hfailed, hobtained, haccepted, hrejected⟩ :=
      @v4l2Init_without_array o bmpmode tables harray
    have hs : t = s := by
      rcases hret with hret | hret
      · cases hfailed.symm.trans hret
      · exact Outcome.failed.inj (hfailed.symm.trans hret)
    subst hs
    refine .inr ⟨harray, hobtained, ?_⟩
    by_cases hformat : o.FormatAccepted
    · obtain ⟨hcount, hnull⟩ := haccepted hformat
      exact .inl ⟨hformat, freeV4l2Memory_null hnull (by rw [hcount]; norm_num)⟩
    · obtain ⟨calls, hcalls, hperm⟩ := hrejected hformat
      rw [hobtained] at hperm
      obtain rfl := List.perm_nil.mp hperm
      exact .inr ⟨hformat, hcalls⟩

lemma Accounted.exists_calls (h : Accounted s) :
    ∃ calls, freeV4l2Memory s.camera = some calls ∧ s.GivesBack calls := by
  obtain ⟨calls, hcalls, heffective⟩ := h.cleanup
  refine ⟨calls, hcalls, ?_⟩
  rw [SetupState.GivesBack, heffective]
  exact (h.obtained_filter.1.map _).symm

lemma givesBack_nil (hobtained : s.obtained = []) : s.GivesBack [] := by
  rw [SetupState.GivesBack, hobtained]
  exact List.Perm.nil

end Ends

end Mp157
