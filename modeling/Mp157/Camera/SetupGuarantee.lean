import Mp157.Camera.Setup

/-!
# What a successful set-up guarantees

The threads use the mappings, the semaphores and the message queue that `v4l2_init` leaves behind
without looking at them again.  Here is exactly when it returns 0 (`v4l2Init_eq_done`), and when
that means what the threads take it to mean (`setup_guarantee_iff`).  Three calls can fail
unnoticed, and the buffers that are mapped are the `uCount` asked for, not those granted.
-/

namespace Mp157

open Stages

/-! ## The message queue -/

/-- The outcomes of the calls behind `createMsgQueue`. -/
structure MsgCalls where
  /-- `ftok("/tmp", 0x6666)` -/
  ftok : ℤ
  /-- `msgget(key, flags)` -/
  msgget : ℤ → ℕ → ℤ

/-- Opens the queue of the program's key. -/
def commMsgQueue (q : MsgCalls) (flags : ℕ) : ℤ :=
  if q.ftok < 0 then -1 else q.msgget q.ftok flags

/-- `IPC_CREAT|0666` -/
def createFlags : ℕ := 0o1000 ||| 0o666

def createMsgQueue (q : MsgCalls) : ℤ := commMsgQueue q createFlags

/-- Both calls succeed. -/
def MsgCalls.Succeed (q : MsgCalls) : Prop := 0 ≤ q.ftok ∧ 0 ≤ q.msgget q.ftok createFlags

/-- `id` is the queue that `msgget` opened for the key. -/
def MsgCalls.Names (q : MsgCalls) (id : ℤ) : Prop :=
  q.Succeed ∧ id = q.msgget q.ftok createFlags

lemma names_createMsgQueue {q : MsgCalls} : q.Names (createMsgQueue q) ↔ q.Succeed := by
  refine ⟨fun h => h.1, fun h => ⟨h, ?_⟩⟩
  rw [createMsgQueue, commMsgQueue, if_neg (not_lt.mpr h.1)]

/-- The calls of the set-up, the message queue included. -/
def SetupCalls.withQueue (o : SetupCalls) (q : MsgCalls) : SetupCalls :=
  { o with msgQueue := createMsgQueue q }

/-! ## When the set-up is done -/

section Done

variable {bmpmode : Bool} {o : SetupCalls} {tables : Tables} {s s' : SetupState}

/-- The camera once buffers `0` to `k - 1` are mapped and queued. -/
def mappedUpTo (o : SetupCalls) (s : SetupState) (k : ℕ) : SetupState :=
  { s with
    camera := { s.camera with
      videoBuffer := fun i => if i < k then ⟨mmapResult o i, o.length i⟩
        else s.camera.videoBuffer i }
    obtained := s.obtained
      ++ (List.range k).flatMap fun i => if o.mmap i then [.mapping i (o.length i)] else []
    queued := s.queued ++ List.range k }

/-- The camera once `rgbdata[0]` to `rgbdata[k - 1]` are allocated. -/
def rgbUpTo (bmpmode : Bool) (s : SetupState) (k : ℕ) : SetupState :=
  { s with
    camera := { s.camera with
      rgbdata := fun i => if i < k then .to (.rgbdata i (rgbSize bmpmode s.camera.fmt))
        else s.camera.rgbdata i }
    obtained := s.obtained
      ++ (List.range k).map fun i => .rgbdata i (rgbSize bmpmode s.camera.fmt)
    semInit := s.semInit ++ List.range k }

lemma setFormat_eq_done : setFormat o s = .done s' ↔
    o.FormatAccepted ∧ s' = { s with camera := { s.camera with fmt := o.gFmt } } := by
  rw [setFormat, SetupCalls.FormatAccepted]
  dsimp only
  split_ifs with hsFmt hformat
  · simp [hsFmt]
  · simp [hformat]
  · simp only [Bool.not_eq_false, not_not] at hsFmt hformat
    simp [hsFmt, hformat, eq_comm]

lemma requestBuffers_eq_done : requestBuffers o s = .done s' ↔
    (o.reqbufs = true ∧ 2 ≤ o.granted ∧ o.granted ≤ 5) ∧
      s' = { s with camera := { s.camera with uCount := 4, rbCount := o.granted } } := by
  rw [requestBuffers]
  dsimp only
  split_ifs with hreq hcount
  · simp [hreq]
  · have hout : ¬ (2 ≤ o.granted ∧ o.granted ≤ 5) := by
      rintro ⟨hlo, hhi⟩
      exact hcount.elim (UInt32.not_lt.mpr hlo) (UInt32.not_lt.mpr hhi)
    simp [hout]
  · simp only [not_or, gt_iff_lt, UInt32.not_lt, Bool.not_eq_false] at hreq hcount
    simp [hreq, hcount.1, hcount.2, eq_comm]

lemma allocBuffers_eq_done : allocBuffers o s = .done s' ↔ o.callocBuffers = true ∧
    s' = { s with
      camera := { s.camera with
        pBuffers := .to (.pBuffers s.camera.uCount)
        videoBuffer := fun _ => ⟨.null, 0⟩ }
      obtained := s.obtained ++ [.pBuffers s.camera.uCount] } := by
  rw [allocBuffers]
  cases o.callocBuffers <;> simp [eq_comm]

/-- `mmap` is compared with a value it never returns. -/
lemma mmapResult_ne_null (i : ℕ) : mmapResult o i ≠ .null := by
  rw [mmapResult]
  split_ifs <;> simp

lemma mappedUpTo_succ (o : SetupCalls) (s : SetupState) (k : ℕ) : mappedUpTo o s (k + 1) =
    { mappedUpTo o s k with
      camera := { (mappedUpTo o s k).camera with
        videoBuffer := Function.update (mappedUpTo o s k).camera.videoBuffer k
          ⟨mmapResult o k, o.length k⟩ }
      obtained := (mappedUpTo o s k).obtained
        ++ if o.mmap k then [.mapping k (o.length k)] else []
      queued := (mappedUpTo o s k).queued ++ [k] } := by
  have hbuffers := update_filled (fun i => (⟨mmapResult o i, o.length i⟩ : VideoBuffer))
    s.camera.videoBuffer k
  simp only [mappedUpTo, hbuffers, List.range_succ, List.flatMap_append, List.flatMap_singleton,
    List.append_assoc]

lemma rgbUpTo_succ (bmpmode : Bool) (s : SetupState) (k : ℕ) : rgbUpTo bmpmode s (k + 1) =
    { rgbUpTo bmpmode s k with
      camera := { (rgbUpTo bmpmode s k).camera with
        rgbdata := Function.update (rgbUpTo bmpmode s k).camera.rgbdata k
          (.to (.rgbdata k (rgbSize bmpmode s.camera.fmt))) }
      obtained := (rgbUpTo bmpmode s k).obtained ++ [.rgbdata k (rgbSize bmpmode s.camera.fmt)]
      semInit := (rgbUpTo bmpmode s k).semInit ++ [k] } := by
  have hrgb := update_filled (fun i => Pointer.to (.rgbdata i (rgbSize bmpmode s.camera.fmt)))
    s.camera.rgbdata k
  simp only [rgbUpTo, hrgb, List.range_succ, List.map_append, List.map_cons, List.map_nil,
    List.append_assoc]

lemma mapBuffer_eq_done (k : ℕ) : mapBuffer o k (mappedUpTo o s k) = .done s' ↔
    (o.querybuf k = true ∧ o.qbuf k = true) ∧ s' = mappedUpTo o s (k + 1) := by
  rw [mapBuffer, mappedUpTo_succ]
  dsimp only
  rw [if_neg (mmapResult_ne_null k)]
  cases o.querybuf k with
  | false => simp
  | true =>
      cases o.qbuf k with
      | false => simp
      | true =>
          simp only [Bool.true_eq_false, if_false, Outcome.done.injEq, and_self, true_and]
          exact eq_comm

lemma allocRgb_eq_done (hsem : s.camera.sem ≠ .null) (k : ℕ) :
    allocRgb bmpmode o k (rgbUpTo bmpmode s k) = .done s' ↔
      o.mallocRgb k = true ∧ s' = rgbUpTo bmpmode s (k + 1) := by
  have hsem' : (rgbUpTo bmpmode s k).camera.sem ≠ .null := hsem
  have hfmt : (rgbUpTo bmpmode s k).camera.fmt = s.camera.fmt := rfl
  rw [allocRgb, rgbUpTo_succ]
  dsimp only
  rw [if_neg hsem', hfmt]
  cases o.mallocRgb k with
  | false => simp
  | true =>
      simp only [Bool.true_eq_false, if_false, Outcome.done.injEq, true_and]
      exact eq_comm

/-- Every call whose result is looked at succeeds, and so does `malloc` of `sem`: without it
`sem_init` crashes. -/
structure SetupCalls.CheckedSucceed (o : SetupCalls) : Prop where
  format : o.FormatAccepted
  reqbufs : o.reqbufs = true ∧ 2 ≤ o.granted ∧ o.granted ≤ 5
  callocBuffers : o.callocBuffers = true
  buffers : ∀ i < 4, o.querybuf i = true ∧ o.qbuf i = true
  mallocSem : o.mallocSem = true
  mallocRgb : ∀ i < 4, o.mallocRgb i = true

/-- The camera with an empty array of buffers. -/
def buffersStart (o : SetupCalls) (tables : Tables) : SetupState :=
  { setupStart tables with
    camera := { (setupStart tables).camera with
      fmt := o.gFmt
      uCount := 4
      rbCount := o.granted
      pBuffers := .to (.pBuffers 4)
      videoBuffer := fun _ => ⟨.null, 0⟩ }
    obtained := [.pBuffers 4] }

/-- The camera once `tid` and `sem` were allocated, `tid` successfully or not. -/
def threadsStart (o : SetupCalls) (s : SetupState) : SetupState :=
  { s with
    camera := { s.camera with
      tid := if o.mallocTid then .to (.tid (s.camera.uCount + 1)) else .null
      sem := .to (.sem s.camera.uCount) }
    obtained := s.obtained ++ (if o.mallocTid then [.tid (s.camera.uCount + 1)] else [])
      ++ [.sem s.camera.uCount] }

/-- The camera when the set-up is done. -/
def setupDone (bmpmode : Bool) (o : SetupCalls) (tables : Tables) : SetupState :=
  let s := rgbUpTo bmpmode (threadsStart o (mappedUpTo o (buffersStart o tables) 4)) 4
  { s with
    camera := { s.camera with msgId := o.msgQueue }
    tables := yuvRgbTableInit s.tables }

lemma mappedUpTo_zero (o : SetupCalls) (s : SetupState) : mappedUpTo o s 0 = s := by
  simp [mappedUpTo]

lemma rgbUpTo_zero (bmpmode : Bool) (s : SetupState) : rgbUpTo bmpmode s 0 = s := by
  simp [rgbUpTo]

/-- Without semaphores the allocation of `rgbdata` fails or crashes. -/
lemma allocRgb_ne_done (hsem : s.camera.sem = .null) (k : ℕ) :
    allocRgb bmpmode o k s ≠ .done s' := by
  rw [allocRgb]
  dsimp only
  cases o.mallocRgb k <;> simp [hsem]

lemma allocThreads_eq (hsem : o.mallocSem = true) :
    allocThreads o s = .done (threadsStart o s) := by
  simp [allocThreads, threadsStart, hsem]

lemma allocPipeline_eq_done (hcount : s.camera.uCount = 4)
    (hformat : s.camera.fmt.pixelformat = v4l2PixFmtYuyv) :
    allocPipeline bmpmode o s = .done s' ↔ (o.mallocSem = true ∧ ∀ i < 4, o.mallocRgb i = true) ∧
      s' = { rgbUpTo bmpmode (threadsStart o s) 4 with
        camera := { (rgbUpTo bmpmode (threadsStart o s) 4).camera with msgId := o.msgQueue }
        tables := yuvRgbTableInit s.tables } := by
  rw [allocPipeline, if_pos hformat, hcount, Outcome.andThen_eq_done]
  cases hsem : o.mallocSem with
  | false =>
      -- round 0 is not done, whatever it finds
      refine iff_of_false ?_ (by simp)
      rintro ⟨s₁, hloop, -⟩
      obtain ⟨s₂, hs₂, hloop⟩ := Outcome.andThen_eq_done.mp hloop
      have hnull : s₂.camera.sem = .null := by
        obtain rfl := Outcome.done.inj hs₂
        simp [hsem]
      have hrounds := (stages_eq_done (P := fun _ => False) (fun _ => s₂) fun k s' =>
        iff_of_false (allocRgb_ne_done hnull k) (by simp)).mp hloop
      exact hrounds.1 0 (by norm_num)
  | true =>
      have hnull : (threadsStart o s).camera.sem ≠ .null := by simp [threadsStart]
      have hloop := fun s' => @stages_eq_done _ (allocRgb bmpmode o)
        (fun k => o.mallocRgb k = true) (rgbUpTo bmpmode (threadsStart o s))
        (fun k _ => allocRgb_eq_done hnull k) 4 s'
      simp only [rgbUpTo_zero] at hloop
      rw [allocThreads_eq hsem]
      simp only [Outcome.andThen, hloop, Outcome.done.injEq, true_and]
      constructor
      · rintro ⟨s₁, ⟨hall, rfl⟩, rfl⟩
        exact ⟨hall, rfl⟩
      · rintro ⟨hall, rfl⟩
        exact ⟨_, ⟨hall, rfl⟩, rfl⟩

/-- **When the set-up is done, and what it leaves.** -/
theorem v4l2Init_eq_done : v4l2Init bmpmode o (setupStart tables) = .done s ↔
    o.CheckedSucceed ∧ s = setupDone bmpmode o tables := by
  have hloop := fun s' => @stages_eq_done _ (mapBuffer o)
    (fun k => o.querybuf k = true ∧ o.qbuf k = true) (mappedUpTo o (buffersStart o tables))
    (fun k _ => mapBuffer_eq_done k) 4 s'
  simp only [mappedUpTo_zero] at hloop
  simp only [v4l2Init, Outcome.andThen_eq_done, setFormat_eq_done, requestBuffers_eq_done,
    allocBuffers_eq_done]
  constructor
  · rintro ⟨s₂, ⟨s₁, ⟨hformat, rfl⟩, hreq, rfl⟩, s₄, ⟨s₃, ⟨hcalloc, rfl⟩, hbuffers⟩, hrest⟩
    obtain ⟨hall, rfl⟩ := (hloop s₄).mp hbuffers
    obtain ⟨⟨hsem, hrgb⟩, rfl⟩ := (allocPipeline_eq_done rfl hformat.2).mp hrest
    exact ⟨⟨hformat, hreq, hcalloc, hall, hsem, hrgb⟩, rfl⟩
  · rintro ⟨h, rfl⟩
    refine ⟨_, ⟨_, ⟨h.format, rfl⟩, h.reqbufs, rfl⟩, _, ⟨_, ⟨h.callocBuffers, rfl⟩,
      (hloop _).mpr ⟨h.buffers, rfl⟩⟩, ?_⟩
    exact (allocPipeline_eq_done rfl h.format.2).mpr ⟨⟨h.mallocSem, h.mallocRgb⟩, rfl⟩

end Done

/-! ## What the threads rely on -/

/-- Everything a thread uses is there. -/
structure Guaranteed (q : MsgCalls) (s : SetupState) : Prop where
  pBuffers : s.camera.pBuffers = .to (.pBuffers s.camera.uCount) ∧
    .pBuffers s.camera.uCount ∈ s.obtained
  /-- The address of a queued buffer is that of a live mapping of `uLength` bytes. -/
  mapped : ∀ i ∈ s.queued,
    (s.camera.videoBuffer i).pStart = .to (.mapping i (s.camera.videoBuffer i).uLength) ∧
      .mapping i (s.camera.videoBuffer i).uLength ∈ s.obtained
  tid : s.camera.tid = .to (.tid (s.camera.uCount + 1)) ∧ .tid (s.camera.uCount + 1) ∈ s.obtained
  sem : s.camera.sem = .to (.sem s.camera.uCount) ∧ .sem s.camera.uCount ∈ s.obtained
  semInit : ∀ i < s.camera.uCount, i ∈ s.semInit
  rgbdata : ∀ i < s.camera.uCount, ∃ size,
    s.camera.rgbdata i = .to (.rgbdata i size) ∧ .rgbdata i size ∈ s.obtained
  msgId : q.Names s.camera.msgId

/-- Exactly the buffers the driver granted are mapped and queued. -/
def MapsGranted (o : SetupCalls) (s : SetupState) : Prop :=
  (∀ i, i ∈ s.queued ↔ i < o.granted.toNat) ∧
    ∀ i, (∃ len, .mapping i len ∈ s.obtained) ↔ i < o.granted.toNat

/-- The granted count is accepted, and every call on a granted buffer and every allocation
succeeds. -/
structure SetupCalls.GrantedSucceed (o : SetupCalls) : Prop where
  format : o.FormatAccepted
  reqbufs : o.reqbufs = true ∧ 2 ≤ o.granted ∧ o.granted ≤ 5
  buffers : ∀ i < o.granted.toNat, o.querybuf i = true ∧ o.mmap i = true ∧ o.qbuf i = true
  allocations : o.callocBuffers = true ∧ o.mallocTid = true ∧ o.mallocSem = true ∧
    ∀ i, o.mallocRgb i = true

/-- What a successful set-up is taken to mean, and when it is taken to succeed. -/
def SetupGuarantee (bmpmode : Bool) (o : SetupCalls) (q : MsgCalls) (tables : Tables) : Prop :=
  (∀ s, v4l2Init bmpmode (o.withQueue q) (setupStart tables) = .done s → Guaranteed q s) ∧
  (o.GrantedSucceed → ∃ s, v4l2Init bmpmode (o.withQueue q) (setupStart tables) = .done s ∧
    MapsGranted o s)

/-- The calls whose failure goes unnoticed. -/
def UncheckedSucceed (o : SetupCalls) (q : MsgCalls) : Prop :=
  (∀ i < 4, o.mmap i = true) ∧ o.mallocTid = true ∧ q.Succeed

section Guarantee

variable {bmpmode : Bool} {o : SetupCalls} {q : MsgCalls} {tables : Tables}

lemma setupDone_queued : (setupDone bmpmode o tables).queued = List.range 4 := rfl

lemma setupDone_videoBuffer {i : ℕ} (hi : i < 4) :
    (setupDone bmpmode o tables).camera.videoBuffer i = ⟨mmapResult o i, o.length i⟩ :=
  if_pos hi

lemma setupDone_obtained : (setupDone bmpmode o tables).obtained = [Resource.pBuffers 4]
    ++ ((List.range 4).flatMap fun i => if o.mmap i then [Resource.mapping i (o.length i)] else [])
    ++ (if o.mallocTid then [Resource.tid 5] else []) ++ [Resource.sem 4]
    ++ (List.range 4).map fun i => Resource.rgbdata i (rgbSize bmpmode o.gFmt) := rfl

/-- A mapping is live when its `mmap` succeeded. -/
lemma mapping_mem_setupDone {i : ℕ} {len : UInt32} :
    .mapping i len ∈ (setupDone bmpmode o tables).obtained ↔
      i < 4 ∧ o.mmap i = true ∧ len = o.length i := by
  rw [setupDone_obtained]
  simp only [List.mem_append, List.mem_flatMap, List.mem_range, List.mem_singleton, List.mem_map,
    List.mem_ite_nil_right, reduceCtorEq, false_or, or_false, and_false, exists_false,
    Resource.mapping.injEq]
  constructor
  · rintro ⟨j, hj, hmap, rfl, rfl⟩
    exact ⟨hj, hmap, rfl⟩
  · rintro ⟨hi, hmap, rfl⟩
    exact ⟨i, hi, hmap, rfl, rfl⟩

/-- **What a set-up that is done leaves is usable exactly when nothing failed unnoticed.** -/
lemma guaranteed_setupDone :
    Guaranteed q (setupDone bmpmode (o.withQueue q) tables) ↔ UncheckedSucceed o q := by
  constructor
  · intro h
    refine ⟨?_, ?_, h.msgId.1⟩
    · intro i hi
      obtain ⟨_, hlive⟩ := h.mapped i (by rw [setupDone_queued]; simpa using hi)
      exact (mapping_mem_setupDone.mp hlive).2.1
    · have htid : (if o.mallocTid then Pointer.to (.tid 5) else .null) = .to (.tid 5) := h.tid.1
      by_contra hfailed
      rw [if_neg hfailed] at htid
      cases htid
  · rintro ⟨hmap, htid, hq⟩
    replace htid : (o.withQueue q).mallocTid = true := htid
    have hcount : (setupDone bmpmode (o.withQueue q) tables).camera.uCount = 4 := rfl
    exact
      { pBuffers := ⟨rfl, by rw [hcount, setupDone_obtained]; simp⟩
        mapped := fun i hi => by
          rw [setupDone_queued, List.mem_range] at hi
          rw [setupDone_videoBuffer hi]
          exact ⟨if_pos (hmap i hi), mapping_mem_setupDone.mpr ⟨hi, hmap i hi, rfl⟩⟩
        tid := ⟨if_pos htid, by rw [hcount, setupDone_obtained]; simp [htid]⟩
        sem := ⟨rfl, by rw [hcount, setupDone_obtained]; simp⟩
        semInit := fun i hi => List.mem_range.mpr hi
        rgbdata := fun i hi => ⟨_, if_pos hi, by
          rw [setupDone_obtained]
          exact List.mem_append_right _ (List.mem_map.mpr ⟨i, List.mem_range.mpr hi, rfl⟩)⟩
        msgId := names_createMsgQueue.mpr hq }

/-- The set-up goes by `uCount`, which is 4 whatever was granted. -/
lemma mapsGranted_iff (h : o.GrantedSucceed) :
    (∃ s, v4l2Init bmpmode (o.withQueue q) (setupStart tables) = .done s ∧ MapsGranted o s) ↔
      o.granted = 4 := by
  constructor
  · rintro ⟨s, hs, hqueued, -⟩
    obtain ⟨_, rfl⟩ := v4l2Init_eq_done.mp hs
    simp only [setupDone_queued, List.mem_range] at hqueued
    have hlo := hqueued 3
    have hhi := hqueued 4
    rw [← UInt32.toNat_inj]
    change _ = 4
    omega
  · intro hgranted
    have hcount : o.granted.toNat = 4 := by rw [hgranted]; rfl
    have hbuffers := h.buffers
    rw [hcount] at hbuffers
    obtain ⟨hcalloc, -, hsem, hrgb⟩ := h.allocations
    refine ⟨_, v4l2Init_eq_done.mpr ⟨⟨h.format, h.reqbufs, hcalloc,
      fun i hi => ⟨(hbuffers i hi).1, (hbuffers i hi).2.2⟩, hsem, fun i _ => hrgb i⟩, rfl⟩, ?_, ?_⟩
    · intro i
      rw [setupDone_queued, List.mem_range, hcount]
    · intro i
      rw [hcount]
      constructor
      · rintro ⟨len, hlen⟩
        exact (mapping_mem_setupDone.mp hlen).1
      · intro hi
        exact ⟨_, mapping_mem_setupDone.mpr ⟨hi, (hbuffers i hi).2.1, rfl⟩⟩

/-- **When a successful set-up guarantees what the threads rely on.**  Exactly when no unchecked
call fails where the checked ones succeed, and the driver grants 4 buffers where the calls on
those it grants succeed. -/
theorem setup_guarantee_iff : SetupGuarantee bmpmode o q tables ↔
    (o.CheckedSucceed → UncheckedSucceed o q) ∧ (o.GrantedSucceed → o.granted = 4) := by
  refine and_congr ?_ (forall_congr' mapsGranted_iff)
  constructor
  · intro h hchecked
    have hdone : v4l2Init bmpmode (o.withQueue q) (setupStart tables) = .done _ :=
      v4l2Init_eq_done.mpr ⟨⟨hchecked.format, hchecked.reqbufs, hchecked.callocBuffers,
        hchecked.buffers, hchecked.mallocSem, hchecked.mallocRgb⟩, rfl⟩
    exact guaranteed_setupDone.mp (h _ hdone)
  · intro h s hs
    obtain ⟨hchecked, rfl⟩ := v4l2Init_eq_done.mp hs
    exact guaranteed_setupDone.mpr (h ⟨hchecked.format, hchecked.reqbufs, hchecked.callocBuffers,
      hchecked.buffers, hchecked.mallocSem, hchecked.mallocRgb⟩)

/-- `mmap` of buffer 2 fails: `v4l2_init` returns 0, and the address it leaves is `MAP_FAILED`.
The driver grants two buffers and no call on them fails: `v4l2_init` returns -1. -/
theorem setup_guarantee_fails :
    (∃ s, v4l2Init false ({ everyCallSucceeds with mmap := fun i => i ≠ 2 }.withQueue
        ⟨0, fun _ _ => 0⟩) (setupStart ⟨0, 0, 0, 0, 0⟩) = .done s ∧
      2 ∈ s.queued ∧ (s.camera.videoBuffer 2).pStart = .mapFailed) ∧
    ¬ SetupGuarantee false { everyCallSucceeds with mmap := fun i => i ≠ 2 } ⟨0, fun _ _ => 0⟩
      ⟨0, 0, 0, 0, 0⟩ ∧
    ¬ SetupGuarantee false { everyCallSucceeds with granted := 2, querybuf := fun i => i < 2 }
      ⟨0, fun _ _ => 0⟩ ⟨0, 0, 0, 0, 0⟩ := by
  refine ⟨⟨_, rfl, by decide, rfl⟩, ?_, ?_⟩
  · intro h
    have haddress := ((h.1 _ rfl).mapped 2 (by decide)).1
    exact absurd haddress (by decide)
  · intro h
    have hgranted : SetupCalls.GrantedSucceed
        { everyCallSucceeds with granted := 2, querybuf := fun i => i < 2 } :=
      { format := ⟨rfl, rfl⟩
        reqbufs := by decide
        buffers := by decide
        allocations := ⟨rfl, rfl, rfl, fun _ => rfl⟩ }
    exact absurd ((mapsGranted_iff hgranted).mp (h.2 hgranted)) (by decide)

end Guarantee

end Mp157
