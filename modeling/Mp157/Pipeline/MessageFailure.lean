import Mp157.Pipeline.Model

/-!
# When a message call fails (`msgbufFun.c`, `thread_fun` in `drmFun.c`)

The index of a finished frame travels as an `int` through a System V queue.  `recvMsgQueue` returns
-1 when `msgrcv` fails, and the display thread uses what it returns as an index of `rgbdata`;
`sendMsgQueue` returns -1 when `msgsnd` fails, which the worker does not look at.
`createMsgQueue` may return -1 as well, or a queue in which messages have been left.

`messageStep` is the pipeline of `Pipeline/Model.lean` with these calls as they are.

* `message_run_projects` — while no call fails, it runs that pipeline.
* `display_index_iff` — the index stays that of a frame buffer exactly as long as no `msgrcv` fails,
  and none of the messages left before and received now holds another value.
-/

namespace Mp157

open MessageQueue Transition
open Function (update)

/-! ## The pipeline with failing calls -/

structure MessageState (n : ℕ) where
  /-- `camera.msg_id`, as `createMsgQueue` returned it. -/
  msgId : ℤ
  /-- The queue; a message holds `buf.num`. -/
  queue : Queue ℕ ℤ
  /-- `who` of the display thread. -/
  who : ℤ
  /-- The rest.  Its own queue is not used. -/
  pipe : State n

inductive MessageLabel (n : ℕ)
  /-- A step that is no message call. -/
  | pipe (l : Label n)
  /-- `msgsnd` of worker `k`. -/
  | msgsnd (k : Fin n)
  | msgsndFails (k : Fin n)
  /-- `msgrcv` of the display thread. -/
  | msgrcv
  | msgrcvFails
deriving DecidableEq

/-- The index is that of a frame buffer. -/
def IsFrame (n : ℕ) (who : ℤ) : Prop := 0 ≤ who ∧ who < n

instance (n : ℕ) (who : ℤ) : Decidable (IsFrame n who) := inferInstanceAs (Decidable (_ ∧ _))

/-- The message calls of the pipeline. -/
def Label.isMessage {n : ℕ} : Label n → Bool
  | .sendMsg _ | .recvMsg _ => true
  | _ => false

/-- `recvMsgQueue` has returned, and the drawing of `rgbdata[who]` begins. -/
def MessageState.received {n : ℕ} (s : MessageState n) (queue : Queue ℕ ℤ) (who : ℤ) :
    MessageState n where
  msgId := s.msgId
  queue := queue
  who := who
  pipe :=
    if h : IsFrame n who then
      { s.pipe with display := .showing ⟨who.toNat, (Int.toNat_lt h.1).mpr h.2⟩ 0 }
    else s.pipe

variable (c : Config)

/-- One step.  Nothing follows an index outside `rgbdata`: the read is undefined. -/
def messageStep (s : MessageState c.uCount) (l : MessageLabel c.uCount) :
    Option (MessageState c.uCount) :=
  if ¬ IsFrame c.uCount s.who then none
  else match l with
    | .pipe l =>
        if l.isMessage then none
        else (step c s.pipe l).map fun pipe => { s with pipe := pipe }
    | .msgsnd k =>
        if s.pipe.worker k = .sending ∧ 0 ≤ s.msgId ∧ s.queue.length < c.capacity then
          some { s with
            queue := send s.queue frameMsg (k : ℤ)
            pipe := { s.pipe with worker := update s.pipe.worker k .queueing } }
        else none
    | .msgsndFails k =>
        if s.pipe.worker k = .sending then
          some { s with pipe := { s.pipe with worker := update s.pipe.worker k .queueing } }
        else none
    | .msgrcv =>
        if s.pipe.display = .receiving ∧ 0 ≤ s.msgId then
          (receive frameMsg s.queue).map fun r => s.received r.2 r.1
        else none
    | .msgrcvFails =>
        if s.pipe.display = .receiving then some (s.received s.queue (-1)) else none

/-- The threads before their loops, with a queue as `createMsgQueue` found or made it. -/
def messageStart {n : ℕ} (m : Memories n) (msgId : ℤ) (queue : Queue ℕ ℤ) : MessageState n :=
  ⟨msgId, queue, 0, pipelineStart m⟩

/-- The steps in which `msgrcv` returns a message. -/
def receives {n : ℕ} (tr : List (MessageState n × MessageLabel n)) : ℕ :=
  tr.countP fun e => e.2 = .msgrcv

section Inversion

variable {c} {s s' : MessageState c.uCount} {k : Fin c.uCount}

lemma messageStep_pipe {l : Label c.uCount} : messageStep c s (.pipe l) = some s' ↔
    IsFrame c.uCount s.who ∧ l.isMessage = false ∧
      ∃ pipe, step c s.pipe l = some pipe ∧ s' = { s with pipe := pipe } := by
  simp only [messageStep, Option.ite_none_left_eq_some, not_not, Option.map_eq_some_iff,
    Bool.not_eq_true, eq_comm (a := s')]

lemma messageStep_msgsnd : messageStep c s (.msgsnd k) = some s' ↔ IsFrame c.uCount s.who ∧
    (s.pipe.worker k = .sending ∧ 0 ≤ s.msgId ∧ s.queue.length < c.capacity) ∧
      s' = { s with
        queue := send s.queue frameMsg (k : ℤ)
        pipe := { s.pipe with worker := update s.pipe.worker k .queueing } } := by
  simp only [messageStep, Option.ite_none_left_eq_some, not_not, guarded_eq_some]

lemma messageStep_msgsndFails : messageStep c s (.msgsndFails k) = some s' ↔
    IsFrame c.uCount s.who ∧ s.pipe.worker k = .sending ∧
      s' = { s with pipe := { s.pipe with worker := update s.pipe.worker k .queueing } } := by
  simp only [messageStep, Option.ite_none_left_eq_some, not_not, guarded_eq_some]

lemma messageStep_msgrcv : messageStep c s .msgrcv = some s' ↔ IsFrame c.uCount s.who ∧
    (s.pipe.display = .receiving ∧ 0 ≤ s.msgId) ∧
      ∃ num queue, receive frameMsg s.queue = some (num, queue) ∧ s' = s.received queue num := by
  simp only [messageStep, Option.ite_none_left_eq_some, not_not, Option.ite_none_right_eq_some,
    Option.map_eq_some_iff, Prod.exists, eq_comm (a := s')]

lemma messageStep_msgrcvFails : messageStep c s .msgrcvFails = some s' ↔
    IsFrame c.uCount s.who ∧ s.pipe.display = .receiving ∧ s' = s.received s.queue (-1) := by
  simp only [messageStep, Option.ite_none_left_eq_some, not_not, guarded_eq_some]

end Inversion

/-! ## The pipeline without failures -/

section Projection

variable {c} {m : Memories c.uCount} {tr : List (MessageState c.uCount × MessageLabel c.uCount)}
  {s s' : MessageState c.uCount}

/-- The steps that are no message calls take no notice of the queue. -/
lemma step_with_queue {p p' : State c.uCount} {l : Label c.uCount} (hl : l.isMessage = false)
    (h : step c p l = some p') (q : Queue ℕ (Fin c.uCount)) :
    step c { p with queue := q } l = some { p' with queue := q } := by
  cases l with
  | driverWrite i off x =>
      obtain ⟨hguard, rfl⟩ := step_driverWrite.mp h
      exact step_driverWrite.mpr ⟨hguard, rfl⟩
  | driverDone i =>
      obtain ⟨hguard, rfl⟩ := step_driverDone.mp h
      exact step_driverDone.mpr ⟨hguard, rfl⟩
  | poll =>
      obtain ⟨hguard, rfl⟩ := step_poll.mp h
      exact step_poll.mpr ⟨hguard, rfl⟩
  | dqbuf i =>
      obtain ⟨hguard, rfl⟩ := step_dqbuf.mp h
      exact step_dqbuf.mpr ⟨hguard, rfl⟩
  | semPost i =>
      obtain ⟨hguard, rfl⟩ := step_semPost.mp h
      exact step_semPost.mpr ⟨hguard, rfl⟩
  | semWait i =>
      obtain ⟨hguard, rfl⟩ := step_semWait.mp h
      exact step_semWait.mpr ⟨hguard, rfl⟩
  | convert i =>
      obtain ⟨inPos, outPos, r, hw, hguard, hbody, rfl⟩ := step_convert.mp h
      exact step_convert.mpr ⟨inPos, outPos, r, hw, hguard, hbody, rfl⟩
  | converted i =>
      obtain ⟨inPos, outPos, hw, hguard, rfl⟩ := step_converted.mp h
      exact step_converted.mpr ⟨inPos, outPos, hw, hguard, rfl⟩
  | sendMsg i => cases hl
  | qbuf i =>
      obtain ⟨hguard, rfl⟩ := step_qbuf.mp h
      exact step_qbuf.mpr ⟨hguard, rfl⟩
  | recvMsg i => cases hl
  | showRow i row =>
      obtain ⟨hguard, fbMap, hrow, rfl⟩ := step_showRow.mp h
      exact step_showRow.mpr ⟨hguard, fbMap, hrow, rfl⟩
  | shown i =>
      obtain ⟨row, hd, hrow, rfl⟩ := step_shown.mp h
      exact step_shown.mpr ⟨row, hd, hrow, rfl⟩

/-- The queue with indices for what the messages hold. -/
def ints {n : ℕ} (q : Queue ℕ (Fin n)) : Queue ℕ ℤ := q.map (Prod.map id fun i => (i.val : ℤ))

lemma isFrame_index {n : ℕ} (i : Fin n) : IsFrame n (i.val : ℤ) :=
  ⟨Int.natCast_nonneg _, by exact_mod_cast i.isLt⟩

lemma not_isFrame_negative (n : ℕ) : ¬ IsFrame n (-1) := by
  rintro ⟨hneg, _⟩
  omega

/-- A message call that fails. -/
def MessageLabel.fails {n : ℕ} : MessageLabel n → Bool
  | .msgsndFails _ | .msgrcvFails => true
  | _ => false

/-- The state is one the pipeline reaches, with the same indices in the queue. -/
def Projects (m : Memories c.uCount) (s : MessageState c.uCount) : Prop :=
  ∃ q, s.queue = ints q ∧ Reachable (step c) (pipelineStart m) { s.pipe with queue := q }

/-- The step lemma. -/
lemma Projects.next {l : MessageLabel c.uCount} (h : Projects m s) (hfails : l.fails = false)
    (hstep : messageStep c s l = some s') : Projects m s' := by
  obtain ⟨q, hq, tr, hrun⟩ := h
  cases l with
  | pipe l =>
      obtain ⟨_, hl, p, hp, rfl⟩ := messageStep_pipe.mp hstep
      exact ⟨q, hq, _, hrun.snoc (step_with_queue hl hp q)⟩
  | msgsnd k =>
      obtain ⟨_, ⟨hsending, _, hroom⟩, rfl⟩ := messageStep_msgsnd.mp hstep
      refine ⟨send q frameMsg k, by simp [hq, ints, send], _, hrun.snoc (l := .sendMsg k) ?_⟩
      refine step_sendMsg.mpr ⟨⟨hsending, ?_⟩, rfl⟩
      simpa [hq, ints] using hroom
  | msgrcv =>
      obtain ⟨_, ⟨hreceiving, _⟩, num, queue, hreceive, rfl⟩ := messageStep_msgrcv.mp hstep
      rw [hq, ints, receive_map, Option.map_eq_some_iff] at hreceive
      obtain ⟨⟨i, q'⟩, hr, heq⟩ := hreceive
      obtain ⟨rfl, rfl⟩ := Prod.mk.inj heq
      refine ⟨q', rfl, _, hrun.snoc (l := .recvMsg i) ?_⟩
      refine step_recvMsg.mpr ⟨q', hreceiving, hr, ?_⟩
      simp [MessageState.received, isFrame_index]
  | msgsndFails k => cases hfails
  | msgrcvFails => cases hfails

/-- **While no call fails.**  On a queue that was empty, the run is one of the pipeline. -/
theorem message_run_projects {msgId : ℤ} (h : Run (messageStep c) (messageStart m msgId []) tr s)
    (hfails : ∀ e ∈ tr, e.2.fails = false) : Projects m s := by
  have hstart : Projects m (messageStart m msgId []) := ⟨[], rfl, Reachable.refl _⟩
  refine Run.invariant_when (C := fun _ l => MessageLabel.fails l = false) h hfails hstart ?_
  intro s l s' hok hs hstep
  exact hs.next hok hstep

end Projection

/-! ## The index of the display thread -/

section Index

variable {c} {m : Memories c.uCount} {msgId : ℤ} {queue : Queue ℕ ℤ}
  {tr : List (MessageState c.uCount × MessageLabel c.uCount)} {s s' : MessageState c.uCount}

/-- In every state of the run, `who` is the index of a frame buffer. -/
def AllFrames (tr : List (MessageState c.uCount × MessageLabel c.uCount))
    (s : MessageState c.uCount) : Prop :=
  (∀ e ∈ tr, IsFrame c.uCount e.1.who) ∧ IsFrame c.uCount s.who

lemma allFrames_snoc {l : MessageLabel c.uCount} :
    AllFrames (tr ++ [(s, l)]) s' ↔ AllFrames tr s ∧ IsFrame c.uCount s'.who := by
  simp [AllFrames, or_imp, forall_and]

/-- Between the first message and the last: what was there and what was sent, in order, is what was
received and what is queued.  Whether the index was always right is a matter of what was received,
and of failures. -/
structure Conserved (queue : Queue ℕ ℤ) (tr : List (MessageState c.uCount × MessageLabel c.uCount))
    (s : MessageState c.uCount) (sent got : List ℤ) : Prop where
  valid : ∀ num ∈ sent, IsFrame c.uCount num
  fifo : ofType frameMsg queue ++ sent = got ++ ofType frameMsg s.queue
  count : got.length = receives tr
  index : AllFrames tr s ↔ (∀ e ∈ tr, e.2 ≠ .msgrcvFails) ∧ ∀ num ∈ got, IsFrame c.uCount num

lemma Conserved.start (m : Memories c.uCount) (msgId : ℤ) (queue : Queue ℕ ℤ) :
    Conserved queue [] (messageStart m msgId queue) [] [] where
  valid := by simp
  fifo := by simp [messageStart]
  count := rfl
  index := by simp [AllFrames, messageStart, IsFrame, c.uCount_pos]

/-- A step that receives nothing and does not fail to. -/
lemma Conserved.other {l : MessageLabel c.uCount} {sent sent' got : List ℤ}
    (h : Conserved queue tr s sent got) (hrcv : l ≠ .msgrcv) (hfails : l ≠ .msgrcvFails)
    (hwho : s'.who = s.who) (hsent : ∀ num ∈ sent', IsFrame c.uCount num)
    (hfifo : ofType frameMsg queue ++ sent' = got ++ ofType frameMsg s'.queue) :
    Conserved queue (tr ++ [(s, l)]) s' sent' got where
  valid := hsent
  fifo := hfifo
  count := by simp [receives, hrcv, h.count]
  index := by
    have hsame : AllFrames tr s ∧ IsFrame c.uCount s'.who ↔ AllFrames tr s := by
      rw [hwho]
      exact and_iff_left_of_imp And.right
    rw [allFrames_snoc, hsame, h.index]
    simp [or_imp, forall_and, hfails]

/-- The step lemma. -/
lemma Conserved.next {l : MessageLabel c.uCount} {sent got : List ℤ}
    (h : Conserved queue tr s sent got) (hstep : messageStep c s l = some s') :
    ∃ sent' got', Conserved queue (tr ++ [(s, l)]) s' sent' got' := by
  cases l with
  | pipe l =>
      obtain ⟨_, _, p, _, rfl⟩ := messageStep_pipe.mp hstep
      exact ⟨sent, got, h.other nofun nofun rfl h.valid h.fifo⟩
  | msgsnd k =>
      obtain ⟨_, _, rfl⟩ := messageStep_msgsnd.mp hstep
      refine ⟨sent ++ [(k : ℤ)], got, h.other nofun nofun rfl ?_ ?_⟩
      · intro num hnum
        rcases List.mem_append.mp hnum with hold | hnew
        · exact h.valid num hold
        · rw [List.mem_singleton.mp hnew]
          exact isFrame_index k
      · rw [ofType_send, ← List.append_assoc, h.fifo, List.append_assoc]
  | msgsndFails k =>
      obtain ⟨_, _, rfl⟩ := messageStep_msgsndFails.mp hstep
      exact ⟨sent, got, h.other nofun nofun rfl h.valid h.fifo⟩
  | msgrcv =>
      obtain ⟨_, _, num, queue', hreceive, rfl⟩ := messageStep_msgrcv.mp hstep
      refine ⟨sent, got ++ [num], h.valid, ?_, ?_, ?_⟩
      · rw [h.fifo, ofType_receive hreceive, List.append_assoc]
        rfl
      · simp [receives, h.count]
      · rw [allFrames_snoc, h.index, and_assoc]
        simp [or_imp, forall_and, MessageState.received]
  | msgrcvFails =>
      obtain ⟨_, _, rfl⟩ := messageStep_msgrcvFails.mp hstep
      refine ⟨sent, got, h.valid, h.fifo, ?_, ?_⟩
      · simp [receives, h.count]
      · rw [allFrames_snoc]
        refine iff_of_false ?_ ?_
        · rintro ⟨_, hframe⟩
          exact not_isFrame_negative _ hframe
        · rintro ⟨hno, _⟩
          exact hno (s, .msgrcvFails) (by simp) rfl

/-- The run lemma. -/
lemma conserved_of_run (h : Run (messageStep c) (messageStart m msgId queue) tr s) :
    ∃ sent got, Conserved queue tr s sent got := by
  refine Run.invariant_trace (I := fun tr s => ∃ sent got, Conserved queue tr s sent got) h
    ⟨[], [], Conserved.start m msgId queue⟩ ?_
  rintro tr s l s' _ ⟨sent, got, hs⟩ hstep
  exact hs.next hstep

/-- **When the display thread indexes a frame buffer.**  In every run, with any result of each
message call and any queue to begin with: `who` is the index of one in every state exactly when no
`msgrcv` fails, and as many of the messages left in the queue as are received hold indices. -/
theorem display_index_iff (h : Run (messageStep c) (messageStart m msgId queue) tr s) :
    AllFrames tr s ↔ (∀ e ∈ tr, e.2 ≠ .msgrcvFails) ∧
      ∀ num ∈ (ofType frameMsg queue).take (receives tr), IsFrame c.uCount num := by
  obtain ⟨sent, got, hsent, hfifo, hcount, hindex⟩ := conserved_of_run h
  rw [hindex]
  -- what was received are the first messages there were
  have hgot : got = (ofType frameMsg queue).take (receives tr) ++
      sent.take (receives tr - (ofType frameMsg queue).length) := by
    rw [← List.take_append, hfifo, ← hcount, List.take_left]
  refine and_congr_right fun _ => ?_
  rw [hgot]
  constructor
  · intro hall num hnum
    exact hall num (List.mem_append_left _ hnum)
  · intro hold num hnum
    rcases List.mem_append.mp hnum with hleft | hright
    · exact hold num hleft
    · exact hsent num (List.mem_of_mem_take hright)

/-- A frame goes round, and its message is received. -/
theorem display_index_received : ∃ tr s,
    Run (messageStep (macropixelConfig 1 Nat.one_pos)) (messageStart (zeroMemories 1) 5 []) tr s ∧
      receives tr = 1 ∧ AllFrames tr s := by
  have hreplay : replay (messageStep (macropixelConfig 1 Nat.one_pos))
      (messageStart (zeroMemories 1) 5 []) [.pipe (.driverDone 0), .pipe .poll, .pipe (.dqbuf 0),
        .pipe (.semPost 0), .pipe (.semWait 0), .pipe (.convert 0), .pipe (.converted 0), .msgsnd 0,
        .msgrcv] = some (_, _) := rfl
  have hrun := run_of_replay _ hreplay
  refine ⟨_, _, hrun, rfl, (display_index_iff hrun).mpr ⟨?_, by simp [ofType]⟩⟩
  exact forall_of_replay hreplay (P := fun l => l ≠ .msgrcvFails) (by decide)

/-- The first `msgrcv` fails. -/
theorem display_index_negative : ∃ tr s,
    Run (messageStep (macropixelConfig 1 Nat.one_pos)) (messageStart (zeroMemories 1) 5 []) tr s ∧
      s.who = -1 ∧ ¬ AllFrames tr s := by
  refine ⟨_, _, run_of_replay [.msgrcvFails] rfl, rfl, ?_⟩
  rintro ⟨_, hframe⟩
  exact not_isFrame_negative _ hframe

end Index

end Mp157
