import Mp157.Pipeline.Display
import Mp157.Pipeline.Progress

/-!
# The work of a frame

Every captured frame costs the threads the same number of steps: one `poll`, one `VIDIOC_DQBUF`,
one `sem_post`, one `sem_wait`, a step for each macropixel, and so on to the return of
`lcd_show_camear`.  `stepsLeft` is what of this is still to be done in a state.

* `work_conserved` — in every run the steps the threads have taken and those left are together
  `frameSteps` for each frame captured, and some thread can go on exactly when some are left.
* `drain` — without further frames every continuation comes to rest after exactly `stepsLeft`
  steps, whatever the order.
* `frames_on_their_way` — there is a pass of `lcd_show_camear` for every frame captured: finished,
  in progress or to come, and at most `uCount + capacity + 1` of them are not finished.

The first three are under the condition that the conversion loop ends
(`convertRounds c.width c.height` is below `2 ^ 30`): otherwise it starts over for ever.
-/

namespace Mp157

open Transition ByteMemory MessageQueue

/-! ## What is left to do -/

section Left

variable (c : Config)

/-- The steps of the display thread for one message: it is received, each row is drawn, and
`lcd_show_camear` returns. -/
def showSteps : ℕ := c.kms.fbHight.toNat + 2

/-- The steps of all threads for one frame: one for each macropixel, seven others up to
`VIDIOC_QBUF`, and those of its message. -/
def frameSteps : ℕ := convertRounds c.width c.height + 7 + showSteps c

def driverLeft : DriverSlot → ℕ
  | .filled => frameSteps c
  | .filling | .dequeued => 0

def workerLeft : Worker → ℕ
  | .waiting => 0
  | .converting inPos _ => convertRounds c.width c.height - inPos.toNat / 4 + 3 + showSteps c
  | .sending => 2 + showSteps c
  | .queueing => 1

def displayLeft {n : ℕ} (i : Fin n) : DisplayThread n → ℕ
  | .receiving => 0
  | .showing who row => if who = i then c.kms.fbHight.toNat - row + 1 else 0

/-- What is left to do for the frames and messages of index `i`; `poll` counts as done where
`VIDIOC_DQBUF` is. -/
def leftAt (s : State c.uCount) (i : Fin c.uCount) : ℕ :=
  driverLeft c (s.driver i) + (if s.capture = .posting i then frameSteps c - 2 else 0)
    + s.sem i * (frameSteps c - 3) + workerLeft c (s.worker i)
    + (s.queue.countP fun msg => msg.2 = i) * showSteps c + displayLeft c i s.display

/-- The thread steps that are left to do. -/
def stepsLeft (s : State c.uCount) : ℕ :=
  ∑ i, leftAt c s i - if s.capture = .dequeuing then 1 else 0

end Left

/-- The steps that the threads have taken: all but the driver's. -/
def threadSteps {n : ℕ} (tr : Trace n) : ℕ := tr.countP fun e => e.2.agent ≠ .driver

lemma threadSteps_append {n : ℕ} (tr tr' : Trace n) :
    threadSteps (tr ++ tr') = threadSteps tr + threadSteps tr' :=
  List.countP_append

/-- What a step does of the work of its index. -/
def Label.spent {n : ℕ} : Label n → ℕ
  | .driverWrite _ _ _ | .driverDone _ | .poll => 0
  | .dqbuf _ => 2
  | _ => 1

/-- What it adds to it. -/
def Label.brought {n : ℕ} (c : Config) : Label n → ℕ
  | .driverDone _ => frameSteps c
  | _ => 0

/-! ## One step -/

section Steps

variable {c : Config} {m : Memories c.uCount} {s s' : State c.uCount} {l : Label c.uCount}
  {tr : Trace c.uCount} {i : Fin c.uCount}

lemma Label.move_of_index (hl : l.index ≠ some i) : l.move i = none := by
  cases l <;> simp_all [Label.index, Label.move]

lemma brought_of_thread (hl : l.agent ≠ .driver) : l.brought c = 0 := by
  cases l <;> first | rfl | exact absurd rfl hl

lemma displayLeft_other (hstep : step c s l = some s') (hl : l.index ≠ some i) :
    displayLeft c i s'.display = displayLeft c i s.display := by
  cases l with
  | recvMsg j =>
      obtain ⟨_, hd, _, rfl⟩ := step_recvMsg.mp hstep
      have hj : j ≠ i := by simpa [Label.index] using hl
      simp [displayLeft, hd, hj]
  | showRow j row =>
      obtain ⟨⟨hd, _⟩, _, _, rfl⟩ := step_showRow.mp hstep
      have hj : j ≠ i := by simpa [Label.index] using hl
      simp [displayLeft, hd, hj]
  | shown j =>
      obtain ⟨_, hd, _, rfl⟩ := step_shown.mp hstep
      have hj : j ≠ i := by simpa [Label.index] using hl
      simp [displayLeft, hd, hj]
  | _ => rw [(step_frame hstep).display (by simp [Label.agent])]

/-- A step about another buffer leaves what is to be done for this one. -/
lemma leftAt_other (hstep : step c s l = some s') (hl : l.index ≠ some i) :
    leftAt c s' i = leftAt c s i := by
  have hsame := step_sameAt hstep hl
  have htokens : tokens i s' = tokens i s := by
    rcases step_tokens i hstep with ⟨_, htokens⟩ | ⟨t, hmove, _⟩
    · exact htokens
    · rw [Label.move_of_index hl] at hmove
      cases hmove
  have hqueue : (s'.queue.countP fun msg => msg.2 = i) = s.queue.countP fun msg => msg.2 = i :=
    congrFun htokens .queued
  have hcapture : s'.capture = .posting i ↔ s.capture = .posting i := by
    have hhand := congrFun htokens .hand
    simp only [tokens] at hhand
    split_ifs at hhand <;> simp_all
  simp only [leftAt, hsame.driver, hsame.sem, hsame.worker, hqueue, displayLeft_other hstep hl,
    hcapture]

/-- Where a conversion stands. -/
lemma converting_position (h : PipelineRun c m tr s) {inPos outPos : UInt32}
    (hw : s.worker i = .converting inPos outPos) :
    ∃ k ≤ convertRounds c.width c.height, inPos = UInt32.ofNat (4 * k) := by
  obtain ⟨k, j, _, hkj, hj, _, hpos, _⟩ := (contents i h).busy inPos outPos hw
  exact ⟨k, hkj.trans hj, hpos⟩

/-- The display thread never goes past the last row. -/
lemma row_le (h : PipelineRun c m tr s) {row : ℕ} (hd : s.display = .showing i row) :
    row ≤ c.kms.fbHight.toNat := by
  have hinv : ∀ j row, s.display = .showing j row → row ≤ c.kms.fbHight.toNat := by
    refine h.invariant (I := fun s => ∀ j row, s.display = .showing j row →
      row ≤ c.kms.fbHight.toNat) (by simp [pipelineStart]) ?_
    intro s l s' ih hstep
    cases l with
    | recvMsg j =>
        obtain ⟨_, _, _, rfl⟩ := step_recvMsg.mp hstep
        simp
    | showRow j row =>
        obtain ⟨⟨_, hrow⟩, _, _, rfl⟩ := step_showRow.mp hstep
        simpa using hrow
    | shown j =>
        obtain ⟨_, _, _, rfl⟩ := step_shown.mp hstep
        simp
    | _ =>
        rw [(step_frame hstep).display (by simp [Label.agent])]
        exact ih
  exact hinv i row hd

/-- **One step of the work at an index.** -/
lemma leftAt_step (h : PipelineRun c m tr s) (hrounds : convertRounds c.width c.height < 2 ^ 30)
    (hstep : step c s l = some s') (hl : l.index = some i) :
    leftAt c s' i + l.spent = leftAt c s i + l.brought c := by
  cases l with
  | poll => cases hl
  | driverWrite j off x =>
      obtain ⟨_, rfl⟩ := step_driverWrite.mp hstep
      rfl
  | driverDone j =>
      obtain rfl := Option.some.inj hl
      obtain ⟨hd, rfl⟩ := step_driverDone.mp hstep
      simp only [leftAt, hd, Function.update_self, driverLeft, Label.spent, Label.brought]
      omega
  | dqbuf j =>
      obtain rfl := Option.some.inj hl
      obtain ⟨⟨hc, hd⟩, rfl⟩ := step_dqbuf.mp hstep
      simp only [leftAt, hc, hd, Function.update_self, driverLeft, Label.spent, Label.brought,
        reduceCtorEq, if_true, if_false, frameSteps]
      omega
  | semPost j =>
      obtain rfl := Option.some.inj hl
      obtain ⟨hc, rfl⟩ := step_semPost.mp hstep
      simp only [leftAt, hc, Function.update_self, Label.spent, Label.brought, reduceCtorEq,
        if_true, if_false, add_mul, one_mul, frameSteps]
      omega
  | semWait j =>
      obtain rfl := Option.some.inj hl
      obtain ⟨⟨hw, hsem⟩, rfl⟩ := step_semWait.mp hstep
      obtain ⟨n, hn⟩ := Nat.exists_eq_succ_of_ne_zero hsem.ne'
      simp only [leftAt, hw, hn, Function.update_self, workerLeft, Label.spent, Label.brought,
        Nat.succ_eq_add_one, Nat.add_sub_cancel, add_mul, one_mul, frameSteps, UInt32.toNat_zero,
        Nat.zero_div]
      omega
  | convert j =>
      obtain rfl := Option.some.inj hl
      obtain ⟨inPos, outPos, r, hw, hguard, hbody, rfl⟩ := step_convert.mp hstep
      obtain ⟨k, hk, rfl⟩ := converting_position h hw
      obtain ⟨_, hbody', _⟩ := ((contents j h).busy _ outPos hw).round hguard
      obtain rfl := Option.some.inj (hbody.symm.trans hbody')
      rw [convertGuard_position (by omega), decide_eq_true_eq] at hguard
      simp only [leftAt, hw, Function.update_self, workerLeft, Label.spent, Label.brought,
        position_next, position_toNat (show k < 2 ^ 30 by omega),
        position_toNat (show k + 1 < 2 ^ 30 by omega)]
      omega
  | converted j =>
      obtain rfl := Option.some.inj hl
      obtain ⟨inPos, outPos, hw, hguard, rfl⟩ := step_converted.mp hstep
      obtain ⟨k, hk, rfl⟩ := converting_position h hw
      rw [convertGuard_position (by omega), decide_eq_false_iff_not] at hguard
      simp only [leftAt, hw, Function.update_self, workerLeft, Label.spent, Label.brought,
        position_toNat (show k < 2 ^ 30 by omega)]
      omega
  | sendMsg j =>
      obtain rfl := Option.some.inj hl
      obtain ⟨⟨hw, _⟩, rfl⟩ := step_sendMsg.mp hstep
      simp only [leftAt, hw, Function.update_self, workerLeft, Label.spent, Label.brought,
        countP_send, decide_true, if_true, add_mul, one_mul]
      omega
  | qbuf j =>
      obtain rfl := Option.some.inj hl
      obtain ⟨⟨hw, hd⟩, rfl⟩ := step_qbuf.mp hstep
      simp only [leftAt, hw, hd, Function.update_self, workerLeft, driverLeft, Label.spent,
        Label.brought]
      omega
  | recvMsg j =>
      obtain rfl := Option.some.inj hl
      obtain ⟨queue, hd, hq, rfl⟩ := step_recvMsg.mp hstep
      simp only [leftAt, hd, displayLeft, countP_receive hq, decide_true, if_true, add_mul,
        one_mul, Label.spent, Label.brought, showSteps]
      omega
  | showRow j row =>
      obtain rfl := Option.some.inj hl
      obtain ⟨⟨hd, hrow⟩, _, _, rfl⟩ := step_showRow.mp hstep
      simp only [leftAt, hd, displayLeft, if_true, Label.spent, Label.brought]
      omega
  | shown j =>
      obtain rfl := Option.some.inj hl
      obtain ⟨row, hd, hrow, rfl⟩ := step_shown.mp hstep
      simp only [leftAt, hd, displayLeft, if_true, Label.spent, Label.brought]
      omega

/-- One step of the work of the whole pipeline. -/
lemma sum_leftAt_step (h : PipelineRun c m tr s)
    (hrounds : convertRounds c.width c.height < 2 ^ 30) (hstep : step c s l = some s') :
    ∑ i, leftAt c s' i + l.spent = ∑ i, leftAt c s i + l.brought c := by
  cases hindex : l.index with
  | none =>
      have hzero : l.spent = 0 ∧ l.brought c = 0 := by
        cases l <;> first | exact ⟨rfl, rfl⟩ | cases hindex
      rw [hzero.1, hzero.2, add_zero, add_zero]
      exact Finset.sum_congr rfl fun i _ => leftAt_other hstep (by rw [hindex]; nofun)
  | some j =>
      have hj := leftAt_step h hrounds hstep hindex
      have hothers : ∑ i ∈ Finset.univ.erase j, leftAt c s' i
          = ∑ i ∈ Finset.univ.erase j, leftAt c s i := by
        refine Finset.sum_congr rfl fun i hi => leftAt_other hstep ?_
        rw [hindex]
        exact fun heq => Finset.ne_of_mem_erase hi (Option.some.inj heq).symm
      have hs := Finset.add_sum_erase Finset.univ (leftAt c s) (Finset.mem_univ j)
      have hs' := Finset.add_sum_erase Finset.univ (leftAt c s') (Finset.mem_univ j)
      omega

/-- `poll` reported a frame, and no one else takes it. -/
lemma filled_of_dequeuing (h : PipelineRun c m tr s) (hc : s.capture = .dequeuing) :
    ∃ i, s.driver i = .filled := by
  revert hc
  refine h.invariant (I := fun s => s.capture = .dequeuing → ∃ i, s.driver i = .filled)
    (by simp [pipelineStart]) ?_
  intro s l s' ih hstep
  cases l with
  | poll =>
      obtain ⟨⟨_, hfilled⟩, rfl⟩ := step_poll.mp hstep
      exact fun _ => hfilled
  | dqbuf j =>
      obtain ⟨_, rfl⟩ := step_dqbuf.mp hstep
      simp
  | semPost j =>
      obtain ⟨_, rfl⟩ := step_semPost.mp hstep
      simp
  | driverDone j =>
      obtain ⟨_, rfl⟩ := step_driverDone.mp hstep
      exact fun _ => ⟨j, by simp⟩
  | qbuf j =>
      obtain ⟨⟨_, hd⟩, rfl⟩ := step_qbuf.mp hstep
      intro hc
      obtain ⟨i, hi⟩ := ih hc
      have hij : i ≠ j := by
        rintro rfl
        rw [hd] at hi
        cases hi
      exact ⟨i, by simpa [hij] using hi⟩
  | _ =>
      have hframe := step_frame hstep
      rw [hframe.capture (by simp [Label.agent])]
      intro hc
      obtain ⟨i, hi⟩ := ih hc
      exact ⟨i, (hframe.driver i (by simp) (by simp) (by simp)).trans hi⟩

lemma frameSteps_le_sum (h : PipelineRun c m tr s) (hc : s.capture = .dequeuing) :
    frameSteps c ≤ ∑ i, leftAt c s i := by
  obtain ⟨i, hi⟩ := filled_of_dequeuing h hc
  have hle : frameSteps c ≤ leftAt c s i := by
    simp only [leftAt, hi, driverLeft]
    omega
  exact hle.trans (Finset.single_le_sum (fun j _ => Nat.zero_le (leftAt c s j)) (Finset.mem_univ i))

/-- **One step of a thread does one of the steps left; the driver brings new ones.** -/
theorem stepsLeft_step (h : PipelineRun c m tr s)
    (hrounds : convertRounds c.width c.height < 2 ^ 30) (hstep : step c s l = some s') :
    stepsLeft c s' + (if l.agent ≠ .driver then 1 else 0) = stepsLeft c s + l.brought c := by
  have hsum := sum_leftAt_step h hrounds hstep
  have hpos : s.capture = .dequeuing → 9 ≤ ∑ i, leftAt c s i := fun hc =>
    le_trans (by simp only [frameSteps, showSteps]; omega) (frameSteps_le_sum h hc)
  have hpos' : s'.capture = .dequeuing → 9 ≤ ∑ i, leftAt c s' i := fun hc =>
    le_trans (by simp only [frameSteps, showSteps]; omega) (frameSteps_le_sum (h.snoc hstep) hc)
  cases l with
  | poll =>
      obtain ⟨⟨hc, _⟩, rfl⟩ := step_poll.mp hstep
      have hnine := hpos' rfl
      simp only [Label.spent, Label.brought] at hsum
      simp only [stepsLeft, hc, Label.agent, Label.brought, reduceCtorEq, if_true, if_false, ne_eq,
        not_false_iff]
      omega
  | dqbuf j =>
      obtain ⟨⟨hc, _⟩, rfl⟩ := step_dqbuf.mp hstep
      have hnine := hpos hc
      simp only [Label.spent, Label.brought] at hsum
      simp only [stepsLeft, hc, Label.agent, Label.brought, reduceCtorEq, if_true, if_false, ne_eq,
        not_false_iff]
      omega
  | semPost j =>
      obtain ⟨hc, rfl⟩ := step_semPost.mp hstep
      simpa [stepsLeft, hc, Label.agent, Label.spent] using hsum
  | _ =>
      have hcapture := (step_frame hstep).capture (by simp [Label.agent])
      rw [hcapture] at hpos'
      simp only [Label.spent] at hsum
      simp only [stepsLeft, hcapture, Label.agent, reduceCtorEq, if_true, if_false, ne_eq,
        not_true_eq_false, not_false_iff]
      split_ifs with hc
      · have hnine := hpos hc
        have hnine' := hpos' hc
        omega
      · omega

end Steps

/-! ## Runs -/

section Runs

variable {c : Config} {m : Memories c.uCount} {s : State c.uCount} {tr : Trace c.uCount}

/-- The steps taken and the steps left are those of the frames captured. -/
lemma steps_balance (h : PipelineRun c m tr s)
    (hrounds : convertRounds c.width c.height < 2 ^ 30) :
    threadSteps tr + stepsLeft c s = frameSteps c * s.captured := by
  refine h.invariant_trace (I := fun tr s => threadSteps tr + stepsLeft c s
    = frameSteps c * s.captured) ?_ ?_
  · simp [threadSteps, stepsLeft, leftAt, pipelineStart, driverLeft, workerLeft, displayLeft]
  · intro tr s l s' hrun ih hstep
    have hone := stepsLeft_step hrun hrounds hstep
    have hcaptured : frameSteps c * s'.captured = frameSteps c * s.captured + l.brought c := by
      cases l with
      | driverDone j =>
          obtain ⟨_, rfl⟩ := step_driverDone.mp hstep
          exact Nat.mul_succ _ _
      | _ => rw [(step_frame hstep).captured (by simp)]; rfl
    have hthreads : threadSteps (tr ++ [(s, l)])
        = threadSteps tr + if l.agent ≠ .driver then 1 else 0 := by
      simp [threadSteps, List.countP_append, List.countP_cons]
    omega

/-! ## At rest -/

/-- Every thread waits, and no frame is on its way. -/
structure AtRest {n : ℕ} (s : State n) : Prop where
  driver : ∀ i, s.driver i = .filling
  capture : s.capture = .polling
  sem : ∀ i, s.sem i = 0
  worker : ∀ i, s.worker i = .waiting
  queue : s.queue = []
  display : s.display = .receiving

/-- Whoever has no step left waits. -/
lemma atRest_of_leftAt (h : PipelineRun c m tr s) (hc : s.capture ≠ .dequeuing)
    (hzero : ∀ i, leftAt c s i = 0) : AtRest s := by
  have hframe : 9 ≤ frameSteps c := by
    simp only [frameSteps, showSteps]
    omega
  have hparts : ∀ i, driverLeft c (s.driver i) = 0 ∧ s.capture ≠ .posting i ∧ s.sem i = 0 ∧
      workerLeft c (s.worker i) = 0 ∧ (s.queue.countP fun msg => msg.2 = i) = 0 ∧
      displayLeft c i s.display = 0 := by
    intro i
    have hi := hzero i
    simp only [leftAt, Nat.add_eq_zero_iff, Nat.mul_eq_zero] at hi
    obtain ⟨⟨⟨⟨⟨hd, hp⟩, hs⟩, hw⟩, hq⟩, hshow⟩ := hi
    refine ⟨hd, ?_, by omega, hw, ?_, hshow⟩
    · intro hposting
      rw [if_pos hposting] at hp
      omega
    · simp only [showSteps] at hq
      omega
  have hworker : ∀ i, s.worker i = .waiting := by
    intro i
    have hi := (hparts i).2.2.2.1
    cases hw : s.worker i with
    | waiting => rfl
    | _ => simp [hw, workerLeft] at hi
  refine ⟨?_, ?_, fun i => (hparts i).2.2.1, hworker, ?_, ?_⟩
  · intro i
    obtain ⟨hd, hp, hs, -, -, -⟩ := hparts i
    have hone := one_token_sum i h
    rw [if_neg hp, hs, if_pos (hworker i)] at hone
    cases hslot : s.driver i with
    | filling => rfl
    | filled =>
        simp only [hslot, driverLeft] at hd
        omega
    | dequeued =>
        rw [hslot, if_pos rfl] at hone
        omega
  · cases hcapture : s.capture with
    | polling => rfl
    | dequeuing => exact absurd hcapture hc
    | posting i => exact absurd hcapture (hparts i).2.1
  · rw [List.eq_nil_iff_forall_not_mem]
    intro msg hmsg
    have hnone := List.countP_eq_zero.mp (hparts msg.2).2.2.2.2.1 msg hmsg
    simp at hnone
  · cases hd : s.display with
    | receiving => rfl
    | showing who row =>
        have hwho := (hparts who).2.2.2.2.2
        simp [hd, displayLeft] at hwho

/-- **Nothing is left exactly at rest.** -/
theorem stepsLeft_eq_zero_iff (h : PipelineRun c m tr s) : stepsLeft c s = 0 ↔ AtRest s := by
  constructor
  · intro hzero
    have hc : s.capture ≠ .dequeuing := by
      intro hc
      have hle := frameSteps_le_sum h hc
      simp only [stepsLeft, hc, if_true, frameSteps, showSteps] at hzero hle
      omega
    rw [stepsLeft, if_neg hc, Nat.sub_zero, Finset.sum_eq_zero_iff] at hzero
    exact atRest_of_leftAt h hc fun i => hzero i (Finset.mem_univ i)
  · intro hrest
    simp [stepsLeft, leftAt, hrest.driver, hrest.capture, hrest.sem, hrest.worker, hrest.queue,
      hrest.display, driverLeft, workerLeft, displayLeft]

/-- Where no thread can go on, all is at rest: who waits waits for the driver. -/
lemma atRest_of_not_enabled (h : PipelineRun c m tr s)
    (hnone : ∀ l, l.agent ≠ .driver → ¬ Enabled (step c) s l) : AtRest s := by
  have hnobody : ∀ i, ¬ ∃ l, (l.agent = .capture ∨ l.agent = .worker i ∨ l.agent = .display) ∧
      Enabled (step c) s l := by
    rintro i ⟨l, hl, hen⟩
    refine hnone l ?_ hen
    rcases hl with hl | hl | hl <;> rw [hl] <;> nofun
  have hdriver : ∀ i, s.driver i = .filling := by
    intro i
    rcases progress_of_buffer h i with hen | ⟨s', hstep⟩
    · exact absurd hen (hnobody i)
    · exact (step_driverDone.mp hstep).1
  have hothers : ∀ i, s.capture ≠ .posting i ∧ s.sem i = 0 ∧ s.worker i = .waiting := by
    intro i
    have hone := one_token_sum i h
    rw [hdriver i, if_neg (by nofun)] at hone
    refine ⟨fun hp => ?_, by omega, ?_⟩
    · rw [if_pos hp] at hone
      omega
    · by_contra hw
      rw [if_neg hw] at hone
      omega
  have hidle : s.display = .receiving ∧ s.queue = [] := by
    by_contra hbusy
    refine hnobody 0 ?_
    obtain ⟨l, hl, hen⟩ := display_enabled h fun hd =>
      List.length_pos_of_ne_nil fun hq => hbusy ⟨hd, hq⟩
    exact ⟨l, .inr (.inr hl), hen⟩
  refine ⟨hdriver, ?_, fun i => (hothers i).2.1, fun i => (hothers i).2.2, hidle.2, hidle.1⟩
  cases hc : s.capture with
  | polling => rfl
  | dequeuing =>
      obtain ⟨i, hi⟩ := filled_of_dequeuing h hc
      rw [hdriver i] at hi
      cases hi
  | posting i => exact absurd hc (hothers i).1

/-- **Some thread can go on exactly when a step is left.** -/
theorem enabled_iff_stepsLeft (h : PipelineRun c m tr s)
    (hrounds : convertRounds c.width c.height < 2 ^ 30) :
    (∃ l, l.agent ≠ .driver ∧ Enabled (step c) s l) ↔ 0 < stepsLeft c s := by
  constructor
  · rintro ⟨l, hl, s', hstep⟩
    have hone := stepsLeft_step h hrounds hstep
    rw [if_pos hl, brought_of_thread hl] at hone
    omega
  · intro hpos
    by_contra hnone
    have hrest := atRest_of_not_enabled h fun l hl hen => hnone ⟨l, hl, hen⟩
    rw [(stepsLeft_eq_zero_iff h).mpr hrest] at hpos
    exact lt_irrefl 0 hpos

/-- **Work conservation.**  In every run, whatever the order, the steps the threads have taken and
the steps left are together `frameSteps` for each frame the driver has completed; and some thread
can go on exactly when the steps taken are fewer than that. -/
theorem work_conserved (h : PipelineRun c m tr s)
    (hrounds : convertRounds c.width c.height < 2 ^ 30) :
    threadSteps tr + stepsLeft c s = frameSteps c * s.captured ∧
    ((∃ l, l.agent ≠ .driver ∧ Enabled (step c) s l) ↔
      threadSteps tr < frameSteps c * s.captured) := by
  have hbalance := steps_balance h hrounds
  refine ⟨hbalance, ?_⟩
  rw [enabled_iff_stepsLeft h hrounds, ← hbalance, lt_add_iff_pos_right]

/-- The first frame, up to its conversion: 6 of 11 steps. -/
theorem work_conserved_one_frame : ∃ tr s,
    PipelineRun (macropixelConfig 1 Nat.one_pos) (zeroMemories 1) tr s ∧
    threadSteps tr = 6 ∧ stepsLeft (macropixelConfig 1 Nat.one_pos) s = 5 ∧
    threadSteps tr + stepsLeft (macropixelConfig 1 Nat.one_pos) s
      = frameSteps (macropixelConfig 1 Nat.one_pos) * s.captured ∧
    ∃ l, l.agent ≠ .driver ∧ Enabled (step (macropixelConfig 1 Nat.one_pos)) s l := by
  have h := run_of_replay [.driverDone 0, .poll, .dqbuf 0, .semPost 0, .semWait 0, .convert 0,
    .converted 0] (show replay (step (macropixelConfig 1 Nat.one_pos))
      (pipelineStart (zeroMemories 1)) _ = some (_, _) from rfl)
  have hwork := work_conserved h (by decide)
  exact ⟨_, _, h, by decide, by decide, hwork.1, hwork.2.mpr (by decide)⟩

/-- The threads alone can finish what is left. -/
lemma exists_drain (hrounds : convertRounds c.width c.height < 2 ^ 30) :
    ∀ {n : ℕ} {tr : Trace c.uCount} {s : State c.uCount}, PipelineRun c m tr s →
      stepsLeft c s = n → ∃ rest s', Run (step c) s rest s' ∧ rest.length = n ∧
        (∀ e ∈ rest, e.2.agent ≠ .driver) ∧ AtRest s' := by
  intro n
  induction n with
  | zero => exact fun h hn => ⟨[], _, Run.nil, rfl, by simp, (stepsLeft_eq_zero_iff h).mp hn⟩
  | succ n ih =>
      intro tr s h hn
      obtain ⟨l, hl, s', hstep⟩ := (enabled_iff_stepsLeft h hrounds).mpr (by omega)
      have hone := stepsLeft_step h hrounds hstep
      rw [if_pos hl, brought_of_thread hl] at hone
      obtain ⟨rest, s'', hrest, hlen, hall, hend⟩ := ih (h.snoc hstep) (by omega)
      refine ⟨(s, l) :: rest, s'', (Run.single hstep).append hrest, by simp [hlen], ?_, hend⟩
      intro e he
      rcases List.mem_cons.mp he with rfl | he
      · exact hl
      · exact hall e he

/-- **Draining.**  From any reachable state, when the driver completes no further frame: the
threads alone can finish all work in `stepsLeft` steps; no continuation has more of their steps;
and one comes to rest exactly when it has had that many, or when no thread can go on. -/
theorem drain (h : PipelineRun c m tr s) (hrounds : convertRounds c.width c.height < 2 ^ 30) :
    (∃ rest s', Run (step c) s rest s' ∧ rest.length = stepsLeft c s ∧
      (∀ e ∈ rest, e.2.agent ≠ .driver) ∧ AtRest s') ∧
    ∀ rest s', Run (step c) s rest s' → (∀ e ∈ rest, ∀ i, e.2 ≠ .driverDone i) →
      threadSteps rest ≤ stepsLeft c s ∧
      (AtRest s' ↔ threadSteps rest = stepsLeft c s) ∧
      (AtRest s' ↔ ∀ l, l.agent ≠ .driver → ¬ Enabled (step c) s' l) := by
  refine ⟨exists_drain hrounds h rfl, ?_⟩
  intro rest s' hrest hnone
  have h' : PipelineRun c m (tr ++ rest) s' := Run.append h hrest
  have hbefore := steps_balance h hrounds
  have hafter := steps_balance h' hrounds
  have hcaptured : s'.captured = s.captured := by
    clear hbefore hafter h'
    induction hrest with
    | nil => rfl
    | @snoc rest s₁ s₂ l _ hstep ih =>
        rw [(step_frame hstep).captured (hnone (s₁, l) (by simp))]
        exact ih fun e he => hnone e (List.mem_append_left _ he)
  rw [hcaptured, threadSteps_append] at hafter
  refine ⟨by omega, ?_, ?_⟩
  · rw [← stepsLeft_eq_zero_iff h']
    omega
  · refine ⟨?_, atRest_of_not_enabled h'⟩
    intro hatRest l hl hen
    have hpos := (enabled_iff_stepsLeft h' hrounds).mp ⟨l, hl, hen⟩
    rw [(stepsLeft_eq_zero_iff h').mpr hatRest] at hpos
    exact lt_irrefl 0 hpos

/-- One frame, completed by the driver: the threads finish in 11 steps. -/
theorem drain_one_frame : ∃ tr s rest s',
    PipelineRun (macropixelConfig 1 Nat.one_pos) (zeroMemories 1) tr s ∧ s.captured = 1 ∧
    Run (step (macropixelConfig 1 Nat.one_pos)) s rest s' ∧ rest.length = 11 ∧ AtRest s' := by
  have h := Run.single (show step (macropixelConfig 1 Nat.one_pos)
    (pipelineStart (zeroMemories 1)) (.driverDone 0) = some _ from rfl)
  obtain ⟨rest, s', hrest, hlen, -, hend⟩ := (drain h (by decide)).1
  exact ⟨_, _, rest, s', h, rfl, hrest, hlen.trans (by decide), hend⟩

/-! ## Where the frames are -/

/-- Buffers whose frame is complete and has not been announced. -/
def unsent {n : ℕ} (s : State n) : Finset (Fin n) :=
  Finset.univ.filter fun i => s.driver i ≠ .filling ∧ s.worker i ≠ .queueing

/-- How often `lcd_show_camear` has returned. -/
def framesShown {n : ℕ} (tr : Trace n) : ℕ := ∑ i, occurrences tr (.shown i)

lemma captured_eq (h : PipelineRun c m tr s) :
    s.captured = ∑ i, occurrences tr (.driverDone i) := by
  refine h.invariant_trace (I := fun tr s => s.captured = ∑ i, occurrences tr (.driverDone i))
    (by simp [pipelineStart]) ?_
  intro tr s l s' _ ih hstep
  cases l with
  | driverDone j =>
      obtain ⟨_, rfl⟩ := step_driverDone.mp hstep
      simp [Finset.sum_add_distrib, ih]
  | _ =>
      rw [(step_frame hstep).captured (by simp)]
      simpa using ih

lemma queue_length_le (h : PipelineRun c m tr s) : s.queue.length ≤ c.capacity := by
  refine h.invariant (I := fun s => s.queue.length ≤ c.capacity) (by simp [pipelineStart]) ?_
  intro s l s' ih hstep
  cases l with
  | sendMsg j =>
      obtain ⟨⟨_, hroom⟩, rfl⟩ := step_sendMsg.mp hstep
      simpa [send] using hroom
  | recvMsg j =>
      obtain ⟨queue, _, hq, rfl⟩ := step_recvMsg.mp hstep
      have hlength := (receive_perm hq).length_eq
      simp only [List.length_cons] at hlength
      exact (Nat.le_succ queue.length).trans (hlength.symm.le.trans ih)
  | _ =>
      rw [(step_frame hstep).queue (by simp) (by simp)]
      exact ih

lemma sum_queued {n : ℕ} (queue : Queue ℕ (Fin n)) :
    ∑ i, (queue.countP fun msg => msg.2 = i) = queue.length := by
  induction queue with
  | nil => simp
  | cons msg queue ih => simp [List.countP_cons, Finset.sum_add_distrib, ih]

/-- The frames of one index. -/
lemma frames_of_index (h : PipelineRun c m tr s) (i : Fin c.uCount) :
    occurrences tr (.driverDone i) = occurrences tr (.shown i)
      + (if s.driver i ≠ .filling ∧ s.worker i ≠ .queueing then 1 else 0)
      + (s.queue.countP fun msg => msg.2 = i) + if s.display.isShowing i then 1 else 0 := by
  have hfilled : (if s.driver i = .filled then 1 else 0) + occurrences tr (.dqbuf i)
      = occurrences tr (.driverDone i) :=
    place_balance i h (p := .filled) (a := .done) (b := .dqbuf) (by decide)
      (fun t => by cases t <;> decide) (fun t => by cases t <;> decide)
  have hhand := hand_balance i h
  have hsem := sem_balance i h
  have hconverting := converting_balance i h
  have hsending := sending_balance i h
  have hqueue := queue_balance i h
  have hshowing := showing_balance i h
  have hunsent : (if s.driver i ≠ .filling ∧ s.worker i ≠ .queueing then 1 else 0)
      = (if s.driver i = .filled then 1 else 0) + (if s.capture = .posting i then 1 else 0)
        + s.sem i + (if (s.worker i).isConverting then 1 else 0)
        + if s.worker i = .sending then 1 else 0 := by
    have hone := one_token i h
    simp only [bufferPlaces, List.map_cons, List.map_nil, List.sum_cons, List.sum_nil, tokens]
      at hone
    by_cases hbuffer : s.driver i ≠ .filling ∧ s.worker i ≠ .queueing
    · rw [if_neg hbuffer.1, if_neg hbuffer.2] at hone
      rw [if_pos hbuffer]
      omega
    · rw [if_neg hbuffer]
      rw [not_and_or, not_not, not_not] at hbuffer
      rcases hbuffer with hb | hb <;> rw [if_pos hb] at hone <;> omega
  omega

lemma captured_balance (h : PipelineRun c m tr s) :
    s.captured = framesShown tr + (unsent s).card + s.queue.length
      + if s.display = .receiving then 0 else 1 := by
  have hshowing : ∑ i, (if s.display.isShowing i then 1 else 0)
      = if s.display = .receiving then 0 else 1 := by
    cases s.display <;> simp [DisplayThread.isShowing]
  rw [captured_eq h, Finset.sum_congr rfl fun i _ => frames_of_index h i]
  simp only [Finset.sum_add_distrib]
  rw [sum_queued, hshowing, unsent, Finset.card_filter, framesShown]

/-- **A pass for every frame.**  In every run the frames captured are as many as the passes over the
screen that are finished, the frames not announced yet, the messages in the queue and the pass in
progress; so the passes are never more than `uCount + capacity + 1` behind. -/
theorem frames_on_their_way (h : PipelineRun c m tr s) :
    s.captured = framesShown tr + (unsent s).card + s.queue.length
      + (if s.display = .receiving then 0 else 1) ∧
    s.captured ≤ framesShown tr + c.uCount + c.capacity + 1 := by
  have heq := captured_balance h
  have hunsent : (unsent s).card ≤ c.uCount := by
    simpa using Finset.card_le_univ (unsent s)
  have hqueue := queue_length_le h
  refine ⟨heq, ?_⟩
  split_ifs at heq <;> omega

/-- One buffer, with a frame in each place: shown, announced, to be announced. -/
theorem frames_on_their_way_three : ∃ tr s,
    PipelineRun (macropixelConfig 1 Nat.one_pos) (zeroMemories 1) tr s ∧
    s.captured = 3 ∧ framesShown tr = 0 ∧ s.captured ≤ framesShown tr + 1 + 1 + 1 := by
  have h := run_of_replay [.driverDone 0, .poll, .dqbuf 0, .semPost 0, .semWait 0, .convert 0,
    .converted 0, .sendMsg 0, .qbuf 0, .recvMsg 0, .driverDone 0, .poll, .dqbuf 0, .semPost 0,
    .semWait 0, .convert 0, .converted 0, .sendMsg 0, .qbuf 0, .driverDone 0]
    (show replay (step (macropixelConfig 1 Nat.one_pos)) (pipelineStart (zeroMemories 1)) _
      = some (_, _) from rfl)
  exact ⟨_, _, h, rfl, by decide, (frames_on_their_way h).2⟩

end Runs

end Mp157
