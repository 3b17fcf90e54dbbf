import Mp157.Program.Model

/-!
# The number of a worker (`ProcessingImages` in `cameraFun.c`)

A worker looks for its own id in `tid`.  The capture thread fills `tid` while it creates the
workers: `pthread_create` makes a thread, stores its id and returns, and the thread may run before
its id is stored.  What `malloc` left in `tid` is arbitrary.

Here creating a thread and storing its id are two steps, and a worker takes one step for each
comparison; `creation_projects` says that this is the creation and the search of
`Program/Model.lean`.

* `RunInv` — the slots before its own never mislead a worker, whatever the interleaving: what
  becomes of it is decided when it looks at its own.
* `worker_numbers_iff` — a worker has its own number exactly when its id was there by then.
* `searching_ends` — the search always comes to an end.
-/

namespace Mp157.WorkerNumber

open Transition
open Function (update)

/-! ## Creating and searching -/

/-- Where the capture thread is in the loop that creates the workers. -/
inductive Creator (n : ℕ)
  /-- At `pthread_create` of `tid[k + 1]`. -/
  | creating (k : Fin n)
  /-- In that call: the thread exists, its id is not stored. -/
  | storing (k : Fin n)
  /-- The loop is over. -/
  | looping
  /-- The call for `tid[k + 1]` has failed, and the thread has returned. -/
  | createFailed (k : Fin n)

/-- Where a worker is. -/
inductive Place
  | notCreated
  /-- In the loop that looks for its id, before round `i`. -/
  | searching (i : ℕ)
  /-- Out of that loop. -/
  | left (who : ℕ)

structure State (n : ℕ) (T : Type) where
  creator : Creator n
  /-- `camera->tid`; its elements are those up to `uCount`. -/
  tid : ℕ → T
  /-- Worker `k` is the one created for `tid[k + 1]`. -/
  worker : Fin n → Place

inductive Label (n : ℕ) (T : Type)
  /-- The next worker exists. -/
  | create
  /-- Its id is stored, and the call returns. -/
  | store
  /-- The call fails; POSIX leaves open what the element holds then. -/
  | createFails (x : T)
  /-- The next round of the search of worker `k`. -/
  | search (k : Fin n)

/-- `unsigned char * rgbdata[5]` -/
def rgbdataLength : ℕ := 5

variable {T : Type} (c : Config) (pthreadSelf : Fin c.uCount → T)

/-- Round `i` of the loop of a worker whose id is `id`; `who` is 0 when the loop runs out. -/
def searchRound [DecidableEq T] (tid : ℕ → T) (id : T) (i : ℕ) : Place :=
  if i < c.uCount + 1 then
    if tid i = id then .left i else .searching (i + 1)
  else .left 0

/-- After the worker of `tid[k + 1]`. -/
def nextCreate (k : Fin c.uCount) : Creator c.uCount :=
  if h : k.val + 1 < c.uCount then .creating ⟨k.val + 1, h⟩ else .looping

/-- One step of the capture thread or of a worker; `pthreadSelf` is what `pthread_self` returns. -/
def step [DecidableEq T] (s : State c.uCount T) :
    Label c.uCount T → Option (State c.uCount T)
  | .create =>
      match s.creator with
      | .creating k =>
          some { s with creator := .storing k, worker := update s.worker k (.searching 1) }
      | _ => none
  | .store =>
      match s.creator with
      | .storing k =>
          some { s with creator := nextCreate c k, tid := update s.tid (k + 1) (pthreadSelf k) }
      | _ => none
  | .createFails x =>
      match s.creator with
      | .creating k => some { s with creator := .createFailed k, tid := update s.tid (k + 1) x }
      | _ => none
  | .search k =>
      match s.worker k with
      | .searching i =>
          some { s with worker := update s.worker k (searchRound c s.tid (pthreadSelf k) i) }
      | _ => none

/-- Before the first call, with what `malloc` left in `tid`. -/
def start (tid : ℕ → T) : State c.uCount T := ⟨.creating 0, tid, fun _ => .notCreated⟩

/-- Workers created. -/
def Creator.created {n : ℕ} : Creator n → ℕ
  | .creating k => k
  | .storing k => k + 1
  | .looping => n
  | .createFailed k => k

/-- Ids stored. -/
def Creator.stored {n : ℕ} : Creator n → ℕ
  | .creating k => k
  | .storing k => k
  | .looping => n
  | .createFailed k => k

/-- Worker `k` looks at its own slot and does not find its id. -/
def Misses (s : State c.uCount T) (l : Label c.uCount T) (k : Fin c.uCount) : Prop :=
  l = .search k ∧ s.worker k = .searching (k + 1) ∧ s.tid (k + 1) ≠ pthreadSelf k

/-- Worker `k` has done so. -/
def Missed (tr : List (State c.uCount T × Label c.uCount T)) (k : Fin c.uCount) : Prop :=
  ∃ e ∈ tr, Misses c pthreadSelf e.1 e.2 k

section Inversion

variable [DecidableEq T] {c pthreadSelf} {s s' : State c.uCount T} {k : Fin c.uCount}

lemma step_create : step c pthreadSelf s .create = some s' ↔ ∃ k, s.creator = .creating k ∧
    s' = { s with creator := .storing k, worker := update s.worker k (.searching 1) } := by
  cases h : s.creator <;> simp [step, h, eq_comm]

lemma step_store : step c pthreadSelf s .store = some s' ↔ ∃ k, s.creator = .storing k ∧
    s' = { s with creator := nextCreate c k, tid := update s.tid (k + 1) (pthreadSelf k) } := by
  cases h : s.creator <;> simp [step, h, eq_comm]

lemma step_createFails {x : T} : step c pthreadSelf s (.createFails x) = some s' ↔
    ∃ k, s.creator = .creating k ∧
      s' = { s with creator := .createFailed k, tid := update s.tid (k + 1) x } := by
  cases h : s.creator <;> simp [step, h, eq_comm]

lemma step_search : step c pthreadSelf s (.search k) = some s' ↔ ∃ i, s.worker k = .searching i ∧
    s' = { s with worker := update s.worker k (searchRound c s.tid (pthreadSelf k) i) } := by
  cases h : s.worker k <;> simp [step, h, eq_comm]

end Inversion

/-! ## What becomes of a worker -/

section Invariant

variable {c pthreadSelf} {tid : ℕ → T} {s s' : State c.uCount T} {k : Fin c.uCount}
  {tr : List (State c.uCount T × Label c.uCount T)} {l : Label c.uCount T}

lemma Creator.created_le {n : ℕ} (creator : Creator n) : creator.created ≤ creator.stored + 1 := by
  cases creator <;> simp [Creator.created, Creator.stored]

lemma Creator.stored_nextCreate (k : Fin c.uCount) : (nextCreate c k).stored = k + 1 := by
  have hk := k.isLt
  simp only [nextCreate]
  split_ifs <;> simp only [Creator.stored]
  omega

lemma Creator.created_nextCreate (k : Fin c.uCount) : (nextCreate c k).created = k + 1 := by
  have hk := k.isLt
  simp only [nextCreate]
  split_ifs <;> simp only [Creator.created]
  omega

/-- What is known of worker `k` at a place, by whether it has missed its own slot. -/
def Decided {n : ℕ} (k : Fin n) (missed : Prop) : Place → Prop
  | .notCreated => ¬ missed
  | .searching i => 1 ≤ i ∧ (missed ↔ k + 1 < i)
  | .left who => missed ↔ who ≠ k + 1

/-- Holds after every run, whatever the interleaving. -/
structure RunInv (c : Config) (pthreadSelf : Fin c.uCount → T)
    (tr : List (State c.uCount T × Label c.uCount T)) (s : State c.uCount T) : Prop where
  created : ∀ k, s.worker k ≠ .notCreated → k.val < s.creator.created
  stored : ∀ k : Fin c.uCount, k.val < s.creator.stored → s.tid (k + 1) = pthreadSelf k
  decided : ∀ k, Decided k (Missed c pthreadSelf tr k) (s.worker k)

lemma RunInv.start (tid : ℕ → T) : RunInv c pthreadSelf [] (start c tid) where
  created := by simp [WorkerNumber.start]
  stored := by simp [WorkerNumber.start, Creator.stored]
  decided := by simp [WorkerNumber.start, Decided, Missed]

lemma missed_snoc : Missed c pthreadSelf (tr ++ [(s, l)]) k ↔
    Missed c pthreadSelf tr k ∨ Misses c pthreadSelf s l k := by
  simp only [Missed, List.mem_append, List.mem_singleton]
  constructor
  · rintro ⟨e, hmem | rfl, hmiss⟩
    · exact .inl ⟨e, hmem, hmiss⟩
    · exact .inr hmiss
  · rintro (⟨e, hmem, hmiss⟩ | hmiss)
    · exact ⟨e, .inl hmem, hmiss⟩
    · exact ⟨_, .inr rfl, hmiss⟩

/-- Nothing but the search of a worker decides about it. -/
lemma RunInv.decided_of_ne (h : RunInv c pthreadSelf tr s) (hl : l ≠ .search k) :
    Decided k (Missed c pthreadSelf (tr ++ [(s, l)]) k) (s.worker k) := by
  rw [missed_snoc, or_iff_left]
  · exact h.decided k
  · rintro ⟨hsearch, -⟩
    exact hl hsearch

/-- The slots before that of a worker hold the ids of others. -/
lemma RunInv.tid_ne (h : RunInv c pthreadSelf tr s) (hids : Function.Injective pthreadSelf)
    (hk : s.worker k ≠ .notCreated) {i : ℕ} (hpos : 1 ≤ i) (hi : i < k + 1) :
    s.tid i ≠ pthreadSelf k := by
  have hcreated := h.created k hk
  have hle := s.creator.created_le
  have hlt : i - 1 < c.uCount := by omega
  have hstored := h.stored ⟨i - 1, hlt⟩ (show i - 1 < s.creator.stored by omega)
  have hslot : i - 1 + 1 = i := Nat.sub_add_cancel hpos
  rw [hslot] at hstored
  rw [hstored]
  intro heq
  have hval : i - 1 = k.val := congrArg Fin.val (hids heq)
  omega

variable [DecidableEq T]

/-- **One round.**  Before its own slot a worker goes on; there, the round decides. -/
lemma RunInv.decided_search (h : RunInv c pthreadSelf tr s)
    (hids : Function.Injective pthreadSelf) {i : ℕ} (hi : s.worker k = .searching i) :
    Decided k (Missed c pthreadSelf (tr ++ [(s, .search k)]) k)
      (searchRound c s.tid (pthreadSelf k) i) := by
  have hk := k.isLt
  have hcreated : s.worker k ≠ .notCreated := by simp [hi]
  have hdecided := h.decided k
  rw [hi] at hdecided
  obtain ⟨hpos, hmissed⟩ := hdecided
  rw [missed_snoc, hmissed]
  have hmisses : Misses c pthreadSelf s (.search k) k ↔
      i = k + 1 ∧ s.tid (k + 1) ≠ pthreadSelf k := by
    simp [Misses, hi]
  rw [hmisses, searchRound]
  rcases lt_trichotomy i (k + 1) with hlt | rfl | hgt
  · have hne := h.tid_ne hids hcreated hpos hlt
    rw [if_pos (by omega), if_neg hne]
    exact ⟨by omega, by omega⟩
  · rw [if_pos (by omega)]
    split_ifs with hown
    · simp [Decided, hown]
    · simp [Decided, hown]
  · split_ifs with hguard hfound
    · exact iff_of_true (.inl hgt) (by omega)
    · exact ⟨by omega, by omega⟩
    · exact iff_of_true (.inl hgt) (by omega)

lemma RunInv.create (h : RunInv c pthreadSelf tr s)
    (hstep : step c pthreadSelf s .create = some s') :
    RunInv c pthreadSelf (tr ++ [(s, .create)]) s' := by
  obtain ⟨k, hk, rfl⟩ := step_create.mp hstep
  have hcreated : s.creator.created = k := by simp [hk, Creator.created]
  refine ⟨?_, ?_, ?_⟩
  · intro j hj
    rcases eq_or_ne j k with rfl | hne
    · exact Nat.lt_succ_self _
    · have hlt := h.created j (by simpa [hne] using hj)
      exact (hcreated ▸ hlt).trans (Nat.lt_succ_self _)
  · intro j hj
    exact h.stored j (by simpa [hk, Creator.stored] using hj)
  · intro j
    have hdecided : Decided j (Missed c pthreadSelf (tr ++ [(s, .create)]) j) (s.worker j) :=
      h.decided_of_ne nofun
    rcases eq_or_ne j k with rfl | hne
    · have hnew : s.worker j = .notCreated := by
        by_contra hold
        exact absurd (h.created j hold) (by omega)
      rw [hnew] at hdecided
      simpa [Decided] using hdecided
    · simpa [hne] using hdecided

lemma RunInv.store (h : RunInv c pthreadSelf tr s)
    (hstep : step c pthreadSelf s .store = some s') :
    RunInv c pthreadSelf (tr ++ [(s, .store)]) s' := by
  obtain ⟨k, hk, rfl⟩ := step_store.mp hstep
  refine ⟨?_, ?_, fun _ => h.decided_of_ne nofun⟩
  · intro j hj
    have hlt := h.created j hj
    rw [hk] at hlt
    exact hlt.trans_eq (Creator.created_nextCreate k).symm
  · intro j hj
    rw [Creator.stored_nextCreate] at hj
    rcases Nat.lt_succ_iff_lt_or_eq.mp hj with hlt | heq
    · have hold := h.stored j (by simpa [hk, Creator.stored] using hlt)
      exact (Function.update_of_ne (by omega) _ _).trans hold
    · obtain rfl : j = k := Fin.ext heq
      exact Function.update_self _ _ _

lemma RunInv.createFails {x : T} (h : RunInv c pthreadSelf tr s)
    (hstep : step c pthreadSelf s (.createFails x) = some s') :
    RunInv c pthreadSelf (tr ++ [(s, .createFails x)]) s' := by
  obtain ⟨k, hk, rfl⟩ := step_createFails.mp hstep
  refine ⟨?_, ?_, fun _ => h.decided_of_ne nofun⟩
  · intro j hj
    simpa [hk, Creator.created] using h.created j hj
  · intro j hj
    have hold := h.stored j (by simpa [hk, Creator.stored] using hj)
    have hlt : j.val < k := by simpa [Creator.stored] using hj
    exact (Function.update_of_ne (by omega) _ _).trans hold

lemma RunInv.search (h : RunInv c pthreadSelf tr s) (hids : Function.Injective pthreadSelf)
    (hstep : step c pthreadSelf s (.search k) = some s') :
    RunInv c pthreadSelf (tr ++ [(s, .search k)]) s' := by
  obtain ⟨i, hi, rfl⟩ := step_search.mp hstep
  refine ⟨?_, h.stored, ?_⟩
  · intro j hj
    rcases eq_or_ne j k with rfl | hne
    · exact h.created j (by simp [hi])
    · exact h.created j (by simpa [hne] using hj)
  · intro j
    rcases eq_or_ne j k with rfl | hne
    · simpa using h.decided_search hids hi
    · have hother : (Label.search k : Label c.uCount T) ≠ .search j := by simpa using hne.symm
      simpa [hne] using h.decided_of_ne hother

/-- The step lemma. -/
lemma RunInv.next (h : RunInv c pthreadSelf tr s) (hids : Function.Injective pthreadSelf)
    (hstep : step c pthreadSelf s l = some s') : RunInv c pthreadSelf (tr ++ [(s, l)]) s' := by
  cases l with
  | create => exact h.create hstep
  | store => exact h.store hstep
  | createFails x => exact h.createFails hstep
  | search k => exact h.search hids hstep

/-- The run lemma. -/
theorem runInv_of_run (hids : Function.Injective pthreadSelf)
    (h : Run (step c pthreadSelf) (start c tid) tr s) : RunInv c pthreadSelf tr s :=
  h.invariant_trace (RunInv.start tid) fun _ _ _ _ _ hinv hstep => hinv.next hids hstep

end Invariant

/-! ## The numbers -/

/-- Every worker out of its loop has the number of its slot; the numbers differ, and are those of
elements of `sem`, `pBuffers` and `rgbdata`. -/
structure Numbered (c : Config) (s : State c.uCount T) : Prop where
  own : ∀ k who, s.worker k = .left who → who = k + 1
  distinct : ∀ k l who, s.worker k = .left who → s.worker l = .left who → k = l
  /-- `sem[who-1]` and `pBuffers[who-1]` -/
  element : ∀ k who, s.worker k = .left who → 1 ≤ who ∧ who - 1 < c.uCount
  rgbdata : ∀ k who, s.worker k = .left who → 1 ≤ who ∧ who - 1 < rgbdataLength

section Numbers

variable {c pthreadSelf} {tid : ℕ → T} {s : State c.uCount T} {k : Fin c.uCount}
  {tr : List (State c.uCount T × Label c.uCount T)}

/-- Workers that have their own numbers have different ones, and elements of the arrays. -/
lemma Numbered.of_own (hown : ∀ k who, s.worker k = .left who → who = k + 1)
    (hlength : ∀ k who, s.worker k = .left who → k.val < rgbdataLength) : Numbered c s := by
  refine ⟨hown, ?_, ?_, ?_⟩
  · intro k l who hk hl
    have hslot := (hown k who hk).symm.trans (hown l who hl)
    exact Fin.ext (Nat.add_right_cancel hslot)
  · intro k who hk
    obtain rfl := hown k who hk
    exact ⟨Nat.le_add_left 1 k, k.isLt⟩
  · intro k who hk
    obtain rfl := hown k who hk
    exact ⟨Nat.le_add_left 1 k, hlength k _ hk⟩

variable [DecidableEq T]

/-- **When the workers find their own numbers.**  In every interleaving of their creation and their
searches, whatever `malloc` left in `tid`: exactly when each worker that is out of its loop found
its id in its own slot when it looked there, and has an element of `rgbdata`. -/
theorem worker_numbers_iff (hids : Function.Injective pthreadSelf)
    (h : Run (step c pthreadSelf) (start c tid) tr s) :
    Numbered c s ↔ ∀ k who, s.worker k = .left who →
      ¬ Missed c pthreadSelf tr k ∧ k.val < rgbdataLength := by
  have hmissed : ∀ k who, s.worker k = .left who →
      (Missed c pthreadSelf tr k ↔ who ≠ k + 1) := by
    intro k who hk
    have hdecided := (runInv_of_run hids h).decided k
    rwa [hk] at hdecided
  constructor
  · intro hnumbered k who hk
    have hown := hnumbered.own k who hk
    have hlength := (hnumbered.rgbdata k who hk).2
    rw [hmissed k who hk]
    exact ⟨not_not.mpr hown, by omega⟩
  · intro hall
    refine Numbered.of_own ?_ fun k who hk => (hall k who hk).2
    intro k who hk
    have hnot := (hall k who hk).1
    rwa [hmissed k who hk, not_not] at hnot

/-- The ids of two workers. -/
def twoIds : Fin 2 → UInt32 := ![7, 8]

/-- Two workers.  The second goes past the slot of the first before its own id is stored, and finds
it there. -/
theorem worker_number_stored : ∃ tr s,
    Run (step (macropixelConfig 2 Nat.two_pos) twoIds) (start _ fun _ => 0) tr s ∧
      s.worker 0 = .left 1 ∧ s.worker 1 = .left 2 ∧ Numbered _ s := by
  have hrun : Run (step (macropixelConfig 2 Nat.two_pos) twoIds) (start _ fun _ => 0) _ _ :=
    run_of_replay [.create, .store, .create, .search 1, .search 0, .store, .search 1] rfl
  have hids : Function.Injective twoIds := by decide
  refine ⟨_, _, hrun, rfl, rfl, (worker_numbers_iff hids hrun).mpr ?_⟩
  intro k who _
  refine ⟨?_, Nat.lt_of_lt_of_le k.isLt (by decide)⟩
  rintro ⟨e, he, hsearch, hplace, hne⟩
  simp only [List.mem_cons, List.not_mem_nil, or_false] at he
  rcases he with rfl | rfl | rfl | rfl | rfl | rfl | rfl
  · cases hsearch
  · cases hsearch
  · cases hsearch
  · -- at the slot of the first
    obtain rfl := Label.search.inj hsearch
    cases hplace
  · obtain rfl := Label.search.inj hsearch
    exact hne rfl
  · cases hsearch
  · obtain rfl := Label.search.inj hsearch
    exact hne rfl

/-- A worker that looks first goes on with 0 for its number. -/
theorem worker_without_number : ∃ tr s,
    Run (step (macropixelConfig 1 Nat.one_pos) fun _ => (7 : UInt32))
      (start _ fun _ => 0) tr s ∧ s.worker 0 = .left 0 ∧ ¬ Numbered _ s := by
  refine ⟨_, _, run_of_replay [.create, .search 0, .search 0] rfl, rfl, ?_⟩
  intro hnumbered
  cases hnumbered.own 0 0 rfl

/-- A worker left to run comes to the end of its search. -/
theorem searching_ends {i : ℕ} (hk : s.worker k = .searching i) :
    ∃ tr s' who, Run (step c pthreadSelf) s tr s' ∧ s'.worker k = .left who := by
  induction hrounds : c.uCount + 1 - i generalizing s i with
  | zero =>
      have hguard : ¬ i < c.uCount + 1 := by omega
      refine ⟨_, _, 0, Run.single (step_search.mpr ⟨i, hk, rfl⟩), ?_⟩
      simp [searchRound, hguard]
  | succ rounds ih =>
      have hguard : i < c.uCount + 1 := by omega
      have hstep : step c pthreadSelf s (.search k) = some _ := step_search.mpr ⟨i, hk, rfl⟩
      by_cases hfound : s.tid i = pthreadSelf k
      · exact ⟨_, _, i, Run.single hstep, by simp [searchRound, hguard, hfound]⟩
      · obtain ⟨tr, s', who, hrest, hleft⟩ := ih
          (s := { s with worker := update s.worker k (searchRound c s.tid (pthreadSelf k) i) })
          (i := i + 1) (by simp [searchRound, hguard, hfound]) (by omega)
        exact ⟨_, s', who, (Run.single hstep).append hrest, hleft⟩

end Numbers

/-! ## The creation in the program -/

/-- The life of the capture thread. -/
def Creator.life (c : Config) : Creator c.uCount → CaptureLife c.uCount
  | .creating k => .creating k
  | .storing k => afterCreate c k
  | .looping => .looping
  | .createFailed _ => .createFailed

/-- The life of a worker. -/
def Place.life : Place → WorkerLife
  | .notCreated => .notCreated
  | .searching _ => .searching
  | .left _ => .running

/-- Program state `p`, with the threads as they are in `s`. -/
def inProgram (p : ProgramState c.uCount) (s : State c.uCount T) : ProgramState c.uCount :=
  { p with capture := s.creator.life c, worker := fun k => (s.worker k).life }

section Projection

variable {c}

lemma inProgram_update (p : ProgramState c.uCount) (creator : Creator c.uCount) (tid : ℕ → T)
    (worker : Fin c.uCount → Place) (k : Fin c.uCount) (place : Place) :
    inProgram c p ⟨creator, tid, update worker k place⟩ =
      { p with
        capture := creator.life c
        worker := update (fun j => (worker j).life) k place.life } := by
  have hworker : (fun j => (update worker k place j).life) =
      update (fun j => (worker j).life) k place.life := by
    funext j
    rcases eq_or_ne j k with rfl | hne
    · simp
    · simp [hne]
  rw [inProgram, hworker]

/-- **The same creation.**  As long as `main` has not returned, this is how `Program/Model.lean`
creates the workers and lets them search. -/
theorem creation_projects [DecidableEq T] {pthreadSelf : Fin c.uCount → T} {tid : ℕ → T}
    {s : State c.uCount T} {p : ProgramState c.uCount} (hp : p.main ≠ .exited)
    (h : Reachable (step c pthreadSelf) (start c tid) s) :
    Reachable (programStep c) (inProgram c p (start c tid)) (inProgram c p s) := by
  refine h.simulates ?_
  intro s l s' hstep
  cases l with
  | create =>
      obtain ⟨k, hk, rfl⟩ := step_create.mp hstep
      refine .inr ⟨.createWorker true, programStep_createWorker.mpr ⟨k, ?_, hp, ?_⟩⟩
      · simp [inProgram, hk, Creator.life]
      · rw [inProgram_update]
        rfl
  | store =>
      obtain ⟨k, hk, rfl⟩ := step_store.mp hstep
      have hlife : (nextCreate c k).life c = s.creator.life c := by
        rw [hk, nextCreate, Creator.life.eq_2, afterCreate]
        split_ifs <;> rfl
      exact .inl (by simp only [inProgram, hlife])
  | createFails x =>
      obtain ⟨k, hk, rfl⟩ := step_createFails.mp hstep
      refine .inr ⟨.createWorker false, programStep_createWorker.mpr ⟨k, ?_, hp, rfl⟩⟩
      simp [inProgram, hk, Creator.life]
  | search k =>
      obtain ⟨i, hi, rfl⟩ := step_search.mp hstep
      have hsearching : (inProgram c p s).worker k = .searching := by
        simp [inProgram, hi, Place.life]
      rw [inProgram_update]
      cases hround : searchRound c s.tid (pthreadSelf k) i with
      | notCreated =>
          simp only [searchRound] at hround
          split_ifs at hround
      | searching j =>
          refine .inl ?_
          have hsame : update (fun j => (s.worker j).life) k .searching =
              fun j => (s.worker j).life := Function.update_eq_self_iff.mpr hsearching.symm
          change { p with
            capture := s.creator.life c
            worker := update (fun j => (s.worker j).life) k .searching } = inProgram c p s
          rw [hsame, inProgram]
      | left who => exact .inr ⟨.search k, programStep_search.mpr ⟨⟨hp, hsearching⟩, rfl⟩⟩

end Projection

end Mp157.WorkerNumber
