import Mp157.Library.PetriNet
import Mp157.Pipeline.Model

/-!
# Who has a capture buffer

No variable records who may touch capture buffer `i`: it follows from the driver's queue, the
position of the capture thread, the counter `sem[i]` and the position of worker `i + 1`.  Seen
from one index the pipeline is a net with one token, and the messages that carry the index are
tokens of two more places.

* `bufferNet` — the net.
* `step_tokens` — every step of the pipeline is one of its transitions, or moves no token of `i`.
* `pipeline_firesSeq` — so a run of the pipeline is a firing sequence, for each index.
* `one_token` and the `*_balance` lemmas — what the conservation law and the state equation say
  of the pipeline.  All later invariants rest on them.
-/

namespace Mp157

open Transition Petri MessageQueue
open Function (update update_apply)

/-! ## The net of one index -/

/-- The first seven are the places of the buffer, the others those of its messages. -/
inductive Place
  | filling
  | filled
  /-- In the hand of the capture thread. -/
  | hand
  /-- Counted by `sem[i]`. -/
  | counted
  | converting
  | sending
  | queueing
  /-- A message is in the queue. -/
  | queued
  /-- The display thread draws it. -/
  | showing
deriving DecidableEq

inductive Move
  | done
  | dqbuf
  | post
  | wait
  | converted
  | send
  | qbuf
  | recv
  | shown
deriving DecidableEq

def Move.takes : Move → Place
  | .done => .filling
  | .dqbuf => .filled
  | .post => .hand
  | .wait => .counted
  | .converted => .converting
  | .send => .sending
  | .qbuf => .queueing
  | .recv => .queued
  | .shown => .showing

def Move.puts : Move → List Place
  | .done => [.filled]
  | .dqbuf => [.hand]
  | .post => [.counted]
  | .wait => [.converting]
  | .converted => [.sending]
  | .send => [.queueing, .queued]
  | .qbuf => [.filling]
  | .recv => [.showing]
  | .shown => []

def bufferNet : Net Place Move where
  pre t p := if p = t.takes then 1 else 0
  post t p := if p ∈ t.puts then 1 else 0

/-- The places of the buffer itself. -/
def bufferPlaces : List Place :=
  [.filling, .filled, .hand, .counted, .converting, .sending, .queueing]

lemma bufferNet_conserves : bufferNet.Conserves bufferPlaces := by
  intro t
  cases t <;> rfl

/-! ## The pipeline moves its tokens -/

def DisplayThread.isShowing {n : ℕ} (i : Fin n) : DisplayThread n → Bool
  | .receiving => false
  | .showing who _ => who = i

/-- The tokens of index `i`. -/
def tokens {n : ℕ} (i : Fin n) (s : State n) : Marking Place
  | .filling => if s.driver i = .filling then 1 else 0
  | .filled => if s.driver i = .filled then 1 else 0
  | .hand => if s.capture = .posting i then 1 else 0
  | .counted => s.sem i
  | .converting => if (s.worker i).isConverting then 1 else 0
  | .sending => if s.worker i = .sending then 1 else 0
  | .queueing => if s.worker i = .queueing then 1 else 0
  | .queued => s.queue.countP fun msg => msg.2 = i
  | .showing => if s.display.isShowing i then 1 else 0

/-- The step that makes a move of index `i`. -/
def Move.label {n : ℕ} (i : Fin n) : Move → Label n
  | .done => .driverDone i
  | .dqbuf => .dqbuf i
  | .post => .semPost i
  | .wait => .semWait i
  | .converted => .converted i
  | .send => .sendMsg i
  | .qbuf => .qbuf i
  | .recv => .recvMsg i
  | .shown => .shown i

/-- The move of index `i` that a step makes. -/
def Label.move {n : ℕ} (i : Fin n) : Label n → Option Move
  | .driverDone j => if j = i then some .done else none
  | .dqbuf j => if j = i then some .dqbuf else none
  | .semPost j => if j = i then some .post else none
  | .semWait j => if j = i then some .wait else none
  | .converted j => if j = i then some .converted else none
  | .sendMsg j => if j = i then some .send else none
  | .qbuf j => if j = i then some .qbuf else none
  | .recvMsg j => if j = i then some .recv else none
  | .shown j => if j = i then some .shown else none
  | .driverWrite _ _ _ | .poll | .convert _ | .showRow _ _ => none

lemma Label.move_eq_some {n : ℕ} {i : Fin n} {l : Label n} {t : Move} :
    l.move i = some t ↔ l = t.label i := by
  cases l <;> cases t <;> simp [Label.move, Move.label]

section Steps

variable {c : Config} {s s' : State c.uCount} {l : Label c.uCount}

/-- A move of index `j`, seen from index `i`. -/
private lemma moves_of {n : ℕ} {i j : Fin n} {l : Label n} {t : Move} {m m' : Marking Place}
    (hl : l.move i = if j = i then some t else none)
    (heq : j = i → bufferNet.Fires m t m') (hne : i ≠ j → m' = m) :
    (l.move i = none ∧ m' = m) ∨ ∃ t, l.move i = some t ∧ bufferNet.Fires m t m' := by
  rcases eq_or_ne j i with hj | hj
  · exact .inr ⟨t, by rw [hl, if_pos hj], heq hj⟩
  · exact .inl ⟨by rw [hl, if_neg hj], hne hj.symm⟩

/-- **Every step moves the tokens of `i` as the net does.** -/
theorem step_tokens (i : Fin c.uCount) (h : step c s l = some s') :
    (l.move i = none ∧ tokens i s' = tokens i s) ∨
      ∃ t, l.move i = some t ∧ bufferNet.Fires (tokens i s) t (tokens i s') := by
  cases l with
  | driverWrite j off x =>
      rw [step_driverWrite] at h
      obtain ⟨_, rfl⟩ := h
      exact .inl ⟨rfl, by ext p; cases p <;> rfl⟩
  | poll =>
      rw [step_poll] at h
      obtain ⟨⟨hc, _⟩, rfl⟩ := h
      exact .inl ⟨rfl, by ext p; cases p <;> simp [tokens, hc]⟩
  | convert j =>
      rw [step_convert] at h
      obtain ⟨inPos, outPos, r, hw, _, _, rfl⟩ := h
      refine .inl ⟨rfl, ?_⟩
      ext p
      rcases eq_or_ne i j with rfl | hj
      · cases p <;> simp [tokens, hw, Worker.isConverting]
      · cases p <;> simp [tokens, hj]
  | showRow j row =>
      rw [step_showRow] at h
      obtain ⟨⟨hd, _⟩, fbMap, _, rfl⟩ := h
      exact .inl ⟨rfl, by ext p; cases p <;> simp [tokens, hd, DisplayThread.isShowing]⟩
  | driverDone j =>
      rw [step_driverDone] at h
      obtain ⟨hd, rfl⟩ := h
      refine moves_of rfl ?_ ?_
      · rintro rfl p
        cases p <;> simp [tokens, bufferNet, Move.takes, Move.puts, hd]
      · intro hj
        ext p
        cases p <;> simp [tokens, hj]
  | dqbuf j =>
      rw [step_dqbuf] at h
      obtain ⟨⟨hc, hd⟩, rfl⟩ := h
      refine moves_of rfl ?_ ?_
      · rintro rfl p
        cases p <;> simp [tokens, bufferNet, Move.takes, Move.puts, hc, hd]
      · intro hj
        ext p
        cases p <;> simp [tokens, hj, hj.symm, hc]
  | semPost j =>
      rw [step_semPost] at h
      obtain ⟨hc, rfl⟩ := h
      refine moves_of rfl ?_ ?_
      · rintro rfl p
        cases p <;> simp [tokens, bufferNet, Move.takes, Move.puts, hc]
      · intro hj
        ext p
        cases p <;> simp [tokens, hj, hj.symm, hc]
  | semWait j =>
      rw [step_semWait] at h
      obtain ⟨⟨hw, hsem⟩, rfl⟩ := h
      refine moves_of rfl ?_ ?_
      · rintro rfl p
        cases p <;> simp [tokens, bufferNet, Move.takes, Move.puts, hw, Worker.isConverting]
        omega
      · intro hj
        ext p
        cases p <;> simp [tokens, hj]
  | converted j =>
      rw [step_converted] at h
      obtain ⟨inPos, outPos, hw, _, rfl⟩ := h
      refine moves_of rfl ?_ ?_
      · rintro rfl p
        cases p <;> simp [tokens, bufferNet, Move.takes, Move.puts, hw, Worker.isConverting]
      · intro hj
        ext p
        cases p <;> simp [tokens, hj]
  | sendMsg j =>
      rw [step_sendMsg] at h
      obtain ⟨⟨hw, _⟩, rfl⟩ := h
      refine moves_of rfl ?_ ?_
      · rintro rfl p
        cases p <;>
          simp [tokens, bufferNet, Move.takes, Move.puts, hw, Worker.isConverting, countP_send]
      · intro hj
        ext p
        cases p <;> simp [tokens, hj, hj.symm, countP_send]
  | qbuf j =>
      rw [step_qbuf] at h
      obtain ⟨⟨hw, hd⟩, rfl⟩ := h
      refine moves_of rfl ?_ ?_
      · rintro rfl p
        cases p <;> simp [tokens, bufferNet, Move.takes, Move.puts, hw, hd, Worker.isConverting]
      · intro hj
        ext p
        cases p <;> simp [tokens, hj]
  | recvMsg j =>
      rw [step_recvMsg] at h
      obtain ⟨queue, hd, hq, rfl⟩ := h
      have hcount := countP_receive hq fun msg => msg.2 = i
      refine moves_of rfl ?_ ?_
      · rintro rfl p
        simp only [decide_true, if_true] at hcount
        cases p with
        | queued =>
            simp only [tokens, bufferNet, Move.takes, Move.puts, hcount]
            simp
        | _ => simp [tokens, bufferNet, Move.takes, Move.puts, hd, DisplayThread.isShowing]
      · intro hj
        ext p
        cases p <;> simp [tokens, hj.symm, hd, DisplayThread.isShowing]
        simpa [hj.symm] using hcount.symm
  | shown j =>
      rw [step_shown] at h
      obtain ⟨row, hd, _, rfl⟩ := h
      refine moves_of rfl ?_ ?_
      · rintro rfl p
        cases p <;> simp [tokens, bufferNet, Move.takes, Move.puts, hd, DisplayThread.isShowing]
      · intro hj
        ext p
        cases p <;> simp [tokens, hj.symm, hd, DisplayThread.isShowing]

end Steps

/-! ## Runs -/

/-- How often an action was taken. -/
def occurrences {n : ℕ} (tr : Trace n) (l : Label n) : ℕ := (tr.map Prod.snd).count l

@[simp] lemma occurrences_nil {n : ℕ} (l : Label n) : occurrences [] l = 0 := rfl

lemma occurrences_eq_zero {n : ℕ} {tr : Trace n} {l : Label n} (h : ∀ e ∈ tr, e.2 ≠ l) :
    occurrences tr l = 0 := by
  refine List.count_eq_zero.mpr ?_
  intro hmem
  obtain ⟨e, he, rfl⟩ := List.mem_map.mp hmem
  exact h e he rfl

lemma occurrences_append {n : ℕ} (tr tr' : Trace n) (l : Label n) :
    occurrences (tr ++ tr') l = occurrences tr l + occurrences tr' l := by
  simp [occurrences, List.count_append]

lemma occurrences_cons {n : ℕ} (e : State n × Label n) (tr : Trace n) (l : Label n) :
    occurrences (e :: tr) l = occurrences tr l + if e.2 = l then 1 else 0 := by
  simp [occurrences, List.count_cons]

@[simp] lemma occurrences_snoc {n : ℕ} (tr : Trace n) (s : State n) (l l' : Label n) :
    occurrences (tr ++ [(s, l)]) l' = occurrences tr l' + if l = l' then 1 else 0 := by
  rw [occurrences_append, occurrences_cons, occurrences_nil, Nat.zero_add]

lemma count_moves {n : ℕ} (i : Fin n) (tr : Trace n) (t : Move) :
    (tr.filterMap fun e => e.2.move i).count t = occurrences tr (t.label i) := by
  induction tr with
  | nil => rfl
  | cons e tr ih =>
      rw [occurrences_cons, ← ih, List.filterMap_cons]
      by_cases he : e.2 = t.label i
      · simp [he, Label.move_eq_some.mpr rfl]
      · cases hmove : e.2.move i with
        | none => simp [he]
        | some t' =>
            have hne : t' ≠ t := fun heq => he (Label.move_eq_some.mp (heq ▸ hmove))
            simp [he, hne]

section Runs

variable {c : Config} {m : Memories c.uCount} {tr : Trace c.uCount} {s₀ s : State c.uCount}
  (i : Fin c.uCount)

/-- **A run is a firing sequence of the net of each index**, from whatever state. -/
theorem pipeline_firesSeq (h : Run (step c) s₀ tr s) :
    bufferNet.FiresSeq (tokens i s₀) (tr.filterMap fun e => e.2.move i) (tokens i s) :=
  Net.firesSeq_of_run (fun _ _ _ => step_tokens i) h

/-- What a place that one move feeds and one empties holds, from whatever state. -/
lemma place_balance_from (h : Run (step c) s₀ tr s) {p : Place} {a b : Move}
    (hfed : ∀ t : Move, p ∈ t.puts ↔ t = a) (hemptied : ∀ t : Move, p = t.takes ↔ t = b) :
    tokens i s p + occurrences tr (b.label i) = tokens i s₀ p + occurrences tr (a.label i) := by
  have hbalance := (pipeline_firesSeq i h).balance (p := p) (a := a) (b := b)
    (fun t => if_congr (hfed t) rfl rfl) (fun t => if_congr (hemptied t) rfl rfl)
  rwa [count_moves, count_moves] at hbalance

/-- At the start the driver has every buffer. -/
lemma tokens_start {n : ℕ} (m : Memories n) (i : Fin n) (p : Place) :
    tokens i (pipelineStart m) p = if p = .filling then 1 else 0 := by
  cases p <;> simp [tokens, pipelineStart, Worker.isConverting, DisplayThread.isShowing]

/-- **The buffer is in one place.** -/
theorem one_token (h : PipelineRun c m tr s) : (bufferPlaces.map (tokens i s)).sum = 1 := by
  rw [(pipeline_firesSeq i h).conserved bufferNet_conserves]
  simp [bufferPlaces, tokens_start]

/-- What such a place holds when the driver has had every buffer at the start. -/
lemma place_balance (h : PipelineRun c m tr s) {p : Place} {a b : Move}
    (hstart : p ≠ .filling) (hfed : ∀ t : Move, p ∈ t.puts ↔ t = a)
    (hemptied : ∀ t : Move, p = t.takes ↔ t = b) :
    tokens i s p + occurrences tr (b.label i) = occurrences tr (a.label i) := by
  have hbalance := place_balance_from i h hfed hemptied
  rwa [tokens_start, if_neg hstart, Nat.zero_add] at hbalance

lemma hand_balance (h : PipelineRun c m tr s) :
    (if s.capture = .posting i then 1 else 0) + occurrences tr (.semPost i)
      = occurrences tr (.dqbuf i) :=
  place_balance i h (p := .hand) (a := .dqbuf) (b := .post) (by decide)
    (fun t => by cases t <;> decide) (fun t => by cases t <;> decide)

lemma sem_balance (h : PipelineRun c m tr s) :
    s.sem i + occurrences tr (.semWait i) = occurrences tr (.semPost i) :=
  place_balance i h (p := .counted) (a := .post) (b := .wait) (by decide)
    (fun t => by cases t <;> decide) (fun t => by cases t <;> decide)

lemma converting_balance (h : PipelineRun c m tr s) :
    (if (s.worker i).isConverting then 1 else 0) + occurrences tr (.converted i)
      = occurrences tr (.semWait i) :=
  place_balance i h (p := .converting) (a := .wait) (b := .converted) (by decide)
    (fun t => by cases t <;> decide) (fun t => by cases t <;> decide)

lemma sending_balance (h : PipelineRun c m tr s) :
    (if s.worker i = .sending then 1 else 0) + occurrences tr (.sendMsg i)
      = occurrences tr (.converted i) :=
  place_balance i h (p := .sending) (a := .converted) (b := .send) (by decide)
    (fun t => by cases t <;> decide) (fun t => by cases t <;> decide)

lemma queue_balance (h : PipelineRun c m tr s) :
    (s.queue.countP fun msg => msg.2 = i) + occurrences tr (.recvMsg i)
      = occurrences tr (.sendMsg i) :=
  place_balance i h (p := .queued) (a := .send) (b := .recv) (by decide)
    (fun t => by cases t <;> decide) (fun t => by cases t <;> decide)

lemma showing_balance (h : PipelineRun c m tr s) :
    (if s.display.isShowing i then 1 else 0) + occurrences tr (.shown i)
      = occurrences tr (.recvMsg i) :=
  place_balance i h (p := .showing) (a := .recv) (b := .shown) (by decide)
    (fun t => by cases t <;> decide) (fun t => by cases t <;> decide)

/-! ## What one token means -/

/-- The four places of a capture buffer, as a client of it sees them. -/
inductive Holder
  | driver
  /-- Between `VIDIOC_DQBUF` and `sem_post`. -/
  | capture
  /-- Counted by the semaphore. -/
  | sem
  /-- Between `sem_wait` and `VIDIOC_QBUF`. -/
  | worker

def Holds {n : ℕ} (s : State n) (i : Fin n) : Holder → Prop
  | .driver => s.driver i ≠ .dequeued
  | .capture => s.capture = .posting i
  | .sem => 0 < s.sem i
  | .worker => s.worker i ≠ .waiting

/-- One token over the holders is with one of them. -/
private lemma existsUnique_holder {f : Holder → ℕ}
    (hsum : f .driver + f .capture + f .sem + f .worker = 1) : ∃! p, 0 < f p := by
  have hex : ∃ p, 0 < f p := by
    by_contra hnone
    simp only [not_exists, not_lt] at hnone
    have hd := hnone .driver
    have hc := hnone .capture
    have hs := hnone .sem
    have hw := hnone .worker
    omega
  obtain ⟨p, hp⟩ := hex
  refine ⟨p, hp, ?_⟩
  intro q hq
  cases p <;> cases q <;> first | rfl | omega

/-- One token, spelled out by the three readings that make it up. -/
lemma one_token_sum (h : PipelineRun c m tr s) :
    (if s.driver i = .dequeued then 0 else 1) + (if s.capture = .posting i then 1 else 0)
      + s.sem i + (if s.worker i = .waiting then 0 else 1) = 1 := by
  have hone := one_token i h
  have hdriver : (if s.driver i = .filling then 1 else 0) + (if s.driver i = .filled then 1 else 0)
      = if s.driver i = .dequeued then 0 else 1 := by
    cases s.driver i <;> rfl
  have hworker : (if (s.worker i).isConverting then 1 else 0)
      + (if s.worker i = .sending then 1 else 0) + (if s.worker i = .queueing then 1 else 0)
      = if s.worker i = .waiting then 0 else 1 := by
    cases s.worker i <;> rfl
  simp only [bufferPlaces, List.map_cons, List.map_nil, List.sum_cons, List.sum_nil, tokens]
    at hone
  omega

/-- **A worker at work has the buffer to itself.** -/
lemma worker_owns (h : PipelineRun c m tr s) (hw : s.worker i ≠ .waiting) :
    s.driver i = .dequeued ∧ s.capture ≠ .posting i ∧ s.sem i = 0 := by
  have hone := one_token_sum i h
  rw [if_neg hw] at hone
  refine ⟨?_, ?_, by omega⟩
  · by_contra hd
    rw [if_neg hd] at hone
    omega
  · intro hc
    rw [if_pos hc] at hone
    omega

/-- **Ownership of the capture buffers.**  In every reachable state buffer `i` is in exactly one
place and `sem[i]` is at most 1.  What was dequeued is in the hand of the capture thread, counted,
being converted or converted; what worker `i + 1` sent is received or still queued. -/
theorem buffer_ownership (h : PipelineRun c m tr s) :
    (∃! p, Holds s i p) ∧ s.sem i ≤ 1 ∧
    occurrences tr (.dqbuf i) = (if s.capture = .posting i then 1 else 0) + s.sem i
      + (if (s.worker i).isConverting then 1 else 0) + occurrences tr (.converted i) ∧
    occurrences tr (.sendMsg i)
      = occurrences tr (.recvMsg i) + s.queue.countP fun msg => msg.2 = i := by
  have hone := one_token_sum i h
  have hhand := hand_balance i h
  have hsem := sem_balance i h
  have hconv := converting_balance i h
  have hqueue := queue_balance i h
  refine ⟨?_, by omega, by omega, by omega⟩
  let f : Holder → ℕ
    | .driver => if s.driver i = .dequeued then 0 else 1
    | .capture => if s.capture = .posting i then 1 else 0
    | .sem => s.sem i
    | .worker => if s.worker i = .waiting then 0 else 1
  have hholds : ∀ p, Holds s i p ↔ 0 < f p := by
    intro p
    cases p <;> simp only [Holds, f] <;> split_ifs <;> simp_all
  simp only [hholds]
  exact existsUnique_holder hone

/-- Two rounds of one buffer, the second under conversion. -/
theorem buffer_ownership_two_rounds : ∃ tr s,
    PipelineRun (macropixelConfig 1 Nat.one_pos) (zeroMemories 1) tr s ∧
    (∃! p, Holds s 0 p) ∧ s.sem 0 ≤ 1 ∧
    occurrences tr (.dqbuf 0) = (if s.capture = .posting 0 then 1 else 0) + s.sem 0
      + (if (s.worker 0).isConverting then 1 else 0) + occurrences tr (.converted 0) ∧
    occurrences tr (.sendMsg 0)
      = occurrences tr (.recvMsg 0) + s.queue.countP fun msg => msg.2 = 0 := by
  have hrun := run_of_replay [.driverDone 0, .poll, .dqbuf 0, .semPost 0, .semWait 0, .convert 0,
    .converted 0, .sendMsg 0, .qbuf 0, .driverDone 0, .poll, .dqbuf 0, .semPost 0, .semWait 0]
    (show replay (step (macropixelConfig 1 Nat.one_pos)) (pipelineStart (zeroMemories 1)) _
      = some (_, _) from rfl)
  exact ⟨_, _, hrun, buffer_ownership 0 hrun⟩

end Runs

end Mp157
