import Mp157.Pipeline.Ownership

/-!
# Which frame is where

A run determines the frames that `VIDIOC_DQBUF` returned with index `i` (`framesOf`).  The
contents of capture buffer `i` and of `rgbdata[i]` are functions of that sequence and of how many
conversions worker `i + 1` has completed, whatever the other agents do in between:

* `Contents` — the invariant; `contents` proves it of every run.
* `parallel_conversion` — the conversions of the interleaved pipeline are those of a sequential
  program over the same frames.
-/

namespace Mp157

open Transition ByteMemory MessageQueue
open Function (update update_apply)

/-! ## The frames of a run -/

/-- A captured frame: the bytes of its buffer and its capture number. -/
structure Frame where
  content : Mem
  number : ℕ

/-- The frames `VIDIOC_DQBUF` returned with index `i`, in order. -/
def framesOf {n : ℕ} (i : Fin n) (tr : Trace n) : List Frame :=
  tr.filterMap fun e => if e.2 = .dqbuf i then some ⟨e.1.pBuffers i, e.1.sequence i⟩ else none

section

variable {n : ℕ} (i : Fin n)

@[simp] lemma framesOf_nil : framesOf i [] = [] := rfl

lemma framesOf_append (tr tr' : Trace n) :
    framesOf i (tr ++ tr') = framesOf i tr ++ framesOf i tr' :=
  List.filterMap_append

@[simp] lemma framesOf_dqbuf (tr : Trace n) (s : State n) :
    framesOf i (tr ++ [(s, .dqbuf i)]) = framesOf i tr ++ [⟨s.pBuffers i, s.sequence i⟩] := by
  simp [framesOf]

lemma framesOf_of_ne {l : Label n} (tr : Trace n) (s : State n) (hl : l ≠ .dqbuf i) :
    framesOf i (tr ++ [(s, l)]) = framesOf i tr := by
  simp [framesOf, hl]

lemma length_framesOf (tr : Trace n) : (framesOf i tr).length = occurrences tr (.dqbuf i) := by
  induction tr with
  | nil => rfl
  | cons e tr ih =>
      rw [occurrences_cons, ← ih, framesOf, List.filterMap_cons]
      split_ifs with he <;> rfl

end

/-! ## The sequential program -/

/-- `rgbdata` after the frames have been converted into it one after another. -/
def rgbAfter (c : Config) (rgb : Mem) (frames : List Frame) : Mem :=
  frames.foldl (fun rgb f => convertedMem c.tables f.content (convertRounds c.width c.height) rgb)
    rgb

lemma rgbAfter_concat (c : Config) (rgb : Mem) (frames : List Frame) (f : Frame) :
    rgbAfter c rgb (frames ++ [f]) = convertedMem c.tables f.content
      (convertRounds c.width c.height) (rgbAfter c rgb frames) := by
  simp [rgbAfter]

/-- Only the last frame remains. -/
lemma rgbAfter_last (c : Config) (rgb : Mem) (frames : List Frame) (f : Frame) :
    rgbAfter c rgb (frames ++ [f])
      = convertedMem c.tables f.content (convertRounds c.width c.height) rgb := by
  induction frames using List.reverseRecOn with
  | nil => rfl
  | append_singleton frames f' ih =>
      rw [rgbAfter_concat, rgbAfter_concat, convertedMem_convertedMem, ← rgbAfter_concat, ih]

/-! ## What a step leaves alone -/

/-- The buffer a step is about. -/
def Label.index {n : ℕ} : Label n → Option (Fin n)
  | .poll => none
  | .driverWrite i _ _ | .driverDone i | .dqbuf i | .semPost i | .semWait i | .convert i
  | .converted i | .sendMsg i | .qbuf i | .recvMsg i | .showRow i _ | .shown i => some i

/-- Everything that belongs to buffer `i` is the same in the two states. -/
structure SameAt {n : ℕ} (i : Fin n) (s s' : State n) : Prop where
  driver : s'.driver i = s.driver i
  sequence : s'.sequence i = s.sequence i
  pBuffers : s'.pBuffers i = s.pBuffers i
  sem : s'.sem i = s.sem i
  worker : s'.worker i = s.worker i
  rgbdata : s'.rgbdata i = s.rgbdata i

section Steps

variable {c : Config} {s s' : State c.uCount} {l : Label c.uCount} {i : Fin c.uCount}

lemma Label.index_of_agent (hl : l.agent = .worker i) : l.index = some i := by
  cases l <;> simp_all [Label.agent, Label.index]

/-- **Frame rule.**  A step about another buffer leaves buffer `i` alone. -/
theorem step_sameAt (h : step c s l = some s') (hl : l.index ≠ some i) : SameAt i s s' := by
  have hframe := step_frame h
  have hne : ∀ l' : Label c.uCount, l'.index = some i → l ≠ l' := by
    rintro l' hl' rfl
    exact hl hl'
  exact
    { driver := hframe.driver i (hne _ rfl) (hne _ rfl) (hne _ rfl)
      sequence := hframe.sequence i (hne _ rfl)
      pBuffers := hframe.pBuffers i fun _ _ => hne _ rfl
      sem := hframe.sem i (hne _ rfl) (hne _ rfl)
      worker := hframe.worker i fun hagent => hl (Label.index_of_agent hagent)
      rgbdata := hframe.rgbdata i (hne _ rfl) }

end Steps

/-! ## The invariant -/

/-- What buffer `i` and `rgbdata[i]` hold after the run `tr`. -/
structure Contents (c : Config) (m : Memories c.uCount) (i : Fin c.uCount) (tr : Trace c.uCount)
    (s : State c.uCount) : Prop where
  /-- A buffer that user space has holds the last frame dequeued. -/
  source : s.driver i = .dequeued → (framesOf i tr).getLast? = some ⟨s.pBuffers i, s.sequence i⟩
  /-- Outside a conversion, `rgbdata[i]` is the result of those completed. -/
  idle : (s.worker i).isConverting = false →
    s.rgbdata i = rgbAfter c (m.rgbdata i) ((framesOf i tr).take (occurrences tr (.converted i)))
  /-- During one, it is on the way from there. -/
  busy : ∀ inPos outPos, s.worker i = .converting inPos outPos →
    Converting c.tables c.width c.height (s.pBuffers i)
      (rgbAfter c (m.rgbdata i) ((framesOf i tr).take (occurrences tr (.converted i))))
      (s.rgbdata i) inPos outPos

section Runs

variable {c : Config} {m : Memories c.uCount} {tr : Trace c.uCount} {s s' : State c.uCount}
  {l : Label c.uCount} (i : Fin c.uCount)

/-- Conversions have frames: a completed one, and the one in progress. -/
lemma converted_le_frames (h : PipelineRun c m tr s) :
    occurrences tr (.converted i) + (if (s.worker i).isConverting then 1 else 0)
      ≤ (framesOf i tr).length := by
  have hhand := hand_balance i h
  have hsem := sem_balance i h
  have hconv := converting_balance i h
  rw [length_framesOf]
  omega

/-- A worker that converts works on the last frame dequeued. -/
lemma frames_of_converting (h : PipelineRun c m tr s)
    (hw : (s.worker i).isConverting = true) :
    (framesOf i tr).length = occurrences tr (.converted i) + 1 := by
  obtain ⟨_, hcapture, hzero⟩ := worker_owns i h (Worker.ne_waiting hw)
  have hhand := hand_balance i h
  have hsem := sem_balance i h
  have hconv := converting_balance i h
  rw [if_neg hcapture] at hhand
  rw [hw, if_pos rfl] at hconv
  rw [length_framesOf]
  omega

variable {i} in
/-- A step that dequeues nothing, converts nothing and changes no content user space has. -/
lemma Contents.mono (hc : Contents c m i tr s)
    (hdriver : s'.driver i = .dequeued → s.driver i = .dequeued)
    (hpBuffers : s.driver i = .dequeued →
      s'.pBuffers i = s.pBuffers i ∧ s'.sequence i = s.sequence i)
    (hidle : (s'.worker i).isConverting = false → (s.worker i).isConverting = false)
    (hbusy : (s'.worker i).isConverting = true →
      s'.worker i = s.worker i ∧ s.driver i = .dequeued)
    (hrgb : s'.rgbdata i = s.rgbdata i) (hframe : l ≠ .dqbuf i) (hconverted : l ≠ .converted i) :
    Contents c m i (tr ++ [(s, l)]) s' := by
  have hocc : occurrences (tr ++ [(s, l)]) (.converted i) = occurrences tr (.converted i) := by
    simp [hconverted]
  refine ⟨?_, ?_, ?_⟩
  · intro hd
    have hd' := hdriver hd
    rw [framesOf_of_ne i tr s hframe, (hpBuffers hd').1, (hpBuffers hd').2]
    exact hc.source hd'
  · intro hw
    rw [framesOf_of_ne i tr s hframe, hocc, hrgb]
    exact hc.idle (hidle hw)
  · intro inPos outPos hw
    obtain ⟨hsame, hd⟩ := hbusy (by rw [hw]; rfl)
    rw [framesOf_of_ne i tr s hframe, hocc, hrgb, (hpBuffers hd).1]
    exact hc.busy inPos outPos (hsame ▸ hw)

variable {i} in
/-- A step that leaves alone the buffer, its worker and `rgbdata[i]`. -/
lemma Contents.unchanged (hc : Contents c m i tr s)
    (hwait : (s.worker i).isConverting = true → s.driver i = .dequeued)
    (hdriver : s'.driver i = s.driver i) (hpBuffers : s'.pBuffers i = s.pBuffers i)
    (hsequence : s'.sequence i = s.sequence i) (hworker : s'.worker i = s.worker i)
    (hrgb : s'.rgbdata i = s.rgbdata i) (hframe : l ≠ .dqbuf i) (hconverted : l ≠ .converted i) :
    Contents c m i (tr ++ [(s, l)]) s' :=
  hc.mono (fun hd => hdriver ▸ hd) (fun _ => ⟨hpBuffers, hsequence⟩) (fun hw => hworker ▸ hw)
    (fun hw => ⟨hworker, hwait (hworker ▸ hw)⟩) hrgb hframe hconverted

section WorkerSteps

variable {i}

/-- The buffer joins the sequence with what it holds, which is frozen from then on. -/
lemma contents_dqbuf (hrun : PipelineRun c m tr s) (ih : Contents c m i tr s)
    (hstep : step c s (.dqbuf i) = some s') :
    Contents c m i (tr ++ [(s, .dqbuf i)]) s' := by
  obtain ⟨⟨_, hd⟩, rfl⟩ := step_dqbuf.mp hstep
  have hle := converted_le_frames i hrun
  have hocc : occurrences (tr ++ [(s, .dqbuf i)]) (.converted i)
      = occurrences tr (.converted i) := by
    simp
  refine ⟨fun _ => by simp, ?_, ?_⟩
  · intro hw
    rw [framesOf_dqbuf, hocc, List.take_append_of_le_length (by omega)]
    exact ih.idle hw
  · intro inPos outPos hw
    -- the driver had the buffer, so its worker was waiting
    have hdeq := (worker_owns i hrun (by rw [show s.worker i = _ from hw]; simp)).1
    rw [hd] at hdeq
    cases hdeq

lemma contents_semWait (ih : Contents c m i tr s) (hstep : step c s (.semWait i) = some s') :
    Contents c m i (tr ++ [(s, .semWait i)]) s' := by
  obtain ⟨⟨hw, _⟩, rfl⟩ := step_semWait.mp hstep
  have hocc : occurrences (tr ++ [(s, .semWait i)]) (.converted i)
      = occurrences tr (.converted i) := by
    simp
  have hframes := framesOf_of_ne i (l := .semWait i) tr s nofun
  have hidle := ih.idle (by rw [hw]; rfl)
  refine ⟨by rw [hframes]; exact ih.source, by simp [Worker.isConverting], ?_⟩
  intro inPos outPos hw'
  obtain ⟨rfl, rfl⟩ : 0 = inPos ∧ 0 = outPos := by simpa using hw'
  rw [hframes, hocc, ← hidle]
  exact Converting.start

lemma contents_convert (ih : Contents c m i tr s) (hstep : step c s (.convert i) = some s') :
    Contents c m i (tr ++ [(s, .convert i)]) s' := by
  obtain ⟨inPos, outPos, r, hw, hguard, hbody, rfl⟩ := step_convert.mp hstep
  have hocc : occurrences (tr ++ [(s, .convert i)]) (.converted i)
      = occurrences tr (.converted i) := by
    simp
  have hframes := framesOf_of_ne i (l := .convert i) tr s nofun
  obtain ⟨rgb', hbody', hnext⟩ := (ih.busy inPos outPos hw).round hguard
  obtain rfl := Option.some.inj (hbody.symm.trans hbody')
  refine ⟨by rw [hframes]; exact ih.source, by simp [Worker.isConverting], ?_⟩
  intro inPos' outPos' hw'
  obtain ⟨rfl, rfl⟩ : inPos + 4 = inPos' ∧ outPos + 4 = outPos' := by simpa using hw'
  rw [hframes, hocc]
  simpa using hnext

/-- The frame in conversion is the last one dequeued, and all before it are converted. -/
lemma converting_frame (hrun : PipelineRun c m tr s) (ih : Contents c m i tr s)
    {inPos outPos : UInt32} (hw : s.worker i = .converting inPos outPos) :
    framesOf i tr = (framesOf i tr).take (occurrences tr (.converted i))
      ++ [⟨s.pBuffers i, s.sequence i⟩] := by
  have hbusy : (s.worker i).isConverting = true := by rw [hw]; rfl
  have hlen := frames_of_converting i hrun hbusy
  obtain ⟨earlier, heq⟩ := List.getLast?_eq_some_iff.mp
    (ih.source (worker_owns i hrun (by rw [hw]; simp)).1)
  have hcount : earlier.length = occurrences tr (.converted i) := by
    rw [heq, List.length_append, List.length_singleton] at hlen
    omega
  rw [heq, ← hcount, List.take_left]

lemma contents_converted (hrun : PipelineRun c m tr s) (ih : Contents c m i tr s)
    (hstep : step c s (.converted i) = some s') :
    Contents c m i (tr ++ [(s, .converted i)]) s' := by
  obtain ⟨inPos, outPos, hw, hguard, rfl⟩ := step_converted.mp hstep
  have hocc : occurrences (tr ++ [(s, .converted i)]) (.converted i)
      = occurrences tr (.converted i) + 1 := by
    simp
  have hframes := framesOf_of_ne i (l := .converted i) tr s nofun
  have hlen := frames_of_converting i hrun (by rw [hw]; rfl)
  obtain ⟨_, hrgb⟩ := (ih.busy inPos outPos hw).finish hguard
  refine ⟨by rw [hframes]; exact ih.source, ?_, by simp⟩
  intro _
  rw [hframes, hocc, List.take_of_length_le hlen.le, converting_frame hrun ih hw, rgbAfter_concat]
  exact hrgb

end WorkerSteps

/-- **The contents of buffer `i` and of `rgbdata[i]`, in every run.** -/
theorem contents (h : PipelineRun c m tr s) : Contents c m i tr s := by
  refine h.invariant_trace ⟨by simp [pipelineStart], fun _ => rfl, by simp [pipelineStart]⟩ ?_
  intro tr s l s' hrun ih hstep
  replace hrun : PipelineRun c m tr s := hrun
  have hwait : (s.worker i).isConverting = true → s.driver i = .dequeued :=
    fun hw => (worker_owns i hrun (Worker.ne_waiting hw)).1
  by_cases hl : l.index = some i
  · cases l with
    | poll => cases hl
    | dqbuf j =>
        obtain rfl := Option.some.inj hl
        exact contents_dqbuf hrun ih hstep
    | semWait j =>
        obtain rfl := Option.some.inj hl
        exact contents_semWait ih hstep
    | convert j =>
        obtain rfl := Option.some.inj hl
        exact contents_convert ih hstep
    | converted j =>
        obtain rfl := Option.some.inj hl
        exact contents_converted hrun ih hstep
    | driverWrite j off x =>
        obtain rfl := Option.some.inj hl
        obtain ⟨hd, rfl⟩ := step_driverWrite.mp hstep
        exact ih.mono id (fun hd' => absurd hd' hd) id (fun hw => absurd (hwait hw) hd) rfl
          (by simp) (by simp)
    | driverDone j =>
        obtain rfl := Option.some.inj hl
        obtain ⟨hd, rfl⟩ := step_driverDone.mp hstep
        have hd' : s.driver j ≠ .dequeued := by simp [hd]
        exact ih.mono (by simp) (fun heq => absurd heq hd') id (fun hw => absurd (hwait hw) hd')
          rfl (by simp) (by simp)
    | semPost j =>
        obtain rfl := Option.some.inj hl
        obtain ⟨_, rfl⟩ := step_semPost.mp hstep
        exact ih.unchanged hwait rfl rfl rfl rfl rfl (by simp) (by simp)
    | sendMsg j =>
        obtain rfl := Option.some.inj hl
        obtain ⟨⟨hw, _⟩, rfl⟩ := step_sendMsg.mp hstep
        exact ih.mono id (fun _ => ⟨rfl, rfl⟩) (fun _ => by rw [hw]; rfl)
          (fun hw' => by simp [Worker.isConverting] at hw') rfl (by simp) (by simp)
    | qbuf j =>
        obtain rfl := Option.some.inj hl
        obtain ⟨⟨hw, _⟩, rfl⟩ := step_qbuf.mp hstep
        exact ih.mono (by simp) (fun _ => ⟨rfl, rfl⟩) (fun _ => by rw [hw]; rfl)
          (fun hw' => by simp [Worker.isConverting] at hw') rfl (by simp) (by simp)
    | recvMsg j =>
        obtain rfl := Option.some.inj hl
        obtain ⟨_, _, _, rfl⟩ := step_recvMsg.mp hstep
        exact ih.unchanged hwait rfl rfl rfl rfl rfl (by simp) (by simp)
    | showRow j row =>
        obtain rfl := Option.some.inj hl
        obtain ⟨_, _, _, rfl⟩ := step_showRow.mp hstep
        exact ih.unchanged hwait rfl rfl rfl rfl rfl (by simp) (by simp)
    | shown j =>
        obtain rfl := Option.some.inj hl
        obtain ⟨_, _, _, rfl⟩ := step_shown.mp hstep
        exact ih.unchanged hwait rfl rfl rfl rfl rfl (by simp) (by simp)
  · have hsame := step_sameAt hstep hl
    refine ih.unchanged hwait hsame.driver hsame.pBuffers hsame.sequence hsame.worker
      hsame.rgbdata ?_ ?_
    · rintro rfl
      exact hl rfl
    · rintro rfl
      exact hl rfl

/-- The frame in conversion comes right after those converted. -/
lemma getElem?_converting (h : PipelineRun c m tr s) (hw : (s.worker i).isConverting = true) :
    (framesOf i tr)[occurrences tr (.converted i)]? = some ⟨s.pBuffers i, s.sequence i⟩ := by
  have hlen := frames_of_converting i h hw
  obtain ⟨inPos, outPos, hworker⟩ := Worker.isConverting_iff.mp hw
  rw [converting_frame h (contents i h) hworker, List.getElem?_append_right
    (List.length_take_le _ _), List.length_take_of_le (by omega), Nat.sub_self]
  rfl

/-- **Parallel conversion refines sequential conversion.**  However the macropixels of worker
`i + 1` are interleaved with everything else, a completed conversion leaves in `rgbdata[i]` what
the function computes in one go from the frame of the same number that `VIDIOC_DQBUF` returned
with index `i`. -/
theorem parallel_conversion (h : PipelineRun c m tr s)
    (hstep : step c s (.converted i) = some s') :
    ∃ f, (framesOf i tr)[occurrences tr (.converted i)]? = some f ∧
      convertYuvToRgb565Buffer c.tables (unbounded f.content) (unbounded (m.rgbdata i)) c.width
        c.height = some (unbounded (s'.rgbdata i)) := by
  obtain ⟨inPos, outPos, hw, hguard, rfl⟩ := step_converted.mp hstep
  obtain ⟨hshort, hrgb⟩ := ((contents i h).busy inPos outPos hw).finish hguard
  refine ⟨⟨s.pBuffers i, s.sequence i⟩, getElem?_converting i h (by rw [hw]; rfl), ?_⟩
  -- the frames before it have left nothing behind
  have hlast := rgbAfter_last c (m.rgbdata i)
    ((framesOf i tr).take (occurrences tr (.converted i))) ⟨s.pBuffers i, s.sequence i⟩
  rw [rgbAfter_concat] at hlast
  rw [convertYuvToRgb565Buffer_eq c.tables hshort (unbounded_holds _ _) (unbounded_holds _ _)]
  exact congrArg (fun rgb => some (unbounded rgb)) (hlast.symm.trans hrgb.symm)

/-- One macropixel, written by the driver, through a pipeline of two buffers. -/
theorem parallel_conversion_macropixel : ∃ tr s s',
    PipelineRun (macropixelConfig 2 Nat.two_pos) (zeroMemories 2) tr s ∧
    step (macropixelConfig 2 Nat.two_pos) s (.converted 1) = some s' ∧
    ∃ f, (framesOf 1 tr)[occurrences tr (.converted 1)]? = some f ∧
      convertYuvToRgb565Buffer (macropixelConfig 2 Nat.two_pos).tables (unbounded f.content)
        (unbounded ((zeroMemories 2).rgbdata 1)) 2 1 = some (unbounded (s'.rgbdata 1)) := by
  have hrun := run_of_replay [.driverWrite 1 0 235, .driverDone 1, .poll, .dqbuf 1, .semPost 1,
    .semWait 1, .driverWrite 0 0 16, .convert 1]
    (show replay (step (macropixelConfig 2 Nat.two_pos)) (pipelineStart (zeroMemories 2)) _
      = some (_, _) from rfl)
  have hconverted := parallel_conversion 1 hrun (step_converted.mpr ⟨4, 4, rfl, by decide, rfl⟩)
  exact ⟨_, _, _, hrun, step_converted.mpr ⟨4, 4, rfl, by decide, rfl⟩, hconverted⟩

/-! ## Capture numbers -/

/-- What the numbers of the frames of buffer `i` satisfy after the run `tr`. -/
structure Numbers {n : ℕ} (i : Fin n) (tr : Trace n) (s : State n) : Prop where
  captured : ∀ f ∈ framesOf i tr, f.number < s.captured
  /-- A frame that is complete and not dequeued is younger than those dequeued. -/
  filled : s.driver i = .filled →
    s.sequence i < s.captured ∧ ∀ f ∈ framesOf i tr, f.number < s.sequence i
  increasing : (framesOf i tr).Pairwise fun f g => f.number < g.number

/-- **The frames of one buffer are dequeued in the order they were captured.** -/
theorem numbers (h : PipelineRun c m tr s) : Numbers i tr s := by
  refine h.invariant_trace ⟨by simp, nofun, by simp⟩ ?_
  intro tr s l s' hrun ih hstep
  by_cases hdq : l = .dqbuf i
  · subst hdq
    obtain ⟨⟨_, hd⟩, rfl⟩ := step_dqbuf.mp hstep
    obtain ⟨hlt, hyounger⟩ := ih.filled hd
    refine ⟨?_, by simp, ?_⟩
    · intro f hf
      rw [framesOf_dqbuf, List.mem_append, List.mem_singleton] at hf
      rcases hf with hf | rfl
      · exact ih.captured f hf
      · exact hlt
    · rw [framesOf_dqbuf, List.pairwise_append]
      refine ⟨ih.increasing, List.pairwise_singleton _ _, ?_⟩
      intro f hf g hg
      obtain rfl := List.mem_singleton.mp hg
      exact hyounger f hf
  · have hframes := framesOf_of_ne i tr s hdq
    have hframe := step_frame hstep
    by_cases hdone : ∃ j, l = .driverDone j
    · obtain ⟨j, rfl⟩ := hdone
      obtain ⟨hd, rfl⟩ := step_driverDone.mp hstep
      refine ⟨?_, ?_, by rw [hframes]; exact ih.increasing⟩
      · intro f hf
        rw [hframes] at hf
        exact (ih.captured f hf).trans (Nat.lt_succ_self _)
      · intro hfilled
        rw [hframes]
        rcases eq_or_ne i j with rfl | hj
        · simpa using ih.captured
        · simp only [update_apply, if_neg hj] at hfilled ⊢
          obtain ⟨hlt, hyounger⟩ := ih.filled hfilled
          exact ⟨hlt.trans (Nat.lt_succ_self _), hyounger⟩
    · have hne : ∀ j, l ≠ .driverDone j := fun j hj => hdone ⟨j, hj⟩
      have hcaptured := hframe.captured hne
      refine ⟨by rw [hframes, hcaptured]; exact ih.captured, ?_,
        by rw [hframes]; exact ih.increasing⟩
      intro hfilled
      rw [hframes, hcaptured, hframe.sequence i (hne i)]
      refine ih.filled ?_
      by_cases hqbuf : l = .qbuf i
      · subst hqbuf
        obtain ⟨_, rfl⟩ := step_qbuf.mp hstep
        simp at hfilled
      · rwa [← hframe.driver i (hne i) hdq hqbuf]

end Runs

end Mp157
