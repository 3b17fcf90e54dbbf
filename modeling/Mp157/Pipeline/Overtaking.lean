import Mp157.Pipeline.Display
import Mp157.Pipeline.Rounds

/-!
# How late a frame can be shown

Frames of different buffers overtake one another: each worker announces its own.  How many frames
may be shown before one that was captured earlier?

* `overtaking_bounded_iff` — there is a bound exactly when there is one buffer, and then it is 0.

With two buffers a worker that is not scheduled holds its frame back while another goes round as
often as it likes; the queue may be as short as can be, and no call fails.
-/

namespace Mp157

open Transition ByteMemory MessageQueue
open Function (update)

/-! ## The frames shown -/

/-- The capture number of the frame that a step after `pre` finishes showing: when
`lcd_show_camear` returns, of the frame whose conversion was completed last. -/
def shownBy {n : ℕ} (pre : Trace n) (e : State n × Label n) : Option ℕ :=
  match e.2 with
  | .shown i => (newestFrame i pre).map Frame.number
  | _ => none

@[simp] lemma shownBy_shown {n : ℕ} (pre : Trace n) (s : State n) (i : Fin n) :
    shownBy pre (s, .shown i) = (newestFrame i pre).map Frame.number := rfl

/-- The capture numbers of the frames shown, in order. -/
def shownNumbers {n : ℕ} (tr : Trace n) : List ℕ :=
  (List.range tr.length).filterMap fun k => tr[k]?.bind (shownBy (tr.take k))

section Shown

variable {n : ℕ} {tr tr' : Trace n} {e : State n × Label n} {i : Fin n}

lemma shownNumbers_snoc (tr : Trace n) (e : State n × Label n) :
    shownNumbers (tr ++ [e]) = shownNumbers tr ++ (shownBy tr e).toList := by
  have hbefore : (List.range tr.length).filterMap (fun k =>
      (tr ++ [e])[k]?.bind (shownBy ((tr ++ [e]).take k))) = shownNumbers tr := by
    refine List.filterMap_congr ?_
    intro k hk
    rw [List.getElem?_append_left (List.mem_range.mp hk),
      List.take_append_of_le_length (List.mem_range.mp hk).le]
  rw [shownNumbers, List.length_append, List.length_singleton, List.range_succ,
    List.filterMap_append, hbefore]
  cases hshown : shownBy tr e <;> simp [hshown]

lemma shownNumbers_of_none (hno : shownBy tr e = none) :
    shownNumbers (tr ++ [e]) = shownNumbers tr := by
  rw [shownNumbers_snoc, hno, Option.toList_none, List.append_nil]

lemma shownNumbers_append (hno : ∀ e ∈ tr', ∀ j, e.2 ≠ .shown j) :
    shownNumbers (tr ++ tr') = shownNumbers tr := by
  induction tr' using List.reverseRecOn with
  | nil => rw [List.append_nil]
  | append_singleton tr' e ih =>
      have hnone : shownBy (tr ++ tr') e = none := by
        rw [shownBy]
        split
        · next j hj => exact absurd hj (hno e (by simp) j)
        · rfl
      rw [← List.append_assoc, shownNumbers_of_none hnone]
      exact ih fun e' he' => hno e' (List.mem_append_left _ he')

/-- What is shown is shown at some point of the run. -/
lemma mem_shownNumbers {k : ℕ} (h : k ∈ shownNumbers tr) : ∃ pre t j post f,
    tr = pre ++ (t, .shown j) :: post ∧ newestFrame j pre = some f ∧ f.number = k := by
  obtain ⟨p, hp, hk⟩ := List.mem_filterMap.mp h
  obtain ⟨⟨t, l⟩, he, hshown⟩ := Option.bind_eq_some_iff.mp hk
  rw [shownBy] at hshown
  split at hshown
  · next j hj =>
      obtain ⟨f, hf, hnumber⟩ := Option.map_eq_some_iff.mp hshown
      obtain ⟨hlt, heq⟩ := List.getElem?_eq_some_iff.mp he
      refine ⟨tr.take p, t, j, tr.drop (p + 1), f, ?_, hf, hnumber⟩
      obtain rfl : l = .shown j := hj
      rw [← heq, List.getElem_cons_drop, List.take_append_drop]
  · cases hshown

end Shown

section Newest

variable {c : Config} {tr tr' : Trace c.uCount} {j : Fin c.uCount}

lemma newestFrame_append (hne : ∀ e ∈ tr', e.2.index ≠ some j) :
    newestFrame j (tr ++ tr') = newestFrame j tr := by
  rw [newestFrame, framesOf_append, occurrences_append, framesOf_eq_nil hne, converted_eq_zero hne,
    List.append_nil, Nat.add_zero, newestFrame]

lemma newestFrame_snoc {l : Label c.uCount} (tr : Trace c.uCount) (s : State c.uCount)
    (hdq : l ≠ .dqbuf j) (hconverted : l ≠ .converted j) :
    newestFrame j (tr ++ [(s, l)]) = newestFrame j tr := by
  rw [newestFrame, framesOf_of_ne j tr s hdq, occurrences_snoc, if_neg hconverted, Nat.add_zero,
    newestFrame]

end Newest

/-! ## Held back -/

section Held

variable {c : Config} {m : Memories c.uCount} {s : State c.uCount} {tr : Trace c.uCount}
  {i₀ i₁ : Fin c.uCount} {n : ℕ}

/-- Worker `i₀ + 1` still holds the first frame captured, and `n` frames of buffer `i₁` have been
shown. -/
structure Held (m : Memories c.uCount) (i₀ i₁ : Fin c.uCount) (n : ℕ) (tr : Trace c.uCount)
    (s : State c.uCount) : Prop where
  run : PipelineRun c m tr s
  holding : Holding i₀ s
  idle : Idle i₁ s
  queue : s.queue = []
  display : s.display = .receiving
  captured : 0 < s.captured
  newest : ∃ f, newestFrame i₀ tr = some f ∧ f.number = 0
  converted : occurrences tr (.converted i₁) = (framesOf i₁ tr).length
  shown : (shownNumbers tr).countP (0 < ·) = n

lemma held_zero (m : Memories c.uCount) (hne : i₁ ≠ i₀)
    (hrounds : convertRounds c.width c.height < 2 ^ 30) : ∃ tr s, Held m i₀ i₁ 0 tr s := by
  obtain ⟨tr, s, hrun, hholding, hbrings, hqueue, hdisplay, hcaptured⟩ :=
    frame_run (s := pipelineStart m) (i := i₀) ⟨rfl, rfl, rfl, rfl⟩ hrounds
  have hindex := fun e he => hbrings.index e he i₁ hne
  have hsame := run_sameAt hrun hindex
  have hnone := @newestFrame_append c [] tr i₁ hindex
  refine ⟨tr, s, hrun, hholding, ?_, hqueue, hdisplay, by omega, ?_, ?_, ?_⟩
  · exact ⟨hsame.driver, hholding.capture, hsame.sem, hsame.worker⟩
  · obtain ⟨content, hframes⟩ := hbrings.frames
    refine ⟨⟨content, 0⟩, ?_, rfl⟩
    rw [newestFrame, hframes, hbrings.converted]
    rfl
  · rw [framesOf_eq_nil hindex, converted_eq_zero hindex, List.length_nil]
  · rw [← List.nil_append tr, shownNumbers_append hbrings.shown]
    rfl

/-- **One round more.** -/
lemma Held.succ (h : Held m i₀ i₁ n tr s) (hne : i₁ ≠ i₀)
    (hrounds : convertRounds c.width c.height < 2 ^ 30) : ∃ tr s, Held m i₀ i₁ (n + 1) tr s := by
  obtain ⟨tr₁, s₁, hrun₁, hholding₁, hbrings, hqueue₁, hdisplay₁, hcaptured₁⟩ :=
    frame_run h.idle hrounds
  obtain ⟨tr₂, t, s₂, hrun₂, hidle₂, hannounces, hqueue₂, hdisplay₂, hcaptured₂⟩ :=
    announce_run hholding₁ (hqueue₁.trans h.queue) (hdisplay₁.trans h.display)
  have hround := hrun₁.append hrun₂
  rw [← List.append_assoc] at hround
  obtain ⟨content, hframes⟩ := hbrings.frames
  -- all of it leaves buffer `i₀` alone
  have hindex : ∀ e ∈ tr₁ ++ tr₂ ++ [(t, .shown i₁)], e.2.index ≠ some i₀ := by
    intro e he
    simp only [List.mem_append, List.mem_singleton] at he
    rcases he with (he | he) | rfl
    · exact hbrings.index e he i₀ hne.symm
    · exact hannounces.index e he i₀ hne.symm
    · exact fun heq => hne (Option.some.inj heq)
  have hsame := run_sameAt hround hindex
  -- and shows the frame it brought
  have hnewest : newestFrame i₁ (tr ++ (tr₁ ++ tr₂)) = some ⟨content, s.captured⟩ := by
    rw [newestFrame]
    simp only [framesOf_append, occurrences_append, hframes, hannounces.frames, hbrings.converted,
      hannounces.converted, h.converted, List.append_nil, Nat.add_zero]
    rw [List.take_of_length_le (by simp), List.getLast?_concat]
  have hnumbers : shownNumbers (tr ++ (tr₁ ++ tr₂ ++ [(t, .shown i₁)]))
      = shownNumbers tr ++ [s.captured] := by
    have hno : ∀ e ∈ tr₁ ++ tr₂, ∀ j, e.2 ≠ .shown j := by
      intro e he
      rcases List.mem_append.mp he with he | he
      · exact hbrings.shown e he
      · exact hannounces.shown e he
    rw [← List.append_assoc, shownNumbers_snoc, shownNumbers_append hno, shownBy_shown, hnewest]
    rfl
  refine ⟨_, s₂, h.run.append hround, ⟨?_, hidle₂.capture, ?_, ?_⟩, hidle₂, hqueue₂, hdisplay₂,
    by omega, ?_, ?_, ?_⟩
  · exact hsame.driver.trans h.holding.driver
  · exact hsame.sem.trans h.holding.sem
  · exact hsame.worker.trans h.holding.worker
  · rw [newestFrame_append hindex]
    exact h.newest
  · have hlast : framesOf i₁ [(t, .shown i₁)] = [] ∧
        occurrences [(t, Label.shown i₁)] (.converted i₁) = 0 := by
      simp [framesOf, occurrences]
    simp only [framesOf_append, occurrences_append, hframes, hannounces.frames, hbrings.converted,
      hannounces.converted, h.converted, hlast, List.append_nil, List.length_append,
      List.length_singleton, Nat.add_zero]
  · rw [hnumbers, List.countP_append, h.shown, List.countP_singleton, if_pos (by simp [h.captured])]

lemma exists_held (m : Memories c.uCount) (hne : i₁ ≠ i₀)
    (hrounds : convertRounds c.width c.height < 2 ^ 30) : ∀ n, ∃ tr s, Held m i₀ i₁ n tr s
  | 0 => held_zero m hne hrounds
  | n + 1 => by
      obtain ⟨tr, s, h⟩ := exists_held m hne hrounds n
      exact h.succ hne hrounds

/-- With a second buffer any number of frames is shown before the first one captured. -/
lemma exists_overtaken (m : Memories c.uCount) (hne : i₁ ≠ i₀)
    (hrounds : convertRounds c.width c.height < 2 ^ 30) (n : ℕ) : ∃ tr s f,
    PipelineRun c m tr s ∧ s.display = .showing i₀ 0 ∧ newestFrame i₀ tr = some f ∧
      (shownNumbers tr).countP (f.number < ·) = n := by
  obtain ⟨tr, s, h⟩ := exists_held m hne hrounds n
  obtain ⟨f, hf, hzero⟩ := h.newest
  have hcapacity : s.queue.length < c.capacity := by
    rw [h.queue]
    exact c.capacity_pos
  have h₁ := h.run.snoc (step_sendMsg (i := i₀).mpr ⟨⟨h.holding.worker, hcapacity⟩, rfl⟩)
  have h₂ := h₁.snoc (step_recvMsg (i := i₀).mpr
    ⟨[], h.display, by simp [h.queue, send, receive], rfl⟩)
  refine ⟨_, _, f, h₂, rfl, ?_, ?_⟩
  · rw [newestFrame_snoc, newestFrame_snoc, hf]
    all_goals simp
  · rw [shownNumbers_of_none rfl, shownNumbers_of_none rfl, hzero]
    exact h.shown

/-- **How late a frame can be shown.**  Where the conversion loop ends: the number of frames that
are shown before one captured earlier is bounded, over all runs, exactly when there is only one
buffer; then no frame is overtaken. -/
theorem overtaking_bounded_iff (c : Config) (hrounds : convertRounds c.width c.height < 2 ^ 30) :
    (∃ bound, ∀ m tr s i row f, PipelineRun c m tr s → s.display = .showing i row →
      newestFrame i tr = some f → (shownNumbers tr).countP (f.number < ·) ≤ bound) ↔
    c.uCount = 1 := by
  constructor
  · rintro ⟨bound, hbound⟩
    by_contra hmany
    have hpos := c.uCount_pos
    have hne : (⟨1, by omega⟩ : Fin c.uCount) ≠ ⟨0, hpos⟩ := by simp
    obtain ⟨tr, s, f, h, hd, hf, hcount⟩ :=
      exists_overtaken ⟨fun _ _ => 0, fun _ _ => 0, fun _ => 0⟩ hne hrounds (bound + 1)
    have hle := hbound _ _ _ _ _ _ h hd hf
    omega
  · intro hone
    refine ⟨0, ?_⟩
    intro m tr s i row f h _ hf
    rw [Nat.le_zero, List.countP_eq_zero]
    intro k hk
    obtain ⟨pre, t, j, post, g, rfl, hg, rfl⟩ := mem_shownNumbers hk
    obtain rfl : i = j := Fin.ext (by omega)
    simpa using newestFrame_mono h hg hf

end Held

/-- Two buffers have no bound, one buffer has. -/
theorem overtaking_bounded_macropixel :
    (¬ ∃ bound, ∀ m tr s i row f, PipelineRun (macropixelConfig 2 Nat.two_pos) m tr s →
      s.display = .showing i row → newestFrame i tr = some f →
      (shownNumbers tr).countP (f.number < ·) ≤ bound) ∧
    ∃ bound, ∀ m tr s i row f, PipelineRun (macropixelConfig 1 Nat.one_pos) m tr s →
      s.display = .showing i row → newestFrame i tr = some f →
      (shownNumbers tr).countP (f.number < ·) ≤ bound :=
  ⟨mt (overtaking_bounded_iff (macropixelConfig 2 Nat.two_pos) (by decide)).mp (by decide),
    (overtaking_bounded_iff (macropixelConfig 1 Nat.one_pos) (by decide)).mpr rfl⟩

end Mp157
