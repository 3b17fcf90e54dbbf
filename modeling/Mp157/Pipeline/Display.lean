import Mp157.Pipeline.Frames

/-!
# What the display thread shows

`sendMsgQueue` hands the display thread an index, not a frame, and the worker goes on at once: it
gives its buffer back and may convert the next frame into the same `rgbdata[k]`.

* `drawing` — what a pass of `lcd_show_camear` over an unchanging picture leaves on the screen.
* `message_shows_its_frame` — a message shows the frame it was sent for, unless the next
  conversion has begun; then the picture is of that frame and later ones
  (`message_shows_another_frame`).
* `frames_in_order` — what is shown of one buffer never goes back in time; what is shown of two
  buffers may (`frames_overtake`).
* `last_frame_shown` — when the pipeline has come to rest on buffer `i`, the last frame of it was
  shown whole.
-/

namespace Mp157

open Transition ByteMemory MessageQueue CLoop

/-! ## Entries of a run -/

section Entries

variable {n : ℕ}

lemma exists_last_entry {l : Label n} : ∀ {tr : Trace n}, 0 < occurrences tr l →
    ∃ pre t post, tr = pre ++ (t, l) :: post ∧ occurrences post l = 0 := by
  intro tr
  induction tr using List.reverseRecOn with
  | nil => simp
  | append_singleton tr e ih =>
      intro hpos
      by_cases he : e.2 = l
      · exact ⟨tr, e.1, [], by rw [← he], rfl⟩
      · simp only [occurrences_append, occurrences_cons, occurrences_nil, if_neg he] at hpos
        obtain ⟨pre, t, post, rfl, hpost⟩ := ih (by omega)
        refine ⟨pre, t, post ++ [e], by simp, ?_⟩
        simp [occurrences_append, occurrences_cons, he, hpost]

lemma not_mem_of_occurrences {l : Label n} {tr : Trace n} (h : occurrences tr l = 0)
    {e : State n × Label n} (he : e ∈ tr) : e.2 ≠ l := by
  rintro rfl
  exact List.count_eq_zero.mp h (List.mem_map_of_mem he)

end Entries

/-! ## A pass over the screen -/

/-- In `s`, after the steps `mid`, rows `0` to `row` of picture `rgb` have been drawn on `fb`. -/
structure Drawing (c : Config) (i : Fin c.uCount) (rgb fb : Mem) (mid : Trace c.uCount)
    (s : State c.uCount) (row : ℕ) : Prop where
  display : s.display = .showing i row
  row_le : row ≤ c.kms.fbHight.toNat
  drawn : forRange row (lcdShowCamearRow c.kms (unbounded rgb) (toLong c.width) (toLong c.height))
    (unbounded fb) = some (unbounded s.fbMap)
  copied : ∀ k < row, ∃ t, (t, Label.showRow i k) ∈ mid ∧ t.rgbdata i = rgb
  only : ∀ e ∈ mid, e.2.agent = .display → ∃ k, e.2 = .showRow i k

section Pass

variable {c : Config} {i : Fin c.uCount} {s₁ s : State c.uCount} {tr : Trace c.uCount} {rgb : Mem}

/-- Once all rows are drawn, the screen is what the whole function makes of it. -/
lemma Drawing.finish {fb : Mem} {row : ℕ} {s' : State c.uCount}
    (hd : Drawing c i rgb fb tr s row) (hstep : step c s (.shown i) = some s') :
    row = c.kms.fbHight.toNat ∧
      lcdShowCamear c.kms (unbounded fb) (unbounded rgb) (toLong c.width) (toLong c.height)
        = some (unbounded s.fbMap) := by
  obtain ⟨row', hrow', hlast, rfl⟩ := step_shown.mp hstep
  obtain ⟨-, rfl⟩ : i = i ∧ row = row' := by simpa using hd.display.symm.trans hrow'
  have hle := hd.row_le
  obtain rfl : row = c.kms.fbHight.toNat := by omega
  exact ⟨rfl, hd.drawn⟩

/-- One more row. -/
lemma Drawing.showRow {fb : Mem} {row k : ℕ} {j : Fin c.uCount} {s' : State c.uCount}
    (hd : Drawing c i rgb fb tr s row) (hrgb : s.rgbdata i = rgb)
    (hstep : step c s (.showRow j k) = some s') :
    Drawing c i rgb fb (tr ++ [(s, .showRow j k)]) s' (row + 1) := by
  obtain ⟨⟨hshow, hk⟩, fbMap, hrow, rfl⟩ := step_showRow.mp hstep
  obtain ⟨rfl, rfl⟩ : i = j ∧ row = k := by simpa using hd.display.symm.trans hshow
  have hbyte : fbMap = unbounded fbMap.byte := by
    rw [lcdShowCamearRow_unbounded] at hrow
    rw [← Option.some.inj hrow]
    rfl
  refine ⟨rfl, hk, ?_, ?_, ?_⟩
  · rw [forRange_succ, hd.drawn, Option.bind_some, ← hrgb, hrow, hbyte]
    rfl
  · intro k' hk'
    rcases Nat.lt_succ_iff_lt_or_eq.mp hk' with hlt | rfl
    · obtain ⟨t, ht, htrgb⟩ := hd.copied k' hlt
      exact ⟨t, List.mem_append_left _ ht, htrgb⟩
    · exact ⟨s, by simp, hrgb⟩
  · intro e he hagent
    rcases List.mem_append.mp he with he | he
    · exact hd.only e he hagent
    · obtain rfl := List.mem_singleton.mp he
      exact ⟨row, rfl⟩

/-- A step of another agent. -/
lemma Drawing.other {fb : Mem} {row : ℕ} {l : Label c.uCount} {s' : State c.uCount}
    (hd : Drawing c i rgb fb tr s row) (hl : l.agent ≠ .display) (hstep : step c s l = some s') :
    Drawing c i rgb fb (tr ++ [(s, l)]) s' row := by
  have hframe := step_frame hstep
  have hfb : s'.fbMap = s.fbMap := hframe.fbMap fun j k hj => hl (by rw [hj]; rfl)
  refine ⟨(hframe.display hl).trans hd.display, hd.row_le, by rw [hfb]; exact hd.drawn,
    ?_, ?_⟩
  · intro k hk
    obtain ⟨t, ht, htrgb⟩ := hd.copied k hk
    exact ⟨t, List.mem_append_left _ ht, htrgb⟩
  · intro e he hagent
    rcases List.mem_append.mp he with he | he
    · exact hd.only e he hagent
    · obtain rfl := List.mem_singleton.mp he
      exact absurd hagent hl

/-- **A pass over a picture that does not change.**  From the receipt of index `i` on, the rows
are drawn in order, until the pass is over. -/
theorem drawing (h : Run (step c) s₁ tr s) (hstart : s₁.display = .showing i 0)
    (hrgb : ∀ e ∈ tr, e.1.rgbdata i = rgb) :
    (∃ row, Drawing c i rgb s₁.fbMap tr s row) ∨
      ∃ mid t post, tr = mid ++ (t, .shown i) :: post ∧
        Drawing c i rgb s₁.fbMap mid t c.kms.fbHight.toNat := by
  induction h with
  | nil => exact .inl ⟨0, hstart, Nat.zero_le _, rfl, by simp, by simp⟩
  | @snoc tr s s' l _ hstep ih =>
      have hrgb' : ∀ e ∈ tr, e.1.rgbdata i = rgb := fun e he => hrgb e (List.mem_append_left _ he)
      rcases ih hrgb' with ⟨row, hd⟩ | ⟨mid, t, post, rfl, hd⟩
      · by_cases hl : l.agent = .display
        · cases l with
          | recvMsg j =>
              obtain ⟨_, hreceiving, _⟩ := step_recvMsg.mp hstep
              rw [hd.display] at hreceiving
              cases hreceiving
          | showRow j k => exact .inl ⟨row + 1, hd.showRow (hrgb (s, .showRow j k) (by simp)) hstep⟩
          | shown j =>
              obtain ⟨_, hshow, _⟩ := step_shown.mp hstep
              obtain ⟨rfl, -⟩ : i = j ∧ _ := by simpa using hd.display.symm.trans hshow
              obtain ⟨rfl, -⟩ := hd.finish hstep
              exact .inr ⟨tr, s, [], rfl, hd⟩
          | _ => cases hl
        · exact .inl ⟨row, hd.other hl hstep⟩
      · exact .inr ⟨mid, t, post ++ [(s, l)], by simp, hd⟩

end Pass

/-! ## What is in `rgbdata` -/

section Contents

variable {c : Config} {m : Memories c.uCount} {i : Fin c.uCount} {tr pre post : Trace c.uCount}
  {s t : State c.uCount}

lemma occurrences_le_append {n : ℕ} (tr tr' : Trace n) (l : Label n) :
    occurrences tr l ≤ occurrences (tr ++ tr') l := by
  rw [occurrences_append]
  exact Nat.le_add_right _ _

/-- A conversion that has been completed was of a frame the loop can pass. -/
lemma rounds_lt_of_converted (h : PipelineRun c m tr s) (hpos : 0 < occurrences tr (.converted i)) :
    convertRounds c.width c.height < 2 ^ 30 := by
  obtain ⟨pre, t, post, rfl, _⟩ := exists_last_entry hpos
  obtain ⟨hpre, t', hstep, _⟩ := h.cut
  obtain ⟨inPos, outPos, hw, hguard, _⟩ := step_converted.mp hstep
  exact ((contents i hpre).busy inPos outPos hw).finish hguard |>.1

/-- The frame whose conversion into `rgbdata[i]` was completed last. -/
def newestFrame {n : ℕ} (i : Fin n) (tr : Trace n) : Option Frame :=
  ((framesOf i tr).take (occurrences tr (.converted i))).getLast?

lemma converted_pos_of_newest {n : ℕ} {i : Fin n} {tr : Trace n} {f : Frame}
    (hf : newestFrame i tr = some f) : 0 < occurrences tr (.converted i) := by
  by_contra hzero
  rw [newestFrame, Nat.eq_zero_of_not_pos hzero, List.take_zero] at hf
  cases hf

/-- Outside a conversion `rgbdata[i]` is the whole conversion of that frame. -/
lemma convert_newest (h : PipelineRun c m tr s) {f : Frame} (hf : newestFrame i tr = some f)
    (hw : (s.worker i).isConverting = false) :
    convertYuvToRgb565Buffer c.tables (unbounded f.content) (unbounded (m.rgbdata i)) c.width
      c.height = some (unbounded (s.rgbdata i)) := by
  obtain ⟨earlier, heq⟩ := List.getLast?_eq_some_iff.mp hf
  have hrgb := (contents i h).idle hw
  rw [heq, rgbAfter_last] at hrgb
  have hshort := rounds_lt_of_converted h (converted_pos_of_newest hf)
  rw [convertYuvToRgb565Buffer_eq c.tables hshort (unbounded_holds _ _) (unbounded_holds _ _),
    hrgb]
  rfl

lemma newestFrame_eq (h : PipelineRun c m tr s) {n : ℕ}
    (hn : occurrences tr (.converted i) = n + 1) : newestFrame i tr = (framesOf i tr)[n]? := by
  have hle := converted_le_frames i h
  rw [newestFrame, hn, List.getLast?_eq_getElem?, List.length_take_of_le (by omega),
    Nat.add_sub_cancel, List.getElem?_take_of_lt (Nat.lt_succ_self n)]

lemma exists_newestFrame (h : PipelineRun c m tr s) (hpos : 0 < occurrences tr (.converted i)) :
    ∃ f, newestFrame i tr = some f := by
  obtain ⟨n, hn⟩ := Nat.exists_eq_succ_of_ne_zero hpos.ne'
  have hle := converted_le_frames i h
  exact ⟨_, (newestFrame_eq h hn).trans (List.getElem?_eq_getElem (by omega))⟩

/-- After `tr`, in `s`, what is copied from `rgbdata[i]` is of frame `f`: every byte is of the
frame completely converted last, but for those a conversion in progress has replaced. -/
structure Shows (c : Config) (i : Fin c.uCount) (tr : Trace c.uCount) (s : State c.uCount)
    (f : Frame) : Prop where
  newest : newestFrame i tr = some f
  byte : ∀ off : ℤ, 0 ≤ off → off < 4 * (convertRounds c.width c.height : ℕ) →
    s.rgbdata i off = convertedByte c.tables f.content off ∨
      (s.worker i).isConverting = true ∧
        s.rgbdata i off = convertedByte c.tables (s.pBuffers i) off

theorem shows_newest (h : PipelineRun c m tr s) {f : Frame} (hf : newestFrame i tr = some f) :
    Shows c i tr s f := by
  refine ⟨hf, fun off h₀ hoff => ?_⟩
  obtain ⟨earlier, heq⟩ := List.getLast?_eq_some_iff.mp hf
  have hcontents := contents i h
  have hbase : rgbAfter c (m.rgbdata i)
      ((framesOf i tr).take (occurrences tr (.converted i))) off
      = convertedByte c.tables f.content off := by
    rw [heq, rgbAfter_last, convertedMem, if_pos ⟨h₀, hoff⟩]
  cases hw : (s.worker i).isConverting with
  | false =>
      rw [hcontents.idle hw]
      exact .inl hbase
  | true =>
      obtain ⟨inPos, outPos, hworker⟩ := Worker.isConverting_iff.mp hw
      rcases (hcontents.busy inPos outPos hworker).byte off with hnew | hold
      · exact .inr ⟨rfl, hnew⟩
      · exact .inl (hold.trans hbase)

/-- So every byte is of some frame that is not older than those converted. -/
lemma rgbdata_from (h : PipelineRun c m tr s) {n : ℕ} (hn : n < occurrences tr (.converted i))
    {off : ℤ} (h₀ : 0 ≤ off) (hoff : off < 4 * (convertRounds c.width c.height : ℕ)) :
    ∃ j f, n ≤ j ∧ (framesOf i tr)[j]? = some f ∧
      s.rgbdata i off = convertedByte c.tables f.content off := by
  obtain ⟨d, hd⟩ := Nat.exists_eq_succ_of_ne_zero (Nat.ne_zero_of_lt hn)
  obtain ⟨f, hf⟩ := exists_newestFrame h (Nat.zero_lt_of_lt hn)
  rcases (shows_newest h hf).byte off h₀ hoff with hbyte | ⟨hw, hbyte⟩
  · exact ⟨d, f, by omega, (newestFrame_eq h hd).symm.trans hf, hbyte⟩
  · exact ⟨_, _, hn.le, getElem?_converting i h hw, hbyte⟩

/-- What the display thread handles was converted. -/
lemma converted_pos_of_showing (h : PipelineRun c m tr s) {row : ℕ}
    (hd : s.display = .showing i row) : 0 < occurrences tr (.converted i) := by
  have hshowing := showing_balance i h
  have hqueue := queue_balance i h
  have hsending := sending_balance i h
  rw [hd, if_pos (by simp [DisplayThread.isShowing])] at hshowing
  omega

end Contents

/-! ## Messages and frames -/

section Messages

variable {c : Config} {m : Memories c.uCount} {k : Fin c.uCount}

/-- Only a macropixel conversion writes `rgbdata[k]`. -/
lemma rgbdata_of_no_convert {s₁ s : State c.uCount} {tr : Trace c.uCount}
    (h : Run (step c) s₁ tr s) (hno : ∀ e ∈ tr, e.2 ≠ .convert k) :
    s.rgbdata k = s₁.rgbdata k := by
  induction h with
  | nil => rfl
  | @snoc tr s s' l _ hstep ih =>
      rw [(step_frame hstep).rgbdata k (hno (s, l) (by simp))]
      exact ih fun e he => hno e (List.mem_append_left _ he)

/-- **What a message shows.**  Worker `k + 1` sends in `t₀`, having just converted frame `f`.  Let
`draw` be the steps of a pass for index `k` after that: the one for this message, or a later one.
If the worker converts no macropixel up to its end, `lcd_show_camear` draws exactly the conversion
of `f`.  In any case every byte it copies is of `f` or of a frame dequeued with index `k` later. -/
theorem message_shows_its_frame {pre mid draw : Trace c.uCount} {t₀ t₁ t₂ s : State c.uCount}
    (h : PipelineRun c m (pre ++ (t₀, .sendMsg k) :: mid ++ (t₁, .recvMsg k) :: draw) t₂)
    (hpass : occurrences draw (.shown k) = 0) (hshown : step c t₂ (.shown k) = some s) :
    ∃ f, (framesOf k pre)[occurrences pre (.sendMsg k)]? = some f ∧
      newestFrame k pre = some f ∧
      convertYuvToRgb565Buffer c.tables (unbounded f.content) (unbounded (m.rgbdata k)) c.width
        c.height = some (unbounded (t₀.rgbdata k)) ∧
      ((∀ e ∈ mid ++ draw, e.2 ≠ .convert k) →
        lcdShowCamear c.kms (unbounded t₁.fbMap) (unbounded (t₀.rgbdata k)) (toLong c.width)
          (toLong c.height) = some (unbounded t₂.fbMap)) ∧
      ∀ t row, (t, Label.showRow k row) ∈ draw → ∀ off : ℤ, 0 ≤ off →
        off < 4 * (convertRounds c.width c.height : ℕ) → ∃ j g, occurrences pre (.sendMsg k) ≤ j ∧
          (framesOf k (pre ++ (t₀, .sendMsg k) :: mid ++ (t₁, .recvMsg k) :: draw))[j]? = some g ∧
          t.rgbdata k off = convertedByte c.tables g.content off := by
  obtain ⟨h₁, t₁', hrecv, hdraw⟩ := h.cut
  obtain ⟨h₀, t₀', hsend, hmid⟩ := h₁.cut
  replace h₀ : PipelineRun c m pre t₀ := h₀
  obtain ⟨⟨hworker, _⟩, _⟩ := step_sendMsg.mp hsend
  have hconverted := sending_balance k h₀
  rw [if_pos hworker, Nat.add_comm] at hconverted
  have hnewest := newestFrame_eq h₀ hconverted.symm
  have hle := converted_le_frames k h₀
  obtain ⟨f, hf⟩ : ∃ f, (framesOf k pre)[occurrences pre (.sendMsg k)]? = some f :=
    ⟨_, List.getElem?_eq_getElem (by omega)⟩
  have hidle : (t₀.worker k).isConverting = false := by rw [hworker]; rfl
  refine ⟨f, hf, hnewest.trans hf, convert_newest h₀ (hnewest.trans hf) hidle, fun hno => ?_,
    fun t row ht off hoff₀ hoff => ?_⟩
  · -- nothing writes the picture, so the pass draws what was there when the message was sent
    have hsame₁ : t₁'.rgbdata k = t₀.rgbdata k := by
      rw [(step_frame hrecv).rgbdata k nofun,
        rgbdata_of_no_convert hmid fun e he => hno e (List.mem_append_left _ he),
        (step_frame hsend).rgbdata k nofun]
    have hsame : ∀ e ∈ draw, e.1.rgbdata k = t₀.rgbdata k := by
      intro e he
      obtain ⟨a, b, rfl⟩ := List.append_of_mem he
      rw [rgbdata_of_no_convert hdraw.cut.1
        fun e' he' => hno e' (List.mem_append_right _ (List.mem_append_left _ he')), hsame₁]
    obtain ⟨_, _, _, rfl⟩ := step_recvMsg.mp hrecv
    rcases drawing hdraw rfl hsame with ⟨row, hd⟩ | ⟨mid', t, post, rfl, _⟩
    · exact (hd.finish hshown).2
    · simp [occurrences_append, occurrences_cons] at hpass
  · obtain ⟨a, b, rfl⟩ := List.append_of_mem ht
    rw [← List.cons_append, ← List.append_assoc] at h ⊢
    have hcopy : PipelineRun c m _ t := h.cut.1
    have hcount := occurrences_le_append pre ((t₀, .sendMsg k) :: mid ++ (t₁, .recvMsg k) :: a)
      (.converted k)
    rw [← List.append_assoc] at hcount
    obtain ⟨j, g, hj, hg, hbyte⟩ := rgbdata_from (i := k) hcopy (n := occurrences pre (.sendMsg k))
      (by omega) hoff₀ hoff
    refine ⟨j, g, hj, ?_, hbyte⟩
    rw [framesOf_append, List.getElem?_append_left (List.getElem?_eq_some_iff.mp hg).1]
    exact hg

end Messages

/-- A message handled before the next conversion. -/
theorem message_shows_its_frame_at_once : ∃ pre mid draw t₀ t₁ t₂ f,
    PipelineRun (macropixelConfig 1 Nat.one_pos) (zeroMemories 1)
      (pre ++ (t₀, .sendMsg 0) :: mid ++ (t₁, .recvMsg 0) :: draw) t₂ ∧
    newestFrame 0 pre = some f ∧
    lcdShowCamear (macropixelConfig 1 Nat.one_pos).kms (unbounded t₁.fbMap)
      (unbounded (t₀.rgbdata 0)) (toLong 2) (toLong 1) = some (unbounded t₂.fbMap) := by
  have h₀ := run_of_replay [.driverWrite 0 0 235, .driverDone 0, .poll, .dqbuf 0, .semPost 0,
    .semWait 0, .convert 0, .converted 0] (show replay (step (macropixelConfig 1 Nat.one_pos))
      (pipelineStart (zeroMemories 1)) _ = some (_, _) from rfl)
  have h₁ := h₀.append (run_of_replay [.sendMsg 0, .qbuf 0] rfl)
  have h₂ := h₁.append (run_of_replay [.recvMsg 0, .driverDone 0, .showRow 0 0] rfl)
  have hshown := message_shows_its_frame (k := 0) h₂ (by decide)
    (step_shown.mpr ⟨1, rfl, by decide, rfl⟩)
  obtain ⟨f, -, hnewest, -, hexact, -⟩ := hshown
  refine ⟨_, _, _, _, _, _, f, h₂, hnewest, hexact ?_⟩
  intro e he
  exact not_mem_of_occurrences (l := .convert 0) (by decide) he

/-- One buffer: while the message of a black frame is queued, the worker converts a white one into
the same `rgbdata[0]`, and that is what the message shows. -/
theorem message_shows_another_frame : ∃ pre mid draw t₀ t₁ t₂ s,
    PipelineRun (macropixelConfig 1 Nat.one_pos) (zeroMemories 1)
      (pre ++ (t₀, .sendMsg 0) :: mid ++ (t₁, .recvMsg 0) :: draw) t₂ ∧
    occurrences (pre ++ (t₀, .sendMsg 0) :: mid) (.recvMsg 0) = occurrences pre (.sendMsg 0) ∧
    occurrences draw (.shown 0) = 0 ∧
    step (macropixelConfig 1 Nat.one_pos) t₂ (.shown 0) = some s ∧
    0 < occurrences mid (.convert 0) ∧
    lcdShowCamear ⟨2, 1, 4, 4⟩ (unbounded t₁.fbMap) (unbounded (t₀.rgbdata 0)) (toLong 2)
      (toLong 1) ≠ some (unbounded t₂.fbMap) := by
  have h₀ := run_of_replay [.driverDone 0, .poll, .dqbuf 0, .semPost 0, .semWait 0, .convert 0,
    .converted 0] (show replay (step (macropixelConfig 1 Nat.one_pos))
      (pipelineStart (zeroMemories 1)) _ = some (_, _) from rfl)
  have h₁ := h₀.append (run_of_replay [.sendMsg 0, .qbuf 0, .driverWrite 0 0 235, .driverDone 0,
    .poll, .dqbuf 0, .semPost 0, .semWait 0, .convert 0] rfl)
  have h₂ := h₁.append (run_of_replay [.recvMsg 0, .showRow 0 0] rfl)
  refine ⟨_, _, _, _, _, _, _, h₂, rfl, rfl, step_shown.mpr ⟨1, rfl, by decide, rfl⟩, by decide, ?_⟩
  intro heq
  have hbyte := congrArg (Option.map fun b => b.byte 0) heq
  revert hbyte
  decide +kernel

/-! ## The order of the frames shown -/

/-- The capture numbers in the order in which `VIDIOC_DQBUF` returned them. -/
def dequeuedNumbers {n : ℕ} (tr : Trace n) : List ℕ :=
  tr.filterMap fun e =>
    match e.2 with
    | .dqbuf i => some (e.1.sequence i)
    | _ => none

section Order

variable {c : Config} {m : Memories c.uCount} {k : Fin c.uCount}

/-- The frame of the last conversion is never older than before. -/
lemma newestFrame_mono {pre post : Trace c.uCount} {s : State c.uCount} {f g : Frame}
    (h : PipelineRun c m (pre ++ post) s) (hf : newestFrame k pre = some f)
    (hg : newestFrame k (pre ++ post) = some g) : f.number ≤ g.number := by
  obtain ⟨t, hpre, _⟩ := h.split
  obtain ⟨a, ha⟩ := Nat.exists_eq_succ_of_ne_zero (converted_pos_of_newest hf).ne'
  obtain ⟨b, hb⟩ := Nat.exists_eq_succ_of_ne_zero (converted_pos_of_newest hg).ne'
  rw [newestFrame_eq hpre ha] at hf
  rw [newestFrame_eq h hb] at hg
  have hab : a ≤ b := by
    have hle := occurrences_le_append pre post (.converted k)
    omega
  -- both are frames of the whole run, at places `a ≤ b`
  have hf' : (framesOf k (pre ++ post))[a]? = some f := by
    rw [framesOf_append, List.getElem?_append_left (List.getElem?_eq_some_iff.mp hf).1]
    exact hf
  obtain ⟨halt, rfl⟩ := List.getElem?_eq_some_iff.mp hf'
  obtain ⟨hblt, rfl⟩ := List.getElem?_eq_some_iff.mp hg
  rcases hab.eq_or_lt with rfl | hlt
  · exact le_rfl
  · exact (List.pairwise_iff_getElem.mp (numbers k h).increasing a b halt hblt hlt).le

/-- **What is shown of one buffer never goes back in time.**  Two rows are copied, the second
later, in the same pass or in another; they are of the same buffer, as they always are when there
is only one. -/
theorem frames_in_order {pre mid : Trace c.uCount} {t₁ t₂ s : State c.uCount}
    {k₁ k₂ : Fin c.uCount} {row₁ row₂ : ℕ}
    (h : PipelineRun c m (pre ++ (t₁, .showRow k₁ row₁) :: mid) t₂)
    (hrow : step c t₂ (.showRow k₂ row₂) = some s) (hk : k₁ = k₂ ∨ c.uCount = 1) :
    ∃ f₁ f₂, Shows c k₁ pre t₁ f₁ ∧ Shows c k₂ (pre ++ (t₁, .showRow k₁ row₁) :: mid) t₂ f₂ ∧
      f₁.number ≤ f₂.number := by
  obtain rfl : k₁ = k₂ := by
    rcases hk with rfl | hone
    · rfl
    · exact Fin.ext (by omega)
  obtain ⟨hpre, _, hrow₁, _⟩ := h.cut
  obtain ⟨⟨hshow₁, _⟩, _⟩ := step_showRow.mp hrow₁
  obtain ⟨⟨hshow₂, _⟩, _⟩ := step_showRow.mp hrow
  obtain ⟨f₁, hf₁⟩ := exists_newestFrame hpre (converted_pos_of_showing hpre hshow₁)
  obtain ⟨f₂, hf₂⟩ := exists_newestFrame h (converted_pos_of_showing h hshow₂)
  exact ⟨f₁, f₂, shows_newest hpre hf₁, shows_newest h hf₂, newestFrame_mono h hf₁ hf₂⟩

end Order

/-- Two passes over one buffer. -/
theorem frames_in_order_two_passes : ∃ pre mid t₁ t₂ f₁ f₂,
    PipelineRun (macropixelConfig 1 Nat.one_pos) (zeroMemories 1)
      (pre ++ (t₁, .showRow 0 0) :: mid) t₂ ∧
    Shows (macropixelConfig 1 Nat.one_pos) 0 pre t₁ f₁ ∧
    Shows (macropixelConfig 1 Nat.one_pos) 0 (pre ++ (t₁, .showRow 0 0) :: mid) t₂ f₂ ∧
    f₁.number ≤ f₂.number := by
  have h₁ := run_of_replay [.driverDone 0, .poll, .dqbuf 0, .semPost 0, .semWait 0, .convert 0,
    .converted 0, .sendMsg 0, .qbuf 0, .driverDone 0, .recvMsg 0]
    (show replay (step (macropixelConfig 1 Nat.one_pos)) (pipelineStart (zeroMemories 1)) _
      = some (_, _) from rfl)
  have h₂ := h₁.append (run_of_replay [.showRow 0 0, .shown 0, .poll, .dqbuf 0, .semPost 0,
    .semWait 0, .convert 0, .converted 0, .sendMsg 0, .recvMsg 0] rfl)
  have hshown := frames_in_order h₂ (show step _ _ (.showRow 0 0) = some _ from step_showRow.mpr
    ⟨⟨rfl, by decide⟩, _, lcdShowCamearRow_unbounded _ _ _ _ _ _, rfl⟩) (.inl rfl)
  obtain ⟨f₁, f₂, hf₁, hf₂, hle⟩ := hshown
  exact ⟨_, _, _, _, f₁, f₂, h₂, hf₁, hf₂, hle⟩

/-- Two buffers: the frames are dequeued in capture order, the second worker overtakes the first,
and frame 1 is shown, whole, before frame 0. -/
theorem frames_overtake : ∃ pre mid t₁ t₂ s f₁ f₂,
    PipelineRun (macropixelConfig 2 Nat.two_pos) (zeroMemories 2)
      (pre ++ (t₁, .showRow 1 0) :: mid) t₂ ∧
    step (macropixelConfig 2 Nat.two_pos) t₂ (.showRow 0 0) = some s ∧
    (dequeuedNumbers (pre ++ (t₁, .showRow 1 0) :: mid)).Pairwise (· < ·) ∧
    (t₁.worker 1).isConverting = false ∧ (t₂.worker 0).isConverting = false ∧
    Shows (macropixelConfig 2 Nat.two_pos) 1 pre t₁ f₁ ∧
    Shows (macropixelConfig 2 Nat.two_pos) 0 (pre ++ (t₁, .showRow 1 0) :: mid) t₂ f₂ ∧
    f₂.number < f₁.number := by
  have h₁ := run_of_replay [.driverDone 0, .driverDone 1, .poll, .dqbuf 0, .semPost 0, .poll,
    .dqbuf 1, .semPost 1, .semWait 0, .semWait 1, .convert 1, .converted 1, .sendMsg 1, .recvMsg 1]
    (show replay (step (macropixelConfig 2 Nat.two_pos)) (pipelineStart (zeroMemories 2)) _
      = some (_, _) from rfl)
  have h₂ := h₁.append (run_of_replay [.showRow 1 0, .shown 1, .convert 0, .converted 0,
    .sendMsg 0, .recvMsg 0] rfl)
  exact ⟨_, _, _, _, _, _, _, h₂, step_showRow.mpr ⟨⟨rfl, by decide⟩, _,
    lcdShowCamearRow_unbounded _ _ _ _ _ _, rfl⟩, by decide, rfl, rfl, shows_newest h₁ rfl,
    shows_newest h₂ rfl, by decide⟩

/-! ## At rest -/

section Rest

variable {c : Config} {m : Memories c.uCount} {i : Fin c.uCount} {tr pre post : Trace c.uCount}
  {s t : State c.uCount}

/-- Once as many messages of `i` were sent as frames are ever dequeued, `rgbdata[i]` is the
conversion of the last of these and stays so. -/
lemma settled (hpre : PipelineRun c m pre t) (htr : tr = pre ++ post)
    (hcount : occurrences tr (.dqbuf i) ≤ occurrences pre (.sendMsg i)) :
    t.rgbdata i = rgbAfter c (m.rgbdata i) (framesOf i tr) := by
  subst htr
  have hsending := sending_balance i hpre
  have hle := converted_le_frames i hpre
  rw [occurrences_append, ← length_framesOf i pre, ← length_framesOf i post] at hcount
  have hidle : (t.worker i).isConverting = false := by
    cases hw : (t.worker i).isConverting with
    | false => rfl
    | true =>
        rw [hw, if_pos rfl] at hle
        omega
  rw [(contents i hpre).idle hidle, framesOf_append, List.take_of_length_le (by omega),
    List.eq_nil_of_length_eq_zero (show (framesOf i post).length = 0 by omega), List.append_nil]

/-- **No lost final frame.**  Nothing is queued, the display thread waits for a message and buffer
`i` has no work outstanding.  If a frame was ever dequeued with index `i`, then the last pass over
`rgbdata[i]` copied every row from the conversion of the last such frame. -/
theorem last_frame_shown (h : PipelineRun c m tr s) (hqueue : s.queue = [])
    (hdisplay : s.display = .receiving) (hworker : s.worker i = .waiting) (hsem : s.sem i = 0)
    (hcapture : s.capture ≠ .posting i) (hsome : 0 < occurrences tr (.dqbuf i)) :
    ∃ pre mid post t₁ t₂ f rgb,
      tr = pre ++ (t₁, .recvMsg i) :: mid ++ (t₂, .shown i) :: post ∧
      (∀ e ∈ mid, e.2.agent = .display → ∃ row, e.2 = .showRow i row) ∧
      occurrences post (.recvMsg i) = 0 ∧
      (framesOf i tr).getLast? = some f ∧
      convertYuvToRgb565Buffer c.tables (unbounded f.content) (unbounded (m.rgbdata i)) c.width
        c.height = some (unbounded rgb) ∧
      (∀ row < c.kms.fbHight.toNat, ∃ t, (t, Label.showRow i row) ∈ mid ∧ t.rgbdata i = rgb) ∧
      (∀ t row, (t, Label.showRow i row) ∈ mid → t.rgbdata i = rgb) ∧
      lcdShowCamear c.kms (unbounded t₁.fbMap) (unbounded rgb) (toLong c.width) (toLong c.height)
        = some (unbounded t₂.fbMap) := by
  -- everything dequeued has been converted, sent and received
  have hhand := hand_balance i h
  have hsemaphore := sem_balance i h
  have hconverting := converting_balance i h
  have hsending := sending_balance i h
  have hqueued := queue_balance i h
  rw [if_neg hcapture] at hhand
  rw [hworker] at hconverting hsending
  rw [hqueue] at hqueued
  simp only [Worker.isConverting, reduceCtorEq, List.countP_nil, if_false, Bool.false_eq_true]
    at hconverting hsending hqueued
  obtain ⟨pre, t₁, rest, htr, hlast⟩ := exists_last_entry
    (show 0 < occurrences tr (.recvMsg i) by omega)
  have hreceived : occurrences tr (.recvMsg i) = occurrences pre (.recvMsg i) + 1 := by
    rw [htr, occurrences_append, occurrences_cons, hlast, if_pos rfl]
  obtain ⟨hpre, t₁', hrecv, hrest⟩ := (htr ▸ h : PipelineRun c m _ s).cut
  -- so `rgbdata[i]` does not change after the last receipt
  have hend : s.rgbdata i = rgbAfter c (m.rgbdata i) (framesOf i tr) :=
    settled h (List.append_nil tr).symm (by omega)
  have hrgb : ∀ e ∈ rest, e.1.rgbdata i = s.rgbdata i := by
    intro e he
    obtain ⟨x, y, rfl⟩ := List.append_of_mem he
    have hsplit : tr = (pre ++ (t₁, .recvMsg i) :: x) ++ e :: y := by
      rw [htr, List.append_assoc, List.cons_append]
    have hcut : PipelineRun c m (pre ++ (t₁, .recvMsg i) :: x) e.1 :=
      (hsplit ▸ h : PipelineRun c m _ s).cut.1
    have hqueued' := queue_balance i hcut
    rw [occurrences_append pre, occurrences_cons, if_pos rfl] at hqueued'
    rw [hend]
    exact settled hcut hsplit (by omega)
  obtain ⟨_, _, _, rfl⟩ := step_recvMsg.mp hrecv
  rcases drawing hrest rfl hrgb with ⟨row, hd⟩ | ⟨mid, t₂, post, rfl, hd⟩
  · rw [hd.display] at hdisplay
    cases hdisplay
  · have hall : (framesOf i tr).take (occurrences tr (.converted i)) = framesOf i tr :=
      List.take_of_length_le (by rw [length_framesOf]; omega)
    obtain ⟨f, hf⟩ := exists_newestFrame (i := i) h (by omega)
    have hidle : (s.worker i).isConverting = false := by rw [hworker]; rfl
    refine ⟨pre, mid, post, t₁, t₂, f, s.rgbdata i, by rw [htr]; simp, hd.only, ?_, ?_,
      convert_newest h hf hidle, hd.copied, ?_, hd.drawn⟩
    · rw [occurrences_append, occurrences_cons] at hlast
      omega
    · rwa [newestFrame, hall] at hf
    · intro t row ht
      exact hrgb _ (List.mem_append_left _ ht)

/-- One frame, shown to the end. -/
theorem last_frame_shown_once : ∃ tr s t₁ t₂ f rgb,
    PipelineRun (macropixelConfig 1 Nat.one_pos) (zeroMemories 1) tr s ∧
    (t₁, Label.recvMsg 0) ∈ tr ∧ (t₂, Label.shown 0) ∈ tr ∧
    (framesOf 0 tr).getLast? = some f ∧
    convertYuvToRgb565Buffer (macropixelConfig 1 Nat.one_pos).tables (unbounded f.content)
      (unbounded ((zeroMemories 1).rgbdata 0)) 2 1 = some (unbounded rgb) ∧
    lcdShowCamear (macropixelConfig 1 Nat.one_pos).kms (unbounded t₁.fbMap) (unbounded rgb)
      (toLong 2) (toLong 1) = some (unbounded t₂.fbMap) := by
  have h := run_of_replay [.driverWrite 0 0 235, .driverDone 0, .poll, .dqbuf 0, .semPost 0,
    .semWait 0, .convert 0, .converted 0, .sendMsg 0, .recvMsg 0, .qbuf 0, .showRow 0 0, .shown 0]
    (show replay (step (macropixelConfig 1 Nat.one_pos)) (pipelineStart (zeroMemories 1)) _
      = some (_, _) from rfl)
  have hshown := last_frame_shown (i := 0) h (by decide) (by decide) (by decide) (by decide)
    (by decide) (by decide)
  obtain ⟨pre, mid, post, t₁, t₂, f, rgb, htr, -, -, hf, hrgb, -, -, hfb⟩ := hshown
  exact ⟨_, _, t₁, t₂, f, rgb, h, by rw [htr]; simp, by rw [htr]; simp, hf, hrgb, hfb⟩

end Rest

end Mp157
