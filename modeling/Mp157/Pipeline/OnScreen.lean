import Mp157.Camera.CameraToScreen
import Mp157.Pipeline.Work

/-!
# What is on the screen

While the pipeline runs, the display thread copies from buffers that workers write, so the screen
may show rows of several frames.  Still:

* `screen_from` — every byte of the framebuffer is the one it had at the start, or the one at its
  place in the conversion of a frame that was captured earlier; outside the picture nothing ever
  changes.
* `resting_screen` — at rest the screen is one frame, whole, over what was there at the start.
-/

namespace Mp157

open Transition ByteMemory MessageQueue

/-! ## Places -/

section Places

variable {kms : KmsConfig} {w h : UInt32} {off : ℤ}

/-- The place in the picture of a byte of the framebuffer. -/
def pictureOffset (kms : KmsConfig) (w : UInt32) (off : ℤ) : ℤ :=
  2 * (w.toNat * (off / kms.fbLineSize.toNat)) + off % kms.fbLineSize.toNat

/-- The picture by row and place in it. -/
lemma inPicture_iff (hg : kms.Rgb565Geometry) : InPicture kms w h off ↔
    0 ≤ off ∧ off / kms.fbLineSize.toNat < (min kms.fbHight.toNat h.toNat : ℕ) ∧
      off % kms.fbLineSize.toNat < 2 * (min kms.fbWidht.toNat w.toNat : ℕ) := by
  have hge := hg.line_ge
  constructor
  · rintro ⟨i, j, hi, hj, hoff⟩
    obtain ⟨d, hd₀, hd₂, rfl⟩ : ∃ d : ℤ, 0 ≤ d ∧ d < 2 ∧
        off = i * kms.fbLineSize.toNat + (2 * j + d) := by
      rcases hoff with rfl | rfl
      · exact ⟨0, by omega, by omega, by ring⟩
      · exact ⟨1, by omega, by omega, by ring⟩
    have hpos : (0 : ℤ) < kms.fbLineSize.toNat := by omega
    have hnonneg : (0 : ℤ) ≤ i * kms.fbLineSize.toNat :=
      mul_nonneg (Int.natCast_nonneg _) (Int.natCast_nonneg _)
    have hrow : (i * kms.fbLineSize.toNat + (2 * j + d)) / (kms.fbLineSize.toNat : ℤ) = i := by
      rw [Int.ediv_eq_iff_of_pos hpos]
      constructor <;> omega
    have hcol : (i * kms.fbLineSize.toNat + (2 * j + d)) % (kms.fbLineSize.toNat : ℤ)
        = 2 * j + d := by
      have hdivmod := Int.mul_ediv_add_emod (i * kms.fbLineSize.toNat + (2 * j + d))
        kms.fbLineSize.toNat
      rw [hrow, mul_comm] at hdivmod
      omega
    rw [hrow, hcol]
    omega
  · intro hin
    by_contra hout
    have hsame := pictureMem_outside (fun _ => 0) (fun _ => 1) hout
    rw [pictureMem, if_pos hin] at hsame
    cases hsame

/-- A picture of less than 2 GiB is converted in rounds that can be counted, and whole. -/
lemma rounds_of_size (hsize : 2 * w.toNat * h.toNat < 2 ^ 31) :
    convertRounds w h < 2 ^ 30 ∧ 2 * w.toNat * h.toNat ≤ 4 * convertRounds w h := by
  rw [mul_assoc] at hsize ⊢
  have hbytes := convertSize_eq (w := w) (h := h) (by omega)
  rw [convertRounds, hbytes]
  omega

/-- The place belongs to the picture, and to what its conversion writes. -/
lemma pictureOffset_bounds (hg : kms.Rgb565Geometry) (hsize : 2 * w.toNat * h.toNat < 2 ^ 31)
    (hin : InPicture kms w h off) : 0 ≤ pictureOffset kms w off ∧
      pictureOffset kms w off < (2 * w.toNat * h.toNat : ℕ) ∧
      pictureOffset kms w off < 4 * (convertRounds w h : ℕ) := by
  have hge := hg.line_ge
  obtain ⟨h₀, hrow, hcol⟩ := (inPicture_iff hg).mp hin
  have hdiv := Int.ediv_nonneg h₀ (Int.natCast_nonneg kms.fbLineSize.toNat)
  have hmod : 0 ≤ off % (kms.fbLineSize.toNat : ℤ) := by
    rcases Nat.eq_zero_or_pos kms.fbLineSize.toNat with hz | hpos
    · rwa [hz, Nat.cast_zero, Int.emod_zero]
    · exact Int.emod_nonneg off (by omega)
  have hnonneg : 0 ≤ (w.toNat : ℤ) * (off / kms.fbLineSize.toNat) :=
    mul_nonneg (Int.natCast_nonneg _) hdiv
  obtain ⟨row, hrow'⟩ := Int.eq_ofNat_of_zero_le hdiv
  have hend : pictureOffset kms w off < (2 * w.toNat * h.toNat : ℕ) := by
    refine @lt_of_row _ _ row _ (2 * w.toNat) (by omega) le_rfl ?_
    have hwide : ((min kms.fbWidht.toNat w.toNat : ℕ) : ℤ) ≤ w.toNat := by
      exact_mod_cast min_le_right _ _
    rw [pictureOffset, hrow']
    push_cast at hwide hcol ⊢
    linarith
  have hrounds := (rounds_of_size hsize).2
  refine ⟨by rw [pictureOffset]; omega, hend, by omega⟩

/-- A drawing shows the picture inside, and what it was drawn over outside. -/
lemma pictureMem_congr (hg : kms.Rgb565Geometry) {fb fb' p p' : Mem}
    (houtside : ∀ off, ¬ InPicture kms w h off → fb off = fb' off)
    (hinside : ∀ off, InPicture kms w h off →
      p (pictureOffset kms w off) = p' (pictureOffset kms w off)) :
    pictureMem fb p kms.fbLineSize.toNat w.toNat (min kms.fbHight.toNat h.toNat)
        (min kms.fbWidht.toNat w.toNat)
      = pictureMem fb' p' kms.fbLineSize.toNat w.toNat (min kms.fbHight.toNat h.toNat)
        (min kms.fbWidht.toNat w.toNat) := by
  funext off
  by_cases hin : InPicture kms w h off
  · have hbounds := (inPicture_iff hg).mp hin
    rw [pictureMem, pictureMem, if_pos hbounds, if_pos hbounds]
    exact hinside off hin
  · rw [pictureMem_outside _ _ hin, pictureMem_outside _ _ hin]
    exact houtside off hin

end Places

/-! ## While it runs -/

section Runs

variable {c : Config} {m : Memories c.uCount} {s s' : State c.uCount} {tr : Trace c.uCount}

/-- One row, byte by byte. -/
lemma fbMap_showRow (hg : c.kms.Rgb565Geometry)
    (hsize : 2 * c.width.toNat * c.height.toNat < 2 ^ 31) {i : Fin c.uCount} {row : ℕ}
    (hstep : step c s (.showRow i row) = some s') (off : ℤ) :
    (InPicture c.kms c.width c.height off → off / c.kms.fbLineSize.toNat = row →
      s'.fbMap off = s.rgbdata i (pictureOffset c.kms c.width off)) ∧
    (¬ (InPicture c.kms c.width c.height off ∧ off / c.kms.fbLineSize.toNat = row) →
      s'.fbMap off = s.fbMap off) := by
  obtain ⟨⟨_, hrow⟩, fbMap, hdraw, rfl⟩ := step_showRow.mp hstep
  rw [lcdShowCamearRow_fits hg hsize (unbounded_holds _ _) (unbounded_holds _ _) hrow] at hdraw
  obtain rfl := Option.some.inj hdraw
  have hge := hg.line_ge
  have hblit := @blit_row s.fbMap (s.rgbdata i) _ c.width.toNat _ row
    (show 2 * (if row < c.height.toNat then min c.kms.fbWidht.toNat c.width.toNat else 0)
      ≤ c.kms.fbLineSize.toNat by split_ifs <;> omega) off
  simp only [unbounded_byte, hblit]
  rw [inPicture_iff hg]
  constructor
  · rintro ⟨h₀, hlt, hcol⟩ heq
    rw [if_pos, pictureOffset]
    rw [if_pos (by omega)]
    exact ⟨h₀, heq, hcol⟩
  · intro hnot
    rw [if_neg]
    rintro ⟨h₀, heq, hcol⟩
    split_ifs at hcol with hh
    · exact hnot ⟨⟨h₀, by omega, hcol⟩, heq⟩
    · rw [Nat.cast_zero, mul_zero] at hcol
      rcases Nat.eq_zero_or_pos c.kms.fbLineSize.toNat with hz | hpos
      · rw [hz, Nat.cast_zero, Int.emod_zero] at hcol
        omega
      · exact absurd hcol (not_lt.mpr (Int.emod_nonneg off (by omega)))

/-- The byte is the one at this place in the conversion of a frame that was dequeued. -/
def OfFrame (c : Config) (tr : Trace c.uCount) (off : ℤ) (x : UInt8) : Prop :=
  ∃ k, ∃ f ∈ framesOf k tr, x = convertedByte c.tables f.content (pictureOffset c.kms c.width off)

lemma OfFrame.append {off : ℤ} {x : UInt8} (hx : OfFrame c tr off x) (tr' : Trace c.uCount) :
    OfFrame c (tr ++ tr') off x := by
  obtain ⟨k, f, hf, rfl⟩ := hx
  refine ⟨k, f, ?_, rfl⟩
  rw [framesOf_append]
  exact List.mem_append_left _ hf

/-- A byte that the display thread copies. -/
lemma ofFrame_showRow (h : PipelineRun c m tr s) (hg : c.kms.Rgb565Geometry)
    (hsize : 2 * c.width.toNat * c.height.toNat < 2 ^ 31) {i : Fin c.uCount} {row : ℕ}
    (hd : s.display = .showing i row) {off : ℤ} (hin : InPicture c.kms c.width c.height off) :
    OfFrame c tr off (s.rgbdata i (pictureOffset c.kms c.width off)) := by
  obtain ⟨h₀, -, hend⟩ := pictureOffset_bounds hg hsize hin
  obtain ⟨j, f, -, hf, hbyte⟩ := rgbdata_from h (converted_pos_of_showing h hd) h₀ hend
  exact ⟨i, f, List.mem_of_getElem? hf, hbyte⟩

/-- A byte of the picture that is not of a frame yet lies before the display thread. -/
def NotYet (c : Config) (m : Memories c.uCount) (tr : Trace c.uCount) (s : State c.uCount)
    (off : ℤ) : Prop :=
  s.fbMap off = m.fbMap off ∧ framesShown tr = 0 ∧
    ∀ i row, s.display = .showing i row → (row : ℤ) ≤ off / c.kms.fbLineSize.toNat

lemma framesShown_snoc (tr : Trace c.uCount) (s : State c.uCount) {l : Label c.uCount}
    (hl : ∀ i, l ≠ .shown i) : framesShown (tr ++ [(s, l)]) = framesShown tr := by
  simp [framesShown, hl]

/-- The invariant of the screen. -/
lemma screen_bytes (h : PipelineRun c m tr s) (hg : c.kms.Rgb565Geometry)
    (hsize : 2 * c.width.toNat * c.height.toNat < 2 ^ 31) (off : ℤ) :
    (¬ InPicture c.kms c.width c.height off → s.fbMap off = m.fbMap off) ∧
    (InPicture c.kms c.width c.height off →
      OfFrame c tr off (s.fbMap off) ∨ NotYet c m tr s off) := by
  refine h.invariant_trace (I := fun tr s =>
    (¬ InPicture c.kms c.width c.height off → s.fbMap off = m.fbMap off) ∧
    (InPicture c.kms c.width c.height off →
      OfFrame c tr off (s.fbMap off) ∨ NotYet c m tr s off)) ?_ ?_
  · exact ⟨fun _ => rfl, fun _ => .inr ⟨rfl, by simp [framesShown], by simp [pipelineStart]⟩⟩
  rintro tr s l s' hrun ⟨houtside, hinside⟩ hstep
  cases l with
  | showRow i row =>
      have hfb := fbMap_showRow hg hsize hstep off
      obtain ⟨⟨hd, _⟩, _, _, rfl⟩ := step_showRow.mp hstep
      refine ⟨fun hout => ?_, fun hin => ?_⟩
      · rw [hfb.2 fun hboth => hout hboth.1]
        exact houtside hout
      · by_cases hrow : off / (c.kms.fbLineSize.toNat : ℤ) = row
        · rw [hfb.1 hin hrow]
          exact .inl ((ofFrame_showRow hrun hg hsize hd hin).append _)
        · replace hfb := hfb.2 fun hboth => hrow hboth.2
          rcases hinside hin with hframe | ⟨hbyte, hnone, hahead⟩
          · exact .inl (hfb ▸ hframe.append _)
          · refine .inr ⟨hfb.trans hbyte, by rw [framesShown_snoc _ _ (by simp)]; exact hnone, ?_⟩
            intro j row' hd'
            obtain ⟨-, rfl⟩ : i = j ∧ row + 1 = row' := by simpa using hd'
            have hle := hahead i row hd
            push_cast
            omega
  | shown i =>
      obtain ⟨row, hd, hlast, rfl⟩ := step_shown.mp hstep
      refine ⟨houtside, fun hin => ?_⟩
      rcases hinside hin with hframe | ⟨_, _, hahead⟩
      · exact .inl (hframe.append _)
      · -- the pass is over, so the row of this byte was drawn
        have hrow := ((inPicture_iff hg).mp hin).2.1
        have hle := hahead i row hd
        omega
  | recvMsg i =>
      obtain ⟨_, _, _, rfl⟩ := step_recvMsg.mp hstep
      refine ⟨houtside, fun hin => ?_⟩
      rcases hinside hin with hframe | ⟨hbyte, hnone, _⟩
      · exact .inl (hframe.append _)
      · refine .inr ⟨hbyte, by rw [framesShown_snoc _ _ (by simp)]; exact hnone, ?_⟩
        intro j row' hd'
        obtain ⟨-, rfl⟩ : i = j ∧ 0 = row' := by simpa using hd'
        exact_mod_cast Int.ediv_nonneg ((inPicture_iff hg).mp hin).1 (Int.natCast_nonneg _)
  | _ =>
      have hframe := step_frame hstep
      rw [hframe.fbMap (by simp)]
      refine ⟨houtside, fun hin => ?_⟩
      rcases hinside hin with hof | ⟨hbyte, hnone, hahead⟩
      · exact .inl (hof.append _)
      · refine .inr ⟨(congrFun (hframe.fbMap (by simp)) off).trans hbyte, ?_, ?_⟩
        · rw [framesShown_snoc _ _ (by simp)]
          exact hnone
        · rw [hframe.display (by simp [Label.agent])]
          exact hahead

/-- **Where the bytes of the screen come from.**  In every run a byte outside the picture is as it
was at the start.  A byte of the picture is, at its place, of a frame that was captured, or else
as it was at the start; the latter only until `lcd_show_camear` has returned once. -/
theorem screen_from (h : PipelineRun c m tr s) (hg : c.kms.Rgb565Geometry)
    (hsize : 2 * c.width.toNat * c.height.toNat < 2 ^ 31) (off : ℤ) :
    (¬ InPicture c.kms c.width c.height off → s.fbMap off = m.fbMap off) ∧
    (InPicture c.kms c.width c.height off →
      OfFrame c tr off (s.fbMap off) ∨ s.fbMap off = m.fbMap off ∧ framesShown tr = 0) := by
  obtain ⟨houtside, hinside⟩ := screen_bytes h hg hsize off
  exact ⟨houtside, fun hin => (hinside hin).imp_right fun hnot => ⟨hnot.1, hnot.2.1⟩⟩

/-- After one pass the first byte of the screen is of a frame. -/
theorem screen_from_once : ∃ tr s,
    PipelineRun (macropixelConfig 1 Nat.one_pos) (zeroMemories 1) tr s ∧ framesShown tr = 1 ∧
    OfFrame (macropixelConfig 1 Nat.one_pos) tr 0 (s.fbMap 0) := by
  have h := run_of_replay [.driverWrite 0 0 235, .driverDone 0, .poll, .dqbuf 0, .semPost 0,
    .semWait 0, .convert 0, .converted 0, .sendMsg 0, .recvMsg 0, .qbuf 0, .showRow 0 0, .shown 0]
    (show replay (step (macropixelConfig 1 Nat.one_pos)) (pipelineStart (zeroMemories 1)) _
      = some (_, _) from rfl)
  have hfrom := (screen_from h ⟨by decide, by decide, by decide, by decide, by decide, by decide⟩
    (by decide) 0).2 ⟨0, 0, by decide, by decide, .inl (by decide)⟩
  refine ⟨_, _, h, by decide, hfrom.resolve_right ?_⟩
  rintro ⟨-, hnone⟩
  exact absurd hnone (by decide)

/-! ## At rest -/

lemma exists_last_of {n : ℕ} (P : State n × Label n → Prop) (tr : Trace n) :
    (∀ e ∈ tr, ¬ P e) ∨ ∃ pre e post, tr = pre ++ e :: post ∧ P e ∧ ∀ e' ∈ post, ¬ P e' := by
  classical
  induction tr using List.reverseRecOn with
  | nil => exact .inl (by simp)
  | append_singleton tr e ih =>
      by_cases he : P e
      · exact .inr ⟨tr, e, [], rfl, he, by simp⟩
      · rcases ih with hnone | ⟨pre, e₁, post, rfl, he₁, hpost⟩
        · refine .inl fun e' he' => ?_
          rcases List.mem_append.mp he' with he' | he'
          · exact hnone e' he'
          · exact List.mem_singleton.mp he' ▸ he
        · refine .inr ⟨pre, e₁, post ++ [e], by simp, he₁, fun e' he' => ?_⟩
          rcases List.mem_append.mp he' with he' | he'
          · exact hpost e' he'
          · exact List.mem_singleton.mp he' ▸ he

/-- Once it receives nothing more, a display thread that waits leaves the screen alone. -/
lemma fbMap_of_no_recv {s₁ : State c.uCount} (h : Run (step c) s₁ tr s)
    (hd : s₁.display = .receiving) (hno : ∀ e ∈ tr, ∀ i, e.2 ≠ .recvMsg i) :
    s.display = .receiving ∧ s.fbMap = s₁.fbMap := by
  induction h with
  | nil => exact ⟨hd, rfl⟩
  | @snoc tr s s' l _ hstep ih =>
      obtain ⟨hd', hfb⟩ := ih fun e he => hno e (List.mem_append_left _ he)
      cases l with
      | recvMsg i => exact absurd rfl (hno (s, .recvMsg i) (by simp) i)
      | showRow i row =>
          obtain ⟨⟨hshow, _⟩, _⟩ := step_showRow.mp hstep
          rw [hd'] at hshow
          cases hshow
      | shown i =>
          obtain ⟨_, hshow, _⟩ := step_shown.mp hstep
          rw [hd'] at hshow
          cases hshow
      | _ =>
          have hframe := step_frame hstep
          exact ⟨(hframe.display nofun).trans hd', (hframe.fbMap nofun).trans hfb⟩

/-- At rest, everything dequeued has been received. -/
lemma received_of_atRest (h : PipelineRun c m tr s) (hrest : AtRest s) (i : Fin c.uCount) :
    occurrences tr (.recvMsg i) = occurrences tr (.dqbuf i) := by
  have hhand := hand_balance i h
  have hsem := sem_balance i h
  have hconverting := converting_balance i h
  have hsending := sending_balance i h
  have hqueue := queue_balance i h
  simp only [hrest.capture, hrest.sem, hrest.worker, hrest.queue, Worker.isConverting,
    reduceCtorEq, List.countP_nil, if_false, Bool.false_eq_true]
    at hhand hsem hconverting hsending hqueue
  omega

/-- Where nothing was received, nothing was captured. -/
lemma captured_of_no_recv (h : PipelineRun c m tr s) (hrest : AtRest s)
    (hno : ∀ e ∈ tr, ∀ i, e.2 ≠ .recvMsg i) : s.captured = 0 ∧ s.fbMap = m.fbMap := by
  refine ⟨?_, (fbMap_of_no_recv h rfl hno).2⟩
  rw [captured_balance h]
  have hshown : framesShown tr = 0 := by
    refine Finset.sum_eq_zero fun i _ => ?_
    have hzero : occurrences tr (.recvMsg i) = 0 := occurrences_eq_zero fun e he => hno e he i
    have hshowing := showing_balance i h
    omega
  simp [hshown, unsent, hrest.driver, hrest.queue, hrest.display]

/-- Once as many messages are received as frames dequeued, the picture does not change. -/
lemma rgbdata_after_recv {pre post : Trace c.uCount} {t : State c.uCount} {i : Fin c.uCount}
    (h : PipelineRun c m tr s) (htr : tr = pre ++ (t, .recvMsg i) :: post)
    (hcount : occurrences pre (.recvMsg i) + 1 = occurrences tr (.dqbuf i)) :
    ∀ e ∈ post, e.1.rgbdata i = rgbAfter c (m.rgbdata i) (framesOf i tr) := by
  intro e he
  obtain ⟨x, y, rfl⟩ := List.append_of_mem he
  have hsplit : tr = (pre ++ (t, .recvMsg i) :: x) ++ e :: y := by
    rw [htr, List.append_assoc, List.cons_append]
  have hcut : PipelineRun c m (pre ++ (t, .recvMsg i) :: x) e.1 :=
    (hsplit ▸ h : PipelineRun c m _ s).cut.1
  have hqueue := queue_balance i hcut
  rw [occurrences_append pre, occurrences_cons, if_pos rfl] at hqueue
  exact settled hcut hsplit (by omega)

/-- A pass begun with the last message, over a picture `rgb` that does not change. -/
lemma fbMap_of_last_pass {s₁ : State c.uCount} {i : Fin c.uCount} {rgb : Mem}
    (h : Run (step c) s₁ tr s) (hd : s₁.display = .showing i 0)
    (hrgb : ∀ e ∈ tr, e.1.rgbdata i = rgb) (hno : ∀ e ∈ tr, ∀ j, e.2 ≠ .recvMsg j)
    (hrest : AtRest s) : lcdShowCamear c.kms (unbounded s₁.fbMap) (unbounded rgb) (toLong c.width)
      (toLong c.height) = some (unbounded s.fbMap) := by
  rcases drawing h hd hrgb with ⟨row, hdraw⟩ | ⟨mid, t₂, rest, rfl, hdraw⟩
  · cases hdraw.display.symm.trans hrest.display
  · obtain ⟨_, t₂', hshown, hend⟩ := h.cut
    obtain ⟨_, _, _, rfl⟩ := step_shown.mp hshown
    rw [(fbMap_of_no_recv hend rfl fun e he =>
      hno e (List.mem_append_right _ (List.mem_cons_of_mem _ he))).2]
    exact hdraw.drawn

/-- **The screen at rest.**  Either nothing was ever captured and the screen is as at the start; or
some message was received last, and the screen is the frame dequeued last with its index, whole,
drawn over what was there at the start. -/
theorem resting_screen (h : PipelineRun c m tr s) (hg : c.kms.Rgb565Geometry)
    (hsize : 2 * c.width.toNat * c.height.toNat < 2 ^ 31) (hrest : AtRest s) :
    (s.captured = 0 ∧ s.fbMap = m.fbMap) ∨
    ∃ pre t i post f, tr = pre ++ (t, .recvMsg i) :: post ∧
      (∀ e ∈ post, ∀ j, e.2 ≠ .recvMsg j) ∧ (framesOf i tr).getLast? = some f ∧
      s.fbMap = pictureMem m.fbMap
        (convertedMem c.tables f.content (convertRounds c.width c.height) (m.rgbdata i))
        c.kms.fbLineSize.toNat c.width.toNat (min c.kms.fbHight.toNat c.height.toNat)
        (min c.kms.fbWidht.toNat c.width.toNat) := by
  rcases exists_last_of (fun e => ∃ i, e.2 = .recvMsg i) tr with hnone | hlast
  · exact .inl (captured_of_no_recv h hrest fun e he i hi => hnone e he ⟨i, hi⟩)
  obtain ⟨pre, ⟨t, l⟩, post, htr, ⟨i, hl⟩, hpost⟩ := hlast
  obtain rfl : l = .recvMsg i := hl
  have hno : ∀ e ∈ post, ∀ j, e.2 ≠ .recvMsg j := fun e he j hj => hpost e he ⟨j, hj⟩
  have hcount := received_of_atRest h hrest i
  rw [htr, occurrences_append, occurrences_cons, occurrences_eq_zero fun e he => hno e he i,
    if_pos rfl, ← htr] at hcount
  have hframes : framesOf i tr ≠ [] := by
    rw [← List.length_pos_iff, length_framesOf]
    omega
  obtain ⟨f, hf⟩ := Option.isSome_iff_exists.mp (List.getLast?_isSome.mpr hframes)
  obtain ⟨earlier, heq⟩ := List.getLast?_eq_some_iff.mp hf
  refine .inr ⟨pre, t, i, post, f, htr, hno, hf, ?_⟩
  have hrgb := rgbdata_after_recv h htr (by omega)
  rw [heq, rgbAfter_last] at hrgb
  obtain ⟨hpre, t', hrecv, hrun⟩ := (htr ▸ h : PipelineRun c m _ s).cut
  obtain ⟨_, _, _, rfl⟩ := step_recvMsg.mp hrecv
  have hdraw := fbMap_of_last_pass hrun rfl hrgb hno hrest
  rw [lcdShowCamear_eq hg hsize (unbounded_holds _ _) (unbounded_holds _ _)] at hdraw
  refine (congrArg Block.byte (Option.some.inj hdraw)).symm.trans ?_
  refine pictureMem_congr hg ?_ fun _ _ => rfl
  exact fun off hout => (screen_bytes hpre hg hsize off).1 hout

/-- One frame, shown and left on the screen. -/
theorem resting_screen_once : ∃ tr s f,
    PipelineRun (macropixelConfig 1 Nat.one_pos) (zeroMemories 1) tr s ∧ s.captured = 1 ∧
    f ∈ framesOf 0 tr ∧ s.fbMap = pictureMem (fun _ => 0)
      (convertedMem (macropixelConfig 1 Nat.one_pos).tables f.content (convertRounds 2 1)
        (fun _ => 0)) 4 2 1 2 := by
  have h := run_of_replay [.driverWrite 0 0 235, .driverDone 0, .poll, .dqbuf 0, .semPost 0,
    .semWait 0, .convert 0, .converted 0, .sendMsg 0, .recvMsg 0, .qbuf 0, .showRow 0 0, .shown 0]
    (show replay (step (macropixelConfig 1 Nat.one_pos)) (pipelineStart (zeroMemories 1)) _
      = some (_, _) from rfl)
  have hscreen := resting_screen h
    ⟨by decide, by decide, by decide, by decide, by decide, by decide⟩ (by decide)
    ⟨by decide, by decide, by decide, by decide, by decide, by decide⟩
  rcases hscreen with ⟨hzero, -⟩ | ⟨_, _, i, _, f, -, -, hf, hfb⟩
  · exact absurd hzero (by decide)
  · obtain rfl : i = 0 := Subsingleton.elim _ _
    exact ⟨_, _, f, h, by decide, List.mem_of_getLast? hf, hfb⟩

end Runs

end Mp157
