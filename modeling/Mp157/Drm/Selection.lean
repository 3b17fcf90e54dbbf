import Mathlib.Data.Nat.Bitwise
import Mp157.Camera.Screen
import Mp157.Library.Stages

/-!
# Choosing a display (`drm_FindConnector` in `drmFun.c`)

The kernel reports connectors, encoders and CRTCs, with what is bound to what at the moment.
`drm_FindConnector` takes the first connector that is connected, has a mode, and whose encoder
drives a CRTC or could drive one.

* `visitConnector_cases` — what it does with one connector, by the encoder bound to it.
* `selection_sound_iff` — the selection is a usable one, except where an encoder that drives no
  CRTC is taken: `drm_kms_init` then stores 0, not the CRTC found.
* `selection_complete_iff` — when the search finds something where there is something: it looks
  at the bound encoder only, and dereferences `NULL` at a connector without one.
-/

namespace Mp157

open Stages

/-! ## What the kernel reports -/

/-- `drmModeModeInfo` -/
structure ModeInfo where
  clock : UInt32
  hdisplay : UInt16
  hsyncStart : UInt16
  hsyncEnd : UInt16
  htotal : UInt16
  hskew : UInt16
  vdisplay : UInt16
  vsyncStart : UInt16
  vsyncEnd : UInt16
  vtotal : UInt16
  vscan : UInt16
  vrefresh : UInt32
  flags : UInt32
  type : UInt32
  name : Vector UInt8 32
deriving DecidableEq

/-- `drmModeConnection` -/
inductive Connection
  | connected
  | disconnected
  | unknown
deriving DecidableEq

/-- The fields of `drmModeConnector` that are looked at.  `encoderId` is the encoder bound to it,
0 for none. -/
structure Connector where
  connectorId : UInt32
  encoderId : UInt32
  connection : Connection
  modes : List ModeInfo
  encoders : List UInt32

/-- The fields of `drmModeEncoder` that are looked at.  `crtcId` is the CRTC it drives, 0 for
none. -/
structure Encoder where
  encoderId : UInt32
  crtcId : UInt32
  possibleCrtcs : UInt32

/-- Connectors, encoders and CRTCs as the kernel may report them. -/
structure DrmTable where
  /-- `resources->crtcs` -/
  crtcs : List UInt32
  /-- `resources->connectors` -/
  connectors : List UInt32
  /-- `drmModeGetConnector`; `none` is `NULL`. -/
  getConnector : UInt32 → Option Connector
  /-- `drmModeGetEncoder`; `none` is `NULL`. -/
  getEncoder : UInt32 → Option Encoder
  crtcs_le : crtcs.length ≤ 32
  connectorId_eq : ∀ {id c}, getConnector id = some c → c.connectorId = id
  encoderId_eq : ∀ {id e}, getEncoder id = some e → e.encoderId = id
  /-- The encoder bound to a connector is one of its encoders. -/
  encoder_mem : ∀ {id c}, getConnector id = some c → c.encoderId ≠ 0 → c.encoderId ∈ c.encoders
  /-- The CRTC an encoder drives is one of the CRTCs. -/
  crtc_mem : ∀ {id e}, getEncoder id = some e → e.crtcId ≠ 0 → e.crtcId ∈ crtcs

/-- `drmModeCrtc`: what a CRTC shows, and how. -/
structure CrtcConfig where
  crtcId : UInt32
  /-- The framebuffer it scans out, 0 for none. -/
  bufferId : UInt32
  x : UInt32
  y : UInt32
  width : UInt32
  height : UInt32
  modeValid : Bool
  mode : ModeInfo
  gammaSize : ℤ

/-- The result of `mmap`. -/
inductive MapAddr
  | null
  /-- `MAP_FAILED` -/
  | mapFailed
  | at (addr : UInt32)
deriving DecidableEq

/-- The fields of `struct kms_config` that the set-up of the display uses. -/
structure Kms extends KmsConfig where
  fbHandle : UInt32
  fbMap : MapAddr
  fbId : UInt32
  connId : UInt32
  encoderId : UInt32
  crtcId : UInt32
  /-- `none` is `NULL`. -/
  oldCrtc : Option CrtcConfig
  mode : ModeInfo

/-! ## The search -/

/-- Records the choice; `modes[0]` has to exist. -/
def drmKmsInit (connector : Connector) (encoder : Encoder) (kms : Kms) : Outcome Kms :=
  match connector.modes with
  | [] => .crashed
  | mode :: _ =>
      .done { kms with
        connId := connector.connectorId
        encoderId := encoder.encoderId
        crtcId := encoder.crtcId
        mode := mode
        fbWidht := mode.hdisplay.toUInt32
        fbHight := mode.vdisplay.toUInt32 }

/-- CRTC `j`, tried for an encoder. -/
def tryCrtc (connector : Connector) (encoder : Encoder) (j : ℕ) (kms : Kms) : Outcome Kms :=
  if encoder.possibleCrtcs &&& (1 <<< UInt32.ofNat j) = 0 then .failed kms
  else drmKmsInit connector encoder kms

/-- Tries every CRTC for every encoder of the connector; the encoder it asks for in each round is
the one bound to the connector. -/
def drmFindCrtc (t : DrmTable) (connector : Connector) : Kms → Outcome Kms :=
  tryEach (fun _ kms =>
    match t.getEncoder connector.encoderId with
    | none => .failed kms
    | some encoder => tryEach (tryCrtc connector encoder) (List.range t.crtcs.length) kms)
    (List.range connector.encoders.length)

/-- The encoder bound to the connector, if there is one and it can be read. -/
def DrmTable.boundEncoder (t : DrmTable) (connector : Connector) : Option Encoder :=
  if connector.encoderId = 0 then none else t.getEncoder connector.encoderId

/-- An encoder for the connector, and its CRTC. -/
def drmFindEncoder (t : DrmTable) (connector : Connector) (kms : Kms) : Outcome Kms :=
  match t.boundEncoder connector with
  -- both messages print `encoder->encoder_id`
  | none => .crashed
  | some encoder =>
      if encoder.crtcId ≠ 0 then drmKmsInit connector encoder kms
      else drmFindCrtc t connector kms

/-- Connector `id` in the loop; `failed` is `continue`. -/
def visitConnector (t : DrmTable) (id : UInt32) (kms : Kms) : Outcome Kms :=
  match t.getConnector id with
  | none => .failed kms
  | some connector =>
      if connector.connection ≠ .connected ∨ connector.modes = [] then .failed kms
      else drmFindEncoder t connector kms

/-- Chooses connector, encoder and CRTC: `done` is the return of 0, `failed` of -1. -/
def drmFindConnector (t : DrmTable) : Kms → Outcome Kms :=
  tryEach (visitConnector t) t.connectors

/-! ## What can be chosen -/

/-- It is connected and has a mode. -/
def Connector.Usable (c : Connector) : Prop := c.connection = .connected ∧ c.modes ≠ []

/-- The encoder can drive CRTC number `j`. -/
def Encoder.CanDrive (e : Encoder) (j : ℕ) : Prop := e.possibleCrtcs.toNat.testBit j = true

/-- The encoder can drive some CRTC. -/
def DrmTable.Admits (t : DrmTable) (e : Encoder) : Prop := ∃ j < t.crtcs.length, e.CanDrive j

/-- The encoder drives a CRTC, or can drive one. -/
def DrmTable.Fits (t : DrmTable) (e : Encoder) : Prop := e.crtcId ≠ 0 ∨ t.Admits e

/-- The mask, as the code tests it. -/
lemma mask_eq_zero {e : Encoder} {j : ℕ} (hj : j < 32) :
    e.possibleCrtcs &&& (1 <<< UInt32.ofNat j) = 0 ↔ ¬ e.CanDrive j := by
  have hbit : (1 <<< UInt32.ofNat j : UInt32).toNat = 2 ^ j := by
    have hlt : 2 ^ j < 2 ^ 32 := Nat.pow_lt_pow_right (by norm_num) hj
    have hmod : j % 2 ^ 32 = j := Nat.mod_eq_of_lt (by omega)
    rw [UInt32.toNat_shiftLeft, UInt32.toNat_ofNat', hmod, Nat.mod_eq_of_lt hj, UInt32.toNat_one,
      Nat.one_shiftLeft, Nat.mod_eq_of_lt hlt]
  rw [← UInt32.toNat_inj, UInt32.toNat_and, hbit, Nat.and_two_pow, UInt32.toNat_zero,
    Encoder.CanDrive]
  cases e.possibleCrtcs.toNat.testBit j with
  | false => simp
  | true => simp

section Search

variable {t : DrmTable} {c : Connector} {e : Encoder} {id : UInt32} {kms kms' : Kms}

/-- What is recorded. -/
lemma drmKmsInit_spec (e : Encoder) (kms : Kms) (hmodes : c.modes ≠ []) :
    ∃ kms', drmKmsInit c e kms = .done kms' ∧ kms'.connId = c.connectorId ∧
      kms'.encoderId = e.encoderId ∧ kms'.crtcId = e.crtcId ∧ kms'.mode ∈ c.modes := by
  rw [drmKmsInit]
  split
  · next hnil => exact absurd hnil hmodes
  · next mode _ hcons => exact ⟨_, rfl, rfl, rfl, rfl, by simp [hcons]⟩

lemma drmKmsInit_ne_failed : drmKmsInit c e kms ≠ .failed kms' := by
  rw [drmKmsInit]
  split <;> simp

lemma boundEncoder_eq_some :
    t.boundEncoder c = some e ↔ c.encoderId ≠ 0 ∧ t.getEncoder c.encoderId = some e := by
  simp [DrmTable.boundEncoder]

lemma tryCrtc_eq {j : ℕ} (hj : j < t.crtcs.length) :
    tryCrtc c e j kms = .failed kms ∧ ¬ e.CanDrive j ∨
      tryCrtc c e j kms = drmKmsInit c e kms ∧ e.CanDrive j := by
  have hmask := @mask_eq_zero e j (hj.trans_le t.crtcs_le)
  rw [tryCrtc]
  by_cases hdrive : e.CanDrive j
  · refine .inr ⟨if_neg ?_, hdrive⟩
    intro hzero
    exact hmask.mp hzero hdrive
  · exact .inl ⟨if_pos (hmask.mpr hdrive), hdrive⟩

/-- The inner loop: whichever CRTC is found, it is the encoder that gets recorded. -/
lemma tryCrtcs_of_admits (hadmits : t.Admits e) :
    tryEach (tryCrtc c e) (List.range t.crtcs.length) kms = drmKmsInit c e kms := by
  refine tryEach_eq_of_mem (fun _ => drmKmsInit_ne_failed) ?_ ?_
  · intro j hj
    rcases tryCrtc_eq (List.mem_range.mp hj) with ⟨hno, _⟩ | ⟨hyes, _⟩
    · exact .inl hno
    · exact .inr hyes
  · obtain ⟨j, hj, hdrive⟩ := hadmits
    rcases @tryCrtc_eq t c e kms j hj with ⟨_, hnot⟩ | ⟨hyes, _⟩
    · exact absurd hdrive hnot
    · exact ⟨j, List.mem_range.mpr hj, hyes⟩

lemma tryCrtcs_of_not_admits (hadmits : ¬ t.Admits e) :
    tryEach (tryCrtc c e) (List.range t.crtcs.length) kms = .failed kms := by
  refine tryEach_of_failed ?_
  intro j hj
  rcases @tryCrtc_eq t c e kms j (List.mem_range.mp hj) with ⟨hno, _⟩ | ⟨_, hdrive⟩
  · exact hno
  · exact absurd ⟨j, List.mem_range.mp hj, hdrive⟩ hadmits

/-- The outer loop asks for the same encoder in every round, so one round decides. -/
lemma drmFindCrtc_eq (henc : t.getEncoder c.encoderId = some e) (hlisted : c.encoderId ∈ c.encoders)
    {r : Outcome Kms} (hround : tryEach (tryCrtc c e) (List.range t.crtcs.length) kms = r)
    (hr : r = .failed kms ∨ ∀ t, r ≠ .failed t) : drmFindCrtc t c kms = r := by
  have hbody : ∀ i ∈ List.range c.encoders.length, (match t.getEncoder c.encoderId with
      | none => .failed kms
      | some encoder => tryEach (tryCrtc c encoder) (List.range t.crtcs.length) kms) = r := by
    intro i _
    rw [henc]
    exact hround
  rw [drmFindCrtc]
  rcases hr with rfl | hr
  · exact tryEach_of_failed hbody
  · exact tryEach_eq_of_mem hr (fun i hi => .inr (hbody i hi))
      ⟨0, List.mem_range.mpr (List.length_pos_of_mem hlisted), hbody 0
        (List.mem_range.mpr (List.length_pos_of_mem hlisted))⟩

/-- Every encoder the search looks at is bound; it is taken exactly when it fits. -/
lemma drmFindEncoder_of_fits (hc : t.getConnector id = some c) (hbound : t.boundEncoder c = some e)
    (hfits : t.Fits e) : drmFindEncoder t c kms = drmKmsInit c e kms := by
  obtain ⟨hid, henc⟩ := boundEncoder_eq_some.mp hbound
  simp only [drmFindEncoder, hbound]
  split_ifs with hdrives
  · rfl
  · have hadmits := hfits.resolve_left hdrives
    exact drmFindCrtc_eq henc (t.encoder_mem hc hid) (tryCrtcs_of_admits hadmits)
      (.inr fun _ => drmKmsInit_ne_failed)

lemma drmFindEncoder_of_not_fits (hc : t.getConnector id = some c)
    (hbound : t.boundEncoder c = some e) (hfits : ¬ t.Fits e) :
    drmFindEncoder t c kms = .failed kms := by
  obtain ⟨hid, henc⟩ := boundEncoder_eq_some.mp hbound
  simp only [drmFindEncoder, hbound]
  rw [if_neg fun hdrives => hfits (.inl hdrives)]
  exact drmFindCrtc_eq henc (t.encoder_mem hc hid)
    (tryCrtcs_of_not_admits fun hadmits => hfits (.inr hadmits)) (.inl rfl)

/-- The search goes on past connector `id`. -/
def DrmTable.Skips (t : DrmTable) (id : UInt32) : Prop :=
  ∀ c, t.getConnector id = some c → c.Usable → ∃ e, t.boundEncoder c = some e ∧ ¬ t.Fits e

/-- The search takes connector `c`, asked for as `id`, with encoder `e`. -/
structure DrmTable.Takes (t : DrmTable) (id : UInt32) (c : Connector) (e : Encoder) : Prop where
  connector : t.getConnector id = some c
  usable : c.Usable
  bound : t.boundEncoder c = some e
  fits : t.Fits e

/-- **One connector.**  It is skipped, or taken, or has no encoder bound to it and the message that
says so dereferences `NULL`. -/
lemma visitConnector_cases (t : DrmTable) (id : UInt32) (kms : Kms) :
    (t.Skips id ∧ visitConnector t id kms = .failed kms) ∨
    (∃ c e, t.Takes id c e ∧ visitConnector t id kms = drmKmsInit c e kms) ∨
    ∃ c, t.getConnector id = some c ∧ c.Usable ∧ t.boundEncoder c = none ∧
      visitConnector t id kms = .crashed := by
  cases hc : t.getConnector id with
  | none => exact .inl ⟨fun c h => by simp [hc] at h, by simp only [visitConnector, hc]⟩
  | some c =>
      by_cases husable : c.Usable
      · have hvisit : visitConnector t id kms = drmFindEncoder t c kms := by
          simp only [visitConnector, hc]
          exact if_neg (by simpa [Connector.Usable] using husable)
        rw [hvisit]
        cases hbound : t.boundEncoder c with
        | none => exact .inr (.inr ⟨c, rfl, husable, hbound, by simp only [drmFindEncoder, hbound]⟩)
        | some e =>
            by_cases hfits : t.Fits e
            · exact .inr (.inl ⟨c, e, ⟨hc, husable, hbound, hfits⟩,
                drmFindEncoder_of_fits hc hbound hfits⟩)
            · refine .inl ⟨?_, drmFindEncoder_of_not_fits hc hbound hfits⟩
              intro c' hc' _
              obtain rfl := Option.some.inj (hc.symm.trans hc')
              exact ⟨e, hbound, hfits⟩
      · refine .inl ⟨?_, ?_⟩
        · intro c' hc' husable'
          obtain rfl := Option.some.inj (hc.symm.trans hc')
          exact absurd husable' husable
        · simp only [visitConnector, hc]
          refine if_pos ?_
          by_contra hnot
          exact husable (by simpa [Connector.Usable] using hnot)

lemma DrmTable.Takes.not_skips (h : t.Takes id c e) : ¬ t.Skips id := by
  intro hskips
  obtain ⟨e', hbound, hmisfit⟩ := hskips c h.connector h.usable
  obtain rfl := Option.some.inj (h.bound.symm.trans hbound)
  exact hmisfit h.fits

lemma visitConnector_of_takes (h : t.Takes id c e) :
    visitConnector t id kms = drmKmsInit c e kms := by
  rcases visitConnector_cases t id kms with ⟨hskips, _⟩ | ⟨c', e', h', hvisit⟩ |
    ⟨c', hc', _, hno, _⟩
  · exact absurd hskips h.not_skips
  · obtain rfl := Option.some.inj (h.connector.symm.trans h'.connector)
    obtain rfl := Option.some.inj (h.bound.symm.trans h'.bound)
    exact hvisit
  · obtain rfl := Option.some.inj (h.connector.symm.trans hc')
    cases h.bound.symm.trans hno

lemma visitConnector_eq_failed : visitConnector t id kms = .failed kms' ↔
    t.Skips id ∧ kms' = kms := by
  rcases visitConnector_cases t id kms with ⟨hskips, hvisit⟩ | ⟨c, e, h, hvisit⟩ |
    ⟨c, hc, husable, hno, hvisit⟩
  · simp [hvisit, hskips, eq_comm]
  · simp [hvisit, drmKmsInit_ne_failed, h.not_skips]
  · have hnot : ¬ t.Skips id := by
      intro hskips
      obtain ⟨e, hbound, _⟩ := hskips c hc husable
      cases hbound.symm.trans hno
    simp [hvisit, hnot]

lemma visitConnector_eq_done : visitConnector t id kms = .done kms' ↔
    ∃ c e, t.Takes id c e ∧ drmKmsInit c e kms = .done kms' := by
  constructor
  · intro hdone
    rcases visitConnector_cases t id kms with ⟨_, hvisit⟩ | ⟨c, e, h, hvisit⟩ | ⟨_, _, _, _, hvisit⟩
    · cases hvisit.symm.trans hdone
    · exact ⟨c, e, h, hvisit.symm.trans hdone⟩
    · cases hvisit.symm.trans hdone
  · rintro ⟨c, e, h, hinit⟩
    rw [visitConnector_of_takes h, hinit]

lemma not_bound_of_crash (hcrash : visitConnector t id kms = .crashed) :
    ∃ c, t.getConnector id = some c ∧ c.Usable ∧ t.boundEncoder c = none := by
  rcases visitConnector_cases t id kms with ⟨_, hvisit⟩ | ⟨c, e, h, hvisit⟩ |
    ⟨c, hc, husable, hno, _⟩
  · cases hvisit.symm.trans hcrash
  · obtain ⟨kms', hinit, _⟩ := drmKmsInit_spec e kms h.usable.2
    cases hinit.symm.trans (hvisit.symm.trans hcrash)
  · exact ⟨c, hc, husable, hno⟩

/-- A crash is a usable connector without an encoder that can be read. -/
lemma visitConnector_eq_crashed : visitConnector t id kms = .crashed ↔
    ∃ c, t.getConnector id = some c ∧ c.Usable ∧ t.boundEncoder c = none := by
  refine ⟨not_bound_of_crash, ?_⟩
  rintro ⟨c, hc, husable, hno⟩
  rcases visitConnector_cases t id kms with ⟨hskips, _⟩ | ⟨c', e, h, _⟩ | ⟨_, _, _, _, hvisit⟩
  · obtain ⟨e, hbound, _⟩ := hskips c hc husable
    cases hbound.symm.trans hno
  · obtain rfl := Option.some.inj (hc.symm.trans h.connector)
    cases h.bound.symm.trans hno
  · exact hvisit

lemma visitConnector_restores (t : DrmTable) : Restores (visitConnector t) :=
  fun _ _ _ h => (visitConnector_eq_failed.mp h).2

/-- **The whole search.**  It takes the first connector it does not skip. -/
theorem drmFindConnector_eq_done : drmFindConnector t kms = .done kms' ↔
    ∃ before id after, t.connectors = before ++ id :: after ∧ (∀ b ∈ before, t.Skips b) ∧
      ∃ c e, t.Takes id c e ∧ drmKmsInit c e kms = .done kms' := by
  simp only [drmFindConnector, tryEach_eq_done (visitConnector_restores t),
    visitConnector_eq_failed, and_true, visitConnector_eq_done]

/-- It returns -1 when it skips every connector, and then `kms` is as before. -/
theorem drmFindConnector_eq_failed : drmFindConnector t kms = .failed kms' ↔
    (∀ id ∈ t.connectors, t.Skips id) ∧ kms' = kms := by
  simp only [drmFindConnector, tryEach_eq_failed (visitConnector_restores t),
    visitConnector_eq_failed, and_true]

/-- The search ends at a usable connector without an encoder that can be read. -/
def DrmTable.Stops (t : DrmTable) : Prop :=
  ∃ before id after, t.connectors = before ++ id :: after ∧ (∀ b ∈ before, t.Skips b) ∧
    ∃ c, t.getConnector id = some c ∧ c.Usable ∧ t.boundEncoder c = none

/-- Else it dereferences `NULL`. -/
theorem drmFindConnector_eq_crashed : drmFindConnector t kms = .crashed ↔ t.Stops := by
  simp only [drmFindConnector, tryEach_eq_crashed (visitConnector_restores t),
    visitConnector_eq_failed, and_true, visitConnector_eq_crashed, DrmTable.Stops]

/-- The sizes of a mode have 16 bits. -/
lemma drmFindConnector_size (h : drmFindConnector t kms = .done kms') :
    kms'.fbWidht.toNat ≤ 65535 ∧ kms'.fbHight.toNat ≤ 65535 := by
  obtain ⟨_, _, _, _, _, c, e, _, hinit⟩ := drmFindConnector_eq_done.mp h
  rw [drmKmsInit] at hinit
  split at hinit
  · cases hinit
  · next mode _ _ =>
      obtain rfl := Outcome.done.inj hinit
      have hwidht := mode.hdisplay.toNat_lt
      have hhight := mode.vdisplay.toNat_lt
      simp only [UInt16.toNat_toUInt32]
      omega

end Search

/-! ## What a selection is worth -/

/-- Connector, mode, encoder and CRTC go together: the encoder drives the CRTC or can. -/
def DrmTable.Selected (t : DrmTable) (kms : Kms) : Prop :=
  kms.connId ∈ t.connectors ∧ ∃ c e, t.getConnector kms.connId = some c ∧
    c.connection = .connected ∧ kms.mode ∈ c.modes ∧ kms.encoderId ∈ c.encoders ∧
    t.getEncoder kms.encoderId = some e ∧ kms.crtcId ≠ 0 ∧ kms.crtcId ∈ t.crtcs ∧
    (e.crtcId = kms.crtcId ∨ ∃ j, t.crtcs[j]? = some kms.crtcId ∧ e.CanDrive j)

/-- **When the selection is right.**  For every table, and whatever `kms` held before: exactly when
no connector that the search reaches is usable with a bound encoder that could drive some CRTC but
drives none. -/
theorem selection_sound_iff (t : DrmTable) (kms : Kms) :
    (∀ kms', drmFindConnector t kms = .done kms' → t.Selected kms') ↔
      ∀ before id after, t.connectors = before ++ id :: after → (∀ b ∈ before, t.Skips b) →
        ∀ c e, t.getConnector id = some c → c.Usable → t.boundEncoder c = some e →
          t.Admits e → e.crtcId ≠ 0 := by
  constructor
  · intro hall before id after hsplit hbefore c e hc husable hbound hadmits hzero
    obtain ⟨kms', hinit, _, _, hcrtc, _⟩ := drmKmsInit_spec e kms husable.2
    obtain ⟨_, _, _, _, _, _, _, _, hne, _⟩ := hall kms' (drmFindConnector_eq_done.mpr
      ⟨before, id, after, hsplit, hbefore, c, e, ⟨hc, husable, hbound, .inr hadmits⟩, hinit⟩)
    exact hne (hcrtc.trans hzero)
  · intro hcond kms' hdone
    obtain ⟨before, id, after, hsplit, hbefore, c, e, htakes, hinit⟩ :=
      drmFindConnector_eq_done.mp hdone
    obtain ⟨kms₁, hinit₁, hconn, henc, hcrtc, hmode⟩ :=
      drmKmsInit_spec e kms htakes.usable.2
    obtain rfl := Outcome.done.inj (hinit.symm.trans hinit₁)
    have hdrives : e.crtcId ≠ 0 := htakes.fits.elim (fun hne => hne) fun hadmits =>
      hcond before id after hsplit hbefore c e htakes.connector htakes.usable htakes.bound hadmits
    obtain ⟨hid, hget⟩ := boundEncoder_eq_some.mp htakes.bound
    have hlisted := t.encoder_mem htakes.connector hid
    rw [t.connectorId_eq htakes.connector] at hconn
    rw [t.encoderId_eq hget] at henc
    rw [DrmTable.Selected, hconn, henc, hcrtc]
    exact ⟨by simp [hsplit], c, e, htakes.connector, htakes.usable.1, hmode, hlisted, hget, hdrives,
      t.crtc_mem hget hdrives, .inl rfl⟩

/-- A mode of 1024 by 600. -/
def panelMode : ModeInfo where
  clock := 51200
  hdisplay := 1024
  hsyncStart := 1184
  hsyncEnd := 1204
  htotal := 1344
  hskew := 0
  vdisplay := 600
  vsyncStart := 612
  vsyncEnd := 615
  vtotal := 635
  vscan := 0
  vrefresh := 60
  flags := 0
  type := 0
  name := Vector.replicate 32 0

/-- One panel, its encoder and one CRTC; bound to one another at the moment or not. -/
def onePanel (encoderBound crtcBound : Bool) : DrmTable where
  crtcs := [30]
  connectors := [10]
  getConnector := fun id =>
    if id = 10 then some ⟨10, if encoderBound then 20 else 0, .connected, [panelMode], [20]⟩
    else none
  getEncoder := fun id => if id = 20 then some ⟨20, if crtcBound then 30 else 0, 1⟩ else none
  crtcs_le := by simp
  connectorId_eq := by
    intro id c hc
    obtain ⟨rfl, ⟨⟩⟩ := Option.ite_none_right_eq_some.mp hc
    rfl
  encoderId_eq := by
    intro id e he
    obtain ⟨rfl, ⟨⟩⟩ := Option.ite_none_right_eq_some.mp he
    rfl
  encoder_mem := by
    intro id c hc
    obtain ⟨rfl, ⟨⟩⟩ := Option.ite_none_right_eq_some.mp hc
    cases encoderBound <;> simp
  crtc_mem := by
    intro id e he
    obtain ⟨rfl, ⟨⟩⟩ := Option.ite_none_right_eq_some.mp he
    cases crtcBound <;> simp

/-- `kms` before anything ran. -/
def kmsStart : Kms where
  fbWidht := 0
  fbHight := 0
  fbLineSize := 0
  fbSize := 0
  fbHandle := 0
  fbMap := .null
  fbId := 0
  connId := 0
  encoderId := 0
  crtcId := 0
  oldCrtc := none
  mode := ⟨0, 0, 0, 0, 0, 0, 0, 0, 0, 0, 0, 0, 0, 0, Vector.replicate 32 0⟩

/-- The encoder of the panel drives nothing yet: the CRTC found for it is not the one recorded. -/
theorem selects_no_crtc : ∃ kms', drmFindConnector (onePanel true false) kmsStart = .done kms' ∧
    kms'.crtcId = 0 ∧ ¬ (onePanel true false).Selected kms' := by
  refine ⟨_, rfl, rfl, ?_⟩
  rintro ⟨_, _, _, _, _, _, _, _, hne, _⟩
  exact hne rfl

/-! ## When the search finds something -/

/-- Every connector listed, and every encoder listed by one, can be read. -/
def DrmTable.AllReadable (t : DrmTable) : Prop :=
  ∀ id ∈ t.connectors, ∃ c, t.getConnector id = some c ∧
    ∀ eid ∈ c.encoders, ∃ e, t.getEncoder eid = some e

/-- Some usable connector has, among all its encoders, one that drives a CRTC or can. -/
def DrmTable.HasFit (t : DrmTable) : Prop :=
  ∃ id ∈ t.connectors, ∃ c, t.getConnector id = some c ∧ c.Usable ∧
    ∃ eid ∈ c.encoders, ∃ e, t.getEncoder eid = some e ∧ t.Fits e

/-- **When the search finds what there is.**  For every readable table: when there is nothing, or
when some usable connector is bound to an encoder that drives a CRTC or can, and every usable
connector before it is bound to some encoder. -/
theorem selection_complete_iff {t : DrmTable} (hread : t.AllReadable) (kms : Kms) :
    (t.HasFit → ∃ kms', drmFindConnector t kms = .done kms') ↔
      ¬ t.HasFit ∨ ∃ before id after, t.connectors = before ++ id :: after ∧
        (∀ b ∈ before, ∀ c, t.getConnector b = some c → c.Usable → c.encoderId ≠ 0) ∧
        ∃ c e, t.Takes id c e := by
  rw [imp_iff_not_or]
  refine or_congr Iff.rfl ⟨?_, ?_⟩
  · rintro ⟨kms', hdone⟩
    obtain ⟨before, id, after, hsplit, hbefore, c, e, htakes, _⟩ :=
      drmFindConnector_eq_done.mp hdone
    refine ⟨before, id, after, hsplit, ?_, c, e, htakes⟩
    intro b hb c hc husable
    obtain ⟨e, hbound, _⟩ := hbefore b hb c hc husable
    exact (boundEncoder_eq_some.mp hbound).1
  · rintro ⟨before, id, after, hsplit, hbefore, c, e, htakes⟩
    obtain ⟨kms', hinit, _⟩ := drmKmsInit_spec e kms htakes.usable.2
    rw [drmFindConnector, hsplit]
    refine exists_tryEach_eq_done (visitConnector_restores t) ?_
      (visitConnector_eq_done.mpr ⟨c, e, htakes, hinit⟩)
    intro b hb hcrash
    -- a crash is at a usable connector whose encoder cannot be read
    obtain ⟨c, hc, husable, hno⟩ := not_bound_of_crash hcrash
    obtain ⟨c', hc', hencoders⟩ := hread b (by simp [hsplit, hb])
    obtain rfl := Option.some.inj (hc.symm.trans hc')
    have hid := hbefore b hb c hc husable
    obtain ⟨e, he⟩ := hencoders _ (t.encoder_mem hc hid)
    cases hno.symm.trans (boundEncoder_eq_some.mpr ⟨hid, he⟩)

lemma onePanel_readable (encoderBound crtcBound : Bool) :
    (onePanel encoderBound crtcBound).AllReadable := by
  intro id hid
  obtain rfl : id = 10 := by simpa [onePanel] using hid
  refine ⟨_, rfl, ?_⟩
  intro eid heid
  obtain rfl : eid = 20 := by simpa using heid
  exact ⟨_, rfl⟩

/-- The panel is bound to its encoder, and the encoder drives the CRTC. -/
theorem selects_bound_panel : ∃ kms', drmFindConnector (onePanel true true) kmsStart = .done kms' :=
  (selection_complete_iff (onePanel_readable true true) kmsStart).mpr
    (.inr ⟨[], 10, [], rfl, by simp, _, _, ⟨rfl, ⟨rfl, by simp⟩, rfl, .inl (by decide)⟩⟩)
    ⟨10, by simp [onePanel], _, rfl, ⟨rfl, by simp⟩, 20, by simp, _, rfl, .inl (by decide)⟩

/-- No encoder is bound to the panel; its only one could drive the CRTC. -/
theorem search_derefs_null : (onePanel false false).AllReadable ∧ (onePanel false false).HasFit ∧
    drmFindConnector (onePanel false false) kmsStart = .crashed :=
  ⟨onePanel_readable false false, ⟨10, by simp [onePanel], _, rfl, ⟨rfl, by simp⟩, 20, by simp, _,
    rfl, .inr ⟨0, by simp [onePanel], rfl⟩⟩, rfl⟩

end Mp157
