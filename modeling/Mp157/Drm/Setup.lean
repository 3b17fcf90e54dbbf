import Mp157.Drm.Selection
import Mp157.Library.Ledger

/-!
# Setting up the display (`drm_Open` and `drm_init` in `drmFun.c`)

Once a display is chosen, `drm_init` creates a dumb buffer, a framebuffer object on it and a
mapping of it, and shows the framebuffer.  Each of three functions has its own way out:
`drm_crtc_fb` takes back what it created when a later call fails, and `drm_init` calls
`drm_free_fb` when the CRTC cannot be set.

* `display_all_or_nothing` — after a return of 0 everything created is there, named by `kms` and
  shown; after a return of -1 everything created has been released, each once.
* `saved_crtc_iff` — `drm_set_kms`, which saves the CRTC before it sets it, runs twice, and the
  second run saves what the first has set.
-/

namespace Mp157

namespace Drm

open Stages

/-! ## The kernel's side -/

/-- What the set-up creates. -/
inductive DrmObject
  /-- `DRM_IOCTL_MODE_CREATE_DUMB` -/
  | dumb (handle width height bpp : UInt32)
  /-- `drmModeAddFB`, on the dumb buffer `handle` -/
  | fb (id width height depth bpp pitch handle : UInt32)
  /-- `mmap` of `length` bytes, at the offset that stands for a dumb buffer -/
  | mapping (addr length : UInt32) (offset : UInt64)

/-- The calls that take something back. -/
inductive DrmRelease
  | munmap (addr : MapAddr) (length : UInt32)
  | rmFB (id : UInt32)
  | destroyDumb (handle : UInt32)

/-- The call that takes an object back. -/
def DrmObject.release : DrmObject → DrmRelease
  | .dumb handle _ _ _ => .destroyDumb handle
  | .fb id _ _ _ _ _ _ => .rmFB id
  | .mapping addr length _ => .munmap (.at addr) length

/-- A call of `drmModeSetCrtc` and its result. -/
structure ModeSet where
  crtcId : UInt32
  fbId : UInt32
  connId : UInt32
  mode : ModeInfo
  rval : ℤ

/-- The outcomes of the calls.  A failing `ioctl` returns a negative value. -/
structure DrmCalls where
  /-- `drmModeGetResources`, and what it leads to; `none` is `NULL`. -/
  resources : Option DrmTable
  createDumb : ℤ
  /-- `creq.handle`, `creq.pitch` and `creq.size` as the kernel sets them. -/
  handle : UInt32
  pitch : UInt32
  size : UInt64
  addFB : ℤ
  fbId : UInt32
  mapDumb : ℤ
  /-- `mreq.offset`, by the handle asked for. -/
  offset : UInt32 → UInt64
  /-- `none` is `MAP_FAILED`. -/
  mmap : Option UInt32
  /-- `errno` once `DRM_IOCTL_MODE_MAP_DUMB` or `mmap` has failed. -/
  errno : ℤ
  errno_pos : 0 < errno
  /-- Whether attempt `i` of `drmModeGetCrtc` succeeds. -/
  getCrtc : ℕ → Bool
  /-- The result of attempt `i` of `drmModeSetCrtc`. -/
  setCrtc : ℕ → ℤ

/-- The program's `kms`, and what its calls have done. -/
structure DrmState where
  kms : Kms
  /-- In the order of creation. -/
  created : List DrmObject
  released : List DrmRelease
  /-- What every CRTC shows. -/
  crtc : UInt32 → CrtcConfig
  modeSets : List ModeSet
  /-- The memory at `kms.fb_map`, once it is mapped. -/
  fbMem : Option ByteMemory.Block

/-- Before `drm_init`. -/
def drmStart (kms : Kms) (crtc : UInt32 → CrtcConfig) : DrmState where
  kms := kms
  created := []
  released := []
  crtc := crtc
  modeSets := []
  fbMem := none

/-! ## Opening the device -/

/-- The outcomes of the calls of `drm_Open`. -/
structure OpenCalls where
  /-- `open(devname, O_RDWR)` -/
  fd : ℤ
  /-- `drmGetCap`, and the value it stores. -/
  getCap : ℤ
  value : UInt64

/-- Opens the device, which has to have dumb buffers. -/
def drmOpen (o : OpenCalls) (devices : Ledger.Book) : Outcome Ledger.Book :=
  if o.fd < 0 then .failed devices
  else if o.getCap < 0 ∨ o.value = 0 then .failed (devices.obtain.free devices.obtained)
  else .done devices.obtain

/-- The device is opened, and has dumb buffers. -/
structure OpenCalls.Succeed (o : OpenCalls) : Prop where
  fd : 0 ≤ o.fd
  getCap : 0 ≤ o.getCap
  value : o.value ≠ 0

lemma drmOpen_of_succeed {o : OpenCalls} (h : o.Succeed) (devices : Ledger.Book) :
    drmOpen o devices = .done devices.obtain := by
  rw [drmOpen, if_neg (not_lt.mpr h.fd), if_neg (not_or.mpr ⟨not_lt.mpr h.getCap, h.value⟩)]

/-- A device that it does not accept is closed again. -/
lemma drmOpen_of_not_succeed {o : OpenCalls} (h : ¬ o.Succeed) (devices : Ledger.Book) :
    ∃ devices', drmOpen o devices = .failed devices' ∧ Ledger.Balanced devices devices' := by
  rw [drmOpen]
  by_cases hfd : o.fd < 0
  · exact ⟨_, if_pos hfd, .refl _⟩
  by_cases hcap : o.getCap < 0 ∨ o.value = 0
  · exact ⟨_, by rw [if_neg hfd, if_pos hcap], .bracket (.refl _)⟩
  · rw [not_or] at hcap
    exact absurd ⟨not_lt.mp hfd, not_lt.mp hcap.1, hcap.2⟩ h

/-! ## The functions -/

/-- What a CRTC shows after `drmModeSetCrtc`. -/
def shown (kms : Kms) (before : CrtcConfig) : CrtcConfig where
  crtcId := kms.crtcId
  bufferId := kms.fbId
  x := 0
  y := 0
  width := kms.mode.hdisplay.toUInt32
  height := kms.mode.vdisplay.toUInt32
  modeValid := true
  mode := kms.mode
  gammaSize := before.gammaSize

/-- Saves the CRTC and sets it. -/
def drmSetKms (o : DrmCalls) (s : DrmState) : ℤ × DrmState :=
  let rval := o.setCrtc s.modeSets.length
  (if rval < 0 then -1 else 0,
    { s with
      kms := { s.kms with
        oldCrtc := if o.getCrtc s.modeSets.length then some (s.crtc s.kms.crtcId) else none }
      crtc := if rval < 0 then s.crtc
        else Function.update s.crtc s.kms.crtcId (shown s.kms (s.crtc s.kms.crtcId))
      modeSets := s.modeSets ++ [⟨s.kms.crtcId, s.kms.fbId, s.kms.connId, s.kms.mode, rval⟩] })

lemma drmSetKms_crtc {o : DrmCalls} {s : DrmState} (hset : ¬ o.setCrtc s.modeSets.length < 0) :
    (drmSetKms o s).2.crtc s.kms.crtcId = shown s.kms (s.crtc s.kms.crtcId) := by
  simp [drmSetKms, hset]

lemma drmSetKms_crtc_failed {o : DrmCalls} {s : DrmState}
    (hset : o.setCrtc s.modeSets.length < 0) : (drmSetKms o s).2.crtc = s.crtc := by
  simp [drmSetKms, hset]

/-- The dumb buffer is created. -/
def withDumb (bmpmode : Bool) (o : DrmCalls) (s : DrmState) : DrmState :=
  { s with
    kms := { s.kms with
      fbLineSize := o.pitch
      fbHandle := o.handle
      fbSize := o.size.toUInt32 }
    created := s.created
      ++ [.dumb o.handle s.kms.fbWidht s.kms.fbHight (if bmpmode then 32 else 16)] }

/-- The framebuffer object is created. -/
def withFB (bmpmode : Bool) (o : DrmCalls) (s : DrmState) : DrmState :=
  { s with
    kms := { s.kms with fbId := o.fbId }
    created := s.created ++ [.fb o.fbId s.kms.fbWidht s.kms.fbHight (if bmpmode then 24 else 16)
      (if bmpmode then 32 else 16) s.kms.fbLineSize s.kms.fbHandle] }

/-- The dumb buffer is mapped at `addr`, and cleared. -/
def withMapping (o : DrmCalls) (addr : UInt32) (s : DrmState) : DrmState :=
  { s with
    kms := { s.kms with fbMap := .at addr }
    created := s.created ++ [.mapping addr s.kms.fbSize (o.offset s.kms.fbHandle)]
    fbMem := some (Mp157.drmFbMmap s.kms.toKmsConfig) }

def DrmState.release (s : DrmState) (calls : List DrmRelease) : DrmState :=
  { s with released := s.released ++ calls }

/-- Maps the dumb buffer. -/
def drmFbMmap (o : DrmCalls) (s : DrmState) : ℤ × DrmState :=
  if o.mapDumb ≠ 0 then (-o.errno, s)
  else
    match o.mmap with
    | none => (-o.errno, { s with kms := { s.kms with fbMap := .mapFailed } })
    | some addr => (0, withMapping o addr s)

/-- Creates the dumb buffer, the framebuffer object and the mapping, and shows them; the result
of `drm_set_kms` is not looked at. -/
def drmCrtcFb (bmpmode : Bool) (o : DrmCalls) (s : DrmState) : ℤ × DrmState :=
  if o.createDumb < 0 then (o.createDumb, s)
  else
    let s := withDumb bmpmode o s
    if o.addFB < 0 then (-1, s.release [.destroyDumb o.handle])
    else
      let (rval, s) := drmFbMmap o (withFB bmpmode o s)
      if rval < 0 then (-1, s.release [.rmFB s.kms.fbId, .destroyDumb o.handle])
      else (0, (drmSetKms o s).2)

def drmFreeFb (s : DrmState) : DrmState :=
  s.release [.munmap s.kms.fbMap s.kms.fbSize, .rmFB s.kms.fbId, .destroyDumb s.kms.fbHandle]

/-- Sets up the display: `done` is the return of 0, `failed` of -1. -/
def drmInit (bmpmode : Bool) (o : DrmCalls) (s : DrmState) : Outcome DrmState :=
  match o.resources with
  | none => .failed s
  | some t =>
      match drmFindConnector t s.kms with
      | .crashed => .crashed
      | .failed kms => .failed { s with kms := kms }
      | .done kms =>
          let (rval, s) := drmCrtcFb bmpmode o { s with kms := kms }
          if rval < 0 then .failed s
          else
            let (rval, s) := drmSetKms o s
            if rval = -1 then .failed (drmFreeFb s) else .done s

/-! ## All or nothing -/

section Setup

variable {bmpmode : Bool} {o : DrmCalls} {s s' : DrmState} {kms : Kms}
  {crtc : UInt32 → CrtcConfig}

/-- Everything created has been released, each once. -/
def DrmState.Clean (s : DrmState) : Prop := s.released.Perm (s.created.map DrmObject.release)

/-- The state in which `drm_crtc_fb` sets the CRTC. -/
def buffered (bmpmode : Bool) (o : DrmCalls) (addr : UInt32) (s : DrmState) : DrmState :=
  withMapping o addr (withFB bmpmode o (withDumb bmpmode o s))

lemma drmFbMmap_cases (o : DrmCalls) (s : DrmState) :
    (∃ addr, drmFbMmap o s = (0, withMapping o addr s)) ∨
      ∃ s', drmFbMmap o s = (-o.errno, s') ∧ s'.created = s.created ∧ s'.released = s.released ∧
        s'.kms.fbId = s.kms.fbId := by
  rw [drmFbMmap]
  split_ifs
  · exact .inr ⟨_, rfl, rfl, rfl, rfl⟩
  · cases o.mmap with
    | none => exact .inr ⟨_, rfl, rfl, rfl, rfl⟩
    | some addr => exact .inl ⟨addr, rfl⟩

/-- **`drm_crtc_fb`.**  It fails and leaves nothing behind, or gets as far as setting the CRTC. -/
lemma drmCrtcFb_cases (bmpmode : Bool) (o : DrmCalls) (kms : Kms) (crtc : UInt32 → CrtcConfig) :
    ((drmCrtcFb bmpmode o (drmStart kms crtc)).1 < 0 ∧
      (drmCrtcFb bmpmode o (drmStart kms crtc)).2.Clean) ∨
    ∃ addr, drmCrtcFb bmpmode o (drmStart kms crtc)
      = (0, (drmSetKms o (buffered bmpmode o addr (drmStart kms crtc))).2) := by
  rw [drmCrtcFb]
  by_cases hdumb : o.createDumb < 0
  · rw [if_pos hdumb]
    exact .inl ⟨hdumb, List.Perm.nil⟩
  rw [if_neg hdumb]
  by_cases hfb : o.addFB < 0
  · dsimp only
    rw [if_pos hfb]
    exact .inl ⟨by norm_num, List.Perm.refl _⟩
  dsimp only
  rw [if_neg hfb]
  rcases drmFbMmap_cases o (withFB bmpmode o (withDumb bmpmode o (drmStart kms crtc))) with
    ⟨addr, hmap⟩ | ⟨s', hmap, hcreated, hreleased, hid⟩
  · rw [hmap]
    exact .inr ⟨addr, rfl⟩
  · have hneg : -o.errno < 0 := neg_neg_of_pos o.errno_pos
    rw [hmap]
    dsimp only
    rw [if_pos hneg]
    refine .inl ⟨by norm_num, ?_⟩
    rw [DrmState.Clean, DrmState.release, hcreated, hreleased, hid]
    exact List.Perm.swap _ _ _

/-- **`drm_init`.**  A return of -1 leaves nothing behind; a return of 0 leaves what the second
`drm_set_kms` has left, on a display the search has chosen. -/
lemma drmInit_cases (bmpmode : Bool) (o : DrmCalls) (kms : Kms) (crtc : UInt32 → CrtcConfig) :
    drmInit bmpmode o (drmStart kms crtc) = .crashed ∨
    (∃ s', drmInit bmpmode o (drmStart kms crtc) = .failed s' ∧ s'.Clean) ∨
    ∃ t kms' addr, o.resources = some t ∧ drmFindConnector t kms = .done kms' ∧
      drmInit bmpmode o (drmStart kms crtc)
        = .done (drmSetKms o (drmSetKms o (buffered bmpmode o addr (drmStart kms' crtc))).2).2 ∧
      0 ≤ o.setCrtc 1 := by
  have hstart : ∀ kms', { drmStart kms crtc with kms := kms' } = drmStart kms' crtc := fun _ => rfl
  rw [drmInit]
  cases hres : o.resources with
  | none => exact .inr (.inl ⟨_, rfl, List.Perm.nil⟩)
  | some t =>
      have hkms : (drmStart kms crtc).kms = kms := rfl
      dsimp only
      rw [hkms]
      cases hfind : drmFindConnector t kms with
      | crashed => exact .inl rfl
      | failed kms' => exact .inr (.inl ⟨_, rfl, List.Perm.nil⟩)
      | done kms' =>
          dsimp only
          rw [hstart]
          rcases drmCrtcFb_cases bmpmode o kms' crtc with ⟨hneg, hclean⟩ | ⟨addr, hcrtc⟩
          · rw [if_pos hneg]
            exact .inr (.inl ⟨_, rfl, hclean⟩)
          · rw [hcrtc]
            dsimp only
            rw [if_neg (lt_irrefl 0)]
            by_cases hset : o.setCrtc 1 < 0
            · refine .inr (.inl ⟨_, if_pos (if_pos hset), ?_⟩)
              exact (List.reverse_perm [_, _, _]).symm
            · refine .inr (.inr ⟨t, kms', addr, rfl, hfind, if_neg ?_, not_lt.mp hset⟩)
              have hzero : (drmSetKms o
                  (drmSetKms o (buffered bmpmode o addr (drmStart kms' crtc))).2).1 = 0 :=
                if_neg hset
              rw [hzero]
              norm_num

lemma drmInit_failed (hfailed : drmInit bmpmode o (drmStart kms crtc) = .failed s) : s.Clean := by
  rcases drmInit_cases bmpmode o kms crtc with hinit | ⟨s', hinit, hclean⟩ |
    ⟨_, _, _, _, _, hinit, _⟩
  · cases hinit.symm.trans hfailed
  · obtain rfl := Outcome.failed.inj (hinit.symm.trans hfailed)
    exact hclean
  · cases hinit.symm.trans hfailed

/-- After a return of 0 there is something to release, and `drm_free_fb` releases it. -/
lemma drmInit_done (hdone : drmInit bmpmode o (drmStart kms crtc) = .done s) :
    ¬ s.Clean ∧ (drmFreeFb s).Clean := by
  rcases drmInit_cases bmpmode o kms crtc with hinit | ⟨s', hinit, _⟩ |
    ⟨_, _, _, _, _, hinit, _⟩
  · cases hinit.symm.trans hdone
  · cases hinit.symm.trans hdone
  · obtain rfl := Outcome.done.inj (hinit.symm.trans hdone)
    exact ⟨fun hperm => List.cons_ne_nil _ _ hperm.nil_eq.symm,
      (List.reverse_perm [_, _, _]).symm⟩

/-- It is the search that dereferences `NULL`, and nothing else. -/
lemma drmInit_eq_crashed : drmInit bmpmode o (drmStart kms crtc) = .crashed ↔
    ∃ t, o.resources = some t ∧ t.Stops := by
  rw [drmInit]
  cases o.resources with
  | none => simp
  | some t =>
      have hkms : (drmStart kms crtc).kms = kms := rfl
      simp only [hkms, Option.some.injEq, exists_eq_left',
        ← @drmFindConnector_eq_crashed _ kms]
      cases drmFindConnector t kms with
      | crashed => exact iff_of_true rfl rfl
      | failed kms' => exact iff_of_false nofun nofun
      | done kms' =>
          refine iff_of_false ?_ nofun
          dsimp only
          split_ifs
          · exact nofun
          · exact nofun
          · exact nofun

/-- What `drm_init` promises: one dumb buffer, one framebuffer object on it and one mapping of it
are there, `kms` names them, and the framebuffer is what the CRTC shows. -/
structure SetUp (o : DrmCalls) (s : DrmState) : Prop where
  created : ∃ w h bpp depth pitch addr, s.created =
    [.dumb s.kms.fbHandle w h bpp, .fb s.kms.fbId w h depth bpp pitch s.kms.fbHandle,
      .mapping addr s.kms.fbSize (o.offset s.kms.fbHandle)] ∧ s.kms.fbMap = .at addr
  released : s.released = []
  /-- The last call that set a CRTC was for this framebuffer and this CRTC, and succeeded. -/
  lastSet : ∃ set, s.modeSets.getLast? = some set ∧ set.crtcId = s.kms.crtcId ∧
    set.fbId = s.kms.fbId ∧ 0 ≤ set.rval
  shows : (s.crtc s.kms.crtcId).bufferId = s.kms.fbId

/-- **All or nothing.**  For whatever the kernel reports, either depth and every sequence of
outcomes of the calls. -/
theorem display_all_or_nothing (bmpmode : Bool) (o : DrmCalls) (kms : Kms)
    (crtc : UInt32 → CrtcConfig) :
    (∀ s, drmInit bmpmode o (drmStart kms crtc) = .done s → SetUp o s) ∧
      ∀ s, drmInit bmpmode o (drmStart kms crtc) = .failed s → s.Clean := by
  rcases drmInit_cases bmpmode o kms crtc with hinit | ⟨s', hinit, hclean⟩ |
    ⟨t, kms', addr, _, _, hinit, hset⟩
  · simp [hinit]
  · rw [hinit]
    constructor
    · intro s h
      cases h
    · intro s h
      obtain rfl := Outcome.failed.inj h
      exact hclean
  · rw [hinit]
    constructor
    · intro s h
      obtain rfl := Outcome.done.inj h
      refine ⟨⟨_, _, _, _, _, addr, rfl, rfl⟩, rfl, ⟨_, List.getLast?_concat, rfl, rfl, hset⟩, ?_⟩
      exact congrArg CrtcConfig.bufferId (drmSetKms_crtc (not_lt.mpr hset))
    · intro s h
      cases h

/-- **The screen drawn on.**  It is a cleared mapping of `fb_size` bytes, as wide and high as the
mode. -/
theorem drmInit_screen (hdone : drmInit bmpmode o (drmStart kms crtc) = .done s) :
    s.fbMem = some (Mp157.drmFbMmap s.kms.toKmsConfig) ∧
      s.kms.fbWidht.toNat ≤ 65535 ∧ s.kms.fbHight.toNat ≤ 65535 := by
  rcases drmInit_cases bmpmode o kms crtc with hinit | ⟨s', hinit, _⟩ |
    ⟨t, kms', addr, _, hfind, hinit, _⟩
  · cases hinit.symm.trans hdone
  · cases hinit.symm.trans hdone
  obtain rfl := Outcome.done.inj (hinit.symm.trans hdone)
  obtain ⟨hwidht, hhight⟩ := drmFindConnector_size hfind
  exact ⟨rfl, hwidht, hhight⟩

/-! ## The CRTC that is saved -/

/-- **What `old_crtc` is.**  Whatever the CRTCs showed before, and for every run that returns 0:
`kms.old_crtc` is what the chosen CRTC showed before exactly when the first `drmModeSetCrtc`, whose
result is not looked at, failed, and the second `drmModeGetCrtc` did not.  The framebuffer object
is new, so no CRTC showed it before. -/
theorem saved_crtc_iff (hnew : ∀ id, (crtc id).bufferId ≠ o.fbId)
    (hdone : drmInit bmpmode o (drmStart kms crtc) = .done s) :
    s.kms.oldCrtc = some (crtc s.kms.crtcId) ↔ o.setCrtc 0 < 0 ∧ o.getCrtc 1 = true := by
  rcases drmInit_cases bmpmode o kms crtc with hinit | ⟨s', hinit, _⟩ |
    ⟨t, kms', addr, _, _, hinit, _⟩
  · cases hinit.symm.trans hdone
  · cases hinit.symm.trans hdone
  obtain rfl := Outcome.done.inj (hinit.symm.trans hdone)
  set b := buffered bmpmode o addr (drmStart kms' crtc) with hb
  -- the second run saves what the CRTC shows after the first
  have hold : (drmSetKms o (drmSetKms o b).2).2.kms.oldCrtc
      = if o.getCrtc 1 then some ((drmSetKms o b).2.crtc b.kms.crtcId) else none := rfl
  have hcrtc : (drmSetKms o (drmSetKms o b).2).2.kms.crtcId = b.kms.crtcId := rfl
  have hbefore : b.crtc = crtc := rfl
  rw [hold, hcrtc]
  by_cases hget : o.getCrtc 1 = true
  · rw [if_pos hget, Option.some.injEq]
    by_cases hset : o.setCrtc 0 < 0
    · rw [drmSetKms_crtc_failed (s := b) hset, hbefore]
      exact iff_of_true rfl ⟨hset, hget⟩
    · rw [drmSetKms_crtc (s := b) hset]
      refine iff_of_false ?_ (fun h => hset h.1)
      intro hsame
      exact hnew b.kms.crtcId (congrArg CrtcConfig.bufferId hsame).symm
  · simp [hget]

end Setup

/-- The panel is bound, and no call fails but for the attempts of `drmModeSetCrtc` given. -/
def callsOnPanel (setCrtc : ℕ → ℤ) : DrmCalls where
  resources := some (onePanel true true)
  createDumb := 0
  handle := 1
  pitch := 2048
  size := 1228800
  addFB := 0
  fbId := 40
  mapDumb := 0
  offset := fun _ => 0
  mmap := some 0x40000000
  errno := 22
  errno_pos := by norm_num
  getCrtc := fun _ => true
  setCrtc := setCrtc

/-- The CRTC of the panel shows framebuffer 39, the console. -/
def consoleCrtc (id : UInt32) : CrtcConfig := ⟨id, 39, 0, 0, 1024, 600, true, panelMode, 256⟩

/-- The first `drmModeSetCrtc` fails, the second does not: the console is saved. -/
theorem saved_crtc_console : ∃ s,
    drmInit false (callsOnPanel fun i => if i = 0 then -16 else 0) (drmStart kmsStart consoleCrtc)
      = .done s ∧ s.kms.oldCrtc = some (consoleCrtc 30) := by
  have hdone : drmInit false (callsOnPanel fun i => if i = 0 then -16 else 0)
      (drmStart kmsStart consoleCrtc) = .done _ := rfl
  have hnew : ∀ id, (consoleCrtc id).bufferId ≠ 40 := by
    intro id
    simp [consoleCrtc]
  exact ⟨_, hdone, (saved_crtc_iff hnew hdone).mpr ⟨by decide, rfl⟩⟩

/-- No call fails: what is saved is the framebuffer just shown. -/
theorem saves_own_framebuffer : ∃ s old,
    drmInit false (callsOnPanel fun _ => 0) (drmStart kmsStart consoleCrtc) = .done s ∧
      s.kms.oldCrtc = some old ∧ old.bufferId = s.kms.fbId ∧ old ≠ consoleCrtc s.kms.crtcId := by
  refine ⟨_, _, rfl, rfl, rfl, ?_⟩
  intro hsame
  have hbuffer : (40 : UInt32) = 39 := congrArg CrtcConfig.bufferId hsame
  exact absurd hbuffer (by decide)

end Drm

end Mp157
