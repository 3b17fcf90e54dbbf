import Mp157.Drm.Selection
import Mp157.Library.Ledger

/-!
# The objects display selection obtains (`drm_FindConnector` in `drmFun.c`)

Every connector and encoder looked at is an object that libdrm allocates and that has to be freed.
Here each look-up is a call with an outcome of its own: an encoder that was there may be gone when
it is asked for again.

* `drmFindConnector_ofTable` — where the outcomes come from one table, this is the search of
  `Drm/Selection.lean`.
* `visitConnector_cases` — one connector: what happens to it, and what is owed afterwards.
* `no_null_read_iff` — no field is read through `NULL`, except at a connector without an encoder or
  whose encoder cannot be read: the message about it reads `encoder->encoder_id`.
* `lookups_settled_iff` — everything obtained is freed once, except connectors that are unusable:
  the `continue` for them comes before the call that frees.
-/

namespace Mp157.Lookup

open Stages Ledger

/-! ## The search, call by call -/

/-- The resources, and the outcome of every call; `none` is `NULL`. -/
structure Calls where
  countConnectors : ℕ
  /-- `resources->connectors` -/
  connectors : ℕ → UInt32
  countCrtcs : ℕ
  /-- `drmModeGetConnector`, by the round of `drm_FindConnector`. -/
  getConnector : ℕ → UInt32 → Option Connector
  /-- `drmModeGetEncoder` in `drm_FindEncoder`. -/
  getBound : ℕ → UInt32 → Option Encoder
  /-- `drmModeGetEncoder` in `drm_find_crtc`, by its round as well. -/
  getEncoder : ℕ → ℕ → UInt32 → Option Encoder
  /-- `1 << j`; what it is from 32 on, C leaves open. -/
  oneShl : ℕ → UInt32
  oneShl_eq : ∀ j < 32, oneShl j = 1 <<< UInt32.ofNat j

/-- `kms`, and the objects obtained and freed. -/
structure State where
  kms : Kms
  book : Book

/-- A call returns an object; its number is `s.book.obtained`. -/
def State.obtain (s : State) : State := { s with book := s.book.obtain }

/-- `drmModeFreeConnector` and `drmModeFreeEncoder` -/
def State.free (h : ℕ) (s : State) : State := { s with book := s.book.free h }

/-- `drm_kms_init` -/
def kmsInit (connector : Connector) (encoder : Encoder) (s : State) : Outcome State :=
  (drmKmsInit connector encoder s.kms).map fun kms => { s with kms := kms }

/-- CRTC `j`, tried for the encoder that is object `h`. -/
def tryCrtc (a : Calls) (connector : Connector) (encoder : Encoder) (h j : ℕ) (s : State) :
    Outcome State :=
  if encoder.possibleCrtcs &&& a.oneShl j = 0 then .failed s
  else (kmsInit connector encoder s).map (State.free h)

/-- Round `k` of `drm_find_crtc`. -/
def tryEncoder (a : Calls) (i : ℕ) (connector : Connector) (k : ℕ) (s : State) : Outcome State :=
  match a.getEncoder i k connector.encoderId with
  | none => .failed s
  | some encoder =>
      (tryEach (tryCrtc a connector encoder s.book.obtained) (List.range a.countCrtcs)
        s.obtain).orElse fun t => .failed (t.free s.book.obtained)

/-- Tries every CRTC for every encoder of the connector. -/
def drmFindCrtc (a : Calls) (i : ℕ) (connector : Connector) : State → Outcome State :=
  tryEach (tryEncoder a i connector) (List.range connector.encoders.length)

/-- The encoder bound to the connector, if there is one and it can be read. -/
def Calls.bound (a : Calls) (i : ℕ) (connector : Connector) : Option Encoder :=
  if connector.encoderId = 0 then none else a.getBound i connector.encoderId

/-- An encoder for the connector, and its CRTC. -/
def drmFindEncoder (a : Calls) (i : ℕ) (connector : Connector) (s : State) : Outcome State :=
  match a.bound i connector with
  -- both messages print `encoder->encoder_id`
  | none => .crashed
  | some encoder =>
      if encoder.crtcId ≠ 0 then
        (kmsInit connector encoder s.obtain).map (State.free s.book.obtained)
      else drmFindCrtc a i connector (s.obtain.free s.book.obtained)

/-- Round `i` of the loop; `failed` is `continue`. -/
def visitConnector (a : Calls) (i : ℕ) (s : State) : Outcome State :=
  match a.getConnector i (a.connectors i) with
  | none => .failed s
  | some connector =>
      if connector.connection ≠ .connected ∨ connector.modes = [] then .failed s.obtain
      else (drmFindEncoder a i connector s.obtain).map (State.free s.book.obtained)

/-- Chooses connector, encoder and CRTC: `done` is the return of 0, `failed` of -1. -/
def drmFindConnector (a : Calls) : State → Outcome State :=
  tryEach (visitConnector a) (List.range a.countConnectors)

/-- The function returns, in state `s`. -/
def Returns (r : Outcome State) (s : State) : Prop := r = .done s ∨ r = .failed s

/-! ## Where it gets to -/

/-- The connector of round `i`. -/
def Calls.connector (a : Calls) (i : ℕ) : Option Connector := a.getConnector i (a.connectors i)

/-- The mask of the encoder has a CRTC. -/
def Calls.Admits (a : Calls) (e : Encoder) : Prop :=
  ∃ j < a.countCrtcs, e.possibleCrtcs &&& a.oneShl j ≠ 0

/-- One of the rounds of `drm_find_crtc` gets an encoder, and its mask has a CRTC. -/
def Calls.Finds (a : Calls) (i : ℕ) (c : Connector) : Prop :=
  ∃ k < c.encoders.length, ∃ e, a.getEncoder i k c.encoderId = some e ∧ a.Admits e

/-- Round `i` goes on to the next connector. -/
def Calls.Passes (a : Calls) (i : ℕ) : Prop :=
  ∀ c, a.connector i = some c → c.Usable →
    ∃ e, a.bound i c = some e ∧ e.crtcId = 0 ∧ ¬ a.Finds i c

/-- Every round before round `i` goes on to the next connector. -/
def Calls.Reaches (a : Calls) (i : ℕ) : Prop := i < a.countConnectors ∧ ∀ k < i, a.Passes k

section Rounds

variable {a : Calls} {c : Connector} {e : Encoder} {i h : ℕ} {s : State}

/-- The function finds something exactly when `found`, and owes afterwards what it did before. -/
def Ends (found : Prop) (s : State) (r : Outcome State) : Prop :=
  (found ∧ ∃ s', r = .done s' ∧ Balanced s.book s'.book) ∨
    (¬ found ∧ ∃ s', r = .failed s' ∧ Balanced s.book s'.book)

/-- The loop rule. -/
lemma Ends.tryEach {body : ℕ → State → Outcome State} {P : ℕ → Prop} {n : ℕ}
    (hbody : ∀ k < n, ∀ t, Ends (P k) t (body k t)) :
    Ends (∃ k < n, P k) s (tryEach body (List.range n) s) := by
  have hround : ∀ k < n, ∀ t t', (Balanced s.book t.book ∧ ∀ l < k, ¬ P l) →
      body k t = .failed t' → Balanced s.book t'.book ∧ ∀ l < k + 1, ¬ P l := by
    rintro k hk t t' ⟨hbal, hnone⟩ hfail
    rcases hbody k hk t with ⟨_, u, hu, _⟩ | ⟨hno, u, hu, hbal'⟩
    · cases hu.symm.trans hfail
    · obtain rfl := Outcome.failed.inj (hu.symm.trans hfail)
      refine ⟨hbal.trans hbal', ?_⟩
      intro l hl
      rcases Nat.lt_succ_iff_lt_or_eq.mp hl with hlt | rfl
      · exact hnone l hlt
      · exact hno
  rcases tryEach_rounds ⟨Balanced.refl _, by simp⟩ hround with
    ⟨t, ht, hbal, hnone⟩ | ⟨k, hk, t, ⟨hbal, _⟩, heq, hne⟩
  · exact .inr ⟨by rintro ⟨l, hl, hP⟩; exact hnone l hl hP, t, ht, hbal⟩
  · rcases hbody k hk t with ⟨hP, u, hu, hbal'⟩ | ⟨_, u, hu, _⟩
    · exact .inl ⟨⟨k, hk, hP⟩, u, heq.trans hu, hbal.trans hbal'⟩
    · exact absurd hu (hne u)

lemma Ends.of_iff {P Q : Prop} {r : Outcome State} (h : Ends P s r) (hPQ : P ↔ Q) : Ends Q s r := by
  rwa [Ends, ← hPQ]

/-- What is obtained before and freed after. -/
lemma Ends.bracket {P : Prop} {r : Outcome State} (h : Ends P s.obtain r) :
    Ends P s (r.map (State.free s.book.obtained)) := by
  rcases h with ⟨hP, t, rfl, hbal⟩ | ⟨hP, t, rfl, hbal⟩
  · exact .inl ⟨hP, _, rfl, hbal.bracket⟩
  · exact .inr ⟨hP, _, rfl, hbal.bracket⟩

lemma kmsInit_done (e : Encoder) (s : State) (hmodes : c.modes ≠ []) :
    ∃ s', kmsInit c e s = .done s' ∧ s'.book = s.book := by
  obtain ⟨kms, hinit, _⟩ := drmKmsInit_spec e s.kms hmodes
  exact ⟨{ s with kms := kms }, by rw [kmsInit, hinit, Outcome.map], rfl⟩

/-- One encoder, whichever round asks for it. -/
lemma tryEncoder_ends (hmodes : c.modes ≠ []) (k : ℕ) (s : State) :
    Ends (∃ e, a.getEncoder i k c.encoderId = some e ∧ a.Admits e) s (tryEncoder a i c k s) := by
  cases hget : a.getEncoder i k c.encoderId with
  | none => exact .inr ⟨by simp, s, by simp only [tryEncoder, hget], Balanced.refl _⟩
  | some e =>
      obtain ⟨t, hinit, hbook⟩ := kmsInit_done e s.obtain hmodes
      have hset : ∀ j, e.possibleCrtcs &&& a.oneShl j ≠ 0 →
          tryCrtc a c e s.book.obtained j s.obtain = .done (t.free s.book.obtained) := by
        intro j hj
        rw [tryCrtc, if_neg hj, hinit, Outcome.map]
      have hunset : ∀ j, e.possibleCrtcs &&& a.oneShl j = 0 →
          tryCrtc a c e s.book.obtained j s.obtain = .failed s.obtain := fun j hj => if_pos hj
      simp only [tryEncoder, hget]
      by_cases hadmits : a.Admits e
      · have hsearch : tryEach (tryCrtc a c e s.book.obtained) (List.range a.countCrtcs) s.obtain =
            .done (t.free s.book.obtained) := by
          obtain ⟨j, hj, hbit⟩ := hadmits
          refine tryEach_eq_of_mem (fun _ => by simp) ?_ ⟨j, List.mem_range.mpr hj, hset j hbit⟩
          intro l _
          by_cases hl : e.possibleCrtcs &&& a.oneShl l = 0
          · exact .inl (hunset l hl)
          · exact .inr (hset l hl)
        refine .inl ⟨⟨e, rfl, hadmits⟩, t.free s.book.obtained, ?_, ?_⟩
        · rw [hsearch]
          rfl
        · refine Balanced.bracket ?_
          rw [hbook]
          exact Balanced.refl _
      · refine .inr ⟨by simpa using hadmits, s.obtain.free s.book.obtained, ?_, ?_⟩
        · rw [tryEach_of_failed, Outcome.orElse]
          intro j hj
          refine hunset j ?_
          by_contra hbit
          exact hadmits ⟨j, List.mem_range.mp hj, hbit⟩
        · exact (Balanced.refl _).bracket

lemma drmFindCrtc_ends (hmodes : c.modes ≠ []) (s : State) :
    Ends (a.Finds i c) s (drmFindCrtc a i c s) :=
  Ends.tryEach fun k _ t => tryEncoder_ends hmodes k t

lemma drmFindEncoder_ends (hmodes : c.modes ≠ []) (hbound : a.bound i c = some e) (s : State) :
    Ends (e.crtcId ≠ 0 ∨ a.Finds i c) s (drmFindEncoder a i c s) := by
  simp only [drmFindEncoder, hbound]
  split_ifs with hdrives
  · refine Ends.bracket ?_
    obtain ⟨t, hinit, hbook⟩ := kmsInit_done e s.obtain hmodes
    exact .inl ⟨.inl hdrives, t, hinit, hbook ▸ Balanced.refl _⟩
  · have hends := (drmFindCrtc_ends (a := a) (i := i) hmodes
      (s.obtain.free s.book.obtained)).of_iff (or_iff_right hdrives).symm
    have hstart : Balanced s.book (s.obtain.free s.book.obtained).book := (Balanced.refl _).bracket
    rcases hends with ⟨hfound, t, ht, hbal⟩ | ⟨hnone, t, ht, hbal⟩
    · exact .inl ⟨hfound, t, ht, hstart.trans hbal⟩
    · exact .inr ⟨hnone, t, ht, hstart.trans hbal⟩

lemma visitConnector_of_none (hc : a.connector i = none) (s : State) :
    visitConnector a i s = .failed s := by
  rw [Calls.connector] at hc
  simp only [visitConnector, hc]

lemma visitConnector_of_usable (hc : a.connector i = some c) (husable : c.Usable) (s : State) :
    visitConnector a i s = (drmFindEncoder a i c s.obtain).map (State.free s.book.obtained) := by
  rw [Calls.connector] at hc
  simp only [visitConnector, hc]
  exact if_neg (by simpa [Connector.Usable] using husable)

lemma visitConnector_of_unusable (hc : a.connector i = some c) (husable : ¬ c.Usable) (s : State) :
    visitConnector a i s = .failed s.obtain := by
  rw [Calls.connector] at hc
  simp only [visitConnector, hc]
  refine if_pos ?_
  by_contra hnot
  exact husable (by simpa [Connector.Usable] using hnot)

/-- **One connector.**  It is passed over, and owed if it is unusable; or its bound encoder cannot
be read; or it is the one the search ends with. -/
lemma visitConnector_cases (a : Calls) (i : ℕ) (s : State) :
    (a.Passes i ∧ ∃ s', visitConnector a i s = .failed s' ∧
      ((∀ c, a.connector i = some c → c.Usable) ∧ Balanced s.book s'.book ∨
        (∃ c, a.connector i = some c ∧ ¬ c.Usable) ∧ s'.book = s.book.obtain)) ∨
    ((∃ c, a.connector i = some c ∧ c.Usable ∧ a.bound i c = none) ∧
      visitConnector a i s = .crashed) ∨
    (∃ c e, a.connector i = some c ∧ c.Usable ∧ a.bound i c = some e ∧
      (e.crtcId ≠ 0 ∨ a.Finds i c)) ∧
      ∃ s', visitConnector a i s = .done s' ∧ Balanced s.book s'.book := by
  cases hc : a.connector i with
  | none =>
      exact .inl ⟨by simp [Calls.Passes, hc], s, visitConnector_of_none hc s,
        .inl ⟨by simp, Balanced.refl _⟩⟩
  | some c =>
      by_cases husable : c.Usable
      · rw [visitConnector_of_usable hc husable]
        cases hbound : a.bound i c with
        | none =>
            refine .inr (.inl ⟨⟨c, rfl, husable, hbound⟩, ?_⟩)
            simp only [drmFindEncoder, hbound, Outcome.map]
        | some e =>
            rcases (drmFindEncoder_ends husable.2 hbound s.obtain).bracket with
              ⟨hfound, s', hs', hbal⟩ | ⟨hnone, s', hs', hbal⟩
            · exact .inr (.inr ⟨⟨c, e, rfl, husable, hbound, hfound⟩, s', hs', hbal⟩)
            · refine .inl ⟨?_, s', hs', .inl ⟨?_, hbal⟩⟩
              · intro c' hc' _
                obtain rfl := Option.some.inj (hc.symm.trans hc')
                exact ⟨e, hbound, by simpa using fun h => hnone (.inl h), fun h => hnone (.inr h)⟩
              · rintro c' ⟨⟩
                exact husable
      · refine .inl ⟨?_, s.obtain, visitConnector_of_unusable hc husable s,
          .inr ⟨⟨c, rfl, husable⟩, rfl⟩⟩
        intro c' hc' husable'
        obtain rfl := Option.some.inj (hc.symm.trans hc')
        exact absurd husable' husable

lemma exists_failed_of_passes (hpass : a.Passes i) (s : State) :
    ∃ s', visitConnector a i s = .failed s' := by
  rcases visitConnector_cases a i s with ⟨_, s', hs', _⟩ | ⟨⟨c, hc, husable, hno⟩, _⟩ |
    ⟨⟨c, e, hc, husable, hbound, hfound⟩, _⟩
  · exact ⟨s', hs'⟩
  · obtain ⟨e, hbound, _⟩ := hpass c hc husable
    cases hno.symm.trans hbound
  · obtain ⟨e', hbound', hdrives, hnone⟩ := hpass c hc husable
    obtain rfl := Option.some.inj (hbound.symm.trans hbound')
    exact absurd hdrives (hfound.resolve_right hnone)

end Rounds

/-! ## The whole search -/

section Search

variable {a : Calls} {i k : ℕ} {s : State}

/-- Nothing is obtained yet. -/
def start (kms : Kms) : State := ⟨kms, ⟨0, []⟩⟩

/-- What holds when round `i` begins: the rounds before went on, and what is owed is what was
unusable. -/
structure AtRound (a : Calls) (i : ℕ) (s : State) : Prop where
  passes : ∀ k < i, a.Passes k
  owes : ∃ owed, s.book.Owes owed ∧
    (owed = [] ↔ ∀ k < i, ∀ c, a.connector k = some c → c.Usable)

lemma AtRound.start (kms : Kms) : AtRound a 0 (start kms) :=
  ⟨by simp, [], Book.owes_start, by simp⟩

/-- The step lemma. -/
lemma AtRound.next {s' : State} (h : AtRound a i s) (hvisit : visitConnector a i s = .failed s') :
    AtRound a (i + 1) s' := by
  obtain ⟨hpasses, owed, howed, hnil⟩ := h
  rcases visitConnector_cases a i s with ⟨hpass, t, ht, hleft⟩ | ⟨_, hcrash⟩ | ⟨_, t, hdone, _⟩
  · obtain rfl := Outcome.failed.inj (ht.symm.trans hvisit)
    refine ⟨Nat.forall_lt_succ_right.mpr ⟨hpasses, hpass⟩, ?_⟩
    rcases hleft with ⟨husable, hbal⟩ | ⟨⟨c, hc, hnot⟩, hbook⟩
    · refine ⟨owed, hbal owed howed, ?_⟩
      rw [hnil, Nat.forall_lt_succ_right, and_iff_left husable]
    · refine ⟨s.book.obtained :: owed, hbook ▸ howed.obtain, ?_⟩
      refine iff_of_false (List.cons_ne_nil _ _) ?_
      intro hall
      exact hnot (hall i (Nat.lt_succ_self i) c hc)
  · cases hcrash.symm.trans hvisit
  · cases hdone.symm.trans hvisit

/-- **How the search ends.**  It goes through all connectors, or ends with a usable one: with a
crash, if that has no encoder to be read, or successfully. -/
lemma drmFindConnector_cases (a : Calls) (kms : Kms) :
    (∃ s, drmFindConnector a (start kms) = .failed s ∧ AtRound a a.countConnectors s) ∨
      ∃ k < a.countConnectors, ∃ s c, AtRound a k s ∧ ¬ a.Passes k ∧
        a.connector k = some c ∧ c.Usable ∧
        (a.bound k c = none ∧ drmFindConnector a (start kms) = .crashed ∨
          ∃ e s', a.bound k c = some e ∧ drmFindConnector a (start kms) = .done s' ∧
            Balanced s.book s'.book) := by
  rcases tryEach_rounds (AtRound.start kms) (fun i _ s s' h hvisit => h.next hvisit) with
    hall | ⟨k, hk, s, hs, heq, hne⟩
  · exact .inl hall
  · have hstop : ¬ a.Passes k := by
      intro hpass
      obtain ⟨s', hs'⟩ := exists_failed_of_passes hpass s
      exact hne s' hs'
    rcases visitConnector_cases a k s with ⟨hpass, _⟩ | ⟨⟨c, hc, husable, hno⟩, hcrash⟩ |
      ⟨⟨c, e, hc, husable, hbound, _⟩, s', hdone, hbal⟩
    · exact absurd hpass hstop
    · exact .inr ⟨k, hk, s, c, hs, hstop, hc, husable, .inl ⟨hno, heq.trans hcrash⟩⟩
    · exact .inr ⟨k, hk, s, c, hs, hstop, hc, husable,
        .inr ⟨e, s', hbound, heq.trans hdone, hbal⟩⟩

/-- When everything later is balanced, what is left unfreed is what was owed at that round. -/
lemma AtRound.settled_iff {s' : State} (h : AtRound a i s) (hbal : Balanced s.book s'.book) :
    s'.book.Settled ↔ ∀ k < i, ∀ c, a.connector k = some c → c.Usable := by
  obtain ⟨owed, howed, hnil⟩ := h.owes
  rw [(hbal owed howed).settled_iff, hnil]

/-- A connector that is passed over has an encoder that could be read, if it is usable. -/
lemma exists_bound_of_passes {c : Connector} (hpass : a.Passes i) (hc : a.connector i = some c)
    (husable : c.Usable) : ∃ e, a.bound i c = some e := by
  obtain ⟨e, he, _⟩ := hpass c hc husable
  exact ⟨e, he⟩

lemma reaches_iff_lt (hall : ∀ j < a.countConnectors, a.Passes j) :
    a.Reaches i ↔ i < a.countConnectors :=
  ⟨And.left, fun hi => ⟨hi, fun j hj => hall j (hj.trans hi)⟩⟩

/-- Where the search ends is the last round it reaches. -/
lemma reaches_iff_le (hk : k < a.countConnectors) (hbefore : ∀ j < k, a.Passes j)
    (hstop : ¬ a.Passes k) : a.Reaches i ↔ i ≤ k := by
  constructor
  · rintro ⟨_, hpasses⟩
    by_contra hlt
    exact hstop (hpasses k (by omega))
  · intro hle
    exact ⟨hle.trans_lt hk, fun j hj => hbefore j (hj.trans_le hle)⟩

lemma forall_reaches_iff {c : Connector} {P : ℕ → Connector → Prop} (hk : k < a.countConnectors)
    (hbefore : ∀ j < k, a.Passes j) (hstop : ¬ a.Passes k) (hc : a.connector k = some c) :
    (∀ i, a.Reaches i → ∀ c, a.connector i = some c → P i c) ↔
      (∀ i < k, ∀ c, a.connector i = some c → P i c) ∧ P k c := by
  simp only [reaches_iff_le hk hbefore hstop]
  constructor
  · intro hall
    exact ⟨fun i hi => hall i hi.le, hall k le_rfl c hc⟩
  · rintro ⟨hlt, hlast⟩ i hi c' hc'
    rcases hi.lt_or_eq with hi | rfl
    · exact hlt i hi c' hc'
    · obtain rfl := Option.some.inj (hc.symm.trans hc')
      exact hlast

end Search

/-! ## The search and the table -/

/-- Every call answers from the table. -/
def Calls.ofTable (t : DrmTable) : Calls where
  countConnectors := t.connectors.length
  connectors := fun i => t.connectors.getD i 0
  countCrtcs := t.crtcs.length
  getConnector := fun _ => t.getConnector
  getBound := fun _ => t.getEncoder
  getEncoder := fun _ _ => t.getEncoder
  oneShl := fun j => 1 <<< UInt32.ofNat j
  oneShl_eq := fun _ _ => rfl

lemma map_kmsInit (c : Connector) (e : Encoder) (s : State) :
    (kmsInit c e s).map State.kms = drmKmsInit c e s.kms := by
  rw [kmsInit, Outcome.map_map]
  cases drmKmsInit c e s.kms <;> rfl

lemma map_free (h : ℕ) (r : Outcome State) :
    (r.map (State.free h)).map State.kms = r.map State.kms := by
  cases r <;> rfl

lemma map_tryCrtc (t : DrmTable) (c : Connector) (e : Encoder) (h j : ℕ) (s : State) :
    (tryCrtc (.ofTable t) c e h j s).map State.kms = Mp157.tryCrtc c e j s.kms := by
  rw [tryCrtc, Mp157.tryCrtc, Calls.ofTable]
  split_ifs
  · rfl
  · rw [map_free, map_kmsInit]

lemma map_drmFindCrtc (t : DrmTable) (i : ℕ) (c : Connector) (s : State) :
    (drmFindCrtc (.ofTable t) i c s).map State.kms = Mp157.drmFindCrtc t c s.kms := by
  rw [drmFindCrtc, Mp157.drmFindCrtc, map_tryEach id ?_, List.map_id]
  intro k _ s
  have hget : (Calls.ofTable t).getEncoder i k c.encoderId = t.getEncoder c.encoderId := rfl
  rw [tryEncoder, hget]
  cases t.getEncoder c.encoderId with
  | none => rfl
  | some e =>
      have hclean : ∀ u : State, (Outcome.failed (u.free s.book.obtained)).map State.kms =
          Outcome.failed u.kms := fun _ => rfl
      simp only
      rw [Outcome.map_orElse hclean, map_tryEach id fun j _ s => map_tryCrtc t c e _ j s,
        List.map_id, Outcome.orElse_failed]
      rfl

lemma map_drmFindEncoder (t : DrmTable) (i : ℕ) (c : Connector) (s : State) :
    (drmFindEncoder (.ofTable t) i c s).map State.kms = Mp157.drmFindEncoder t c s.kms := by
  have hbound : (Calls.ofTable t).bound i c = t.boundEncoder c := rfl
  rw [drmFindEncoder, Mp157.drmFindEncoder, hbound]
  cases t.boundEncoder c with
  | none => rfl
  | some e =>
      simp only
      split_ifs
      · rw [map_free, map_kmsInit]
        rfl
      · exact map_drmFindCrtc t i c _

/-- **The same search.**  With a table behind the calls, `kms` ends up as in `Drm/Selection.lean`,
where objects are not counted. -/
theorem drmFindConnector_ofTable (t : DrmTable) (s : State) :
    (drmFindConnector (.ofTable t) s).map State.kms = Mp157.drmFindConnector t s.kms := by
  have hids : (List.range t.connectors.length).map (Calls.ofTable t).connectors = t.connectors := by
    refine List.ext_getElem (by simp) ?_
    intro i _ hi
    simp [Calls.ofTable, hi]
  rw [drmFindConnector, Mp157.drmFindConnector, ← hids]
  refine map_tryEach (Calls.ofTable t).connectors ?_ s
  intro i _ s
  have hget : (Calls.ofTable t).getConnector i = t.getConnector := rfl
  rw [visitConnector, Mp157.visitConnector, hget]
  cases t.getConnector ((Calls.ofTable t).connectors i) with
  | none => rfl
  | some c =>
      simp only
      split_ifs
      · rfl
      · rw [map_free, map_drmFindEncoder]
        rfl

/-! ## Reads through `NULL` -/

/-- **When no field is read through `NULL`.**  For all calls and however each of them ends: exactly
when every connector that is reached and usable has an encoder bound to it, and the first call for
that encoder returns one.  The function then returns. -/
theorem no_null_read_iff (a : Calls) (kms : Kms) :
    (∃ s, Returns (drmFindConnector a (start kms)) s) ↔
      ∀ i, a.Reaches i → ∀ c, a.connector i = some c → c.Usable →
        c.encoderId ≠ 0 ∧ ∃ e, a.getBound i c.encoderId = some e := by
  have hbound : ∀ i c, (c.encoderId ≠ 0 ∧ ∃ e, a.getBound i c.encoderId = some e) ↔
      ∃ e, a.bound i c = some e := by
    intro i c
    simp [Calls.bound]
  simp only [hbound]
  rcases drmFindConnector_cases a kms with ⟨s, hs, hat⟩ |
    ⟨k, hk, s, c, hat, hstop, hc, husable, hend⟩
  · refine iff_of_true ⟨s, .inr hs⟩ ?_
    intro i hi c hc
    exact exists_bound_of_passes (hat.passes i hi.1) hc
  · rw [forall_reaches_iff hk hat.passes hstop hc]
    rcases hend with ⟨hno, hcrash⟩ | ⟨e, s', he, hdone, _⟩
    · refine iff_of_false ?_ ?_
      · rintro ⟨s', hs' | hs'⟩
        · cases hcrash.symm.trans hs'
        · cases hcrash.symm.trans hs'
      · rintro ⟨_, hlast⟩
        obtain ⟨e, he⟩ := hlast husable
        cases hno.symm.trans he
    · refine iff_of_true ⟨s', .inl hdone⟩ ⟨?_, fun _ => ⟨e, he⟩⟩
      intro i hi c hc
      exact exists_bound_of_passes (hat.passes i hi) hc

/-- The panel without an encoder, and the panel whose encoder is gone when it is asked for. -/
theorem null_read :
    drmFindConnector (.ofTable (onePanel false true)) (start kmsStart) = .crashed ∧
      drmFindConnector { Calls.ofTable (onePanel true true) with getBound := fun _ _ => none }
        (start kmsStart) = .crashed := ⟨rfl, rfl⟩

/-! ## What is left allocated -/

/-- **When everything is freed.**  For all calls, whenever the function returns: every object
obtained has been freed exactly once, exactly when every connector reached that could be read is
connected and has a mode. -/
theorem lookups_settled_iff {a : Calls} {kms : Kms} {s : State}
    (hreturns : Returns (drmFindConnector a (start kms)) s) :
    s.book.Settled ↔ ∀ i, a.Reaches i → ∀ c, a.connector i = some c → c.Usable := by
  rcases drmFindConnector_cases a kms with ⟨t, ht, hat⟩ |
    ⟨k, hk, t, c, hat, hstop, hc, husable, ⟨_, hcrash⟩ | ⟨e, t', _, hdone, hbal⟩⟩
  · obtain rfl : t = s := by
      rcases hreturns with h | h
      · cases ht.symm.trans h
      · exact Outcome.failed.inj (ht.symm.trans h)
    rw [hat.settled_iff (Balanced.refl _)]
    simp only [reaches_iff_lt hat.passes]
  · rcases hreturns with h | h <;> cases hcrash.symm.trans h
  · obtain rfl : t' = s := by
      rcases hreturns with h | h
      · exact Outcome.done.inj (hdone.symm.trans h)
      · cases hdone.symm.trans h
    rw [hat.settled_iff hbal, forall_reaches_iff hk hat.passes hstop hc, and_iff_left husable]

/-- The panel, its encoder and its CRTC are bound to one another. -/
theorem lookups_settled_panel : ∃ s,
    drmFindConnector (.ofTable (onePanel true true)) (start kmsStart) = .done s ∧
      s.book.obtained = 2 ∧ s.book.Settled := by
  have hreturns : ∃ s,
      drmFindConnector (.ofTable (onePanel true true)) (start kmsStart) = .done s ∧
        s.book.obtained = 2 := ⟨_, rfl, rfl⟩
  obtain ⟨s, hs, hobtained⟩ := hreturns
  refine ⟨s, hs, hobtained, (lookups_settled_iff (.inl hs)).mpr ?_⟩
  rintro i - c hc
  obtain ⟨_, ⟨⟩⟩ := Option.ite_none_right_eq_some.mp hc
  exact ⟨rfl, List.cons_ne_nil _ _⟩

/-- A connector with nothing plugged in. -/
def unplugged : Calls where
  countConnectors := 1
  connectors := fun _ => 10
  countCrtcs := 1
  getConnector := fun _ id => some ⟨id, 0, .disconnected, [], [20]⟩
  getBound := fun _ _ => none
  getEncoder := fun _ _ _ => none
  oneShl := fun j => 1 <<< UInt32.ofNat j
  oneShl_eq := fun _ _ => rfl

/-- It is obtained and not freed. -/
theorem lookups_unsettled : ∃ s, drmFindConnector unplugged (start kmsStart) = .failed s ∧
    s.book = ⟨1, []⟩ ∧ ¬ s.book.Settled := by
  refine ⟨_, rfl, rfl, ?_⟩
  intro hsettled
  exact absurd (hsettled 0 Nat.one_pos) (by decide)

end Mp157.Lookup
