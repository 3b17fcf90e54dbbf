import Mp157.Drm.Setup
import Mp157.Picture.Background
import Mp157.Picture.Release
import Mp157.Picture.Truncated

/-!
# The picture viewer as a whole (`main.c` of the first program)

`main` opens the display device, reads the file, sets the display up with the depth of the picture,
draws the picture, then draws the background three times, and takes the display down.  The parts
are those of the other modules; here is how they follow one another, and what each of the early
returns leaves behind.  A framebuffer is seen while the program sleeps.  A header may promise more
pixels than 32 bits can count, so what is computed of its sides is what the registers hold.

* `main_returns` — the ways `main` returns.
* `viewer_releases` — what each of them leaves open, mapped or allocated.
-/

namespace Mp157.Viewer

open ByteMemory Ledger Stages Drm Bmp

/-! ## The program -/

/-- The arguments, the outcomes of the calls, and what is there before. -/
structure Calls where
  argc : ℤ
  device : OpenCalls
  /-- `fopen(argv[1], "rb")` -/
  fp : Option File
  locals : Locals
  /-- What `malloc` finds, `none` when it fails. -/
  heap : Option Mem
  drm : DrmCalls
  crtc : UInt32 → CrtcConfig

/-- The program's variables, and what its calls have done. -/
structure State where
  /-- The display device, opened and closed. -/
  device : Book
  books : Release.Books
  bmpmode : Bool
  display : DrmState
  /-- What the framebuffer held at each `sleep`. -/
  screens : List Block

def start (o : Calls) : State := ⟨⟨0, []⟩, .start, false, drmStart kmsStart o.crtc, []⟩

/-- `close(fd)` -/
def State.close (s : State) : State := { s with device := s.device.free 0 }

/-- No byte is at `NULL`. -/
def nullBlock : Block := ⟨some 0, fun _ => 0⟩

/-- What is at `kms.fb_map`. -/
def State.fbMap (s : State) : Block := s.display.fbMem.getD nullBlock

/-- `sleep` -/
def State.shows (fb : Block) (s : State) : State :=
  { s with display := { s.display with fbMem := some fb }, screens := s.screens ++ [fb] }

/-- Draws, and sleeps. -/
def State.draw (f : Block → Option Block) (s : State) : Outcome State :=
  match f s.fbMap with
  | none => .crashed
  | some fb => .done (s.shows fb)

def drmOpen (o : Calls) (s : State) : Outcome State :=
  (Drm.drmOpen o.device s.device).map fun device => { s with device := device }

def drmInit (o : Calls) (s : State) : Outcome State :=
  match Drm.drmInit s.bmpmode o.drm s.display with
  | .done display => .done { s with display := display }
  | .failed display => .failed { s with display := display }
  | .crashed => .crashed

def lcdShowPic (out : Outputs) (s : State) : Outcome State :=
  s.draw fun fbMap => lcdShowPic32 s.display.kms.toKmsConfig fbMap
    (out.colorData.getD nullBlock) out.biWidth out.biHeight out.biBitCount

/-- `free(colorData)` -/
def freeColorData (s : State) : State :=
  { s with books := { s.books with blocks := s.books.blocks.free 0 } }

/-- Reads the file and, if that succeeds, shows it. -/
def showFile (o : Calls) (s : State) : Outcome State :=
  match Release.readData o.fp o.locals o.heap emptyOutputs with
  | none => .crashed
  | some r =>
      let s := { s with books := r.books }
      if r.ret = 0 then
        match drmInit o { s with bmpmode := decide (r.out.biBitCount ≠ 16) } with
        | .crashed => .crashed
        -- `colorData` is not freed
        | .failed s => .failed s.close
        | .done s => (lcdShowPic r.out s).map freeColorData
      else .done s

/-- The passes `for(k = 0; k < 3; k++)`, each with its `sleep`. -/
def drmDrawBackground : List ℕ → State → Outcome State
  | [], s => .done s
  | color :: colors, s =>
      (s.draw fun fbMap => drawPass s.display.kms.toKmsConfig s.bmpmode fbMap color).andThen
        (drmDrawBackground colors)

/-- `drm_free_fb(fd); close(fd);` -/
def release (s : State) : Outcome State :=
  .done { s with display := drmFreeFb s.display }.close

/-- `main`.  It returns -1 in any case: `failed` is one of the early returns, `done` the last. -/
def main (o : Calls) : Outcome State :=
  if o.argc ≠ 2 then .failed (start o)
  else
    (((drmOpen o (start o)).andThen (showFile o)).andThen
      (drmDrawBackground Program.picture.colors)).andThen release

/-! ## Reading the file -/

namespace Calls

/-- The device is opened, and has dumb buffers. -/
structure Opens (o : Calls) : Prop where
  argc : o.argc = 2
  device : o.device.Succeed

/-- `f` is opened, its headers are accepted, and `malloc` finds `m`. -/
structure Reads (o : Calls) (f : File) (m : Mem) : Prop where
  fp : o.fp = some f
  heap : o.heap = some m
  accepted : (readHeaders f o.locals).Accepted

/-- What `readData` then stores. -/
def picture (o : Calls) (f : File) (m : Mem) : Outputs :=
  { emptyOutputs.withHeader (readHeaders f o.locals).infoHeader with
    colorData := some ((readHeaders f o.locals).colorData o.locals m) }

/-- `biBitCount` -/
def bits (o : Calls) (f : File) : ℕ := (readHeaders f o.locals).infoHeader.biBitCount

/-- `drm_init`, for a picture of `bits` bits. -/
def display (o : Calls) (bits : ℤ) : Outcome DrmState :=
  Drm.drmInit (decide (bits ≠ 16)) o.drm (drmStart kmsStart o.crtc)

end Calls

section Read

variable {o : Calls} {f : File} {m : Mem} {r : Release.Return}

/-- **A return of 0.** -/
lemma readData_zero (hr : Release.readData o.fp o.locals o.heap emptyOutputs = some r)
    (hret : r.ret = 0) : ∃ f m, o.Reads f m ∧
      r = ⟨0, o.picture f m, Release.Books.start.fopen.malloc.fclose 0⟩ := by
  cases hfp : o.fp with
  | none =>
      rw [hfp] at hr
      obtain rfl := Option.some.inj hr
      cases hret
  | some f =>
      rw [hfp] at hr
      have hresult : readPicture (readHeaders f o.locals) o.locals o.heap emptyOutputs
          = some r.result := by
        have herase := @Release.readData_erase (some f) o.locals o.heap emptyOutputs
        rw [hr] at herase
        exact herase.symm
      obtain ⟨haccepted, m, hheap, hres⟩ := readPicture_zero_iff.mp ⟨hresult, hret⟩
      refine ⟨f, m, ⟨hfp, hheap, haccepted⟩, ?_⟩
      have hout := congrArg Result.out hres
      cases Release.readData_exit hr with
      | refused => cases hret
      | exhausted => cases hret
      | complete _ _ b =>
          have hb : { emptyOutputs.withHeader (readHeaders f o.locals).infoHeader with
              colorData := some b } = o.picture f m := hout
          rw [hb]

lemma readData_of_reads (h : o.Reads f m) :
    Release.readData o.fp o.locals o.heap emptyOutputs
      = some ⟨0, o.picture f m, Release.Books.start.fopen.malloc.fclose 0⟩ := by
  have hread : Bmp.readData o.fp o.locals o.heap emptyOutputs = some ⟨0, o.picture f m, 1⟩ := by
    rw [h.fp]
    exact (readPicture_zero_iff.mpr ⟨h.accepted, m, h.heap, rfl⟩).1
  obtain ⟨r, hr⟩ := Release.exists_readData hread
  have hret : r.ret = 0 := by
    have herase := Release.readData_erase.trans hread
    rw [hr] at herase
    exact congrArg Result.ret (Option.some.inj herase)
  obtain ⟨f', m', h', rfl⟩ := readData_zero hr hret
  obtain rfl := Option.some.inj (h.fp.symm.trans h'.fp)
  obtain rfl := Option.some.inj (h.heap.symm.trans h'.heap)
  exact hr

lemma readData_minus_one (hr : Release.readData o.fp o.locals o.heap emptyOutputs = some r)
    (hret : r.ret ≠ 0) : r.ret = -1 ∧ ∀ f m, ¬ o.Reads f m := by
  constructor
  · cases hfp : o.fp with
    | none =>
        rw [hfp] at hr
        obtain rfl := Option.some.inj hr
        rfl
    | some f =>
        rw [hfp] at hr
        cases Release.readData_exit hr with
        | refused => rfl
        | exhausted => rfl
        | complete => exact absurd rfl hret
  · intro f m hreads
    obtain rfl := Option.some.inj (hr.symm.trans (readData_of_reads hreads))
    exact hret rfl

lemma Calls.Reads.unique {f' : File} {m' : Mem} (h : o.Reads f m) (h' : o.Reads f' m') :
    f' = f :=
  Option.some.inj (h'.fp.symm.trans h.fp)

lemma Calls.Reads.not_mallocFails (h : o.Reads f m) :
    ¬ Release.MallocFails o.locals o.heap o.fp := by
  rw [h.fp, h.heap]
  exact fun hfails => Option.some_ne_none m hfails.1

/-- The loop over the pixels leaves the array: the bytes asked of `malloc` have wrapped around. -/
def Overruns (H : Headers) (heap : Option Mem) : Prop :=
  heap ≠ none ∧ H.infoHeader.biBitCount = 24 ∧ 2 ^ 30 ≤ H.pixels

/-- **No result.** -/
lemma readData_eq_none_iff :
    Release.readData o.fp o.locals o.heap emptyOutputs = none ↔
      ∃ f, o.fp = some f ∧ Overruns (readHeaders f o.locals) o.heap := by
  rw [← Option.map_eq_none_iff (f := Release.Return.result), Release.readData_erase]
  cases o.fp with
  | none => simp [Bmp.readData]
  | some f =>
      simp only [Option.some.injEq, exists_eq_left', Bmp.readData, Overruns]
      generalize readHeaders f o.locals = H
      by_cases hdepth : Depth H.infoHeader.biBitCount
      swap
      · rw [readPicture_depth hdepth]
        refine iff_of_false (Option.some_ne_none _) ?_
        rintro ⟨-, h24, -⟩
        exact hdepth (.inr (by exact_mod_cast h24))
      cases o.heap with
      | none => simp [readPicture_null hdepth]
      | some m =>
          have hreturns := @readBmpData_returns_iff (pixelValue H.infoHeader.biBitCount)
            (storedBytes H.infoHeader.biBitCount) (pixelBytes H.infoHeader.biBitCount)
            H.allocated H.file o.locals.color m (asLong H.fileHeader.bfOffBits) H.pixels
            (lt_of_lt_of_le Nat.two_pos (pixelBytes_ge _))
          rw [allocated_ge_iff hdepth, ← Option.isSome_iff_exists] at hreturns
          rw [readPicture_malloc hdepth, Option.map_eq_none_iff,
            ← Option.not_isSome_iff_eq_none, hreturns, not_or, not_lt]
          constructor
          · rintro ⟨h16, hlarge⟩
            refine ⟨Option.some_ne_none m, ?_, hlarge⟩
            exact_mod_cast hdepth.resolve_left (by exact_mod_cast h16)
          · rintro ⟨-, h24, hlarge⟩
            exact ⟨by omega, hlarge⟩

end Read

/-! ## Drawing -/

/-- What drawing leaves as it was. -/
structure State.Same (s s' : State) : Prop where
  device : s'.device = s.device
  books : s'.books = s.books
  kms : s'.display.kms = s.display.kms
  created : s'.display.created = s.display.created
  released : s'.display.released = s.display.released

section Draw

variable {s s' s'' : State} {g : Block → Option Block} {fb : Block} {colors : List ℕ}

lemma State.Same.refl (s : State) : s.Same s := ⟨rfl, rfl, rfl, rfl, rfl⟩

lemma State.Same.trans (h : s.Same s') (h' : s'.Same s'') : s.Same s'' :=
  ⟨h'.device.trans h.device, h'.books.trans h.books, h'.kms.trans h.kms,
    h'.created.trans h.created, h'.released.trans h.released⟩

lemma draw_of_eq_some (hg : g s.fbMap = some fb) : s.draw g = .done (s.shows fb) := by
  rw [State.draw, hg]

lemma fbMap_shows : (s.shows fb).fbMap = fb := rfl

lemma draw_same (hdraw : s.draw g = .done s') : s.Same s' := by
  rw [State.draw] at hdraw
  cases hg : g s.fbMap with
  | none =>
      rw [hg] at hdraw
      cases hdraw
  | some fb =>
      rw [hg] at hdraw
      obtain rfl := Outcome.done.inj hdraw
      exact ⟨rfl, rfl, rfl, rfl, rfl⟩

lemma draw_ne_failed : s.draw g ≠ .failed s' := by
  rw [State.draw]
  cases g s.fbMap with
  | none => exact nofun
  | some fb => exact nofun

lemma background_same (hdraw : drmDrawBackground colors s = .done s') : s.Same s' := by
  induction colors generalizing s with
  | nil =>
      obtain rfl := Outcome.done.inj hdraw
      exact .refl s
  | cons color colors ih =>
      obtain ⟨t, hpass, hrest⟩ := Outcome.andThen_eq_done.mp hdraw
      exact (draw_same hpass).trans (ih hrest)

lemma background_ne_failed : drmDrawBackground colors s ≠ .failed s' := by
  induction colors generalizing s with
  | nil => exact nofun
  | cons color colors ih =>
      intro hdraw
      rw [drmDrawBackground] at hdraw
      cases hpass : s.draw fun fbMap =>
        drawPass s.display.kms.toKmsConfig s.bmpmode fbMap color with
      | done t =>
          rw [hpass] at hdraw
          exact ih hdraw
      | failed t => exact draw_ne_failed hpass
      | crashed =>
          rw [hpass] at hdraw
          cases hdraw

/-- **The background.**  The screens are those of the passes, over what was there. -/
lemma background_eq (hfb : s.fbMap.Holds s.display.kms.fbSize.toNat) :
    ∃ s', drmDrawBackground colors s = .done s' ∧ s'.screens = s.screens ++ colors.map fun c =>
      ⟨s.fbMap.limit, coloured s.fbMap.byte
        (s.display.kms.fbSize.toNat / backgroundBytes s.bmpmode) c⟩ := by
  induction colors generalizing s with
  | nil => exact ⟨s, rfl, (List.append_nil _).symm⟩
  | cons color colors ih =>
      let fb : Block := ⟨s.fbMap.limit, coloured s.fbMap.byte
        (s.display.kms.fbSize.toNat / backgroundBytes s.bmpmode) color⟩
      have hpass : (s.draw fun fbMap =>
          drawPass s.display.kms.toKmsConfig s.bmpmode fbMap color) = .done (s.shows fb) :=
        draw_of_eq_some (drawPass_eq hfb)
      obtain ⟨s', hrest, hscreens⟩ := @ih (s.shows fb) hfb
      refine ⟨s', ?_, ?_⟩
      · rw [drmDrawBackground, hpass]
        exact hrest
      · rw [hscreens, fbMap_shows]
        -- a later pass covers what an earlier one has drawn
        simp only [State.shows, fb, coloured_coloured, List.map_cons, List.append_assoc,
          List.singleton_append]

end Draw

/-! ## How a run ends -/

/-- The device has been opened. -/
def opened (o : Calls) : State := { start o with device := (start o).device.obtain }

/-- The file has been read, and the display is as `drm_init` leaves it. -/
def ready (o : Calls) (f : File) (d : DrmState) : State :=
  { opened o with
    books := Release.Books.start.fopen.malloc.fclose 0
    bmpmode := decide ((o.bits f : ℤ) ≠ 16)
    display := d }

/-- What follows `drm_init`. -/
def showPicture (o : Calls) (f : File) (m : Mem) (d : DrmState) : Outcome State :=
  (((lcdShowPic (o.picture f m) (ready o f d)).map freeColorData).andThen
    (drmDrawBackground Program.picture.colors)).andThen release

section Ends

variable {o : Calls} {f : File} {m : Mem} {r : Release.Return} {s : State} {d : DrmState}

lemma main_of_not_opens (hopen : ¬ o.Opens) : ∃ s, main o = .failed s ∧ s.device.Settled ∧
    s.books = .start ∧ s.display = drmStart kmsStart o.crtc := by
  have hnone : (start o).device.Owes [] := Book.owes_start
  rw [main]
  by_cases hargc : o.argc = 2
  swap
  · rw [if_pos hargc]
    exact ⟨_, rfl, hnone.settled_iff.mpr rfl, rfl, rfl⟩
  have hdevice : ¬ o.device.Succeed := fun hdevice => hopen ⟨hargc, hdevice⟩
  obtain ⟨device, hfailed, hbalanced⟩ := drmOpen_of_not_succeed hdevice (start o).device
  rw [if_neg (not_not.mpr hargc), drmOpen, hfailed]
  exact ⟨_, rfl, (hbalanced [] hnone).settled_iff.mpr rfl, rfl, rfl⟩

lemma main_of_opens (hopen : o.Opens) : main o
    = ((showFile o (opened o)).andThen
        (drmDrawBackground Program.picture.colors)).andThen release := by
  rw [main, if_neg (not_not.mpr hopen.argc), drmOpen, drmOpen_of_succeed hopen.device]
  rfl

lemma main_of_overruns (hopen : o.Opens)
    (hr : Release.readData o.fp o.locals o.heap emptyOutputs = none) : main o = .crashed := by
  rw [main_of_opens hopen, showFile, hr]
  rfl

/-- Without a picture the passes draw nothing, and what was never created is released. -/
lemma main_of_unread (hopen : o.Opens)
    (hr : Release.readData o.fp o.locals o.heap emptyOutputs = some r) (hret : r.ret ≠ 0) :
    ∃ s, main o = .done s ∧ s.device = ⟨1, [0]⟩ ∧ s.books = r.books ∧ s.display.created = [] ∧
      s.display.released = [.munmap .null 0, .rmFB 0, .destroyDumb 0] := by
  have hshow : showFile o (opened o) = .done { opened o with books := r.books } := by
    rw [showFile, hr]
    exact if_neg hret
  obtain ⟨t, hpasses, -⟩ := @background_eq { opened o with books := r.books }
    Program.picture.colors (by simp [Block.Holds, State.fbMap, nullBlock, opened, start, drmStart,
      kmsStart])
  have hsame := background_same hpasses
  refine ⟨{ t with display := drmFreeFb t.display }.close, ?_, ?_, hsame.books, hsame.created, ?_⟩
  · rw [main_of_opens hopen, hshow, Outcome.andThen, hpasses]
    rfl
  · exact congrArg (Book.free 0) hsame.device
  · simp only [State.close, drmFreeFb, DrmState.release, hsame.released, hsame.kms]
    rfl

/-- With one, `drm_init` decides. -/
lemma main_of_reads (hopen : o.Opens) (hreads : o.Reads f m) :
    main o = match o.display (o.bits f) with
      | .crashed => .crashed
      | .failed d => .failed (ready o f d).close
      | .done d => showPicture o f m d := by
  rw [main_of_opens hopen, showFile, readData_of_reads hreads]
  dsimp only
  rw [if_pos rfl, drmInit]
  have hdisplay : Drm.drmInit (decide ((o.picture f m).biBitCount ≠ 16)) o.drm
      (opened o).display = o.display (o.bits f) := rfl
  dsimp only
  rw [hdisplay]
  cases o.display (o.bits f) with
  | done d => rfl
  | failed d => rfl
  | crashed => rfl

lemma showPicture_ne_failed : showPicture o f m d ≠ .failed s := by
  rw [showPicture]
  cases hdraw : lcdShowPic (o.picture f m) (ready o f d) with
  | failed t => exact absurd hdraw draw_ne_failed
  | crashed => simp [Outcome.map, Outcome.andThen]
  | done t =>
      rw [Outcome.map, Outcome.andThen]
      cases hpasses : drmDrawBackground Program.picture.colors (freeColorData t) with
      | failed t' => exact absurd hpasses background_ne_failed
      | crashed => simp [Outcome.andThen]
      | done t' => simp [Outcome.andThen, release]

/-- What it leaves: whatever it draws, the same objects. -/
lemma showPicture_done (hshow : showPicture o f m d = .done s) :
    s.device = ⟨1, [0]⟩ ∧ s.books = ⟨⟨1, [0]⟩, ⟨1, [0]⟩⟩ ∧ s.display.created = d.created ∧
      s.display.released = (drmFreeFb d).released := by
  obtain ⟨t', hpasses, hrelease⟩ := Outcome.andThen_eq_done.mp hshow
  obtain ⟨t, hpic, hpasses⟩ := Outcome.andThen_eq_done.mp hpasses
  obtain rfl := Outcome.done.inj hrelease
  obtain ⟨u, hdraw, rfl⟩ := Outcome.map_eq_done.mp hpic
  have hpicture := draw_same hdraw
  have hbackground := background_same hpasses
  refine ⟨?_, ?_, ?_, ?_⟩
  · exact congrArg (Book.free 0) (hbackground.device.trans hpicture.device)
  · exact hbackground.books.trans
      (congrArg (fun b : Release.Books => { b with blocks := b.blocks.free 0 }) hpicture.books)
  · exact hbackground.created.trans hpicture.created
  · have hreleased := hbackground.released.trans hpicture.released
    have hkms := hbackground.kms.trans hpicture.kms
    simp only [State.close, drmFreeFb, DrmState.release, hreleased, hkms]
    rfl

/-- The ways to return, and what is there then. -/
inductive Returns (o : Calls) (s : State) : Prop
  | refused (hopen : ¬ o.Opens) (hdevice : s.device.Settled) (hbooks : s.books = .start)
      (hdisplay : s.display = drmStart kmsStart o.crtc)
  | unread (hopen : o.Opens) (r : Release.Return)
      (hr : Release.readData o.fp o.locals o.heap emptyOutputs = some r) (hret : r.ret ≠ 0)
      (hdevice : s.device = ⟨1, [0]⟩) (hbooks : s.books = r.books)
      (hcreated : s.display.created = [])
      (hreleased : s.display.released = [.munmap .null 0, .rmFB 0, .destroyDumb 0])
  | unshown (hopen : o.Opens) (f : File) (m : Mem) (d : DrmState) (hreads : o.Reads f m)
      (hfailed : o.display (o.bits f) = .failed d) (hs : s = (ready o f d).close)
  | shown (hopen : o.Opens) (f : File) (m : Mem) (d : DrmState) (hreads : o.Reads f m)
      (hdone : o.display (o.bits f) = .done d) (hdevice : s.device = ⟨1, [0]⟩)
      (hbooks : s.books = ⟨⟨1, [0]⟩, ⟨1, [0]⟩⟩) (hcreated : s.display.created = d.created)
      (hreleased : s.display.released = (drmFreeFb d).released)

/-- **One of them is taken.** -/
theorem main_returns (hret : main o = .done s ∨ main o = .failed s) : Returns o s := by
  by_cases hopen : o.Opens
  swap
  · obtain ⟨s', hmain, hdevice, hbooks, hdisplay⟩ := main_of_not_opens hopen
    have hs : s' = s := by
      rcases hret with hret | hret
      · cases hmain.symm.trans hret
      · exact Outcome.failed.inj (hmain.symm.trans hret)
    subst hs
    exact .refused hopen hdevice hbooks hdisplay
  cases hr : Release.readData o.fp o.locals o.heap emptyOutputs with
  | none =>
      rw [main_of_overruns hopen hr] at hret
      rcases hret with hret | hret
      · cases hret
      · cases hret
  | some r =>
      by_cases hzero : r.ret = 0
      swap
      · obtain ⟨s', hmain, hdevice, hbooks, hcreated, hreleased⟩ := main_of_unread hopen hr hzero
        have hs : s' = s := by
          rcases hret with hret | hret
          · exact Outcome.done.inj (hmain.symm.trans hret)
          · cases hmain.symm.trans hret
        subst hs
        exact .unread hopen r hr hzero hdevice hbooks hcreated hreleased
      obtain ⟨f, m, hreads, -⟩ := readData_zero hr hzero
      rw [main_of_reads hopen hreads] at hret
      cases hdisplay : o.display (o.bits f) with
      | crashed =>
          rw [hdisplay] at hret
          rcases hret with hret | hret
          · cases hret
          · cases hret
      | failed d =>
          rw [hdisplay] at hret
          rcases hret with hret | hret
          · cases hret
          · exact .unshown hopen f m d hreads hdisplay (Outcome.failed.inj hret).symm
      | done d =>
          rw [hdisplay] at hret
          rcases hret with hret | hret
          · obtain ⟨hdevice, hbooks, hcreated, hreleased⟩ := showPicture_done hret
            exact .shown hopen f m d hreads hdisplay hdevice hbooks hcreated hreleased
          · exact absurd hret showPicture_ne_failed

end Ends

/-! ## What is left -/

section Left

variable {o : Calls} {f : File} {m : Mem} {s : State} {d : DrmState} {bits : ℤ}

/-- **What a run leaves.**  Whenever `main` returns, and whatever the calls did: the device is
closed once if it was opened; the file is, unless `malloc` failed; the array is freed, unless the
display could not be set up for it; and all of the display's objects are released once, but without
a picture three things are released that were never created. -/
theorem viewer_releases (hret : main o = .done s ∨ main o = .failed s) :
    s.device.Settled ∧
    (s.books.files.Settled ↔ ¬ (o.Opens ∧ Release.MallocFails o.locals o.heap o.fp)) ∧
    (s.books.blocks.Settled ↔
      ¬ (o.Opens ∧ ∃ f m d, o.Reads f m ∧ o.display (o.bits f) = .failed d)) ∧
    (s.display.Clean ↔ ¬ (o.Opens ∧ ∀ f m, ¬ o.Reads f m)) ∧
    ((∀ f m, ¬ o.Reads f m) → s.display.created = []) := by
  have hone : (⟨1, [0]⟩ : Book).Settled := Book.owes_start.obtain.free.settled_iff.mpr rfl
  have hnone : Release.Books.start.blocks.Settled := Book.owes_start.settled_iff.mpr rfl
  cases main_returns hret with
  | refused hopen hdevice hbooks hdisplay =>
      rw [hbooks, hdisplay]
      have hclosed : Release.Books.start.files.Settled := hnone
      refine ⟨hdevice, iff_of_true hclosed ?_, iff_of_true hnone ?_, iff_of_true ?_ ?_,
        fun _ => rfl⟩
      · exact fun h => hopen h.1
      · exact fun h => hopen h.1
      · exact List.Perm.nil
      · exact fun h => hopen h.1
  | unread hopen r hr hzero hdevice hbooks hcreated hreleased =>
      obtain ⟨hfail, hnot⟩ := readData_minus_one hr hzero
      rw [hdevice, hbooks, hcreated]
      refine ⟨hone, ?_, iff_of_true ((Release.blocks_settled_iff hr).mpr hfail) ?_,
        iff_of_false ?_ (not_not.mpr ⟨hopen, hnot⟩), fun _ => rfl⟩
      · rw [Release.files_settled_iff hr, not_iff_not]
        exact (and_iff_right hopen).symm
      · rintro ⟨-, f, m, _, hreads, -⟩
        exact hnot f m hreads
      · rw [DrmState.Clean, hcreated, hreleased]
        exact fun hperm => absurd hperm.length_eq (by decide)
  | unshown hopen f m d hreads hfailed hs =>
      subst hs
      have howed : (Release.Books.start.fopen.malloc.fclose 0).blocks.Owes [0] :=
        Book.owes_start.obtain
      refine ⟨hone, iff_of_true hone ?_, iff_of_false ?_ ?_,
        iff_of_true (drmInit_failed hfailed) ?_, ?_⟩
      · exact fun h => hreads.not_mallocFails h.2
      · exact mt howed.settled_iff.mp (List.cons_ne_nil _ _)
      · exact not_not.mpr ⟨hopen, f, m, d, hreads, hfailed⟩
      · exact fun h => h.2 f m hreads
      · exact fun hnot => absurd hreads (hnot f m)
  | shown hopen f m d hreads hdone hdevice hbooks hcreated hreleased =>
      rw [hdevice, hbooks]
      refine ⟨hone, iff_of_true hone ?_, iff_of_true hone ?_, iff_of_true ?_ ?_, ?_⟩
      · exact fun h => hreads.not_mallocFails h.2
      · rintro ⟨-, f', m', d', hreads', hfailed⟩
        rw [hreads.unique hreads', hdone] at hfailed
        cases hfailed
      · rw [DrmState.Clean, hcreated, hreleased]
        exact (drmInit_done hdone).2
      · exact fun h => h.2 f m hreads
      · exact fun hnot => absurd hreads (hnot f m)

end Left

/-- A row of four pixels for the panel, with 4 bytes per pixel. -/
def rowOnPanel (setCrtc : ℕ → ℤ) : Calls where
  argc := 2
  device := ⟨3, 0, 1⟩
  fp := some ⟨blackRow.content, 0⟩
  locals := filledLocals 0
  heap := some fun _ => 0
  drm := { callsOnPanel setCrtc with pitch := 4096, size := 2457600 }
  crtc := consoleCrtc

lemma rowOnPanel_opens (setCrtc : ℕ → ℤ) : (rowOnPanel setCrtc).Opens :=
  ⟨rfl, ⟨by simp [rowOnPanel], le_rfl, by simp [rowOnPanel]⟩⟩

lemma rowOnPanel_reads (setCrtc : ℕ → ℤ) :
    (rowOnPanel setCrtc).Reads ⟨blackRow.content, 0⟩ fun _ => 0 :=
  ⟨rfl, rfl, readHeaders_blackRow⟩

lemma rowOnPanel_bits (setCrtc : ℕ → ℤ) : (rowOnPanel setCrtc).bits ⟨blackRow.content, 0⟩ = 24 := by
  have hlimit : blackRow.content.limit = some 66 := rfl
  exact (readHeaders_biBitCount hlimit (by norm_num)).trans (by decide)

/-- The CRTC cannot be set: the array is not freed. -/
theorem viewer_releases_unshown : ∃ s, main (rowOnPanel fun _ => -22) = .failed s ∧
    s.device.Settled ∧ s.books.files.Settled ∧ ¬ s.books.blocks.Settled ∧ s.display.Clean := by
  have hopen := rowOnPanel_opens fun _ => -22
  have hreads := rowOnPanel_reads fun _ => -22
  obtain ⟨d, hdisplay⟩ : ∃ d, (rowOnPanel fun _ => -22).display
      ((rowOnPanel fun _ => -22).bits ⟨blackRow.content, 0⟩) = .failed d := by
    rw [rowOnPanel_bits]
    exact ⟨_, rfl⟩
  have hmain : main (rowOnPanel fun _ => -22)
      = .failed (ready (rowOnPanel fun _ => -22) ⟨blackRow.content, 0⟩ d).close := by
    rw [main_of_reads hopen hreads, hdisplay]
  obtain ⟨hdevice, hfiles, hblocks, hclean, -⟩ := viewer_releases (.inr hmain)
  refine ⟨_, hmain, hdevice, hfiles.mpr ?_, fun h => hblocks.mp h ?_, hclean.mpr ?_⟩
  · exact fun h => hreads.not_mallocFails h.2
  · exact ⟨hopen, _, _, _, hreads, hdisplay⟩
  · exact fun h => h.2 _ _ hreads

end Mp157.Viewer
