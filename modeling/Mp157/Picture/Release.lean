import Mp157.Picture.ReadData
import Mp157.Library.Ledger

/-!
# What a failed read leaves behind (`readData` in `bmp.c`)

`readData` gives up in three places: there is no file, the depth is not one of the two, or `malloc`
fails.  It stores what it finds as it goes, so the later it gives up, the more of the caller's
variables are overwritten.  Here the open file and the array are objects, handed out by `fopen` and
`malloc` and entered in books.

* `readData_erase` — without the books, this is the function of `Picture/ReadData.lean`.
* `readData_exit` — the ways to return once a file is open.
* `files_settled_iff` — the file is closed once, except where `malloc` fails.
* `failsCleanly_iff` — when a failure changes nothing at all.
* `failure_leaves` — what it does leave.
-/

namespace Mp157.Bmp.Release

open ByteMemory CInt Ledger

/-! ## The function, object by object -/

/-- The files opened and closed, and the blocks allocated and freed. -/
structure Books where
  files : Book
  blocks : Book

namespace Books

/-- Before the call. -/
def start : Books := ⟨⟨0, []⟩, ⟨0, []⟩⟩

/-- `fopen` returns a file; its number is `b.files.obtained`. -/
def fopen (b : Books) : Books := { b with files := b.files.obtain }

/-- `malloc` returns a block. -/
def malloc (b : Books) : Books := { b with blocks := b.blocks.obtain }

/-- `fclose` of file `h` -/
def fclose (h : ℕ) (b : Books) : Books := { b with files := b.files.free h }

end Books

/-- What a call returns and stores, and its books. -/
structure Return where
  ret : ℤ
  out : Outputs
  books : Books

/-- The result, which only counts the calls of `fclose`. -/
def Return.result (r : Return) : Result := ⟨r.ret, r.out, r.books.files.freed.length⟩

/-- What follows the headers of file `h`. -/
def readPicture (H : Headers) (locals : Locals) (heap : Option Mem) (out : Outputs) (h : ℕ)
    (books : Books) : Option Return :=
  let out := out.withHeader H.infoHeader
  if H.infoHeader.biBitCount ≠ 16 ∧ H.infoHeader.biBitCount ≠ 24 then
    some ⟨-1, out, books.fclose h⟩
  else
    let count := wrap (H.infoHeader.biWidth * H.infoHeader.biHeight)
    let size := if H.infoHeader.biBitCount = 16 then 2 else 4
    match mallocPixels heap (count * size % 2 ^ 32).toNat with
    -- the only return behind `fopen` without `fclose`
    | none => some ⟨-1, { out with colorData := none }, books⟩
    | some colorData => do
        let colorData ←
          if H.infoHeader.biBitCount = 16 then
            readBmpDataRgb565 H.file locals.color (asLong H.fileHeader.bfOffBits) colorData count
          else readBmpDataRgb888 H.file locals.color (asLong H.fileHeader.bfOffBits) colorData count
        return ⟨0, { out with colorData := some colorData }, books.malloc.fclose h⟩

/-- Reads a file, whatever `fopen` and `malloc` return. -/
def readData (fp : Option File) (locals : Locals) (heap : Option Mem) (out : Outputs) :
    Option Return :=
  match fp with
  | none => some ⟨-1, out, .start⟩
  | some f =>
      readPicture (readHeaders f locals) locals heap out Books.start.files.obtained
        Books.start.fopen

/-! ## The ways to return -/

section Exits

variable {fp : Option File} {f : File} {H : Headers} {locals : Locals} {heap : Option Mem}
  {out : Outputs} {h : ℕ} {books : Books} {r : Return}

lemma readPicture_erase (hfreed : books.files.freed = []) :
    (readPicture H locals heap out h books).map Return.result
      = Bmp.readPicture H locals heap out := by
  have hclose : ∀ b : Books, b.files = books.files → (b.fclose h).files.freed.length = 1 := by
    intro b hb
    simp [Books.fclose, Book.free, hb, hfreed]
  rw [readPicture, Bmp.readPicture]
  by_cases hdepth : H.infoHeader.biBitCount ≠ 16 ∧ H.infoHeader.biBitCount ≠ 24
  · simp only [if_pos hdepth, Option.map_some, Return.result, hclose]
  · simp only [if_neg hdepth]
    cases heap with
    | none => simp [mallocPixels, Return.result, hfreed]
    | some m =>
        -- the reader is chosen by the depth, the rest is the same
        by_cases h16 : H.infoHeader.biBitCount = 16
        all_goals
          simp only [h16, mallocPixels, Option.map_some]
          refine Option.map_bind.trans (Option.bind_congr ?_)
          intro b _
          simp [Return.result, hclose, Books.malloc]

/-- **Without the books, this is `readData`.** -/
theorem readData_erase :
    (readData fp locals heap out).map Return.result = Bmp.readData fp locals heap out := by
  cases fp with
  | none => rfl
  | some f => exact readPicture_erase rfl

/-- Where the function of `Picture/ReadData.lean` returns, this one does. -/
lemma exists_readData {res : Result} (hres : Bmp.readData fp locals heap out = some res) :
    ∃ r, readData fp locals heap out = some r := by
  obtain ⟨r, hr, -⟩ := Option.map_eq_some_iff.mp (readData_erase.trans hres)
  exact ⟨r, hr⟩

lemma exists_refused (hdepth : ¬ Depth (readHeaders f locals).infoHeader.biBitCount) :
    ∃ r, readData (some f) locals heap out = some r :=
  exists_readData (@readPicture_depth (readHeaders f locals) locals heap out hdepth)

lemma exists_exhausted (hdepth : Depth (readHeaders f locals).infoHeader.biBitCount) :
    ∃ r, readData (some f) locals none out = some r :=
  exists_readData (@readPicture_null (readHeaders f locals) locals out hdepth)

/-- The ways to return once a file is open.  The branch for a wrong file type is none of them: its
test is an assignment. -/
inductive Exit (H : Headers) (heap : Option Mem) (out : Outputs) : Return → Prop
  | refused (hdepth : ¬ Depth H.infoHeader.biBitCount) :
      Exit H heap out ⟨-1, out.withHeader H.infoHeader, Books.start.fopen.fclose 0⟩
  | exhausted (hdepth : Depth H.infoHeader.biBitCount) (hheap : heap = none) :
      Exit H heap out
        ⟨-1, { out.withHeader H.infoHeader with colorData := none }, Books.start.fopen⟩
  | complete (hdepth : Depth H.infoHeader.biBitCount) (hheap : heap ≠ none) (b : Block) :
      Exit H heap out
        ⟨0, { out.withHeader H.infoHeader with colorData := some b },
          Books.start.fopen.malloc.fclose 0⟩

/-- **One of them is taken.** -/
theorem readData_exit (hr : readData (some f) locals heap out = some r) :
    Exit (readHeaders f locals) heap out r := by
  rw [readData] at hr
  generalize readHeaders f locals = H at *
  rw [readPicture] at hr
  by_cases hdepth : Depth H.infoHeader.biBitCount
  · rw [if_neg (depth_iff.mp hdepth)] at hr
    cases heap with
    | none =>
        obtain rfl := Option.some.inj hr
        exact .exhausted hdepth rfl
    | some m =>
        by_cases h16 : H.infoHeader.biBitCount = 16
        all_goals
          simp only [h16, mallocPixels, Option.map_some] at hr
          obtain ⟨b, -, hr⟩ := Option.bind_eq_some_iff.mp hr
          obtain rfl := Option.some.inj hr
          exact .complete hdepth (Option.some_ne_none m) b
  · have hrefused := hdepth
    rw [depth_iff, not_not] at hrefused
    rw [if_pos hrefused] at hr
    obtain rfl := Option.some.inj hr
    exact .refused hdepth

end Exits

/-! ## What is left -/

/-- `malloc` is called, and fails. -/
def MallocFails (locals : Locals) (heap : Option Mem) : Option File → Prop
  | none => False
  | some f => heap = none ∧ Depth (readHeaders f locals).infoHeader.biBitCount

section Left

variable {fp : Option File} {f : File} {locals : Locals} {heap : Option Mem} {out : Outputs}
  {r : Return}

/-- **The file.**  It has been closed exactly once, if one was opened and `malloc` did not fail. -/
theorem files_settled_iff (hr : readData fp locals heap out = some r) :
    r.books.files.Settled ↔ ¬ MallocFails locals heap fp := by
  have hopen : Books.start.fopen.files.Owes [0] := Book.owes_start.obtain
  cases fp with
  | none =>
      obtain rfl := Option.some.inj hr
      exact iff_of_true (Book.owes_start.settled_iff.mpr rfl) not_false
  | some f =>
      cases readData_exit hr with
      | refused hdepth =>
          exact iff_of_true (hopen.free.settled_iff.mpr rfl) fun hfails => hdepth hfails.2
      | exhausted hdepth hheap =>
          refine iff_of_false ?_ (not_not.mpr ⟨hheap, hdepth⟩)
          exact mt hopen.settled_iff.mp (List.cons_ne_nil _ _)
      | complete _ hheap =>
          exact iff_of_true (hopen.free.settled_iff.mpr rfl) fun hfails => hheap hfails.1

/-- **The array.**  It is left to the caller when the call succeeds, else there is none. -/
theorem blocks_settled_iff (hr : readData fp locals heap out = some r) :
    r.books.blocks.Settled ↔ r.ret = -1 := by
  have hnone : Books.start.blocks.Settled := Book.owes_start.settled_iff.mpr rfl
  cases fp with
  | none =>
      obtain rfl := Option.some.inj hr
      exact iff_of_true hnone rfl
  | some f =>
      cases readData_exit hr with
      | refused => exact iff_of_true hnone rfl
      | exhausted => exact iff_of_true hnone rfl
      | complete =>
          have hone : Books.start.malloc.blocks.Owes [0] := Book.owes_start.obtain
          refine iff_of_false (mt hone.settled_iff.mp (List.cons_ne_nil _ _)) ?_
          intro hret
          cases hret

/-- **The caller's variables.**  Without a file they keep their values. -/
lemma out_of_unopened (hr : readData none locals heap out = some r) : r.out = out := by
  obtain rfl := Option.some.inj hr
  rfl

/-- A header that is refused has been stored. -/
lemma out_of_refused (hr : readData (some f) locals heap out = some r)
    (hdepth : ¬ Depth (readHeaders f locals).infoHeader.biBitCount) :
    r.ret = -1 ∧ r.out = out.withHeader (readHeaders f locals).infoHeader := by
  cases readData_exit hr with
  | refused => exact ⟨rfl, rfl⟩
  | exhausted hdepth' => exact absurd hdepth' hdepth
  | complete hdepth' => exact absurd hdepth' hdepth

/-- So has one for which `malloc` fails, and `*colorData` is `NULL`. -/
lemma out_of_mallocFails (hr : readData (some f) locals heap out = some r)
    (hfails : MallocFails locals heap (some f)) :
    r.out = { out.withHeader (readHeaders f locals).infoHeader with colorData := none } := by
  cases readData_exit hr with
  | refused hdepth => exact absurd hfails.2 hdepth
  | exhausted => rfl
  | complete _ hheap => exact absurd hfails.1 hheap

/-- There is no other failure. -/
lemma not_depth_of_fails (hr : readData (some f) locals heap out = some r) (hret : r.ret = -1)
    (hmalloc : ¬ MallocFails locals heap (some f)) :
    ¬ Depth (readHeaders f locals).infoHeader.biBitCount := by
  cases readData_exit hr with
  | refused hdepth => exact hdepth
  | exhausted hdepth hheap => exact absurd ⟨hheap, hdepth⟩ hmalloc
  | complete => cases hret

/-- What one would expect a call to leave. -/
structure FailsCleanly (out : Outputs) (r : Return) : Prop where
  closes : r.books.files.Settled
  frees : r.ret = -1 → r.books.blocks.Settled
  keeps : r.ret = -1 → r.out = out

/-- **When it leaves that.**  Exactly if `malloc` does not fail, and a header that is refused is one
that the variables hold already. -/
theorem failsCleanly_iff (hr : readData fp locals heap out = some r) :
    FailsCleanly out r ↔ ¬ MallocFails locals heap fp ∧
      ∀ f, fp = some f → ¬ Depth (readHeaders f locals).infoHeader.biBitCount →
        out.withHeader (readHeaders f locals).infoHeader = out := by
  constructor
  · rintro ⟨hcloses, -, hkeeps⟩
    refine ⟨(files_settled_iff hr).mp hcloses, ?_⟩
    rintro f rfl hdepth
    obtain ⟨hret, hout⟩ := out_of_refused hr hdepth
    exact hout.symm.trans (hkeeps hret)
  · rintro ⟨hmalloc, hheader⟩
    refine ⟨(files_settled_iff hr).mpr hmalloc, (blocks_settled_iff hr).mpr, ?_⟩
    intro hret
    cases fp with
    | none => exact out_of_unopened hr
    | some f =>
        have hdepth := not_depth_of_fails hr hret hmalloc
        exact (out_of_refused hr hdepth).2.trans (hheader f rfl hdepth)

/-- What a call does leave; of a file for which `malloc` fails nothing is said. -/
structure Leaves (fp : Option File) (locals : Locals) (heap : Option Mem) (out : Outputs)
    (r : Return) : Prop where
  closes : ¬ MallocFails locals heap fp → r.books.files.Settled
  frees : r.ret = -1 → r.books.blocks.Settled
  unopened : fp = none → r.out = out
  refused : ∀ f, fp = some f → r.ret = -1 → ¬ MallocFails locals heap fp →
    r.out = out.withHeader (readHeaders f locals).infoHeader
  exhausted : ∀ f, fp = some f → MallocFails locals heap fp →
    r.out = { out.withHeader (readHeaders f locals).infoHeader with colorData := none }

/-- **What a failure leaves.** -/
theorem failure_leaves (hr : readData fp locals heap out = some r) :
    Leaves fp locals heap out r := by
  refine ⟨(files_settled_iff hr).mpr, (blocks_settled_iff hr).mpr, ?_, ?_, ?_⟩
  · rintro rfl
    exact out_of_unopened hr
  · rintro f rfl hret hmalloc
    exact (out_of_refused hr (not_depth_of_fails hr hret hmalloc)).2
  · rintro f rfl hfails
    exact out_of_mallocFails hr hfails

end Left

/-- 54 bytes of a header of 8 bits, 1 by 1. -/
def header8 : Block := ⟨some 54, fun i => if i = 28 then 8 else (bmp24 1 1 []).byte i⟩

/-- It is refused, with its size stored. -/
lemma readData_header8 : ∃ r,
    readData (fopen header8) (filledLocals 0) (some fun _ => 0) emptyOutputs = some r ∧
      r.ret = -1 ∧ r.out.biWidth = 1 := by
  have hlimit : header8.limit = some 54 := rfl
  have hbits : (readHeaders ⟨header8, 0⟩ (filledLocals 0)).infoHeader.biBitCount = 8 :=
    (readHeaders_biBitCount hlimit le_rfl).trans (by decide)
  have hdepth : ¬ Depth (readHeaders ⟨header8, 0⟩ (filledLocals 0)).infoHeader.biBitCount := by
    rw [hbits, depth_iff, not_not]
    decide
  obtain ⟨r, hr⟩ := @exists_refused _ _ (some fun _ => 0) emptyOutputs hdepth
  obtain ⟨hret, hout⟩ := out_of_refused hr hdepth
  refine ⟨r, hr, hret, ?_⟩
  rw [hout, readHeaders_eq hlimit le_rfl]
  decide

theorem failure_leaves_header8 : ∃ r,
    readData (fopen header8) (filledLocals 0) (some fun _ => 0) emptyOutputs = some r ∧
      r.ret = -1 ∧ r.out.biWidth = 1 ∧
      Leaves (fopen header8) (filledLocals 0) (some fun _ => 0) emptyOutputs r := by
  obtain ⟨r, hr, hret, hwidth⟩ := readData_header8
  exact ⟨r, hr, hret, hwidth, failure_leaves hr⟩

/-- The width of a file that is refused replaces what was there.  And when `malloc` fails, `NULL`
replaces the array, and the file stays open. -/
theorem failure_not_clean :
    (∃ r, readData (fopen header8) (filledLocals 0) (some fun _ => 0) emptyOutputs = some r ∧
      r.ret = -1 ∧ r.out.biWidth = 1 ∧ emptyOutputs.biWidth = 0 ∧ ¬ FailsCleanly emptyOutputs r) ∧
    ∃ r, readData (fopen blackRow.content) (filledLocals 0) none
        { emptyOutputs with colorData := some header8 } = some r ∧
      r.ret = -1 ∧ r.out.colorData = none ∧ r.books.files = ⟨1, []⟩ ∧
      ¬ FailsCleanly { emptyOutputs with colorData := some header8 } r := by
  constructor
  · obtain ⟨r, hr, hret, hwidth⟩ := readData_header8
    refine ⟨r, hr, hret, hwidth, rfl, ?_⟩
    intro hclean
    rw [hclean.keeps hret] at hwidth
    cases hwidth
  · have hdepth := (@readHeaders_blackRow (filledLocals 0)).depth
    have hopen : fopen blackRow.content = some ⟨blackRow.content, 0⟩ := rfl
    rw [hopen]
    obtain ⟨r, hr⟩ := @exists_exhausted _ _ { emptyOutputs with colorData := some header8 } hdepth
    have hmalloc : MallocFails (filledLocals 0) none (some ⟨blackRow.content, 0⟩) := ⟨rfl, hdepth⟩
    have hfails : ¬ FailsCleanly { emptyOutputs with colorData := some header8 } r := by
      intro hclean
      exact (files_settled_iff hr).mp hclean.closes hmalloc
    refine ⟨r, hr, ?_⟩
    cases readData_exit hr with
    | refused hdepth' => exact absurd hdepth hdepth'
    | exhausted => exact ⟨rfl, rfl, rfl, hfails⟩
    | complete _ hheap => exact absurd rfl hheap

end Mp157.Bmp.Release
