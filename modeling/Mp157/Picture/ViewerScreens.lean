import Mp157.Picture.Viewer

/-!
# What the picture viewer shows (`main.c` of the first program)

A framebuffer is seen while the program sleeps: once with the picture, and once after each pass of
the background.  Where the sides of the picture overflow their product, fewer pixels are read than
the loops over the screen go through, and the index into them wraps around.

* `main_of_drawn` — a run that shows the picture, to its end.
* `viewer_screens` — the pixels of its four screens.
* `viewer_out_of_bounds_iff` — the runs that have no result.
-/

namespace Mp157.Viewer

open ByteMemory CInt Stages Drm Bmp

/-! ## The array -/

/-- The element whose address `biWidth * i + j` has: 32 bits address `2 ^ 32` bytes. -/
def index (H : Headers) (i j : ℕ) : ℕ :=
  ((H.infoHeader.biWidth * i + j)
    % (2 ^ 32 / pixelBytes H.infoHeader.biBitCount : ℕ)).toNat

/-- Every pixel of the picture that the screen has room for lies in the array. -/
def InArray (H : Headers) (kms : KmsConfig) : Prop :=
  ∀ i < kms.fbHight.toNat, ∀ j < kms.fbWidht.toNat, (j : ℤ) < H.infoHeader.biWidth →
    (i : ℤ) < H.infoHeader.biHeight →
    pixelBytes H.infoHeader.biBitCount * (index H i j + 1) ≤ H.allocated

/-- Element `k` of the array: a pixel that was read, or what `malloc` has found there. -/
def stored (H : Headers) (locals : Locals) (m : Mem) (len k : ℕ) : ℕ :=
  if (k : ℤ) < H.pixels then H.element locals len k
  else number m (pixelBytes H.infoHeader.biBitCount) (pixelBytes H.infoHeader.biBitCount * k)

/-- What is shown in row `i` and column `j`. -/
def shownAt (H : Headers) (locals : Locals) (m : Mem) (len i j : ℕ) : ℕ :=
  if (j : ℤ) < H.infoHeader.biWidth ∧ (i : ℤ) < H.infoHeader.biHeight then
    stored H locals m len (index H i j)
  else white H.infoHeader.biBitCount

section Array

variable {H : Headers} {kms : KmsConfig} {locals : Locals} {m : Mem} {len i j k : ℕ}

lemma addressable {bits : ℤ} (hdepth : Depth bits) :
    pixelBytes bits * (2 ^ 32 / pixelBytes bits) = 2 ^ 32 := by
  rcases hdepth with rfl | rfl
  · rfl
  · rfl

/-- The byte offset of that element. -/
lemma offset_eq (hdepth : Depth H.infoHeader.biBitCount) :
    pixelBytes H.infoHeader.biBitCount * (H.infoHeader.biWidth * i + j) % 2 ^ 32
      = pixelBytes H.infoHeader.biBitCount * (index H i j : ℤ) := by
  have haddress := addressable hdepth
  have hpos : 0 < pixelBytes H.infoHeader.biBitCount :=
    lt_of_lt_of_le Nat.two_pos (pixelBytes_ge _)
  have hnonneg := Int.emod_nonneg (H.infoHeader.biWidth * i + j)
    (b := (2 ^ 32 / pixelBytes H.infoHeader.biBitCount : ℕ)) (by
      intro hzero
      rw [Int.natCast_eq_zero.mp hzero] at haddress
      omega)
  rw [index, Int.toNat_of_nonneg hnonneg, ← Int.mul_emod_mul_of_pos _ _ (by exact_mod_cast hpos),
    ← Nat.cast_mul, haddress]
  rfl

/-- **Where the product of the sides fits**, every pixel has an element of its own. -/
lemma index_of_fits (haccepted : H.Accepted) (hfits : Fits H.count)
    (hj : (j : ℤ) < H.infoHeader.biWidth) (hi : (i : ℤ) < H.infoHeader.biHeight) :
    index H i j = H.infoHeader.biWidth.toNat * i + j ∧ (index H i j : ℤ) < H.pixels := by
  obtain ⟨hdepth, hsize⟩ := haccepted
  rw [Headers.pixels_of_fits hfits] at hsize ⊢
  obtain ⟨w, hw⟩ := Int.eq_ofNat_of_zero_le (show 0 ≤ H.infoHeader.biWidth by omega)
  obtain ⟨h, hh⟩ := Int.eq_ofNat_of_zero_le (show 0 ≤ H.infoHeader.biHeight by omega)
  have hcount : H.count = (w * h : ℕ) := by rw [Headers.count, hw, hh, Nat.cast_mul]
  rw [hw] at hj
  rw [hh] at hi
  have hindex := index_lt (by exact_mod_cast hj : j < w) (by exact_mod_cast hi : i < h)
  have hlt : w * i + j < 2 ^ 32 / pixelBytes H.infoHeader.biBitCount := by
    have hfit := hfits.2
    rcases hdepth with h16 | h24
    · rw [h16]
      change w * i + j < 2 ^ 31
      omega
    · rw [h24]
      change w * i + j < 2 ^ 30
      have h24' : H.infoHeader.biBitCount = 24 := by exact_mod_cast h24
      omega
  have heq : index H i j = w * i + j := by
    rw [index, hw, ← Nat.cast_mul, ← Nat.cast_add, ← Int.natCast_mod, Int.toNat_natCast,
      Nat.mod_eq_of_lt hlt]
  rw [heq, hw, hcount, Int.toNat_natCast]
  exact ⟨rfl, by exact_mod_cast hindex⟩

/-- It was read for that pixel. -/
lemma shownAt_of_fits (haccepted : H.Accepted) (hfits : Fits H.count) :
    shownAt H locals m len i j
      = if (j : ℤ) < H.infoHeader.biWidth ∧ (i : ℤ) < H.infoHeader.biHeight then
          H.element locals len (H.infoHeader.biWidth.toNat * i + j)
        else white H.infoHeader.biBitCount := by
  refine ite_congr rfl ?_ fun _ => rfl
  rintro ⟨hj, hi⟩
  obtain ⟨heq, hlt⟩ := index_of_fits haccepted hfits hj hi
  rw [stored, if_pos hlt, heq]

/-- And it lies in the array. -/
lemma inArray_of_fits (haccepted : H.Accepted) (hfits : Fits H.count) : InArray H kms := by
  intro i _ j _ hj hi
  have hlt := (index_of_fits haccepted hfits hj hi).2
  exact (Nat.mul_le_mul_left _ (by omega)).trans
    ((allocated_ge_iff haccepted.depth).mpr haccepted.size)

/-- **An element of the array.** -/
lemma number_colorData_stored (hlimit : H.file.content.limit = some len)
    (hdepth : Depth H.infoHeader.biBitCount) :
    number (H.colorData locals m).byte (pixelBytes H.infoHeader.biBitCount)
        (pixelBytes H.infoHeader.biBitCount * k) = stored H locals m len k := by
  rw [stored]
  split_ifs with hread
  · exact number_colorData_element hlimit hdepth hread
  · refine number_congr ?_
    intro b hb
    have hcell := @painted_cell m (pixelBytes H.infoHeader.biBitCount)
      (pixelBytes H.infoHeader.biBitCount) 1 H.pixels.toNat k 0 b
      (fun k _ => pixelValue H.infoHeader.biBitCount (colorAfter
        (H.file.fseek (asLong H.fileHeader.bfOffBits)) locals.color
        (storedBytes H.infoHeader.biBitCount) (k + 1)).1) (by omega) Nat.one_pos hb
    rw [if_neg (by omega), Nat.cast_zero, mul_zero, add_zero] at hcell
    exact hcell

/-- **When a pixel can be read.** -/
lemma getPixel32_returns_iff (hdepth : Depth H.infoHeader.biBitCount) :
    (∃ v, getPixel32 (pixelBytes H.infoHeader.biBitCount) (H.colorData locals m)
        H.infoHeader.biWidth i j = some v) ↔
      pixelBytes H.infoHeader.biBitCount * (index H i j + 1) ≤ H.allocated := by
  have hpos : 0 < pixelBytes H.infoHeader.biBitCount :=
    lt_of_lt_of_le Nat.two_pos (pixelBytes_ge _)
  rw [getPixel32, offset_eq hdepth, ← Nat.cast_mul, Nat.mul_succ]
  constructor
  · rintro ⟨v, hv⟩
    have hlast := Block.inside_of_loadNumber hv (pixelBytes H.infoHeader.biBitCount - 1) (by omega)
    have hin := (of_decide_eq_true hlast).2
    omega
  · intro hin
    exact ⟨_, Block.loadNumber_of_inside (@Block.inside_number _ H.allocated _ _
      (by simp [Block.Holds, Headers.colorData, pixelArray]) (Int.natCast_nonneg _)
      (by exact_mod_cast hin))⟩

/-- What is read. -/
lemma getPixel32_stored (hlimit : H.file.content.limit = some len)
    (hdepth : Depth H.infoHeader.biBitCount)
    (hin : pixelBytes H.infoHeader.biBitCount * (index H i j + 1) ≤ H.allocated) :
    getPixel32 (pixelBytes H.infoHeader.biBitCount) (H.colorData locals m) H.infoHeader.biWidth i j
      = some (stored H locals m len (index H i j)) := by
  obtain ⟨v, hv⟩ := (@getPixel32_returns_iff H locals m i j hdepth).mpr hin
  have hload := Block.loadNumber_of_inside (Block.inside_of_loadNumber hv)
  rw [offset_eq hdepth, number_colorData_stored hlimit hdepth] at hload
  rw [getPixel32, offset_eq hdepth, hload]

lemma shownAt_lt (hlimit : H.file.content.limit = some len)
    (hdepth : Depth H.infoHeader.biBitCount) :
    shownAt H locals m len i j < 256 ^ pixelBytes H.infoHeader.biBitCount := by
  rw [shownAt]
  split_ifs
  · rw [← number_colorData_stored hlimit hdepth]
    exact number_lt _ _ _
  · rcases hdepth with h | h
    · rw [h]
      decide
    · rw [h]
      decide

end Array

/-! ## What is seen -/

/-- The pixel in row `i` and column `j`. -/
def pixelAt (kms : KmsConfig) (bits : ℤ) (m : Mem) (i j : ℕ) : ℕ :=
  number m (pixelBytes bits) (kms.fbLineSize.toNat * i + pixelBytes bits * j)

/-- The screen while the picture is shown. -/
def pictureScreen (o : Calls) (f : File) (m : Mem) (len : ℕ) (d : DrmState) : Block :=
  ⟨some d.kms.fbSize.toNat, painted (fun _ => 0) (pixelBytes (o.bits f)) d.kms.fbLineSize.toNat
    d.kms.fbWidht.toNat (d.kms.fbHight.toNat * d.kms.fbWidht.toNat)
    (shownAt (readHeaders f o.locals) o.locals m len)⟩

/-- The screen during the pass of colour `c`. -/
def backgroundScreen (o : Calls) (f : File) (m : Mem) (len : ℕ) (d : DrmState) (c : ℕ) : Block :=
  ⟨some d.kms.fbSize.toNat, coloured (pictureScreen o f m len d).byte
    (d.kms.fbSize.toNat / pixelBytes (o.bits f)) c⟩

section Seen

variable {o : Calls} {f : File} {m : Mem} {d : DrmState} {bits : ℤ} {content : Block} {len : ℕ}

/-- The background counts in the pixels of the picture. -/
lemma backgroundBytes_mode (hdepth : Depth bits) :
    backgroundBytes (decide (bits ≠ 16)) = pixelBytes bits := by
  rcases hdepth with rfl | rfl
  · rfl
  · rfl

lemma picture_eq : o.picture f m = ⟨some ((readHeaders f o.locals).colorData o.locals m),
    (readHeaders f o.locals).infoHeader.biWidth, (readHeaders f o.locals).infoHeader.biHeight,
    o.bits f⟩ := by
  simp only [Calls.picture, Outputs.withHeader, Calls.bits]

/-- The picture is drawn on the cleared screen. -/
lemma lcdShowPic_ready (hdone : o.display (o.bits f) = .done d) :
    lcdShowPic (o.picture f m) (ready o f d) = (ready o f d).draw fun _ =>
      lcdShowPic32 d.kms.toKmsConfig (drmFbMmap d.kms.toKmsConfig)
        ((readHeaders f o.locals).colorData o.locals m) (readHeaders f o.locals).infoHeader.biWidth
        (readHeaders f o.locals).infoHeader.biHeight (o.bits f) := by
  have hmem : (ready o f d).fbMap = drmFbMmap d.kms.toKmsConfig := by
    rw [State.fbMap, ready]
    dsimp only
    rw [(drmInit_screen hdone).1]
    rfl
  rw [lcdShowPic, State.draw, State.draw, hmem]
  simp only [picture_eq, Option.getD_some, ready]

lemma drmFbMmap_holds (kms : KmsConfig) : (drmFbMmap kms).Holds kms.fbSize.toNat := by
  simp [Block.Holds, drmFbMmap]

/-- **The picture.**  Nothing is read or written outside. -/
lemma lcdShowPic_inArray (hreads : o.Reads f m) (hlimit : f.content.limit = some len)
    (hdone : o.display (o.bits f) = .done d) (hg : d.kms.Geometry (pixelBytes (o.bits f)))
    (hin : InArray (readHeaders f o.locals) d.kms.toKmsConfig) :
    lcdShowPic (o.picture f m) (ready o f d)
      = .done ((ready o f d).shows (pictureScreen o f m len d)) := by
  have hdepth := hreads.accepted.depth
  rw [lcdShowPic_ready hdone]
  exact draw_of_eq_some (drawPicture_eq hdepth hg (drmFbMmap_holds _) fun i hi j hj hjw hih =>
    getPixel32_stored hlimit hdepth (hin i hi j hj hjw hih))

/-- **What follows the picture.**  The passes, over whatever was drawn. -/
theorem main_of_drawn {fb : Block} (hopen : o.Opens) (hreads : o.Reads f m)
    (hdone : o.display (o.bits f) = .done d) (hfb : fb.limit = some d.kms.fbSize.toNat)
    (hshow : lcdShowPic (o.picture f m) (ready o f d) = .done ((ready o f d).shows fb)) :
    ∃ s, main o = .done s ∧ s.screens = fb :: Program.picture.colors.map fun c =>
      ⟨some d.kms.fbSize.toNat,
        coloured fb.byte (d.kms.fbSize.toNat / pixelBytes (o.bits f)) c⟩ := by
  let shown := freeColorData ((ready o f d).shows fb)
  have hmap : shown.fbMap = fb := rfl
  obtain ⟨s, hpasses, hscreens⟩ := @background_eq shown Program.picture.colors (by
    rw [hmap]
    simp [Block.Holds, hfb, shown, freeColorData, State.shows, ready])
  have hmode : backgroundBytes shown.bmpmode = pixelBytes (o.bits f) :=
    backgroundBytes_mode hreads.accepted.depth
  refine ⟨{ s with display := drmFreeFb s.display }.close, ?_, ?_⟩
  · rw [main_of_reads hopen hreads, hdone]
    dsimp only
    rw [showPicture, hshow, Outcome.map, Outcome.andThen, hpasses]
    rfl
  · rw [hmap, hmode, hfb] at hscreens
    exact hscreens

/-- **When the picture cannot be drawn.**  Exactly if some pixel shown lies outside the array. -/
lemma main_of_display (hopen : o.Opens) (hreads : o.Reads f m)
    (hdone : o.display (o.bits f) = .done d) (hg : d.kms.Geometry (pixelBytes (o.bits f))) :
    main o = .crashed ↔ ¬ InArray (readHeaders f o.locals) d.kms.toKmsConfig := by
  have hdepth := hreads.accepted.depth
  have hget := fun i j => @getPixel32_returns_iff (readHeaders f o.locals) o.locals m i j hdepth
  by_cases hin : InArray (readHeaders f o.locals) d.kms.toKmsConfig
  · obtain ⟨fb, hdraw, hlimit⟩ := @exists_drawPicture d.kms.toKmsConfig (o.bits f) _ _ _
      (fun n => getPixel32 n ((readHeaders f o.locals).colorData o.locals m)
        (readHeaders f o.locals).infoHeader.biWidth) hdepth hg (drmFbMmap_holds d.kms.toKmsConfig)
      fun i hi j hj hjw hih => (hget i j).mpr (hin i hi j hj hjw hih)
    obtain ⟨s, hmain, -⟩ := main_of_drawn hopen hreads hdone hlimit
      ((lcdShowPic_ready hdone).trans (draw_of_eq_some hdraw))
    rw [hmain]
    exact iff_of_false nofun (not_not.mpr hin)
  · refine iff_of_true ?_ hin
    have hnone : lcdShowPic32 d.kms.toKmsConfig (drmFbMmap d.kms.toKmsConfig)
        ((readHeaders f o.locals).colorData o.locals m) (readHeaders f o.locals).infoHeader.biWidth
        (readHeaders f o.locals).infoHeader.biHeight (o.bits f) = none := by
      refine Option.eq_none_iff_forall_ne_some.mpr ?_
      intro fb' hdraw
      exact hin fun i hi j hj hjw hih =>
        (hget i j).mp (get_of_drawPicture hdepth hdraw hi hj hjw hih)
    rw [main_of_reads hopen hreads, hdone]
    dsimp only
    rw [showPicture, lcdShowPic_ready hdone, State.draw, hnone]
    rfl

/-- A visible pixel of the picture. -/
lemma pixelAt_picture (hreads : o.Reads f m) (hlimit : f.content.limit = some len)
    (hg : d.kms.Geometry (pixelBytes (o.bits f))) {i j : ℕ} (hi : i < d.kms.fbHight.toNat)
    (hj : j < d.kms.fbWidht.toNat) :
    pixelAt d.kms.toKmsConfig (o.bits f) (pictureScreen o f m len d).byte i j
      = shownAt (readHeaders f o.locals) o.locals m len i j := by
  have hvisible := index_lt hj hi
  exact number_painted hg.line_ge hj (by rwa [mul_comm, mul_comm d.kms.fbHight.toNat])
    (shownAt_lt hlimit hreads.accepted.depth)

/-- One that a pass reaches. -/
lemma pixelAt_background (hg : d.kms.Geometry (pixelBytes (o.bits f)))
    {i j c : ℕ} (hin : d.kms.fbLineSize.toNat * i + pixelBytes (o.bits f) * j
      + pixelBytes (o.bits f) ≤ 2 * (d.kms.fbSize.toNat / pixelBytes (o.bits f))) :
    pixelAt d.kms.toKmsConfig (o.bits f) (backgroundScreen o f m len d c).byte i j
      = number (stripes c) (pixelBytes (o.bits f)) 0 := by
  have htwo : 2 ∣ pixelBytes (o.bits f) := by
    rw [pixelBytes]
    split_ifs
    · norm_num
    · norm_num
  exact number_coloured (htwo.trans hg.line_dvd) htwo hin

/-- And one that no pass reaches. -/
lemma pixelAt_background_beyond {i j c : ℕ}
    (hout : 2 * (d.kms.fbSize.toNat / pixelBytes (o.bits f))
      ≤ d.kms.fbLineSize.toNat * i + pixelBytes (o.bits f) * j) :
    pixelAt d.kms.toKmsConfig (o.bits f) (backgroundScreen o f m len d c).byte i j
      = pixelAt d.kms.toKmsConfig (o.bits f) (pictureScreen o f m len d).byte i j := by
  refine number_congr ?_
  intro k _
  refine if_neg ?_
  rintro ⟨-, hlt⟩
  have hcast : ((d.kms.fbLineSize.toNat * i + pixelBytes (o.bits f) * j : ℕ) : ℤ) + k
      < ((2 * (d.kms.fbSize.toNat / pixelBytes (o.bits f)) : ℕ) : ℤ) := by
    push_cast at hlt ⊢
    exact hlt
  omega

/-- Four bytes as two numbers of two. -/
lemma number_four (m : Mem) (off : ℤ) :
    number m 4 off = number m 2 off + 0x10000 * number m 2 (off + 2) := by
  have h2 : off + 1 + 1 = off + 2 := by ring
  simp only [number, h2]
  ring

/-- One of 4 bytes that a pass ends in the middle of: its first half has the colour. -/
lemma pixelAt_background_middle {i j c : ℕ} (hbytes : pixelBytes (o.bits f) = 4)
    (hmiddle : d.kms.fbLineSize.toNat * i + 4 * j + 2
      = 2 * (d.kms.fbSize.toNat / pixelBytes (o.bits f))) (hline : 4 ∣ d.kms.fbLineSize.toNat) :
    pixelAt d.kms.toKmsConfig (o.bits f) (backgroundScreen o f m len d c).byte i j
      = number (stripes c) 2 0 + 0x10000 * (pixelAt d.kms.toKmsConfig (o.bits f)
          (pictureScreen o f m len d).byte i j / 0x10000) := by
  obtain ⟨q, hq⟩ := hline
  set t := d.kms.fbSize.toNat / pixelBytes (o.bits f) with ht
  set off : ℤ := (d.kms.fbLineSize.toNat : ℤ) * i + 4 * j with hoff
  have hend : off + 2 = 2 * (t : ℤ) := by
    rw [hoff]
    exact_mod_cast hmiddle
  have hlow : number (coloured (pictureScreen o f m len d).byte t c) 2 off
      = number (stripes c) 2 0 := by
    refine number_congr ?_
    intro k hk
    have hnonneg : 0 ≤ off := by positivity
    have heven : off % 2 = 0 := by
      rw [hoff, hq]
      push_cast
      rw [mul_assoc]
      omega
    rw [coloured, if_pos (by omega), stripes, stripes]
    congr 3
    omega
  have hhigh : number (coloured (pictureScreen o f m len d).byte t c) 2 (off + 2)
      = number (pictureScreen o f m len d).byte 2 (off + 2) := by
    refine number_congr ?_
    intro k _
    exact if_neg (by omega)
  have hlt := number_lt (pictureScreen o f m len d).byte 2 off
  rw [pixelAt, pixelAt, hbytes]
  change number (coloured (pictureScreen o f m len d).byte t c) 4 off
    = _ + 0x10000 * (number (pictureScreen o f m len d).byte 4 off / 0x10000)
  rw [number_four, number_four (pictureScreen o f m len d).byte, hlow, hhigh]
  omega

/-- The two values of a colour. -/
lemma number_stripes {c : ℕ} (hc : c ∈ Program.picture.colors) :
    number (stripes c) 2 0 = c ∧ number (stripes c) 4 0 = 0x10001 * c := by
  have hall : ∀ c ∈ Program.picture.colors,
      number (stripes c) 2 0 = c ∧ number (stripes c) 4 0 = 0x10001 * c := by decide
  exact hall c hc

/-- With pixels of 2 bytes a pass reaches them all. -/
lemma pixelAt_background_16 (h16 : o.bits f = 16)
    (hg : d.kms.Geometry (pixelBytes (o.bits f))) {i j c : ℕ} (hi : i < d.kms.fbHight.toNat)
    (hj : j < d.kms.fbWidht.toNat) (hc : c ∈ Program.picture.colors) :
    pixelAt d.kms.toKmsConfig (o.bits f) (backgroundScreen o f m len d c).byte i j = c := by
  have hbytes : pixelBytes (o.bits f) = 2 := by
    rw [h16]
    rfl
  have hend := element_le hg hi hj
  rw [element_offset hg, hbytes] at hend
  rw [pixelAt_background hg, hbytes]
  · exact (number_stripes hc).1
  · obtain ⟨q, hq⟩ := hg.line_dvd
    rw [hbytes] at hq
    rw [hbytes]
    rw [hq, mul_assoc] at hend ⊢
    omega

/-- With pixels of 4 bytes it reaches the first half of the framebuffer. -/
lemma pixelAt_background_24 (h24 : o.bits f = 24)
    (hg : d.kms.Geometry (pixelBytes (o.bits f))) {i j c : ℕ} (hc : c ∈ Program.picture.colors) :
    (d.kms.fbLineSize.toNat * i + 4 * j + 4 ≤ 2 * (d.kms.fbSize.toNat / 4) →
      pixelAt d.kms.toKmsConfig (o.bits f) (backgroundScreen o f m len d c).byte i j
        = 0x10001 * c) ∧
    (d.kms.fbLineSize.toNat * i + 4 * j + 2 = 2 * (d.kms.fbSize.toNat / 4) →
      pixelAt d.kms.toKmsConfig (o.bits f) (backgroundScreen o f m len d c).byte i j
        = c + 0x10000 * (pixelAt d.kms.toKmsConfig (o.bits f)
            (pictureScreen o f m len d).byte i j / 0x10000)) ∧
    (2 * (d.kms.fbSize.toNat / 4) ≤ d.kms.fbLineSize.toNat * i + 4 * j →
      pixelAt d.kms.toKmsConfig (o.bits f) (backgroundScreen o f m len d c).byte i j
        = pixelAt d.kms.toKmsConfig (o.bits f) (pictureScreen o f m len d).byte i j) := by
  have hbytes : pixelBytes (o.bits f) = 4 := by
    rw [h24]
    rfl
  refine ⟨?_, ?_, ?_⟩
  · intro hreached
    rw [← hbytes] at hreached
    rw [pixelAt_background hg hreached, hbytes]
    exact (number_stripes hc).2
  · intro hmiddle
    have hline := hg.line_dvd
    rw [hbytes] at hline
    rw [pixelAt_background_middle hbytes (by rwa [hbytes]) hline, (number_stripes hc).1]
  · intro hbeyond
    rw [← hbytes] at hbeyond
    exact pixelAt_background_beyond hbeyond

/-- **The screens.**  For every file that is accepted, and every display the search finds, as long
as the pixels shown lie in the array: first the picture, each pixel with its element of the array
and white around it; then three times the background, which with pixels of 4 bytes covers the first
half of the framebuffer, the colour in either half of the pixel, and leaves the rest of the picture
where it was.  A pixel in the very middle has the colour in its first half only.  The pixels lie in
the array whenever the product of the sides fits (`inArray_of_fits`). -/
theorem viewer_screens (hopen : o.Opens) (hreads : o.Reads f m)
    (hlimit : f.content.limit = some len) (hdone : o.display (o.bits f) = .done d)
    (hg : d.kms.Geometry (pixelBytes (o.bits f)))
    (hin : InArray (readHeaders f o.locals) d.kms.toKmsConfig) :
    ∃ s pic, main o = .done s ∧ s.screens.length = 4 ∧ s.screens[0]? = some pic ∧
      (∀ i < d.kms.fbHight.toNat, ∀ j < d.kms.fbWidht.toNat,
        pixelAt d.kms.toKmsConfig (o.bits f) pic.byte i j
          = if (j : ℤ) < (readHeaders f o.locals).infoHeader.biWidth ∧
                (i : ℤ) < (readHeaders f o.locals).infoHeader.biHeight then
              stored (readHeaders f o.locals) o.locals m len (index (readHeaders f o.locals) i j)
            else white (o.bits f)) ∧
      (Fits (readHeaders f o.locals).count →
        ∀ i < d.kms.fbHight.toNat, ∀ j < d.kms.fbWidht.toNat,
          pixelAt d.kms.toKmsConfig (o.bits f) pic.byte i j
            = if (j : ℤ) < (readHeaders f o.locals).infoHeader.biWidth ∧
                  (i : ℤ) < (readHeaders f o.locals).infoHeader.biHeight then
                (readHeaders f o.locals).element o.locals len
                  ((readHeaders f o.locals).infoHeader.biWidth.toNat * i + j)
              else white (o.bits f)) ∧
      ∀ k c, Program.picture.colors[k]? = some c → ∃ screen, s.screens[k + 1]? = some screen ∧
        ∀ i < d.kms.fbHight.toNat, ∀ j < d.kms.fbWidht.toNat,
          (o.bits f = 16 → pixelAt d.kms.toKmsConfig (o.bits f) screen.byte i j = c) ∧
          (o.bits f = 24 →
            (d.kms.fbLineSize.toNat * i + 4 * j + 4 ≤ 2 * (d.kms.fbSize.toNat / 4) →
              pixelAt d.kms.toKmsConfig (o.bits f) screen.byte i j = 0x10001 * c) ∧
            (d.kms.fbLineSize.toNat * i + 4 * j + 2 = 2 * (d.kms.fbSize.toNat / 4) →
              pixelAt d.kms.toKmsConfig (o.bits f) screen.byte i j
                = c + 0x10000 * (pixelAt d.kms.toKmsConfig (o.bits f) pic.byte i j / 0x10000)) ∧
            (2 * (d.kms.fbSize.toNat / 4) ≤ d.kms.fbLineSize.toNat * i + 4 * j →
              pixelAt d.kms.toKmsConfig (o.bits f) screen.byte i j
                = pixelAt d.kms.toKmsConfig (o.bits f) pic.byte i j)) := by
  obtain ⟨s, hmain, hscreens⟩ := main_of_drawn hopen hreads hdone rfl
    (lcdShowPic_inArray hreads hlimit hdone hg hin)
  refine ⟨s, pictureScreen o f m len d, hmain, by rw [hscreens]; rfl, by rw [hscreens]; rfl, ?_, ?_,
    ?_⟩
  · intro i hi j hj
    exact pixelAt_picture hreads hlimit hg hi hj
  · intro hfits i hi j hj
    exact (pixelAt_picture hreads hlimit hg hi hj).trans (shownAt_of_fits hreads.accepted hfits)
  · intro k c hk
    have hc := List.mem_of_getElem? hk
    refine ⟨backgroundScreen o f m len d c, ?_, ?_⟩
    · rw [hscreens, List.getElem?_cons_succ, List.getElem?_map, hk]
      rfl
    · intro i hi j hj
      exact ⟨fun h16 => pixelAt_background_16 h16 hg hi hj hc,
        fun h24 => pixelAt_background_24 h24 hg hc⟩

end Seen

lemma rowOnPanel_display : ∃ d,
    (rowOnPanel fun _ => 0).display ((rowOnPanel fun _ => 0).bits ⟨blackRow.content, 0⟩) = .done d ∧
      d.kms.toKmsConfig = ⟨1024, 600, 4096, 2457600⟩ := by
  rw [rowOnPanel_bits]
  exact ⟨_, rfl, rfl⟩

lemma rowOnPanel_geometry : KmsConfig.Geometry ⟨1024, 600, 4096, 2457600⟩
    (pixelBytes ((rowOnPanel fun _ => 0).bits ⟨blackRow.content, 0⟩)) := by
  rw [rowOnPanel_bits]
  exact ⟨by decide, by decide, by decide, by decide, by decide⟩

/-- The row lies in the array on any screen. -/
lemma rowOnPanel_inArray (kms : KmsConfig) :
    InArray (readHeaders ⟨blackRow.content, 0⟩ (filledLocals 0)) kms := by
  have hcount : (readHeaders ⟨blackRow.content, 0⟩ (filledLocals 0)).count = 4 :=
    (@readHeaders_count _ 66 _ rfl (by norm_num)).trans (by decide)
  refine inArray_of_fits readHeaders_blackRow ?_
  rw [hcount]
  decide

/-- The row in the corner, white beside it, and a background of two red halves. -/
theorem viewer_screens_row : ∃ s pic red, main (rowOnPanel fun _ => 0) = .done s ∧
    s.screens[0]? = some pic ∧ s.screens[1]? = some red ∧
    pixelAt ⟨1024, 600, 4096, 2457600⟩ 24 pic.byte 0 3 = 0 ∧
    pixelAt ⟨1024, 600, 4096, 2457600⟩ 24 pic.byte 0 4 = 0xffffff ∧
    pixelAt ⟨1024, 600, 4096, 2457600⟩ 24 red.byte 0 3 = 0xf800f800 := by
  have hlimit : blackRow.content.limit = some 66 := rfl
  obtain ⟨d, hdisplay, hkms⟩ := rowOnPanel_display
  have hbits := rowOnPanel_bits fun _ => 0
  obtain ⟨s, pic, hmain, -, hpic, hpixels, -, hpasses⟩ := viewer_screens
    (rowOnPanel_opens fun _ => 0) (rowOnPanel_reads fun _ => 0) hlimit hdisplay
    (by rw [hkms]; exact rowOnPanel_geometry) (rowOnPanel_inArray _)
  obtain ⟨red, hred, hbackground⟩ := hpasses 0 0xf800 rfl
  rw [hkms, hbits] at hpixels hbackground
  refine ⟨s, pic, red, hmain, hpic, hred, ?_, ?_, ?_⟩
  · exact (hpixels 0 (by decide) 3 (by decide)).trans (by decide)
  · exact (hpixels 0 (by decide) 4 (by decide)).trans (by decide)
  · exact ((hbackground 0 (by decide) 3 (by decide)).2 rfl).1 (by decide)

/-! ## When it leaves its blocks -/

lemma display_eq_crashed {o : Calls} {bits : ℤ} :
    o.display bits = .crashed ↔ ∃ t, o.drm.resources = some t ∧ t.Stops :=
  drmInit_eq_crashed

/-- **When a run has no result.**  On a display with the layout of a dumb buffer `main` reads or
writes outside its blocks, or through `NULL`, exactly when the device is opened and the array is too
small for the pixels that are read into it, or the file is read and the search for a display
dereferences `NULL`, or a pixel shown lies outside the array. -/
theorem viewer_out_of_bounds_iff {o : Calls} (hg : ∀ f m d, o.Reads f m →
      o.display (o.bits f) = .done d → d.kms.Geometry (pixelBytes (o.bits f))) :
    main o = .crashed ↔ o.Opens ∧ ∃ f, o.fp = some f ∧
      (Overruns (readHeaders f o.locals) o.heap ∨
        ∃ m, o.Reads f m ∧ ((∃ t, o.drm.resources = some t ∧ t.Stops) ∨
          ∃ d, o.display (o.bits f) = .done d ∧
            ¬ InArray (readHeaders f o.locals) d.kms.toKmsConfig)) := by
  by_cases hopen : o.Opens
  swap
  · obtain ⟨s, hmain, _⟩ := main_of_not_opens hopen
    rw [hmain]
    exact iff_of_false nofun fun h => hopen h.1
  rw [and_iff_right hopen]
  cases hr : Release.readData o.fp o.locals o.heap emptyOutputs with
  | none =>
      obtain ⟨f, hfp, hoverruns⟩ := readData_eq_none_iff.mp hr
      exact iff_of_true (main_of_overruns hopen hr) ⟨f, hfp, .inl hoverruns⟩
  | some r =>
      have hdefined : ∀ f, o.fp = some f → ¬ Overruns (readHeaders f o.locals) o.heap := by
        intro f hfp hoverruns
        cases hr.symm.trans (readData_eq_none_iff.mpr ⟨f, hfp, hoverruns⟩)
      by_cases hzero : r.ret = 0
      swap
      · obtain ⟨s, hmain, _⟩ := main_of_unread hopen hr hzero
        have hnot := (readData_minus_one hr hzero).2
        rw [hmain]
        refine iff_of_false nofun ?_
        rintro ⟨f, hfp, hoverruns | ⟨m, hreads, _⟩⟩
        · exact hdefined f hfp hoverruns
        · exact hnot f m hreads
      obtain ⟨f, m, hreads, -⟩ := readData_zero hr hzero
      have hmain : main o = .crashed ↔ o.display (o.bits f) = .crashed ∨
          ∃ d, o.display (o.bits f) = .done d ∧
            ¬ InArray (readHeaders f o.locals) d.kms.toKmsConfig := by
        cases hdisplay : o.display (o.bits f) with
        | crashed =>
            rw [main_of_reads hopen hreads, hdisplay]
            exact iff_of_true rfl (.inl rfl)
        | failed d =>
            rw [main_of_reads hopen hreads, hdisplay]
            simp
        | done d =>
            rw [main_of_display hopen hreads hdisplay (hg f m d hreads hdisplay)]
            simp
      rw [hmain, display_eq_crashed]
      constructor
      · exact fun h => ⟨f, hreads.fp, .inr ⟨m, hreads, h⟩⟩
      · rintro ⟨f', hfp, hoverruns | ⟨m', hreads', h⟩⟩
        · exact absurd hoverruns (hdefined f' hfp)
        · obtain rfl := hreads.unique hreads'
          exact h

/-- The same panel, without an encoder. -/
def rowOnUnbound : Calls :=
  { rowOnPanel (fun _ => 0) with
    drm := { callsOnPanel (fun _ => 0) with resources := some (onePanel false true) } }

/-- The row is shown on the panel, but not if no encoder is bound to it. -/
theorem viewer_out_of_bounds_unbound :
    main (rowOnPanel fun _ => 0) ≠ .crashed ∧ main rowOnUnbound = .crashed := by
  constructor
  · obtain ⟨d, hdisplay, hkms⟩ := rowOnPanel_display
    have hreads := rowOnPanel_reads fun _ => 0
    have hg : ∀ f m d', (rowOnPanel fun _ => 0).Reads f m →
        (rowOnPanel fun _ => 0).display ((rowOnPanel fun _ => 0).bits f) = .done d' →
        d'.kms.Geometry (pixelBytes ((rowOnPanel fun _ => 0).bits f)) := by
      intro f m d' hreads' hdone
      obtain rfl := hreads.unique hreads'
      obtain rfl := Outcome.done.inj (hdisplay.symm.trans hdone)
      rw [hkms]
      exact rowOnPanel_geometry
    intro hcrash
    obtain ⟨-, f, hfp, hoverruns | ⟨m, hreads', hstops | ⟨d', _, hin⟩⟩⟩ :=
      (viewer_out_of_bounds_iff hg).mp hcrash
    · have hnone := readData_eq_none_iff.mpr ⟨f, hfp, hoverruns⟩
      cases (readData_of_reads hreads).symm.trans hnone
    · cases hdisplay.symm.trans (display_eq_crashed.mpr hstops)
    · obtain rfl := hreads.unique hreads'
      exact hin (rowOnPanel_inArray _)
  · have hfind : drmFindConnector (onePanel false true) kmsStart = .crashed := rfl
    have hstops : ∃ t, rowOnUnbound.drm.resources = some t ∧ t.Stops :=
      ⟨_, rfl, drmFindConnector_eq_crashed.mp hfind⟩
    have hg : ∀ f m d, rowOnUnbound.Reads f m →
        rowOnUnbound.display (rowOnUnbound.bits f) = .done d →
        d.kms.Geometry (pixelBytes (rowOnUnbound.bits f)) := by
      intro f m d _ hdone
      cases (display_eq_crashed.mpr hstops).symm.trans hdone
    have hopen : rowOnUnbound.Opens := ⟨rfl, (rowOnPanel_opens fun _ => 0).device⟩
    have hreads : rowOnUnbound.Reads ⟨blackRow.content, 0⟩ fun _ => 0 :=
      ⟨rfl, rfl, readHeaders_blackRow⟩
    exact (viewer_out_of_bounds_iff hg).mpr ⟨hopen, _, rfl, .inr ⟨_, hreads, .inl hstops⟩⟩

end Mp157.Viewer
