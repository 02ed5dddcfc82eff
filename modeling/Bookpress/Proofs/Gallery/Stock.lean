import Bookpress.Proofs.Gallery.Slots

/-!
# The stock of the picture folder

What a gallery leaves in its folder, name by name.  A picture that is there stays as it is; one
that is not there is made from its source, and the download stays beside it.  Everything else on
the disk is left alone.

* `normalize_puts`, `download_puts` : the two steps change one file each.
* `Stocks`, `ensure_stocks` : what becomes of the stock when a gallery sees to a picture.
* `thumbnail_puts` : the same for a thumbnail, which is kept as it comes.
-/

namespace Bookpress

namespace Gallery

variable (g : Gallery)

/-! ## files by their names -/

/-- the bytes that the picture folder holds under a name. -/
def held (d : Disk) (name : Text) : Option ByteArray := (d.read (g.place name)).toOption

/-- what can be written under a name: nothing, if that makes the path too long. -/
def storable (name : Text) (x : Option ByteArray) : Option ByteArray :=
  if Disk.illegal? (g.place name) = none then x else none

/-- since the disk `d₀`, at most files in the picture folder, which is at `q`, have changed. -/
structure Kept (q : Place) (d₀ d : Disk) : Prop where
  located : d₀.locate g.folder = .ok q
  folder : d₀.get? q = some .folder
  alike : d₀.Alike q d

/-- some bytes have been written under a name; everything else is held as before. -/
def Puts (d d' : Disk) (name : Text) (x : Option ByteArray) : Prop :=
  ∀ m, IsName m → g.held d' m = if m = name then x.or (g.held d m) else g.held d m

variable {g} {q : Place} {d₀ d d' : Disk} {name : Text} {x : Option ByteArray} {b : ByteArray}

theorem Puts.refl : g.Puts d d name none := fun m _ => by split <;> rfl

theorem storable_none : g.storable name none = none := by
  unfold storable
  split <;> rfl

theorem storable_of_legal (h : Disk.illegal? (g.place name) = none)
    (x : Option ByteArray) : g.storable name x = x := if_pos h

theorem storable_of_illegal (h : Disk.illegal? (g.place name) ≠ none)
    (x : Option ByteArray) : g.storable name x = none := if_neg h

theorem storable_or (name : Text) (x y : Option ByteArray) :
    (g.storable name x).or (g.storable name y) = g.storable name (x.or y) := by
  unfold storable
  split <;> rfl

namespace Kept

theorem trans (h : g.Kept q d₀ d) (h' : d.Alike q d') : g.Kept q d₀ d' :=
  ⟨h.located, h.folder, h.alike.trans h'⟩

/-- the folder is seen from every disk as it was from the first. -/
theorem again (h : g.Kept q d₀ d) : g.Kept q d d := by
  refine ⟨h.alike.locate_eq_ok.2 h.located, ?_, .refl h.alike.right⟩
  exact h.alike.covers.2 q h.folder

theorem locate_place (h : g.Kept q d₀ d) (hn : IsName name)
    (hl : Disk.illegal? (g.place name) = none) : d.locate (g.place name) = .ok (q ++ [name]) :=
  Disk.locate_join h.again.located h.again.folder hn hl

theorem held_eq_some (h : g.Kept q d₀ d) (hn : IsName name) :
    g.held d name = some b ↔
      Disk.illegal? (g.place name) = none ∧ d.get? (q ++ [name]) = some (.file b) := by
  rw [held, Disk.readable]
  constructor
  · rintro ⟨r, hr, hb⟩
    have hl := (Disk.locate_eq_ok.1 hr).1
    rw [h.locate_place hn hl] at hr
    cases hr
    exact ⟨hl, hb⟩
  · rintro ⟨hl, hb⟩
    exact ⟨_, h.locate_place hn hl, hb⟩

theorem exists?_place (h : g.Kept q d₀ d) (hn : IsName name) :
    d.exists? (g.place name) = (g.held d name).isSome := by
  rw [Bool.eq_iff_iff, Option.isSome_iff_exists]
  unfold Disk.exists? Disk.look?
  cases hl : Disk.illegal? (g.place name) with
  | some e => simp [h.held_eq_some hn, hl, Disk.locate]
  | none =>
    simp only [h.locate_place hn hl, h.held_eq_some hn, hl, true_and]
    cases hx : d.get? (q ++ [name]) with
    | none => simp
    | some n =>
      cases n with
      | file b => simp
      | folder => exact absurd hx (h.alike.right name)

/-- what is written under a name is there, unless it cannot be. -/
theorem write_place (h : g.Kept q d₀ d) (hn : IsName name) (b : ByteArray) :
    match d.write (g.place name) b with
    | .error _ => g.storable name (some b) = none
    | .ok d' =>
      g.storable name (some b) = some b ∧ g.Kept q d₀ d' ∧ g.Puts d d' name (some b) := by
  unfold storable
  cases hl : Disk.illegal? (g.place name) with
  | some e => simp [Disk.write, Disk.locate, hl, bind, Except.bind]
  | none =>
    obtain ⟨d', hw, ha, hg⟩ := Disk.exists_write h.alike.right (h.locate_place hn hl) b
    have hk := h.trans ha
    simp only [hw]
    refine ⟨rfl, hk, fun m hm => Option.ext fun c => ?_⟩
    rw [hk.held_eq_some hm, hg]
    split
    · rename_i e
      obtain rfl : m = name := by simpa using e
      simp [hl]
    · rename_i e
      have hne : m ≠ name := fun e' => e (by rw [e'])
      rw [if_neg hne, h.held_eq_some hm]

end Kept

/-! ## the two steps -/

section
variable {s : Session} {src dest : Path} {trim : Bool} {url : Text}

/-- making a picture from a file changes the disk only. -/
theorem session_normalize (g : Gallery) (src dest : Path) (trim : Bool) (s : Session) :
    (g.normalize src dest trim s).1 =
      { s.record (g.programEvents src dest trim) with
        disk := (g.normalize src dest trim s).1.disk } := by
  unfold normalize
  dsimp only
  split
  · rfl
  · rfl
  · split
    · rfl
    · split <;> rfl

theorem counts_normalize (g : Gallery) (src dest : Path) (trim : Bool) (s : Session) :
    (g.normalize src dest trim s).1.counts = s.counts := by
  rw [session_normalize]
  rfl

theorem requests_normalize (g : Gallery) (src dest : Path) (trim : Bool) (s : Session) :
    (g.normalize src dest trim s).1.requests = s.requests := by
  rw [session_normalize]
  rfl

/-- a download is counted as one that was stored, if it is counted at all. -/
theorem counts_download (g : Gallery) (url : Text) (dest : Path) (s : Session) :
    ∃ n, (g.download url dest s).1.counts = { s.counts with fetched := n } := by
  unfold download
  dsimp only
  split
  · exact ⟨_, rfl⟩
  · split
    · exact ⟨_, rfl⟩
    · exact ⟨_, rfl⟩

theorem figures_download (g : Gallery) (url : Text) (dest : Path) (s : Session) :
    (g.download url dest s).1.counts.figures = s.counts.figures := by
  obtain ⟨n, h⟩ := counts_download g url dest s
  rw [h]

/-- what has been made can be read. -/
theorem read_normalize (h : (g.normalize src dest trim s).2 = none) :
    ∃ bytes png, Picture.normal? trim bytes = some png ∧
      (g.normalize src dest trim s).1.disk.read dest = .ok png := by
  unfold normalize at h ⊢
  dsimp only at h ⊢
  split at h
  · cases h
  · cases h
  · rename_i bytes hbytes
    split at h
    · cases h
    · rename_i png hpng
      split at h
      · cases h
      · rename_i d hd
        exact ⟨bytes, png, hpng, Disk.read_write hd⟩

/-- **A picture is made from the file at a path**, if there is one there. -/
theorem normalize_puts (src : Path) (trim : Bool) (h : g.Kept q d₀ s.disk) (hn : IsName name) :
    g.Kept q d₀ (g.normalize src (g.place name) trim s).1.disk ∧
      g.Puts s.disk (g.normalize src (g.place name) trim s).1.disk name
        (g.storable name ((s.disk.read src).toOption.bind (Picture.normal? trim))) := by
  unfold normalize
  simp only [Session.disk_record]
  cases s.disk.read src with
  | error r =>
    rw [show (Except.error r : Except Refusal ByteArray).toOption = none from rfl,
      Option.bind_none, storable_none]
    cases r <;> exact ⟨h, .refl⟩
  | ok bytes =>
    simp only [Except.toOption, Option.bind_some]
    cases Picture.normal? trim bytes with
    | none =>
      rw [storable_none]
      exact ⟨h, .refl⟩
    | some png =>
      have hw := h.write_place hn png
      dsimp only
      cases hd : s.disk.write (g.place name) png with
      | error r =>
        rw [hd] at hw
        rw [show g.storable name (some png) = none from hw]
        exact ⟨h, .refl⟩
      | ok d =>
        rw [hd] at hw
        obtain ⟨hs, hk, hp⟩ := hw
        rw [hs]
        exact ⟨hk, hp⟩

/-- how a download is answered when it is its turn. -/
def answered (g : Gallery) (s : Session) (url : Text) : Option ByteArray :=
  (g.world.answer s.requests url).toOption

/-- **A download stays under its name**, and is at fault only if nothing can be stored. -/
theorem download_puts (url : Text) (h : g.Kept q d₀ s.disk) (hn : IsName name) :
    g.Kept q d₀ (g.download url (g.place name) s).1.disk ∧
      g.Puts s.disk (g.download url (g.place name) s).1.disk name
        (g.storable name (g.answered s url)) ∧
      ((g.download url (g.place name) s).2 = none ↔
        (g.storable name (g.answered s url)).isSome) := by
  unfold download answered
  simp only [Session.requests_record]
  cases g.world.answer s.requests url with
  | error reason =>
    simp only [Except.toOption, storable_none]
    exact ⟨h, .refl, by simp⟩
  | ok bytes =>
    have hw := h.write_place hn bytes
    simp only [Except.toOption, Session.disk_record]
    cases hd : s.disk.write (g.place name) bytes with
    | error r =>
      rw [hd] at hw
      rw [show g.storable name (some bytes) = none from hw]
      exact ⟨h, .refl, by simp⟩
    | ok d =>
      rw [hd] at hw
      obtain ⟨hs, hk, hp⟩ := hw
      rw [hs]
      exact ⟨hk, hp, by simp⟩

end

/-! ## faults -/

/-- the session after an attempt to have a picture: a fault is counted and warned of. -/
def settled : Session × Option PictureFault → Session
  | (s, none) => s
  | (s, some f) => fail s f

section
variable (x : Session × Option PictureFault)

@[simp] theorem disk_settled : (settled x).disk = x.1.disk := by
  obtain ⟨s, _ | f⟩ := x <;> rfl

@[simp] theorem requests_settled : (settled x).requests = x.1.requests := by
  obtain ⟨s, _ | f⟩ := x <;> rfl

@[simp] theorem figures_settled : (settled x).counts.figures = x.1.counts.figures := by
  obtain ⟨s, _ | f⟩ := x <;> rfl

@[simp] theorem failed_settled :
    (settled x).counts.failed = x.1.counts.failed + x.2.isSome.toNat := by
  obtain ⟨s, _ | f⟩ := x <;> rfl

end

/-! ## seeing to a picture -/

section
variable (g)

/-- what is downloaded for a slot, if its source is a link. -/
def rawOf (s : Session) (σ : Slot) : Source → Option ByteArray
  | .remote url => g.storable σ.raw (g.answered s url)
  | .file _ => none

/-- the bytes that the picture of a slot is made from. -/
def bytesOf (s : Session) (σ : Slot) : Source → Option ByteArray
  | .remote url => g.storable σ.raw (g.answered s url)
  | .file p => (s.disk.read p).toOption

/-- the picture that is made for a slot. -/
def pngOf (s : Session) (σ : Slot) (source : Source) (trim : Bool) : Option ByteArray :=
  g.storable σ.png ((g.bytesOf s σ source).bind (Picture.normal? trim))

/-- what becomes of the stock when a gallery sees to the picture of a slot. -/
structure Stocks (q : Place) (d₀ : Disk) (σ : Slot) (source : Source) (trim : Bool)
    (s s' : Session) : Prop where
  kept : g.Kept q d₀ s'.disk
  figures : s'.counts.figures = s.counts.figures
  /-- a picture that is there stays as it is. -/
  png : g.held s'.disk σ.png = (g.held s.disk σ.png).or (g.pngOf s σ source trim)
  /-- nothing is downloaded for it then. -/
  raw : g.held s'.disk σ.raw =
    if (g.held s.disk σ.png).isSome then g.held s.disk σ.raw
    else (g.rawOf s σ source).or (g.held s.disk σ.raw)
  other : ∀ m, IsName m → m ≠ σ.raw → m ≠ σ.png → g.held s'.disk m = g.held s.disk m
  quiet : (g.held s.disk σ.png).isSome → s'.requests = s.requests

end

section
variable {s : Session} {σ : Slot} {source : Source} {trim : Bool}

theorem counts_make (g : Gallery) (source : Source) (raw png : Path) (trim : Bool)
    (s : Session) :
    ∃ n, (g.make source raw png trim s).1.counts = { s.counts with fetched := n } := by
  unfold make
  cases source with
  | file p => exact ⟨_, counts_normalize ..⟩
  | remote url =>
    dsimp only
    have hd := counts_download g url raw s
    split
    · rename_i t ht
      rw [ht] at hd
      rwa [counts_normalize]
    · exact hd

theorem ensure_of_there {raw png : Path}
    (h : (g.settings.imageCache && s.disk.exists? png) = true) :
    g.ensure source raw png trim s =
      (s.tally fun c => { c with reused := c.reused + 1 }).record
        (g.detail 2 ("Reusing cached ".toList ++ png)) :=
  if_pos h

theorem ensure_of_not_there (source : Source) (raw : Path) {png : Path} (trim : Bool)
    (h : (g.settings.imageCache && s.disk.exists? png) = false) :
    g.ensure source raw png trim s = settled (g.make source raw png trim s) := by
  unfold ensure
  rw [if_neg (by simp [h])]
  obtain ⟨t, _ | f⟩ := g.make source raw png trim s <;> rfl

/-- **No number is given while a gallery sees to a picture.** -/
theorem figures_ensure (g : Gallery) (source : Source) (raw png : Path) (trim : Bool)
    (s : Session) :
    (g.ensure source raw png trim s).counts.figures = s.counts.figures := by
  obtain ⟨n, hm⟩ := counts_make g source raw png trim s
  cases hthere : g.settings.imageCache && s.disk.exists? png with
  | true =>
    rw [ensure_of_there hthere]
    rfl
  | false => rw [ensure_of_not_there _ _ _ hthere, figures_settled, hm]

/-- **A picture that is neither taken again nor counted as a failure has been made.** -/
theorem read_ensure {g : Gallery} {source : Source} {raw png : Path} {trim : Bool} {s : Session}
    (hfailed : (g.ensure source raw png trim s).counts.failed = s.counts.failed)
    (hreused : (g.ensure source raw png trim s).counts.reused = s.counts.reused) :
    ∃ bytes picture, Picture.normal? trim bytes = some picture ∧
      (g.ensure source raw png trim s).disk.read png = .ok picture := by
  have hmade : (g.make source raw png trim s).2 = none → ∃ bytes picture,
      Picture.normal? trim bytes = some picture ∧
        (g.make source raw png trim s).1.disk.read png = .ok picture := by
    unfold make
    cases source with
    | file p => exact read_normalize
    | remote url =>
      dsimp only
      split
      · exact read_normalize
      · rename_i x hx
        exact fun h => (hx _ (Prod.ext rfl h)).elim
  obtain ⟨n, hcounts⟩ := counts_make g source raw png trim s
  cases hthere : g.settings.imageCache && s.disk.exists? png with
  | true =>
    rw [ensure_of_there hthere, Session.counts_record, Session.counts_tally] at hreused
    exact absurd hreused (Nat.succ_ne_self _)
  | false =>
    rw [ensure_of_not_there _ _ _ hthere] at hfailed ⊢
    rw [failed_settled, hcounts] at hfailed
    rw [disk_settled]
    refine hmade ?_
    cases hfault : (g.make source raw png trim s).2 with
    | none => rfl
    | some f =>
      rw [hfault] at hfailed
      exact absurd hfailed (Nat.succ_ne_self _)

/-- **A picture that is made from a file asks for no download.** -/
theorem requests_ensure_file (g : Gallery) (p raw png : Path) (trim : Bool) (s : Session) :
    (g.ensure (.file p) raw png trim s).requests = s.requests := by
  have hr : (g.make (.file p) raw png trim s).1.requests = s.requests :=
    requests_normalize g p png trim s
  cases hthere : g.settings.imageCache && s.disk.exists? png with
  | true =>
    rw [ensure_of_there hthere]
    rfl
  | false => rw [ensure_of_not_there _ _ _ hthere, requests_settled, hr]

/-- what is made for a slot, if there is no picture yet. -/
theorem make_stocks (source : Source) (trim : Bool) (h : g.Kept q d₀ s.disk) (hσ : σ.Fits) :
    g.Kept q d₀ (g.make source (g.place σ.raw) (g.place σ.png) trim s).1.disk ∧
      ∀ m, IsName m →
        g.held (g.make source (g.place σ.raw) (g.place σ.png) trim s).1.disk m =
          if m = σ.png then (g.pngOf s σ source trim).or (g.held s.disk m)
          else if m = σ.raw then (g.rawOf s σ source).or (g.held s.disk m)
          else g.held s.disk m := by
  have hraw := Slot.isName_raw hσ
  have hpng := Slot.isName_png hσ
  have hne : σ.raw ≠ σ.png := Slot.raw_ne_png
  cases source with
  | file p =>
    obtain ⟨hk, hp⟩ := normalize_puts p trim h hpng
    refine ⟨hk, fun m hm => (hp m hm).trans ?_⟩
    simp only [pngOf, bytesOf, rawOf, Option.none_or, ite_self]
  | remote url =>
    obtain ⟨hk, hp, hf⟩ := download_puts url h hraw
    unfold make pngOf bytesOf rawOf
    dsimp only
    cases hx : g.storable σ.raw (g.answered s url) with
    | none =>
      -- the download is at fault, and no picture is made
      rw [hx] at hp hf
      have hsome : (g.download url (g.place σ.raw) s).2 ≠ none := by simp [hf]
      split
      · rename_i t ht
        exact absurd (by rw [ht]) hsome
      · refine ⟨hk, fun m hm => ?_⟩
        rw [hp m hm, Option.bind_none, storable_none]
        simp only [Option.none_or, ite_self]
    | some bytes =>
      rw [hx] at hp hf
      split
      · rename_i t ht
        rw [ht] at hk hp
        have hbytes : (t.disk.read (g.place σ.raw)).toOption = some bytes := by
          have := hp σ.raw hraw
          rwa [if_pos rfl, Option.some_or] at this
        obtain ⟨hk', hp'⟩ := normalize_puts (g.place σ.raw) trim hk hpng
        refine ⟨hk', fun m hm => ?_⟩
        rw [hp' m hm, hbytes, hp m hm]
        split
        · rename_i e
          rw [e, if_neg hne.symm]
        · rfl
      · rename_i hnone
        exact (hnone _ (Prod.ext rfl (hf.2 rfl))).elim

/-- **What becomes of the stock when a gallery sees to a picture**, if it takes pictures again. -/
theorem ensure_stocks (σ : Slot) (source : Source) (trim : Bool)
    (hcache : g.settings.imageCache = true) (h : g.Kept q d₀ s.disk) (hσ : σ.Fits) :
    g.Stocks q d₀ σ source trim s
      (g.ensure source (g.place σ.raw) (g.place σ.png) trim s) := by
  obtain ⟨hk, hm⟩ := make_stocks source trim h hσ
  have hthere := h.exists?_place (Slot.isName_png hσ)
  cases hx : g.held s.disk σ.png with
  | some b =>
    rw [ensure_of_there (by simp [hcache, hthere, hx])]
    refine ⟨h, rfl, ?_, ?_, fun _ _ _ _ => rfl, fun _ => rfl⟩
    · simp [hx]
    · simp [hx]
  | none =>
    have hdisk : (g.ensure source (g.place σ.raw) (g.place σ.png) trim s).disk =
        (g.make source (g.place σ.raw) (g.place σ.png) trim s).1.disk := by
      rw [ensure_of_not_there _ _ _ (by simp [hthere, hx]), disk_settled]
    refine ⟨hdisk ▸ hk, figures_ensure .., ?_, ?_, fun m hname hr hp => ?_, by simp [hx]⟩
    · rw [hdisk, hm _ (Slot.isName_png hσ), if_pos rfl, hx]
      simp
    · rw [hdisk, hm _ (Slot.isName_raw hσ), if_neg Slot.raw_ne_png, if_pos rfl, hx]
      simp
    · rw [hdisk, hm m hname, if_neg hp, if_neg hr]

end

/-! ## thumbnails -/

section
variable {s : Session} {url : Text}

/-- whether the thumbnail at a URL is there and may be taken again. -/
def hasThumbnail (g : Gallery) (s : Session) (url : Text) : Bool :=
  g.settings.imageCache && s.disk.exists? (g.place (Slot.keyed url).raw)

theorem thumbnail_eq (g : Gallery) (url : Text) (s : Session) :
    g.thumbnail url s = (g.place (Slot.keyed url).raw,
      if g.hasThumbnail s url then s.tally fun c => { c with reused := c.reused + 1 }
      else settled (g.download url (g.place (Slot.keyed url).raw) s)) := by
  have hname : g.place (cacheKey url) = g.place (Slot.keyed url).raw := rfl
  unfold thumbnail hasThumbnail
  rw [hname]
  generalize g.place (Slot.keyed url).raw = raw
  dsimp only
  split
  · rfl
  · obtain ⟨t, _ | f⟩ := g.download url raw s <;> rfl

theorem path_thumbnail (g : Gallery) (url : Text) (s : Session) :
    (g.thumbnail url s).1 = g.place (Slot.keyed url).raw := by
  rw [thumbnail_eq]

theorem figures_thumbnail (g : Gallery) (url : Text) (s : Session) :
    (g.thumbnail url s).2.counts.figures = s.counts.figures := by
  rw [thumbnail_eq]
  dsimp only
  split
  · rfl
  · rw [figures_settled, figures_download]

theorem thumbnail_of_there (h : g.hasThumbnail s url = true) :
    (g.thumbnail url s).2 = s.tally fun c => { c with reused := c.reused + 1 } := by
  rw [thumbnail_eq]
  exact if_pos h

theorem disk_thumbnail_of_not_there (h : g.hasThumbnail s url = false) :
    (g.thumbnail url s).2.disk = (g.download url (g.place (Slot.keyed url).raw) s).1.disk := by
  rw [thumbnail_eq]
  dsimp only
  rw [if_neg (by simp [h]), disk_settled]

/-- **What becomes of the stock when a gallery sees to a thumbnail.** -/
theorem thumbnail_puts (url : Text) (hcache : g.settings.imageCache = true)
    (h : g.Kept q d₀ s.disk) :
    g.Kept q d₀ (g.thumbnail url s).2.disk ∧
      (∀ m, IsName m → g.held (g.thumbnail url s).2.disk m =
        if m = (Slot.keyed url).raw then
          (g.held s.disk m).or (g.rawOf s (.keyed url) (.remote url))
        else g.held s.disk m) ∧
      ((g.held s.disk (Slot.keyed url).raw).isSome →
        (g.thumbnail url s).2.requests = s.requests) := by
  have hraw := Slot.isName_keyed url
  obtain ⟨hk, hp, -⟩ := download_puts url h hraw
  have hthere : g.hasThumbnail s url = (g.held s.disk (Slot.keyed url).raw).isSome := by
    rw [hasThumbnail, hcache, Bool.true_and, h.exists?_place hraw]
  cases hx : g.held s.disk (Slot.keyed url).raw with
  | some b =>
    rw [hx] at hthere
    rw [thumbnail_of_there hthere]
    refine ⟨h, fun m _ => ?_, fun _ => rfl⟩
    split
    · rename_i e
      simp [e, hx]
    · rfl
  | none =>
    rw [hx] at hthere
    have hdisk := disk_thumbnail_of_not_there hthere
    refine ⟨hdisk ▸ hk, fun m hm => ?_, by simp⟩
    rw [hdisk, hp m hm]
    split
    · rename_i e
      rw [e, hx]
      simp [rawOf]
    · rfl

end

end Gallery
end Bookpress
