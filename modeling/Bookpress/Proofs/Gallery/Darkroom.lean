import Bookpress.Gallery.Serve

/-!
# Galleries with any darkroom

A gallery leaves two things to what is outside of it: files are stored by the system, and pictures
are made from them by a program or by the library.  A darkroom is any way of doing the two.  It may
refuse whatever it likes and leave whatever it likes on the disk, so that nothing it has done once
binds it later.  What a gallery does with every darkroom owes nothing to disks and pictures.

* `Gallery.darkroom` : the darkroom that a gallery works with.
* `inline_darkroom`, `icon_darkroom`, `thumbnail_darkroom`, `figure_darkroom`,
  `placeholder_darkroom` : with it the services are those of the gallery.
-/

namespace Bookpress

/-- how files are stored and pictures made. -/
structure Darkroom where
  /-- stores bytes at a path: the disk that is left, and the refusal if there is one. -/
  store : Session → Path → ByteArray → Disk × Option Refusal
  /-- makes the picture at the second path from the file at the first one, with or without its
  border: the disk that is left, what is told of it, and what went wrong. -/
  develop : Session → Path → Path → Bool → Disk × List Event × Option PictureFault

namespace Darkroom

variable (r : Darkroom) (g : Gallery)

/-- downloads to a file. -/
def download (url : Text) (dest : Path) (s : Session) : Session × Option PictureFault :=
  let s := s.record (g.detail 1 ("Downloading ".toList ++ url ++ " to ".toList ++ dest))
  let answer := g.world.answer s.requests url
  let s := { s with requests := s.requests + 1 }
  match answer with
  | .error reason => (s, some (.download url reason))
  | .ok bytes =>
    let s := s.record (g.detail 1 ("Content length: ".toList ++ Text.ofNat bytes.size))
    match r.store s dest bytes with
    | (d, some x) => ({ s with disk := d }, some (.file dest x))
    | (d, none) => ({ s with disk := d }.tally fun c => { c with fetched := c.fetched + 1 }, none)

/-- turns the picture at `src` into the one at `dest`. -/
def normalize (src dest : Path) (trim : Bool) (s : Session) : Session × Option PictureFault :=
  let (d, es, f) := r.develop s src dest trim
  ({ s with disk := d }.record es, f)

/-- makes the picture at `png` from a source, which is kept at `raw` if it is downloaded. -/
def make (source : Source) (raw png : Path) (trim : Bool) (s : Session) :
    Session × Option PictureFault :=
  match source with
  | .file p => r.normalize p png trim s
  | .remote url =>
    match r.download g url raw s with
    | (s, none) => r.normalize raw png trim s
    | x => x

/-- sees to the picture at `png`: takes the one that is there, or makes it. -/
def ensure (source : Source) (raw png : Path) (trim : Bool) (s : Session) : Session :=
  if g.settings.imageCache && s.disk.exists? png then
    (s.tally fun c => { c with reused := c.reused + 1 }).record
      (g.detail 2 ("Reusing cached ".toList ++ png))
  else match r.make g source raw png trim s with
    | (s, none) => s
    | (s, some f) => Gallery.fail s f

/-- sees to the picture of a text on the page that is kept under its digest. -/
def keep (t : Text) (s : Session) : Session :=
  let (source, events) := g.locate t
  r.ensure g source (g.place (cacheKey t)) (g.place (cacheKey t ++ pngEnding)) false
    (s.record events)

/-- a picture in running text. -/
def inline (t : Text) (s : Session) : Inline × Session :=
  let name := cacheKey t ++ pngEnding
  let png := g.place name
  let s := r.keep g t (s.record (g.detail 1
    ("Inline image ".toList ++ t ++ " -> ".toList ++ png)))
  let height := (Gallery.sizeAt s png).2
  (⟨g.shownPlace name, g.settings.sizing.length .inline height⟩,
    s.record (g.detail 2 ("Inline image height ".toList ++ Text.ofNat height ++ "px".toList)))

/-- the path of an icon. -/
def icon (t : Text) (s : Session) : Text × Session :=
  (g.shownPlace (cacheKey t ++ pngEnding), r.keep g t s)

/-- the path of a thumbnail, which is kept as it comes. -/
def thumbnail (url : Text) (s : Session) : Path × Session :=
  let raw := g.place (cacheKey url)
  if g.settings.imageCache && s.disk.exists? raw then
    (raw, s.tally fun c => { c with reused := c.reused + 1 })
  else match r.download g url raw s with
    | (s, none) => (raw, s)
    | (s, some f) => (raw, Gallery.fail s f)

/-- the next figure, without its border. -/
def figure (source : Source) (s : Session) : Figure × Session :=
  let number := s.counts.figures + 1
  let name := Text.ofNat number ++ pngEnding
  let png := g.place name
  let s := (s.tally fun c => { c with figures := number }).record (g.detail 1
    ("Figure ".toList ++ Text.ofNat number ++ ": ".toList ++ source.shown ++ " -> ".toList ++ png))
  let s := r.ensure g source (g.place (Text.ofNat number)) png true s
  (⟨number, g.shownPlace name, g.settings.sizing.length .figure (Gallery.sizeAt s png).1⟩, s)

/-- the path of the logo for applications without a preview. -/
def placeholder (s : Session) : Text × Session :=
  let name := "placeholder".toList
  (g.shownPlace (name ++ pngEnding),
    r.ensure g (.remote placeholderUrl) (g.place name) (g.place (name ++ pngEnding)) false s)

end Darkroom

/-! ## the darkroom of a gallery -/

namespace Gallery

variable (g : Gallery)

/-- the darkroom that a gallery works with: the disk, and the pictures that the library makes. -/
def darkroom : Darkroom where
  store s p b :=
    match s.disk.write p b with
    | .error x => (s.disk, some x)
    | .ok d => (d, none)
  develop s src dest trim :=
    let x := g.normalize src dest trim s
    (x.1.disk, g.programEvents src dest trim, x.2)

theorem download_darkroom (url : Text) (dest : Path) (s : Session) :
    g.darkroom.download g url dest s = g.download url dest s := by
  unfold Darkroom.download download darkroom
  simp only [Session.requests_record, Session.disk_record]
  cases g.world.answer s.requests url with
  | error reason => rfl
  | ok bytes =>
    dsimp only
    cases s.disk.write dest bytes <;> rfl

/-- making a picture changes the disk, and tells of the program that was asked to. -/
theorem normalize_darkroom (src dest : Path) (trim : Bool) (s : Session) :
    g.darkroom.normalize src dest trim s = g.normalize src dest trim s := by
  unfold Darkroom.normalize darkroom normalize
  dsimp only
  split
  · rfl
  · rfl
  · split
    · rfl
    · split <;> rfl

theorem make_darkroom (source : Source) (raw png : Path) (trim : Bool) (s : Session) :
    g.darkroom.make g source raw png trim s = g.make source raw png trim s := by
  unfold Darkroom.make make
  cases source with
  | file p => exact normalize_darkroom g p png trim s
  | remote url =>
    dsimp only
    rw [download_darkroom]
    obtain ⟨s', _ | f⟩ := g.download url raw s
    · exact normalize_darkroom g raw png trim s'
    · rfl

theorem ensure_darkroom (source : Source) (raw png : Path) (trim : Bool) (s : Session) :
    g.darkroom.ensure g source raw png trim s = g.ensure source raw png trim s := by
  unfold Darkroom.ensure
  rw [make_darkroom]
  rfl

theorem keep_darkroom (t : Text) (s : Session) : g.darkroom.keep g t s = g.keep t s :=
  ensure_darkroom ..

theorem inline_darkroom (t : Text) (s : Session) : g.darkroom.inline g t s = g.inline t s := by
  unfold Darkroom.inline inline
  simp only [keep_darkroom]

theorem icon_darkroom (t : Text) (s : Session) : g.darkroom.icon g t s = g.icon t s := by
  unfold Darkroom.icon icon
  rw [keep_darkroom]

theorem thumbnail_darkroom (url : Text) (s : Session) :
    g.darkroom.thumbnail g url s = g.thumbnail url s := by
  unfold Darkroom.thumbnail
  dsimp only
  rw [download_darkroom]
  rfl

theorem figure_darkroom (source : Source) (s : Session) :
    g.darkroom.figure g source s = g.figure source s := by
  unfold Darkroom.figure figure
  simp only [ensure_darkroom]

theorem placeholder_darkroom (s : Session) : g.darkroom.placeholder g s = g.placeholder s := by
  unfold Darkroom.placeholder placeholder
  simp only [ensure_darkroom]

end Gallery
end Bookpress
