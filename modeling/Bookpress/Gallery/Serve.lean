import Bookpress.Digest.Md5
import Bookpress.Gallery.Basic
import Bookpress.Picture.Format

/-!
# Serving pictures

What a gallery does for a document: pictures in running text, icons and thumbnails are kept under
the digest of their source, figures under their number.  A picture that is there is taken again if
the settings allow it.  A picture that cannot be had is warned of, and its path is given all the
same.

* `number_figure` : figures are numbered one after the other, whatever becomes of their sources.
-/

namespace Bookpress

/-- a picture in running text. -/
structure Inline where
  path : Text
  /-- the printed height in millimetres. -/
  height : Float

/-- a numbered figure. -/
structure Figure where
  number : Nat
  path : Text
  /-- the printed width in millimetres. -/
  width : Float

/-- the name under which a source is kept. -/
def cacheKey (url : Text) : Text := Digest.hex (url.flatMap String.utf8EncodeChar)

/-- the ending of pictures that are ready to use. -/
def pngEnding : Text := ".png".toList

/-- the logo that stands for an application without a preview. -/
def placeholderUrl : Text := "https://static.geogebra.org/images/geogebra-logo-name-1024.png".toList

namespace Gallery

/-- a session after a fault. -/
def fail (s : Session) (f : PictureFault) : Session :=
  (s.tally fun c => { c with failed := c.failed + 1 }).record
    [⟨.warn, f.message ++ "; the output will reference a missing image".toList⟩]

/-- downloads to a file. -/
def download (g : Gallery) (url : Text) (dest : Path) (s : Session) :
    Session × Option PictureFault :=
  let s := s.record (g.detail 1 ("Downloading ".toList ++ url ++ " to ".toList ++ dest))
  let answer := g.world.answer s.requests url
  let s := { s with requests := s.requests + 1 }
  match answer with
  | .error reason => (s, some (.download url reason))
  | .ok bytes =>
    let s := s.record (g.detail 1 ("Content length: ".toList ++ Text.ofNat bytes.size))
    match s.disk.write dest bytes with
    | .error r => (s, some (.file dest r))
    | .ok d => ({ s with disk := d }.tally fun c => { c with fetched := c.fetched + 1 }, none)

/-- the events of a program that does not do its work on a picture. -/
def programEvents (g : Gallery) (src dest : Path) (trim : Bool) : List Event :=
  match g.settings.backend with
  | .builtin => []
  | .program name =>
    let arguments := [name, src ++ "[0]".toList] ++ (if trim then ["-trim".toList] else [])
      ++ ["png:".toList ++ dest]
    [⟨.debug, "Running ".toList ++ Text.join ' ' (arguments.map Text.quotedPath)⟩,
      ⟨.warn, apostrophe :: (name ++ apostrophe :: (" failed for ".toList ++ apostrophe :: (src
        ++ apostrophe :: (": ".toList ++ g.world.ending name
        ++ "; falling back to the built-in decoder".toList))))⟩]

/-- turns the picture at `src` into the one at `dest`. -/
def normalize (g : Gallery) (src dest : Path) (trim : Bool) (s : Session) :
    Session × Option PictureFault :=
  let s := s.record (g.programEvents src dest trim)
  match s.disk.read src with
  | .error .isFolder => (s, some (.unreadable src Refusal.isFolder.message.toList))
  | .error r => (s, some (.file src r))
  | .ok bytes =>
    match Picture.normal? trim bytes with
    | none => (s, some (.unreadable src "no picture".toList))
    | some png =>
      match s.disk.write dest png with
      | .error r => (s, some (.unreadable src r.message.toList))
      | .ok d => ({ s with disk := d }, none)

/-- makes the picture at `png` from a source, which is kept at `raw` if it is downloaded. -/
def make (g : Gallery) (source : Source) (raw png : Path) (trim : Bool) (s : Session) :
    Session × Option PictureFault :=
  match source with
  | .file p => g.normalize p png trim s
  | .remote url =>
    match g.download url raw s with
    | (s, none) => g.normalize raw png trim s
    | x => x

/-- sees to the picture at `png`: takes the one that is there, or makes it. -/
def ensure (g : Gallery) (source : Source) (raw png : Path) (trim : Bool) (s : Session) : Session :=
  if g.settings.imageCache && s.disk.exists? png then
    (s.tally fun c => { c with reused := c.reused + 1 }).record
      (g.detail 2 ("Reusing cached ".toList ++ png))
  else match g.make source raw png trim s with
    | (s, none) => s
    | (s, some f) => fail s f

/-- the width and height of the picture at a path; zero if there is none. -/
def sizeAt (s : Session) (png : Path) : Nat × Nat :=
  match s.disk.read png with
  | .ok bytes => (Picture.Png.size? bytes).getD (0, 0)
  | .error _ => (0, 0)

/-- sees to the picture of a text on the page that is kept under its digest. -/
def keep (g : Gallery) (t : Text) (s : Session) : Session :=
  let (source, events) := g.locate t
  g.ensure source (g.place (cacheKey t)) (g.place (cacheKey t ++ pngEnding)) false
    (s.record events)

/-- a picture in running text. -/
def inline (g : Gallery) (t : Text) (s : Session) : Inline × Session :=
  let name := cacheKey t ++ pngEnding
  let png := g.place name
  let s := g.keep t (s.record (g.detail 1
    ("Inline image ".toList ++ t ++ " -> ".toList ++ png)))
  let height := (sizeAt s png).2
  (⟨g.shownPlace name, g.settings.sizing.length .inline height⟩,
    s.record (g.detail 2 ("Inline image height ".toList ++ Text.ofNat height ++ "px".toList)))

/-- the path of an icon. -/
def icon (g : Gallery) (t : Text) (s : Session) : Text × Session :=
  (g.shownPlace (cacheKey t ++ pngEnding), g.keep t s)

/-- the path of a thumbnail, which is kept as it comes. -/
def thumbnail (g : Gallery) (url : Text) (s : Session) : Path × Session :=
  let raw := g.place (cacheKey url)
  if g.settings.imageCache && s.disk.exists? raw then
    (raw, s.tally fun c => { c with reused := c.reused + 1 })
  else match g.download url raw s with
    | (s, none) => (raw, s)
    | (s, some f) => (raw, fail s f)

/-- the next figure, without its border. -/
def figure (g : Gallery) (source : Source) (s : Session) : Figure × Session :=
  let number := s.counts.figures + 1
  let name := Text.ofNat number ++ pngEnding
  let png := g.place name
  let s := (s.tally fun c => { c with figures := number }).record (g.detail 1
    ("Figure ".toList ++ Text.ofNat number ++ ": ".toList ++ source.shown ++ " -> ".toList ++ png))
  let s := g.ensure source (g.place (Text.ofNat number)) png true s
  (⟨number, g.shownPlace name, g.settings.sizing.length .figure (sizeAt s png).1⟩, s)

/-- the path of the logo for applications without a preview. -/
def placeholder (g : Gallery) (s : Session) : Text × Session :=
  let name := "placeholder".toList
  (g.shownPlace (name ++ pngEnding),
    g.ensure (.remote placeholderUrl) (g.place name) (g.place (name ++ pngEnding)) false s)

theorem number_figure (g : Gallery) (source : Source) (s : Session) :
    (g.figure source s).1.number = s.counts.figures + 1 := rfl

end Gallery

/-- the session of a document whose picture folder has been made on a disk. -/
def Session.open (g : Gallery) (d : Disk) : Except (Refusal × Disk) Session :=
  (d.makeFolders g.folder).map Session.start

end Bookpress
