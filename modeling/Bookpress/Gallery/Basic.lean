import Bookpress.Disk.Basic
import Bookpress.Journal
import Bookpress.Settings.Basic
import Bookpress.Text.Quoted
import Bookpress.Web.Resolve

/-!
# Galleries

A gallery keeps the pictures of a document in one folder.  It knows where sources on the page
lead, how a download is answered, and how large pictures are printed; what it has done so far is
in a session.

* `locate_of_isLink` : a source that is a link is taken as it is.
-/

namespace Bookpress

/-- where the sources on a page start from. -/
inductive Base
  /-- the folder of a saved page. -/
  | folder (p : Path)
  /-- the URL of a page. -/
  | page (url : Text)
deriving Repr, DecidableEq

/-- where a picture comes from. -/
inductive Source
  | remote (url : Text)
  | file (p : Path)
deriving Repr, DecidableEq

/-- a source as the journal shows it. -/
def Source.shown : Source → Text
  | .remote url => "Remote(".toList ++ (Text.quoted url ++ [')'])
  | .file p => "Local(".toList ++ (Text.quotedPath p ++ [')'])

/-- whether a source is a link, with a scheme or without. -/
def isLink (t : Text) : Bool :=
  "http://".toList.isPrefixOf t || "https://".toList.isPrefixOf t || "//".toList.isPrefixOf t

/-- how often a gallery has done what. -/
structure Counts where
  /-- downloads that were stored. -/
  fetched : Nat
  /-- pictures that were there already. -/
  reused : Nat
  /-- pictures that could not be had. -/
  failed : Nat
  /-- numbered figures. -/
  figures : Nat
deriving Repr, DecidableEq

/-- the counts at the start. -/
def Counts.zero : Counts := ⟨0, 0, 0, 0⟩

/-- the state of the work on a document. -/
structure Session where
  disk : Disk
  counts : Counts
  /-- how many downloads were asked for. -/
  requests : Nat
  journal : List Event

namespace Session

/-- the session that starts with a disk. -/
def start (d : Disk) : Session := ⟨d, .zero, 0, []⟩

/-- a session with more events. -/
def record (s : Session) (es : List Event) : Session := { s with journal := s.journal ++ es }

/-- a session with other counts. -/
def tally (s : Session) (f : Counts → Counts) : Session := { s with counts := f s.counts }

@[simp] theorem disk_record (s : Session) (es : List Event) : (s.record es).disk = s.disk := rfl

@[simp] theorem counts_record (s : Session) (es : List Event) :
    (s.record es).counts = s.counts := rfl

@[simp] theorem requests_record (s : Session) (es : List Event) :
    (s.record es).requests = s.requests := rfl

@[simp] theorem disk_tally (s : Session) (f : Counts → Counts) : (s.tally f).disk = s.disk := rfl

@[simp] theorem counts_tally (s : Session) (f : Counts → Counts) :
    (s.tally f).counts = f s.counts := rfl

@[simp] theorem requests_tally (s : Session) (f : Counts → Counts) :
    (s.tally f).requests = s.requests := rfl

end Session

/-- what is outside of a run: how downloads are answered and programs end. -/
structure World where
  /-- the answer to the download with a number: bytes, or why there are none. -/
  answer : Nat → Text → Except Text ByteArray
  /-- why a program does not do its work. -/
  ending : Text → Text

/-- a gallery of pictures. -/
structure Gallery where
  world : World
  settings : Settings
  base : Base

/-- why a picture cannot be had. -/
inductive PictureFault
  | download (url reason : Text)
  | file (p : Path) (r : Refusal)
  | unreadable (p : Path) (why : Text)

/-- the words of a fault. -/
def PictureFault.message : PictureFault → Text
  | .download url reason =>
    "fetching ".toList ++ apostrophe :: (url ++ apostrophe :: (" failed: ".toList ++ reason))
  | .file p r =>
    "I/O on ".toList ++ apostrophe :: (p ++ apostrophe :: (" failed: ".toList ++ r.message.toList))
  | .unreadable p why =>
    "cannot decode ".toList ++ apostrophe :: (p ++ apostrophe :: (": ".toList ++ why))

namespace Gallery

/-- the folder of the pictures. -/
def folder (g : Gallery) : Path := g.settings.imagePath

/-- the path of a file in the folder. -/
def place (g : Gallery) (name : Text) : Path := Path.join g.folder name

/-- the folder as documents write it. -/
def shownFolder (g : Gallery) : Text :=
  (Text.dropEndWhile (· = '/') g.settings.imageDir).map fun c => if c = '\\' then '/' else c

/-- a file in the folder as documents write it. -/
def shownPlace (g : Gallery) (name : Text) : Text := g.shownFolder ++ '/' :: name

/-- the events of a detail. -/
def detail (g : Gallery) (level : Nat) (message : Text) : List Event :=
  details g.settings.verbosity level message

/-- the source that a text on the page designates; what cannot be resolved is taken as it is. -/
def locate (g : Gallery) (t : Text) : Source × List Event :=
  if isLink t then (.remote t, [])
  else match g.base with
    | .folder p => (.file (Path.join p t), [])
    | .page url =>
      match Web.resolve url t with
      | .ok u => (.remote u, [])
      | .error e =>
        (.remote t, [⟨.warn, "Cannot resolve ".toList ++ apostrophe :: (t ++ apostrophe ::
          (" against ".toList ++ apostrophe :: (url ++ apostrophe ::
            (": ".toList ++ e.message.toList))))⟩])

theorem locate_of_isLink (g : Gallery) {t : Text} (h : isLink t = true) :
    g.locate t = (.remote t, []) := by
  simp [locate, h]

end Gallery
end Bookpress
