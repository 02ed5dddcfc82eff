import Bookpress.Book.Reading
import Bookpress.Citation.Bibliography
import Bookpress.Conversion.Page
import Bookpress.Document.Compose
import Bookpress.Document.Print
import Bookpress.Gallery.Serve
import Bookpress.Tex.Tidy

/-!
# Conversions

From a page to LaTeX: the book on the page is read, the picture folder is made, the document is
composed and printed, links get their citations, and the whole is tidied up.  Only a page that
lacks something, a picture folder that cannot be made and a result that cannot be stored end a
conversion.

* `cited_entries` : a document is cited by the entries of its text, or not at all.
* `references_ofDocument` : the statistics count what is cited.
-/

namespace Bookpress

/-- what a conversion came across. -/
structure Stats where
  worksheets : Nat
  elements : Nat
  unsupported : Nat
  /-- entries that found no worksheet. -/
  emptySubsections : Nat
  /-- worksheets that no entry took. -/
  unusedWorksheets : Nat
  references : Nat
  pictures : Counts
deriving Repr, DecidableEq

/-- the result of a conversion. -/
structure Conversion where
  latex : Text
  metadata : Metadata
  references : List Citation.Entry
  stats : Stats
deriving Repr, DecidableEq

namespace Conversion

/-- why there is no result. -/
inductive Fault
  | page (fault : PageFault)
  | incomplete (node : MissingNode)
  | pictureFolder (p : Path) (r : Refusal)
  | output (p : Path) (r : Refusal)

/-- the words for a step that the system refuses at a path. -/
def refused (step : String) (p : Path) (r : Refusal) : Text :=
  step.toList ++ ' ' :: apostrophe :: (p ++ apostrophe :: (": ".toList ++ r.message.toList))

/-- the words of a fault. -/
def Fault.message : Fault → Text
  | .page f => f.message
  | .incomplete m => m.message
  | .pictureFolder p r => refused "Failed to create image directory" p r
  | .output p r => refused "Failed to write output file" p r

/-- what the system said, if a fault comes from there. -/
def Fault.refusal? : Fault → Option Refusal
  | .page (.missing _) => none
  | .page (.unreadable _ r) => some r
  | .incomplete _ => none
  | .pictureFolder _ r => some r
  | .output _ r => some r

/-- the work on a document, which a fault ends. -/
abbrev Work := ExceptT Fault (StateM Session)

/-- adds events to the journal. -/
def record (es : List Event) : Work Unit := modify (·.record es)

/-- changes the disk; a refusal keeps what was done before it. -/
def onDisk (f : Disk → Except (Refusal × Disk) Disk) (fault : Refusal → Fault) : Work Unit := do
  match f (← get).disk with
  | .ok d => modify fun s => { s with disk := d }
  | .error (r, d) =>
    modify fun s => { s with disk := d }
    throw (fault r)

/-! ## from a document to the result -/

/-- a printed document, with citations and bibliography if the settings ask for them, and what is
cited. -/
def cited (s : Settings) (t : Text) : Text × List Citation.Entry :=
  if s.references then
    let r := Citation.references t
    (r.text ++ r.bibliography, r.entries)
  else (t, [])

/-- a printed document in its final form. -/
def finish (s : Settings) (t : Text) : Text := Tex.tidy ((cited s t).1 ++ Document.ending)

/-- the result for a document, with the counts of its pictures. -/
def ofDocument (s : Settings) (stamp : Text) (d : Document) (r : Report) (c : Counts) :
    Conversion :=
  let t := d.toText s stamp
  let references := (cited s t).2
  ⟨finish s t, d.metadata, references,
    ⟨r.worksheets, r.elements, r.unsupported, r.emptySubsections, r.unusedBlocks,
      references.length, c⟩⟩

theorem cited_entries (s : Settings) (t : Text) :
    (cited s t).2 = if s.references then Citation.entries t else [] := by
  unfold cited
  split <;> rfl

theorem references_ofDocument (s : Settings) (stamp : Text) (d : Document) (r : Report)
    (c : Counts) :
    (ofDocument s stamp d r c).stats.references = (ofDocument s stamp d r c).references.length :=
  rfl

/-! ## from a page to the result -/

/-- the event that a book has been read. -/
def readEvent (b : Book) : Event :=
  ⟨.debug, "Page has ".toList ++ Text.ofNat b.worksheets.length ++ " worksheet(s) and ".toList
    ++ Text.ofNat b.menu.length ++ " menu entr(y/ies)".toList⟩

/-- the event that links are being cited. -/
def citingEvents (s : Settings) : List Event :=
  if s.references then [⟨.info, "Creating references".toList⟩] else []

/-- the event at the end of a conversion that took some milliseconds. -/
def completed (c : Conversion) (elapsed : Nat) : Event :=
  ⟨.info, "Conversion complete: ".toList ++ Text.ofNat c.stats.worksheets
    ++ " worksheet(s), ".toList ++ Text.ofNat c.stats.pictures.figures ++ " figure(s), ".toList
    ++ Text.ofNat c.stats.references ++ " reference(s), ".toList ++ Text.ofNat elapsed
    ++ "ms".toList⟩

/-- converts a book, whose pictures go to a gallery. -/
def ofBook (g : Gallery) (stamp : Text) (b : Book) : Work Conversion := do
  record [readEvent b]
  onDisk (·.makeFolders g.folder) (.pictureFolder g.folder)
  let (d, r) ← Document.compose g b
  record (citingEvents g.settings)
  return ofDocument g.settings stamp d r (← get).counts

/-- converts the HTML of a page. -/
def ofHtml (g : Gallery) (stamp html : Text) : Work Conversion := do
  match Book.read html with
  | .error m => throw (.incomplete m)
  | .ok b => ofBook g stamp b

/-- the page at a path. -/
def readPage (p : Path) : Work Page := do
  record [⟨.info, "Starting conversion: ".toList ++ p⟩]
  match Page.read (← get).disk p with
  | .error f => throw (.page f)
  | .ok page =>
    record [Page.readEvent p]
    return page

/-- converts the page that an input gives; its pictures start from where the page is. -/
def ofInput (w : World) (s : Settings) (stamp : Text) (input : Work Page) : Work Conversion := do
  let page ← input
  ofHtml ⟨w, s, page.base⟩ stamp page.html

/-- converts the page at a path. -/
def ofFile (w : World) (s : Settings) (stamp : Text) (p : Path) : Work Conversion :=
  ofInput w s stamp (readPage p)

/-! ## storing the result -/

/-- the path of a file while it is being written. -/
def draftPath (p : Path) : Path := Path.withExtension p "tex.tmp".toList

/-- the disk with the folder that a path is in. -/
def withFolderOf (d : Disk) (p : Path) : Except (Refusal × Disk) Disk :=
  match Path.parent? p with
  | none | some [] => .ok d
  | some q => d.makeFolders q

/-- the disk with a text at a path: the folder is made, the text is written beside the path, and
takes its place when it is complete. -/
def stored (d : Disk) (p : Path) (t : Text) : Except (Refusal × Disk) Disk := do
  let d ← withFolderOf d p
  let d ← (d.writeText (draftPath p) t).mapError (·, d)
  (d.rename (draftPath p) p).mapError (·, d)

/-- stores the LaTeX of a conversion. -/
def store (c : Conversion) (p : Path) : Work Unit := do
  onDisk (stored · p c.latex) (.output p)
  record [⟨.info, "Wrote ".toList ++ p⟩]

/-- stores what the work on a page comes to, which took some milliseconds. -/
def toFile (elapsed : Nat) (work : Work Conversion) (p : Path) : Work Stats := do
  let c ← work
  record [c.completed elapsed]
  store c p
  return c.stats

end Conversion
end Bookpress
