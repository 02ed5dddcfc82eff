import Bookpress.Gallery.Basic

/-!
# Pages

A saved page, and where the sources on it start from.

* `read_missing` : a page that is not there is a fault of its own.
-/

namespace Bookpress

/-- a page that has been read. -/
structure Page where
  html : Text
  base : Base

/-- why a page cannot be read. -/
inductive PageFault
  | missing (p : Path)
  | unreadable (p : Path) (r : Refusal)

/-- the words of a fault. -/
def PageFault.message : PageFault → Text
  | .missing p =>
    "Input file not found: ".toList ++ apostrophe :: (p ++ apostrophe ::
      "\nCheck the path exists and is readable.".toList)
  | .unreadable p r =>
    "Failed to read input ".toList ++ apostrophe :: (p ++ apostrophe ::
      (": ".toList ++ r.message.toList))

namespace Page

/-- the folder of a page. -/
def folderOf (p : Path) : Path :=
  match Path.parent? p with
  | none | some [] => ".".toList
  | some q => q

/-- the event that a page has been read. -/
def readEvent (p : Path) : Event :=
  ⟨.debug, "Resolved local page: ".toList ++ p ++ " (assets under ".toList ++ folderOf p ++ [')']⟩

/-- the page at a path. -/
def read (d : Disk) (p : Path) : Except PageFault Page :=
  if d.exists? p then
    match d.readText p with
    | .ok t => .ok ⟨t, .folder (folderOf p)⟩
    | .error r => .error (.unreadable p r)
  else .error (.missing p)

theorem read_missing {d : Disk} {p : Path} (h : d.exists? p = false) :
    read d p = .error (.missing p) := by
  simp [read, h]

end Page
end Bookpress
