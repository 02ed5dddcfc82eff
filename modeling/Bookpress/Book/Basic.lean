import Bookpress.Text.Basic

/-!
# Books

What a page says: who wrote the book and when, the worksheets with their elements, and the menu
that names them.
-/

namespace Bookpress

/-- who wrote a book. -/
structure Author where
  name : Text
  link : Text
deriving Repr, DecidableEq

/-- a part of a worksheet. -/
inductive Element
  | text (t : Text)
  | title (t : Text)
  | header (t : Text)
  /-- an interactive application, by the text of its script. -/
  | applet (script : Text)
  | image (src : Text) (caption? : Option Text)
  | video (src : Text)
  /-- a part of a kind that documents do not show. -/
  | unsupported (kind : Text)
deriving Repr, DecidableEq

/-- the parts of a worksheet in their order. -/
abbrev Worksheet := List Element

/-- an entry of the menu, with the entries below it. -/
structure MenuEntry where
  label : Text
  items : List Text
deriving Repr, DecidableEq

/-- a book as its page shows it. -/
structure Book where
  title : Text
  author : Author
  date : Text
  description : Text
  worksheets : List Worksheet
  menu : List MenuEntry
deriving Repr, DecidableEq

/-- how the menu of a book becomes headings. -/
inductive Layout
  /-- entries are sections, and the entries below them subsections. -/
  | numbered
  /-- only the entries below become headings. -/
  | simple
deriving Repr, DecidableEq

/-- the name of a layout. -/
def Layout.label : Layout → String
  | .numbered => "numbered"
  | .simple => "simple"

/-- the layout of a menu: simple if its first entry is not numbered as the first one. -/
def Layout.of : List MenuEntry → Layout
  | [] => .numbered
  | e :: _ => if "1. ".toList.isPrefixOf e.label then .numbered else .simple

end Bookpress
