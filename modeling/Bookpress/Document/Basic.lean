import Bookpress.Book.Basic

/-!
# Documents

A book ready to print: what stands on the title page, and the sections with their texts in LaTeX.
-/

namespace Bookpress

/-- a heading and the LaTeX below it. -/
structure Subsection where
  title : Text
  body : Text
deriving Repr, DecidableEq

/-- a section; one without a title only holds its subsections. -/
structure Section where
  title? : Option Text
  subsections : List Subsection
deriving Repr, DecidableEq

/-- a document, with all texts in LaTeX. -/
structure Document where
  title : Text
  authorName : Text
  authorLink : Text
  date : Text
  /-- the abstract; an empty one is not printed. -/
  summary : Text
  layout : Layout
  sections : List Section
deriving Repr, DecidableEq

/-- what is told about a document. -/
structure Metadata where
  title : Text
  author : Text
  date : Text
  layout : Layout
  /-- sections with a title. -/
  sections : Nat
  subsections : Nat
deriving Repr, DecidableEq

/-- what is told about a document. -/
def Document.metadata (d : Document) : Metadata :=
  ⟨d.title, d.authorName, d.date, d.layout,
    d.sections.countP fun s => s.title?.isSome, (d.sections.flatMap Section.subsections).length⟩

end Bookpress
