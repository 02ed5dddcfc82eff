import Bookpress.Document.Element

/-!
# Composing documents

A book becomes a document: every worksheet becomes a block of LaTeX, and the entries below the
menu take the blocks in their order.  Entries without a block stay empty, and blocks without an
entry are left out; both are reported.

* `length_sections` : every entry of the menu has a section.
* `length_missing` : how many entries find no block.
-/

namespace Bookpress

open Tex

/-- what a composition came across. -/
structure Report where
  worksheets : Nat
  elements : Nat
  unsupported : Nat
  /-- entries that found no block. -/
  emptySubsections : Nat
  /-- blocks that no entry took. -/
  unusedBlocks : Nat
deriving Repr, DecidableEq

namespace Document

/-! ## headings -/

/-- what the titles of pages end with. -/
def titleEnding : Text := "- GeoGebraBook".toList

/-- the title of a book, without the ending of its page. -/
def bookTitle (t : Text) : Text :=
  let t := Text.trim t
  Text.trimEnd ((Text.stripEnd? titleEnding t).getD t)

/-- a label without the number of a section at its front. -/
def withoutNumber (t : Text) : Text :=
  let digits := t.takeWhile Text.isDecimal
  match t.drop digits.length with
  | '.' :: c :: r => if digits ≠ [] ∧ Text.isBlank c then Text.trimStart r else t
  | _ => t

/-- the title of the section of an entry. -/
def titleOf (l : Layout) (e : MenuEntry) : Option Text :=
  if l = .numbered ∧ e.items ≠ [] then some (escape (withoutNumber e.label)) else none

/-! ## the walk along the menu -/

/-- the subsections of an entry, which take the blocks from the front. -/
def subsectionsOf (blocks : List Text) (items : List Text) : List Subsection :=
  items.zipIdx.map fun (item, k) => ⟨escape item, blocks.getD k []⟩

/-- the sections of a menu: every entry takes as many blocks as it has entries below it. -/
def sectionsOf (l : Layout) : List Text → List MenuEntry → List Section
  | _, [] => []
  | blocks, e :: menu =>
    ⟨titleOf l e, subsectionsOf blocks e.items⟩ :: sectionsOf l (blocks.drop e.items.length) menu

/-- the entries that find no block, if there are `n`. -/
def missing : Nat → List MenuEntry → List Text
  | _, [] => []
  | n, e :: menu => e.items.drop n ++ missing (n - e.items.length) menu

/-- the blocks that are left after the walk. -/
def unused (blocks : List Text) (menu : List MenuEntry) : List Text :=
  menu.foldl (fun blocks e => blocks.drop e.items.length) blocks

theorem length_sections (l : Layout) (blocks : List Text) (menu : List MenuEntry) :
    (sectionsOf l blocks menu).length = menu.length := by
  induction menu generalizing blocks with
  | nil => rfl
  | cons e menu ih => simp [sectionsOf, ih]

theorem length_missing (n : Nat) (menu : List MenuEntry) :
    (missing n menu).length = (menu.flatMap MenuEntry.items).length - n := by
  induction menu generalizing n with
  | nil => simp [missing]
  | cons e menu ih =>
    simp only [missing, List.length_append, List.length_drop, ih, List.flatMap_cons]
    omega

/-! ## events -/

/-- the name of a layout in the journal. -/
def layoutName : Layout → Text
  | .numbered => "Numbered".toList
  | .simple => "Simple".toList

/-- the event of an entry that finds no block. -/
def missingEvent (item : Text) : Event :=
  ⟨.warn, "No worksheet content left for ".toList
    ++ apostrophe :: (item ++ apostrophe :: "; leaving it empty".toList)⟩

/-- the events of the walk along a menu, from the section with a number on. -/
def walkEvents (g : Gallery) : Nat → Nat → List MenuEntry → List Event
  | _, _, [] => []
  | number, n, e :: menu =>
    g.detail 2 ("Section ".toList ++ Text.ofNat number ++ ": ".toList
        ++ apostrophe :: (e.label ++ [apostrophe]))
      ++ (e.items.drop n).map missingEvent ++ walkEvents g (number + 1) (n - e.items.length) menu

/-- the event of blocks that are left. -/
def unusedEvents (n : Nat) : List Event :=
  if n = 0 then []
  else [⟨.warn, Text.ofNat n ++ " worksheet(s) have no menu entry and are left out".toList⟩]

/-! ## composition -/

/-- the block of a worksheet. -/
def blockOf (g : Gallery) (o : Markup.Options) (w : Worksheet) : StateM Session Text := do
  return (← w.mapM (Element.toText g o)).flatten

/-- the blocks of all worksheets, in their order. -/
def blocksOf (g : Gallery) (o : Markup.Options) (ws : List Worksheet) :
    StateM Session (List Text) :=
  ws.zipIdx.mapM fun (w, k) => do
    modify (·.record (g.detail 1 ("Processing worksheet ".toList ++ Text.ofNat (k + 1))))
    blockOf g o w

/-- the report on a book whose worksheets became blocks. -/
def reportOn (b : Book) (blocks : List Text) : Report where
  worksheets := b.worksheets.length
  elements := b.worksheets.flatten.length
  unsupported := b.worksheets.flatten.countP Element.isUnsupported
  emptySubsections := (missing blocks.length b.menu).length
  unusedBlocks := (unused blocks b.menu).length

/-- the document of a book, and the report on it. -/
def compose (g : Gallery) (b : Book) : StateM Session (Document × Report) := do
  let o := Markup.Options.of g.settings
  let summary ← Markup.translateRaw g o b.description
  modify (·.record [⟨.info, "Rendering ".toList ++ Text.ofNat b.worksheets.length
    ++ " worksheet(s)".toList⟩])
  let blocks ← blocksOf g o b.worksheets
  let layout := Layout.of b.menu
  let report := reportOn b blocks
  modify (·.record (g.detail 1 ("Generating sections (".toList ++ layoutName layout
    ++ " layout)".toList)))
  modify (·.record (walkEvents g 1 blocks.length b.menu ++ unusedEvents report.unusedBlocks))
  return (⟨escape (bookTitle b.title), escape b.author.name, b.author.link, escape b.date, summary,
    layout, sectionsOf layout blocks b.menu⟩, report)

end Document
end Bookpress
