import Bookpress.Document.Compose
import Bookpress.Proofs.Text.Rewriting
import Mathlib.Algebra.GroupWithZero.Nat

/-!
# The walk along the menu

Worksheets become blocks one after the other, and the entries below the menu take the blocks one
after the other, however they are grouped.  So the entries and the worksheets are paired by their
numbers alone.

* `getElem?_run_blocksOf` : every block is the rendering of its worksheet, in its turn.
* `bodies_sectionsOf` : the walk hands the blocks out in their order.
* `length_unused` : how many blocks are left after the walk.
* `compose_pairs` : the document and the report of a book.
-/

namespace Bookpress

section
variable {σ α β : Type}

theorem run_mapM_cons (f : α → StateM σ β) (x : α) (xs : List α) (s : σ) :
    ((x :: xs).mapM f).run s = (((f x).run s).1 :: ((xs.mapM f).run ((f x).run s).2).1,
      ((xs.mapM f).run ((f x).run s).2).2) := by
  simp only [List.mapM_cons, StateT.run_bind, StateT.run_pure]
  rfl

/-- the results of a row of actions, each in the state that the ones before it leave. -/
theorem getElem?_run_mapM (f : α → StateM σ β) (xs : List α) (s : σ) (k : Nat) :
    ((xs.mapM f).run s).1[k]? =
      xs[k]?.map fun x => ((f x).run (((xs.take k).mapM f).run s).2).1 := by
  induction xs generalizing s k with
  | nil => rfl
  | cons x xs ih =>
    rw [run_mapM_cons]
    cases k with
    | zero => rfl
    | succ k =>
      rw [List.take_succ_cons, run_mapM_cons, List.getElem?_cons_succ, List.getElem?_cons_succ]
      exact ih _ k

theorem length_run_mapM (f : α → StateM σ β) (xs : List α) (s : σ) :
    ((xs.mapM f).run s).1.length = xs.length := by
  induction xs generalizing s with
  | nil => rfl
  | cons x xs ih => rw [run_mapM_cons, List.length_cons, List.length_cons, ih]

end

namespace Document

open Tex

/-! ## the blocks -/

section
variable (g : Gallery) (o : Markup.Options) (ws : List Worksheet) (s : Session)

/-- the session in which a worksheet has its turn: those before it have been rendered. -/
def turn (k : Nat) : Session :=
  ((blocksOf g o (ws.take k)).run s).2.record
    (g.detail 1 ("Processing worksheet ".toList ++ Text.ofNat (k + 1)))

theorem take_zipIdx (k : Nat) : ws.zipIdx.take k = (ws.take k).zipIdx := by
  refine List.ext_getElem? fun i => ?_
  simp only [List.getElem?_take, List.getElem?_zipIdx]
  split <;> simp

/-- **Every block is the rendering of its worksheet in its turn.** -/
theorem getElem?_run_blocksOf (k : Nat) :
    ((blocksOf g o ws).run s).1[k]? =
      ws[k]?.map fun w => ((blockOf g o w).run (turn g o ws s k)).1 := by
  unfold blocksOf turn
  rw [getElem?_run_mapM, List.getElem?_zipIdx, take_zipIdx, Option.map_map, Nat.zero_add]
  rfl

theorem length_run_blocksOf : ((blocksOf g o ws).run s).1.length = ws.length := by
  unfold blocksOf
  rw [length_run_mapM, List.length_zipIdx]

end

/-! ## the walk -/

section
variable (l : Layout) (blocks : List Text) (menu : List MenuEntry)

/-- the entries below a menu, in their order. -/
def itemsOf (menu : List MenuEntry) : List Text := menu.flatMap MenuEntry.items

theorem bodies_subsectionsOf (items : List Text) :
    (subsectionsOf blocks items).map Subsection.body
      = (List.range items.length).map fun k => blocks.getD k [] := by
  refine List.ext_getElem? fun k => ?_
  simp only [subsectionsOf, List.map_map, List.getElem?_map, List.getElem?_zipIdx, Nat.zero_add,
    Option.map_map]
  by_cases hk : k < items.length
  · rw [List.getElem?_eq_getElem hk, List.getElem?_range hk]
    rfl
  · rw [List.getElem?_eq_none (by omega), List.getElem?_eq_none (by simpa using hk)]
    rfl

theorem titles_subsectionsOf (items : List Text) :
    (subsectionsOf blocks items).map Subsection.title = items.map escape := by
  refine List.ext_getElem? fun k => ?_
  simp [subsectionsOf, List.getElem?_zipIdx, Function.comp_def]

/-- **The walk hands the blocks out in their order**, across all entries. -/
theorem bodies_sectionsOf :
    ((sectionsOf l blocks menu).flatMap Section.subsections).map Subsection.body
      = (List.range (itemsOf menu).length).map fun k => blocks.getD k [] := by
  induction menu generalizing blocks with
  | nil => rfl
  | cons e menu ih =>
    have hlen : (itemsOf (e :: menu)).length = e.items.length + (itemsOf menu).length := by
      simp [itemsOf]
    have hdrop : ∀ k, (blocks.drop e.items.length).getD k []
        = blocks.getD (e.items.length + k) [] := by
      intro k
      simp only [List.getD_eq_getElem?_getD, List.getElem?_drop]
    rw [sectionsOf, List.flatMap_cons, List.map_append, bodies_subsectionsOf, ih, hlen,
      List.range_add, List.map_append, List.map_map]
    simp only [hdrop, Function.comp_def]

theorem titles_sectionsOf : (sectionsOf l blocks menu).map Section.title? = menu.map (titleOf l) := by
  induction menu generalizing blocks with
  | nil => rfl
  | cons e menu ih => simp only [sectionsOf, List.map_cons, ih]

theorem headings_sectionsOf :
    (sectionsOf l blocks menu).map (fun x => x.subsections.map Subsection.title)
      = menu.map fun e => e.items.map escape := by
  induction menu generalizing blocks with
  | nil => rfl
  | cons e menu ih => simp only [sectionsOf, List.map_cons, ih, titles_subsectionsOf]

theorem unused_eq_drop : unused blocks menu = blocks.drop (itemsOf menu).length := by
  induction menu generalizing blocks with
  | nil => rfl
  | cons e menu ih =>
    have := ih (blocks.drop e.items.length)
    rw [List.drop_drop] at this
    simpa [unused, itemsOf] using this

theorem length_unused : (unused blocks menu).length = blocks.length - (itemsOf menu).length := by
  rw [unused_eq_drop, List.length_drop]

/-- sections have a title where an entry has entries below it, unless the layout is simple. -/
theorem countP_isSome_titleOf :
    (menu.map (titleOf l)).countP Option.isSome =
      match l with
      | .numbered => menu.countP fun e => e.items ≠ []
      | .simple => 0 := by
  rw [List.countP_map]
  cases l with
  | numbered =>
    refine List.countP_congr fun e _ => ?_
    by_cases h : e.items = [] <;> simp [titleOf, h]
  | simple => simp [titleOf, List.countP_eq_zero]

end

/-! ## composition -/

section
variable (g : Gallery) (b : Book) (s : Session)

/-- the session in which the worksheets of a book are rendered: the description has been
translated. -/
def summarized : Session :=
  ((Markup.translateRaw g (.of g.settings) b.description).run s).2.record
    [⟨.info, "Rendering ".toList ++ Text.ofNat b.worksheets.length ++ " worksheet(s)".toList⟩]

/-- the blocks of a book. -/
def blocks : List Text := ((blocksOf g (.of g.settings) b.worksheets).run (summarized g b s)).1

/-- the rendering of the worksheet with a number, in its turn; there is none behind the last. -/
def rendering (k : Nat) : Text :=
  match b.worksheets[k]? with
  | some w =>
    ((blockOf g (.of g.settings) w).run
      (turn g (.of g.settings) b.worksheets (summarized g b s) k)).1
  | none => []

theorem run_compose : ((compose g b).run s).1 =
    (⟨escape (bookTitle b.title), escape b.author.name, b.author.link, escape b.date,
      ((Markup.translateRaw g (.of g.settings) b.description).run s).1, Layout.of b.menu,
      sectionsOf (Layout.of b.menu) (blocks g b s) b.menu⟩, reportOn b (blocks g b s)) := by
  unfold compose
  simp only [StateT.run_bind, StateT.run_modify, pure_bind, StateT.run_pure]
  rfl

theorem length_blocks : (blocks g b s).length = b.worksheets.length := length_run_blocksOf ..

theorem getD_blocks (k : Nat) : (blocks g b s).getD k [] = rendering g b s k := by
  unfold blocks rendering
  rw [List.getD_eq_getElem?_getD, getElem?_run_blocksOf]
  cases b.worksheets[k]? <;> rfl

/-- what the document and the report of a book have to do with its worksheets and its menu. -/
structure Pairs (d : Document) (r : Report) : Prop where
  layout : d.layout = Layout.of b.menu
  /-- every entry of the menu has a section. -/
  titles : d.sections.map Section.title? = b.menu.map (titleOf d.layout)
  /-- every entry below it has a subsection. -/
  headings : d.sections.map (fun x => x.subsections.map Subsection.title)
    = b.menu.map fun e => e.items.map escape
  /-- the subsections hold the renderings of the worksheets with their numbers. -/
  bodies : (d.sections.flatMap Section.subsections).map Subsection.body
    = (List.range (itemsOf b.menu).length).map (rendering g b s)
  worksheets : r.worksheets = b.worksheets.length
  elements : r.elements = (b.worksheets.map List.length).sum
  unsupported : r.unsupported = (b.worksheets.map (·.countP Element.isUnsupported)).sum
  empty : r.emptySubsections = (itemsOf b.menu).length - b.worksheets.length
  unused : r.unusedBlocks = b.worksheets.length - (itemsOf b.menu).length
  /-- what is missing on one side is left on the other. -/
  balance : r.worksheets + r.emptySubsections = (itemsOf b.menu).length + r.unusedBlocks
  subsections : d.metadata.subsections = (itemsOf b.menu).length
  sections : d.metadata.sections =
    match d.layout with
    | .numbered => b.menu.countP fun e => e.items ≠ []
    | .simple => 0

/-- **Worksheets and entries are paired by their numbers**, and the report says what is left. -/
theorem compose_pairs :
    Pairs g b s ((compose g b).run s).1.1 ((compose g b).run s).1.2 := by
  have empty : (reportOn b (blocks g b s)).emptySubsections
      = (itemsOf b.menu).length - b.worksheets.length := by
    rw [← length_blocks g b s]
    exact length_missing _ _
  have unused : (reportOn b (blocks g b s)).unusedBlocks
      = b.worksheets.length - (itemsOf b.menu).length := by
    rw [← length_blocks g b s]
    exact length_unused _ _
  rw [run_compose]
  refine ⟨rfl, titles_sectionsOf .., headings_sectionsOf .., ?_, rfl, List.length_flatten,
    List.countP_flatten, empty, unused, ?_, ?_, ?_⟩
  · simp only [bodies_sectionsOf, getD_blocks]
  · rw [empty, unused]
    show b.worksheets.length + _ = _
    omega
  · show ((sectionsOf _ _ _).flatMap Section.subsections).length = _
    rw [← List.length_map Subsection.body, bodies_sectionsOf, List.length_map, List.length_range]
  · show (sectionsOf _ _ _).countP (fun x => x.title?.isSome) = _
    rw [← countP_isSome_titleOf, ← titles_sectionsOf _ (blocks g b s), List.countP_map]
    rfl

end

end Document
end Bookpress
