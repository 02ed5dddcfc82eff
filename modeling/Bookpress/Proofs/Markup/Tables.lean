import Bookpress.Proofs.Markup.Depth
import Bookpress.Proofs.Markup.Formula
import Bookpress.Proofs.Markup.Pictures
import Bookpress.Proofs.Markup.Writing

/-!
# Tables keep their grid

A table of a page is set in three passes, of which the second one translates every cell as a text
of its own.  The first pass writes around the rows only, the second one leaves the tags of rows and
what stands around them, and the third one finds the tags of rows where they were.  What is
translated in a cell is escaped already and has no tags, so that the rules leave it alone.

* `escape_tableOnPage` : a table is escaped cell by cell.
* `beforeCells_tableOnPage` : the rules before those for cells set its frame.
* `Cell.rewrite_escape` : a cell that is translated on its own stays as it is.
* `once_cells`, `once_rows` : the passes over cells and rows.
* `rewrite_tableOnPage` : the rules keep the grid of a table.
* `keeps_grid` : the translation of a table has its rows and cells, in their order.
-/

namespace Bookpress
namespace Markup

open Tex

/-! ## tables on a page and on paper -/

/-- a row as it is written on a page. -/
def rowOnPage (row : List Text) : Text := Rule.row.around (row.flatMap Rule.cell.around)

/-- a table as it is written on a page. -/
def tableOnPage (rows : List (List Text)) : Text := Rule.table.around (rows.flatMap rowOnPage)

/-- what a cell may hold to be kept as it is. -/
structure Cell (c : Text) : Prop where
  bracket : '[' ∉ c
  line : '\n' ∉ c ∧ '\r' ∉ c
  lineTag : Text.occursIn "<br>".toList c = false
  mark : ∀ x ∈ c, x.toNat ≠ 0xFEFF
  trimmed : Text.trim c = c

/-- what stands before the rows of a table. -/
def tableHead (width : Float) : Text :=
  '{' :: (control "small" ++ command "begin"
      ["tabulary".toList, textWidth width, "LLLLLLLLLLLLLL".toList] ++ line []
    ++ line rowRule)

/-- what stands behind the rows of a table. -/
def tableEnd : Text := line (closeEnv "tabulary") ++ '}' :: paragraph

/-- what stands behind the cells of a row. -/
def rowEnd : Text := "\\\\".toList ++ line rowRule

/-- a table in LaTeX, with its cells written in some way. -/
def tableWith (width : Float) (cell : Text → Text) (rows : List (List Text)) : Text :=
  tableHead width ++ ((rows.flatMap fun row => row.flatMap cell ++ rowEnd) ++ tableEnd)

/-- only the width is not fixed in the head of a table. -/
theorem tableHead_eq (width : Float) : tableHead width
    = '{' :: (control "small" ++ (control "begin" ++ group "tabulary".toList))
      ++ (group (textWidth width)
        ++ (group "LLLLLLLLLLLLLL".toList ++ (line [] ++ line rowRule))) := by
  simp [tableHead, command]

theorem cellText_eq (width : Float) (c : Text) : cellText width c
    = "\\pbox[c]".toList ++ (group (textWidth width) ++ (group c ++ ['&'])) := by
  simp [cellText, commandWith, Tex.control]

/-- a text as a cell; an empty one has no box. -/
def boxed (width : Float) (c : Text) : Text := if c = [] then ['&'] else cellText width c

/-- a cell in LaTeX: it is escaped once, and its symbols are typeset once. -/
def cellOnPaper (width : Float) (c : Text) : Text :=
  if c = [] then ['&'] else cellText width (typeset (escape c))

variable {g : Gallery} {o : Options} {p c : Text} {row : List Text} {rows : List (List Text)}
  {width : Float}

/-! ## the tags of tables -/

theorem encloses_table : Rule.table.Encloses := ⟨by decide_cbv, by decide_cbv, rfl, rfl⟩

theorem encloses_row : Rule.row.Encloses := ⟨by decide_cbv, by decide_cbv, rfl, rfl⟩

theorem encloses_cell : Rule.cell.Encloses := ⟨by decide_cbv, by decide_cbv, rfl, rfl⟩

/-- the tags of a table. -/
def tableTags : List Text :=
  [.table, .row, .cell].flatMap fun r : Rule => [r.opening, r.closing]

/-- the tags that are looked for in a table, but for its own and for `<br>`. -/
def foreignTags : List Text :=
  "[br]".toList :: pairRules.map Rule.opening
    ++ (colorTags ++ (placeRules.map Rule.opening ++ partTags))

theorem lacks_tableTags : ∀ p ∈ foreignTags, p.head? = some '[' ∧
    ∀ tag ∈ tableTags, Text.lacks p tag = true := by
  decide +kernel

theorem lacks_flatMap {α : Type} {xs : List α} {f : α → Text}
    (h : ∀ x ∈ xs, Text.lacks p (f x) = true) : Text.lacks p (xs.flatMap f) = true := by
  induction xs with
  | nil => rfl
  | cons x xs ih =>
    rw [List.forall_mem_cons] at h
    rw [List.flatMap_cons]
    exact Text.lacks_append h.1 (ih h.2)

theorem lacks_tableOnPage (htags : ∀ tag ∈ tableTags, Text.lacks p tag = true)
    (hcells : ∀ row ∈ rows, ∀ c ∈ row, Text.lacks p (Rule.cell.around c) = true) :
    Text.lacks p (tableOnPage rows) = true := by
  have htag : ∀ r ∈ [Rule.table, .row, .cell],
      Text.lacks p r.opening = true ∧ Text.lacks p r.closing = true := by
    intro r hr
    exact ⟨htags _ (List.mem_flatMap.2 ⟨r, hr, by simp⟩),
      htags _ (List.mem_flatMap.2 ⟨r, hr, by simp⟩)⟩
  have htable := htag .table (by simp)
  have hrow := htag .row (by simp)
  refine Rule.lacks_around htable.1 (lacks_flatMap fun row hr => ?_) htable.2
  exact Rule.lacks_around hrow.1 (lacks_flatMap (hcells row hr)) hrow.2

/-- a character of a table is one of its tags or of its cells. -/
theorem mem_tableOnPage {x : Char} (h : x ∈ tableOnPage rows) :
    x ∈ tableTags.flatten ∨ ∃ row ∈ rows, ∃ c ∈ row, x ∈ c := by
  have htag : ∀ r ∈ [Rule.table, .row, .cell], ∀ u,
      x ∈ r.around u → x ∈ tableTags.flatten ∨ x ∈ u := by
    intro r hr u hx
    have hmem : ∀ tag ∈ [r.opening, r.closing], x ∈ tag → x ∈ tableTags.flatten := by
      intro tag htag hx
      exact List.mem_flatten.2 ⟨tag, List.mem_flatMap.2 ⟨r, hr, htag⟩, hx⟩
    rw [Rule.around, List.mem_append, List.mem_append] at hx
    rcases hx with hx | hx | hx
    · exact .inl (hmem _ (by simp) hx)
    · exact .inr hx
    · exact .inl (hmem _ (by simp) hx)
  rcases htag .table (by simp) _ h with h | h
  · exact .inl h
  obtain ⟨row, hr, h⟩ := List.mem_flatMap.1 h
  rcases htag .row (by simp) _ h with h | h
  · exact .inl h
  obtain ⟨c, hc, h⟩ := List.mem_flatMap.1 h
  rcases htag .cell (by simp) _ h with h | h
  · exact .inl h
  · exact .inr ⟨row, hr, c, hc, h⟩

/-! ## escaping -/

theorem escape_flatMap {α : Type} (xs : List α) (f : α → Text) :
    escape (xs.flatMap f) = xs.flatMap fun x => escape (f x) := by
  rw [escape, List.flatMap_assoc]
  rfl

theorem escape_around {r : Rule} (hr : r ∈ [Rule.table, .row, .cell]) (u : Text) :
    escape (r.around u) = r.around (escape u) := by
  have htags : ∀ r ∈ [Rule.table, .row, .cell],
      escape r.opening = r.opening ∧ escape r.closing = r.closing := by decide_cbv
  rw [Rule.around, escape_append, escape_append, (htags r hr).1, (htags r hr).2]
  rfl

/-- **A table is escaped cell by cell.** -/
theorem escape_tableOnPage (rows : List (List Text)) :
    escape (tableOnPage rows) = tableOnPage (rows.map fun row => row.map escape) := by
  have hcell : ∀ c, escape (Rule.cell.around c) = Rule.cell.around (escape c) :=
    escape_around (by simp)
  have hrow : ∀ row, escape (rowOnPage row) = rowOnPage (row.map escape) := by
    intro row
    rw [rowOnPage, escape_around (by simp), escape_flatMap, rowOnPage, List.flatMap_map]
    simp only [hcell]
  rw [tableOnPage, escape_around (by simp), escape_flatMap, tableOnPage, List.flatMap_map]
  simp only [hrow]

/-! ## a cell on its own -/

namespace Cell

variable (h : Cell c)
include h

theorem bracket_not_mem_escape : '[' ∉ escape c := not_mem_escape (by decide_cbv) h.bracket

theorem line_not_mem_escape : '\n' ∉ escape c ∧ '\r' ∉ escape c :=
  ⟨not_mem_escape (by decide_cbv) h.line.1, not_mem_escape (by decide_cbv) h.line.2⟩

theorem bareText_eq : bareText c = c := by
  have hbr : ∀ u v, c ≠ u ++ ("<br>".toList ++ v) := occursIn_eq_false_iff.1 h.lineTag
  rw [bareText, filter_mark h.mark, paragraphs,
    Text.replace_of_lacks (by decide) _ (Text.lacks_of_not_mem h.line.1),
    Text.replace_of_lone (by decide_cbv) hbr]

theorem beforeCells_escape : beforeCells o (escape c) = escape c := by
  rw [Markup.beforeCells_escape h.bracket, h.bareText_eq]

/-- **A cell that is translated on its own stays as it is.** -/
theorem rewrite_escape : rewrite g o (escape c) = pure (escape c) := by
  have hbracket := h.bracket_not_mem_escape
  unfold rewrite cellDepth
  exact rewriteWithin_of_none h.beforeCells_escape (spans_of_not_mem (by decide_cbv) hbracket)
    ((unparted_of_not_mem hbracket).once (r := .row) (by simp [partRules]) _)
    (spans_of_not_mem (by decide_cbv) hbracket) (spans_of_not_mem (by decide_cbv) hbracket)

theorem cellContent_escape (param : Text) : cellContent ⟨param, escape c⟩ = escape c := by
  have htrim : Text.trim (escape c) = escape c := by rw [trim_escape, h.trimmed]
  have hline : ∀ x ∈ escape c, Text.isLineEnd x = false := by
    intro x hx
    have hfeed : x ≠ '\n' := fun e => h.line_not_mem_escape.1 (e ▸ hx)
    have hreturn : x ≠ '\r' := fun e => h.line_not_mem_escape.2 (e ▸ hx)
    simp [Text.isLineEnd, hfeed, hreturn]
  rw [cellContent, htrim, Text.mapRuns_of_forall_not hline, htrim]

/-- the escaped tag of line ends does not begin in a cell. -/
theorem lacks_br : Text.lacks (escape "<br>".toList) (Rule.cell.around (escape c)) = true := by
  have hcons : escape "<br>".toList = '\\' :: (escape "<br>".toList).tail := by decide_cbv
  have hnone : Text.occursIn (escape "<br>".toList) (escape c) = false := by
    rw [occursIn_escape hcons fun x hx => (not_mem_tail_of_mem_specials x hx).1]
    exact h.lineTag
  -- the bracket of the tag behind the cell ends what may begin in the cell
  have hclosing : Rule.cell.closing = ['['] ++ "/td]".toList := by decide_cbv
  have hcell := Text.lacks_of_not_occursIn (c := '[') (by decide_cbv) hnone
  rw [Rule.around, hclosing, ← List.append_assoc (escape c)]
  exact Text.lacks_append (by decide_cbv) (Text.lacks_append hcell (by decide_cbv))

end Cell

/-- what the rules see of a cell. -/
def Seen (c : Text) : Prop := ∃ d, Cell d ∧ c = escape d

theorem Seen.bracket (h : Seen c) : '[' ∉ c := by
  obtain ⟨d, hd, rfl⟩ := h
  exact hd.bracket_not_mem_escape

/-! ## the rules before those for cells -/

section
variable (h : ∀ row ∈ rows, ∀ c ∈ row, Seen c)
include h

theorem lacks_foreign : ∀ p ∈ foreignTags, Text.lacks p (tableOnPage rows) = true := by
  intro p hp
  obtain ⟨hhead, htags⟩ := lacks_tableTags p hp
  obtain ⟨q, rfl⟩ := List.head?_eq_some_iff.1 hhead
  refine lacks_tableOnPage htags fun row hr c hc => ?_
  have hcell := Text.lacks_of_not_mem (q := q) (h row hr c hc).bracket
  exact Rule.lacks_around (htags _ (by simp [tableTags])) hcell (htags _ (by simp [tableTags]))

theorem untouched_tableOnPage : Untouched (tableOnPage rows) where
  mark x hx := by
    have htags : ∀ x ∈ tableTags.flatten, x.toNat ≠ 0xFEFF := by decide +kernel
    rcases mem_tableOnPage hx with hx | ⟨row, hr, c, hc, hx⟩
    · exact htags x hx
    · obtain ⟨d, hd, rfl⟩ := h row hr c hc
      exact ne_mark_of_mem_escape hd.mark x hx
  line hx := by
    have htags : '\n' ∉ tableTags.flatten := by decide +kernel
    rcases mem_tableOnPage hx with hx | ⟨row, hr, c, hc, hx⟩
    · exact htags hx
    · obtain ⟨d, hd, rfl⟩ := h row hr c hc
      exact hd.line_not_mem_escape.1 hx
  breaks := by
    have htags : ∀ tag ∈ tableTags, Text.lacks (escape "<br>".toList) tag = true := by
      decide +kernel
    simp only [breakTags, List.forall_mem_cons]
    refine ⟨lacks_foreign h _ (by simp [foreignTags]), ?_, fun _ hp => absurd hp List.not_mem_nil⟩
    refine lacks_tableOnPage htags fun row hr c hc => ?_
    obtain ⟨d, hd, rfl⟩ := h row hr c hc
    exact hd.lacks_br
  pairs r hr := by
    refine lacks_foreign h _ ?_
    exact List.mem_append_left _ (List.mem_cons_of_mem _ (List.mem_map_of_mem hr))

theorem untabled_tableOnPage : Untabled (tableOnPage rows) := by
  have hlacks := lacks_foreign h
  simp only [foreignTags, List.forall_mem_append, List.forall_mem_map] at hlacks
  exact ⟨hlacks.2.1, hlacks.2.2.1, hlacks.2.2.2⟩

/-- the tag behind the rows does not begin in them. -/
theorem lacks_rowsOnPage :
    Text.lacks Rule.table.closing (rows.flatMap rowOnPage) = true := by
  have htags : ∀ r ∈ [Rule.row, .cell], Text.lacks Rule.table.closing r.opening = true ∧
      Text.lacks Rule.table.closing r.closing = true := by decide +kernel
  have hrow := htags .row (by simp)
  have hcell := htags .cell (by simp)
  have hclosing : Rule.table.closing = '[' :: "/table]".toList := by decide_cbv
  refine lacks_flatMap fun row hr => ?_
  refine Rule.lacks_around hrow.1 (lacks_flatMap fun c hc => ?_) hrow.2
  refine Rule.lacks_around hcell.1 ?_ hcell.2
  rw [hclosing]
  exact Text.lacks_of_not_mem (h row hr c hc).bracket

/-- **The rules before those for cells set the frame of a table.** -/
theorem beforeCells_tableOnPage (hne : rows ≠ []) : beforeCells o (tableOnPage rows)
    = tableHead o.columnWidth ++ (rows.flatMap rowOnPage ++ tableEnd) := by
  have hinner : rows.flatMap rowOnPage ≠ [] := by
    obtain ⟨row, rows, rfl⟩ := List.exists_cons_of_ne_nil hne
    rw [List.flatMap_cons, rowOnPage, Rule.around]
    simp [encloses_row.opening]
  have hend : Rule.table.once (tableText o.columnWidth) [] = [] :=
    Rule.once_of_lacks encloses_table.opening rfl _
  unfold beforeCells
  rw [inlineRules_of_lacks (untouched_tableOnPage h),
    blockRules_of_untabled (untabled_tableOnPage h), tableOnPage,
    ← List.append_nil (Rule.table.around _), Rule.once_around encloses_table (lacks_rowsOnPage h),
    hend, tableText, if_neg hinner]
  simp [tableHead, tableEnd, group]

end

/-! ## the rules for cells and rows -/

theorem bracket_not_mem_textWidth (width : Float) : '[' ∉ textWidth width := by
  have hname : '[' ∉ control "textwidth" := by decide_cbv
  have hlength : '[' ∉ lengthText width := fun hm => absurd (mem_lengthChars hm) (by decide)
  unfold textWidth
  rw [List.mem_append, not_or]
  exact ⟨hlength, hname⟩

theorem bracket_not_mem_tableHead (width : Float) : '[' ∉ tableHead width := by
  have hfront : '[' ∉ '{' :: (control "small" ++ (control "begin" ++ group "tabulary".toList)) := by
    decide_cbv
  have hback : '[' ∉ group "LLLLLLLLLLLLLL".toList ++ (line [] ++ line rowRule) := by decide_cbv
  have hwidth : '[' ∉ group (textWidth width) := by
    simp [group, bracket_not_mem_textWidth width]
  rw [tableHead_eq, List.mem_append, List.mem_append, not_or, not_or]
  exact ⟨hfront, hwidth, hback⟩

theorem bracket_not_mem_tableEnd : '[' ∉ tableEnd := by decide_cbv

theorem bracket_not_mem_rowEnd : '[' ∉ rowEnd := by decide_cbv

/-- the only bracket of a cell is that of its option. -/
theorem lacks_boxed (hp : p.head? = some '[') (hoption : Text.lacks p "\\pbox[c]".toList = true)
    (hc : '[' ∉ c) : Text.lacks p (boxed width c) = true := by
  obtain ⟨q, rfl⟩ := List.head?_eq_some_iff.1 hp
  unfold boxed
  split
  · exact Text.lacks_of_not_mem (by decide)
  · rw [cellText_eq]
    refine Text.lacks_append hoption (Text.lacks_of_not_mem ?_)
    simp [group, bracket_not_mem_textWidth width, hc]

theorem opening_of_parts : ∀ r ∈ [Rule.row, .cell], r.opening.head? = some '[' := by decide_cbv

/-- what stands before the rows holds no part of a table. -/
theorem lacks_tableHead {r : Rule} (hr : r ∈ [Rule.row, .cell]) (width : Float) :
    Text.lacks r.opening (tableHead width) = true := by
  obtain ⟨q, hq⟩ := List.head?_eq_some_iff.1 (opening_of_parts r hr)
  rw [hq]
  exact Text.lacks_of_not_mem (bracket_not_mem_tableHead width)

section
variable (h : ∀ row ∈ rows, ∀ c ∈ row, '[' ∉ c)
include h

theorem lacks_cell_closing : ∀ row ∈ rows, ∀ c ∈ row, Text.lacks Rule.cell.closing c = true := by
  have hclosing : Rule.cell.closing = '[' :: "/td]".toList := by decide_cbv
  intro row hr c hc
  rw [hclosing]
  exact Text.lacks_of_not_mem (h row hr c hc)

/-- **The cells that are found are those of the page.** -/
theorem hits_cells :
    Text.hits Rule.cell.find (tableHead width ++ (rows.flatMap rowOnPage ++ tableEnd))
      = rows.flatMap fun row => row.flatMap fun c => [⟨[], c⟩] := by
  have htags : Text.lacks Rule.cell.opening Rule.row.opening = true ∧
      Text.lacks Rule.cell.opening Rule.row.closing = true := by decide_cbv
  have hrow : ∀ row ∈ rows, ∀ t, Text.hits Rule.cell.find (rowOnPage row ++ t)
      = (row.flatMap fun c => [⟨[], c⟩]) ++ Text.hits Rule.cell.find t := by
    intro row hr t
    have hcell : ∀ c ∈ row, ∀ t, Text.hits Rule.cell.find (Rule.cell.around c ++ t)
        = [⟨[], c⟩] ++ Text.hits Rule.cell.find t := fun c hc =>
      Rule.hits_around encloses_cell (lacks_cell_closing h row hr c hc)
    rw [rowOnPage, Rule.around, List.append_assoc, List.append_assoc,
      Rule.hits_append_of_lacks encloses_cell htags.1, Rule.hits_flatMap hcell,
      Rule.hits_append_of_lacks encloses_cell htags.2]
  have hend : Text.hits Rule.cell.find tableEnd = [] :=
    congrArg (fun x => x.1.map Prod.snd)
      (spans_of_not_mem (opening_of_parts _ (by simp)) bracket_not_mem_tableEnd)
  rw [Rule.hits_append_of_lacks encloses_cell (lacks_tableHead (by simp) width),
    Rule.hits_flatMap hrow, hend, List.append_nil]

/-- **A pass over cells leaves the tags of rows.** -/
theorem once_cells (render : Span → Text) :
    Rule.cell.once render (tableHead width ++ (rows.flatMap rowOnPage ++ tableEnd))
      = tableHead width ++ ((rows.flatMap fun row =>
          Rule.row.around (row.flatMap fun c => render ⟨[], c⟩)) ++ tableEnd) := by
  have htags : Text.lacks Rule.cell.opening Rule.row.opening = true ∧
      Text.lacks Rule.cell.opening Rule.row.closing = true := by decide_cbv
  have hrow : ∀ row ∈ rows, ∀ t, Rule.cell.once render (rowOnPage row ++ t)
      = Rule.row.around (row.flatMap fun c => render ⟨[], c⟩) ++ Rule.cell.once render t := by
    intro row hr t
    have hcell : ∀ c ∈ row, ∀ t, Rule.cell.once render (Rule.cell.around c ++ t)
        = render ⟨[], c⟩ ++ Rule.cell.once render t := fun c hc =>
      Rule.once_around encloses_cell (lacks_cell_closing h row hr c hc)
    rw [rowOnPage, Rule.around, Rule.around, List.append_assoc, List.append_assoc,
      Rule.once_append_of_lacks encloses_cell htags.1, Rule.once_flatMap hcell,
      Rule.once_append_of_lacks encloses_cell htags.2, List.append_assoc, List.append_assoc]
  rw [Rule.once_append_of_lacks encloses_cell (lacks_tableHead (by simp) width),
    Rule.once_flatMap hrow,
    once_of_not_mem (opening_of_parts _ (by simp)) bracket_not_mem_tableEnd]

/-- **A pass over rows ends each of them.** -/
theorem once_rows :
    Rule.row.once rowText (tableHead width ++ ((rows.flatMap fun row =>
        Rule.row.around (row.flatMap (boxed width))) ++ tableEnd))
      = tableWith width (boxed width) rows := by
  have htag : Rule.row.closing.head? = some '[' ∧
      Text.lacks Rule.row.closing "\\pbox[c]".toList = true := by decide_cbv
  have hrow : ∀ row ∈ rows, ∀ t,
      Rule.row.once rowText (Rule.row.around (row.flatMap (boxed width)) ++ t)
        = (row.flatMap (boxed width) ++ rowEnd) ++ Rule.row.once rowText t := by
    intro row hr t
    have hcells : Text.lacks Rule.row.closing (row.flatMap (boxed width)) = true :=
      lacks_flatMap fun c hc => lacks_boxed htag.1 htag.2 (h row hr c hc)
    rw [Rule.once_around encloses_row hcells, rowText, rowEnd]
    dsimp only
    rw [List.append_assoc _ "\\\\".toList]
  rw [Rule.once_append_of_lacks encloses_row (lacks_tableHead (by simp) width),
    Rule.once_flatMap hrow,
    once_of_not_mem (opening_of_parts _ (by simp)) bracket_not_mem_tableEnd, tableWith]

theorem lacks_tableWith (hp : p.head? = some '[')
    (hoption : Text.lacks p "\\pbox[c]".toList = true) :
    Text.lacks p (tableWith width (boxed width) rows) = true := by
  have hplain : ∀ t : Text, '[' ∉ t → Text.lacks p t = true := by
    obtain ⟨q, rfl⟩ := List.head?_eq_some_iff.1 hp
    exact fun t ht => Text.lacks_of_not_mem ht
  refine Text.lacks_append (hplain _ (bracket_not_mem_tableHead width))
    (Text.lacks_append (lacks_flatMap fun row hr => ?_) (hplain _ bracket_not_mem_tableEnd))
  refine Text.lacks_append (lacks_flatMap fun c hc => ?_) (hplain _ bracket_not_mem_rowEnd)
  exact lacks_boxed hp hoption (h row hr c hc)

end

/-- what is written for a cell that the rules see. -/
theorem render_seen (h : Seen c) :
    (if c = [] then return ['&']
      else do return cellText o.columnWidth (← rewrite g o (cellContent ⟨[], c⟩)) :
      StateM Session Text) = pure (boxed o.columnWidth c) := by
  obtain ⟨d, hd, rfl⟩ := h
  unfold boxed
  split
  · rfl
  · rw [hd.cellContent_escape, hd.rewrite_escape]
    rfl

/-- **The rules for cells and rows keep the grid of a table.** -/
theorem rewrite_tableOnPage (hne : rows ≠ []) (h : ∀ row ∈ rows, ∀ c ∈ row, Seen c) :
    rewrite g o (tableOnPage rows)
      = pure (tableWith o.columnWidth (boxed o.columnWidth) rows) := by
  have hbracket : ∀ row ∈ rows, ∀ c ∈ row, '[' ∉ c := fun row hr c hc => (h row hr c hc).bracket
  have hcells : Text.fillM (fun c : Span => if c.inner = [] then return ['&']
        else do return cellText o.columnWidth (← rewrite g o (cellContent c)))
      (Rule.cell.spans (tableHead o.columnWidth ++ (rows.flatMap rowOnPage ++ tableEnd)))
      = (pure (Rule.cell.once (fun x => boxed o.columnWidth x.inner)
          (tableHead o.columnWidth ++ (rows.flatMap rowOnPage ++ tableEnd))) :
          StateM Session Text) := by
    refine Text.fillM_of_pure fun x hx => ?_
    change x ∈ Text.hits Rule.cell.find _ at hx
    rw [hits_cells hbracket] at hx
    obtain ⟨row, hr, hx⟩ := List.mem_flatMap.1 hx
    obtain ⟨c, hc, hx⟩ := List.mem_flatMap.1 hx
    rw [List.mem_singleton.1 hx]
    exact render_seen (h row hr c hc)
  rw [rewrite_eq, beforeCells_tableOnPage h hne, hcells, pure_bind, once_cells hbracket,
    show Rule.row.once rowText _ = _ from once_rows hbracket]
  have hlacks : ∀ p : Text, p.head? = some '[' → Text.lacks p "\\pbox[c]".toList = true →
      Text.lacks p (tableWith o.columnWidth (boxed o.columnWidth) rows) = true :=
    fun p => lacks_tableWith hbracket
  have himage := hlacks Rule.image.opening (by decide_cbv) (by decide_cbv)
  have hicon := hlacks Rule.icon.opening (by decide_cbv) (by decide_cbv)
  exact pictures_of_none (Rule.spans_of_lacks (by decide_cbv) himage)
    (Rule.spans_of_lacks (by decide_cbv) hicon)

/-! ## the translation -/

theorem typeset_textWidth (width : Float) : typeset (textWidth width) = textWidth width := by
  have hname : typeset (control "textwidth") = control "textwidth" :=
    typeset_of_lt (by decide +kernel)
  rw [textWidth, typeset_append, typeset_of_lt fun _ hx => lt_of_mem_lengthText hx, hname]

theorem typeset_flatMap {α : Type} (xs : List α) (f : α → Text) :
    typeset (xs.flatMap f) = xs.flatMap fun x => typeset (f x) := by
  rw [typeset, List.flatMap_assoc]
  rfl

theorem typeset_tableHead (width : Float) : typeset (tableHead width) = tableHead width := by
  have hfront : typeset ('{' :: (control "small" ++ (control "begin" ++ group "tabulary".toList)))
      = '{' :: (control "small" ++ (control "begin" ++ group "tabulary".toList)) :=
    typeset_of_lt (by decide +kernel)
  have hback : typeset (group "LLLLLLLLLLLLLL".toList ++ (line [] ++ line rowRule))
      = group "LLLLLLLLLLLLLL".toList ++ (line [] ++ line rowRule) :=
    typeset_of_lt (by decide +kernel)
  rw [tableHead_eq, typeset_append, typeset_append, hfront, typeset_group, typeset_textWidth, hback]

theorem typeset_boxed (c : Text) :
    typeset (boxed width (escape c)) = cellOnPaper width c := by
  unfold boxed cellOnPaper
  simp only [escape_eq_nil_iff]
  have hand : typeset ['&'] = ['&'] := typeset_of_lt (by decide)
  split
  · exact hand
  · have hname : typeset "\\pbox[c]".toList = "\\pbox[c]".toList :=
      typeset_of_lt (by decide +kernel)
    rw [cellText_eq, cellText_eq, typeset_append, typeset_append, typeset_append, typeset_group,
      typeset_group, typeset_textWidth, hname, hand]

theorem typeset_tableWith (rows : List (List Text)) :
    typeset (tableWith width (boxed width) (rows.map fun row => row.map escape))
      = tableWith width (cellOnPaper width) rows := by
  have hrowEnd : typeset rowEnd = rowEnd := typeset_of_lt (by decide +kernel)
  have htableEnd : typeset tableEnd = tableEnd := typeset_of_lt (by decide +kernel)
  rw [tableWith, tableWith, typeset_append, typeset_append, typeset_tableHead, htableEnd,
    typeset_flatMap, List.flatMap_map]
  simp only [typeset_append, typeset_flatMap, List.flatMap_map, typeset_boxed, hrowEnd]

/-- **The translation of a table keeps its grid.**  It is the head of the table, then for every row
its cells in their order and the end of the row, then the end of the table.  Every cell is escaped
once and typeset once, and stands in a box of the width of a column; an empty one has no box. -/
theorem keeps_grid (g : Gallery) (o : Options) (hne : rows ≠ [])
    (hcells : ∀ row ∈ rows, ∀ c ∈ row, Cell c) (hw : o.wordWrap = false) (s : Session) :
    ∃ es, (translateRaw g o (tableOnPage rows)).run s
      = (tableWith o.columnWidth (cellOnPaper o.columnWidth) rows, s.record es) := by
  have hrows : (rows.map fun row => row.map escape) ≠ [] := by simpa using hne
  have hseen : ∀ row ∈ rows.map (fun row => row.map escape), ∀ c ∈ row, Seen c := by
    simp only [List.forall_mem_map]
    exact fun row hr c hc => ⟨c, hcells row hr c hc, rfl⟩
  have hrecord : ∀ es fs, (s.record es).record fs = s.record (es ++ fs) := fun es fs => by
    simp [Session.record]
  have hfinish : finish o (tableWith o.columnWidth (boxed o.columnWidth)
      (rows.map fun row => row.map escape))
        = tableWith o.columnWidth (cellOnPaper o.columnWidth) rows := by
    unfold finish
    rw [if_neg (by simp [hw]), typeset_tableWith]
  obtain ⟨es, fs, hrun⟩ := translateRaw_eq g o (tableOnPage rows) s
  refine ⟨es ++ fs, ?_⟩
  rw [hrun, escape_tableOnPage, rewrite_tableOnPage hrows hseen, ← hrecord, ← hfinish]
  rfl

/-- a row with a Greek letter and an empty cell, and a row without cells. -/
def letters : List (List Text) := [[['α', '%'], []], []]

theorem keeps_grid_letters :
    tableOnPage letters = "[table][tr][td]α%[/td][td][/td][/tr][tr][/tr][/table]".toList ∧
      letters ≠ [] ∧ (∀ row ∈ letters, ∀ c ∈ row, Cell c) ∧
      (Options.of .standard).wordWrap = false ∧
      ∃ es, (translateRaw bareGallery (.of .standard) (tableOnPage letters)).run (.start .empty)
        = (tableHead (Options.of .standard).columnWidth
            ++ (cellText (Options.of .standard).columnWidth
                (command "textgreek" [['α']] ++ "\\%".toList)
              ++ ('&' :: (rowEnd ++ (rowEnd ++ tableEnd)))), (Session.start .empty).record es) := by
  have hpage : tableOnPage letters
      = "[table][tr][td]α%[/td][td][/td][/tr][tr][/tr][/table]".toList := by decide +kernel
  have hne : letters ≠ [] := by decide
  have hletter : Cell ['α', '%'] := ⟨by decide, by decide, by decide_cbv, by decide, by decide⟩
  have hempty : Cell [] := ⟨by decide, by decide, by decide_cbv, by decide, rfl⟩
  have hcells : ∀ row ∈ letters, ∀ c ∈ row, Cell c := by
    simp [letters, hletter, hempty]
  have hwrap : (Options.of .standard).wordWrap = false := rfl
  obtain ⟨es, hrun⟩ := keeps_grid bareGallery (.of .standard) hne hcells hwrap (.start .empty)
  refine ⟨hpage, hne, hcells, hwrap, es, ?_⟩
  have hshown : ∀ width, cellOnPaper width ['α', '%']
      = cellText width (command "textgreek" [['α']] ++ "\\%".toList) := by
    intro width
    have htypeset : typeset (escape ['α', '%']) = command "textgreek" [['α']] ++ "\\%".toList := by
      decide +kernel
    rw [cellOnPaper, if_neg (by decide), htypeset]
  have hblank : ∀ width, cellOnPaper width [] = ['&'] := fun width => rfl
  rw [hrun, tableWith]
  simp only [letters, List.flatMap_cons, List.flatMap_nil, hshown, hblank, List.append_assoc,
    List.nil_append, List.append_nil, List.cons_append]

end Markup
end Bookpress
