import Bookpress.Proofs.Markup.Rounds
import Bookpress.Proofs.Markup.Rules
import Bookpress.Proofs.Text.Counting

/-!
# How deep cells stand in each other

Cells are translated like fragments of their own, and tags that are cut out of a text can make new
tags of cells come together.  What ends all the same is the closing brackets: no pass before the
cells writes more of them than it has read, and the tags of a cell hold two.

* `addsNo_of_mem_passes` : no pass before the cells makes closing brackets more frequent.
* `count_cell_le` : a cell has two closing brackets less than the text that it stands in.
* `rewriteWithin_of_lt` : beyond that depth a translation does not depend on the depth allowed.
* `descends` : the translation calls itself for cells, and never deeper than half the closing
  brackets of its text.
-/

namespace Bookpress
namespace Markup

open Text

/-- the passes over a text before its cells are looked for, in their order. -/
def passesBeforeCells (o : Options) : List (Text → Text) :=
  [List.filter fun c => c.toNat ≠ 0xFEFF, Rule.math.once mathText, Rule.bold.exhaust boldText,
    Rule.underline.exhaust underlineText, Rule.italic.exhaust italicText,
    Rule.lowered.once loweredText, Rule.raised.once raisedText,
    Rule.smallButton.once (framed "2pt"), Rule.button.once (framed "3pt"),
    Text.replace ['\n'] paragraph]
  ++ breakTags.map (fun tag => Text.replace tag paragraph)
  ++ [Rule.code.once codeText, Rule.courier.once fun s => verbatim s.inner, colors o.textColor,
    Rule.url.once linkText, Rule.quote.once quoteText]
  ++ listTags.map (fun x => Text.replace x.1 x.2)
  ++ [Rule.center.once Span.inner, Rule.left.once Span.inner, Rule.font.once Span.inner,
    Text.rewrite (Text.search readSize) fun _ => [], Text.replace "[/size]".toList [],
    Rule.table.once (tableText o.columnWidth)]

theorem beforeCells_eq (o : Options) (t : Text) :
    beforeCells o t = (passesBeforeCells o).foldl (fun t f => f t) t := by
  simp only [passesBeforeCells, List.foldl_append, List.foldl_map]
  rfl

/-! ## rules -/

section
variable {r : Rule} {render : Span → Text}

/-- a rule adds no closing bracket if it writes no more of them than the content of a span has. -/
theorem Rule.addsNo_once (ho : r.opening ≠ [])
    (h : ∀ s : Span, (r.takesParam = true → ']' ∉ s.param) →
      (render s).count ']' ≤ s.inner.count ']') : AddsNo ']' (r.once render) := by
  refine count_rewrite_le (shrinks_find ho) fun t x hx => ⟨r.write x.hit, find_eq_some hx, ?_⟩
  have hle := h x.hit fun hp => (param_of_find hp hx).2
  simp only [write, List.count_append]
  omega

theorem Rule.addsNo_exhaust (h : AddsNo ']' (r.once render)) :
    AddsNo ']' (r.exhaust render) := fun t =>
  exhaust_induction (motive := fun u => u.count ']' ≤ t.count ']')
    (fun u hu => Nat.le_trans (h u) hu) (Nat.le_refl _)

end

/-! ## what is written -/

section
variable {s : Span} {t : Text}

@[simp] theorem count_control (name : String) :
    (Tex.control name).count ']' = name.toList.count ']' := by
  simp [Tex.control]

@[simp] theorem count_group (t : Text) : (Tex.group t).count ']' = t.count ']' := by
  simp [Tex.group, List.count_append]

@[simp] theorem count_stop : Tex.stop.count ']' = 0 := rfl

theorem count_mathText (s : Span) : (mathText s).count ']' ≤ s.inner.count ']' := by
  have h := Tex.addsNo_unescape (c := ']') (by decide_cbv) s.inner
  simpa [mathText, List.count_append] using h

theorem count_framed {points : String} (hp : points.toList.count ']' = 0) (s : Span) :
    (framed points s).count ']' = s.inner.count ']' := by
  simp [framed, frameDistance, Tex.command_two, List.count_append, hp]

theorem count_codeText (s : Span) : (codeText s).count ']' ≤ s.inner.count ']' := by
  have h := addsNo_mapRuns_const (c := ']') (p := isLineEnd) (s := "\n\\\\".toList)
    (by decide_cbv) s.inner
  simpa [codeText, List.count_append] using h

theorem verbSign_ne_bracket (t : Text) : verbSign t ≠ ']' := by
  have hsigns : ']' ∉ verbSigns := by decide_cbv
  unfold verbSign
  cases hf : verbSigns.find? fun c => !t.contains c with
  | none => decide
  | some c =>
    rintro rfl
    exact hsigns (List.mem_of_find?_eq_some hf)

theorem count_verbatim (t : Text) : (verbatim t).count ']' ≤ t.count ']' := by
  have hcontent : (verbContent t).count ']' ≤ t.count ']' := by
    refine Nat.le_trans (addsNo_foldBlankRuns (by decide) _) (Nat.le_trans (addsNo_trim _) ?_)
    refine Nat.le_trans (addsNo_replace (by decide) (by decide) _) ?_
    refine Nat.le_trans (addsNo_replace (by decide_cbv) (by decide_cbv) _) ?_
    exact Tex.addsNo_unescape (by decide_cbv) t
  simpa [verbatim, List.count_append, verbSign_ne_bracket] using hcontent

/-- a link without a caption shows a parameter, which has no closing bracket. -/
theorem count_linkText (h : ']' ∉ s.param) : (linkText s).count ']' ≤ s.inner.count ']' := by
  have hparam : s.param.count ']' = 0 := List.count_eq_zero_of_not_mem h
  have htarget := Tex.addsNo_unescape (c := ']') (by decide_cbv) s.param
  have hcaption : (if s.inner = [] then s.param else s.inner).count ']' ≤ s.inner.count ']' := by
    split
    · omega
    · exact Nat.le_refl _
  have hfold := Nat.le_trans (addsNo_foldBlanks (c := ']') (by decide) _)
    (addsNo_trim (if s.inner = [] then s.param else s.inner))
  simp only [linkText, Tex.command_two, List.count_append, count_control, count_group]
  have hname : "href".toList.count ']' = 0 := by decide_cbv
  omega

theorem count_quoteText (s : Span) : (quoteText s).count ']' = s.inner.count ']' := by
  simp [quoteText, Tex.openEnv, Tex.closeEnv, List.count_append]

theorem count_textWidth (width : Float) : (textWidth width).count ']' = 0 := by
  refine List.count_eq_zero_of_not_mem fun h => ?_
  rcases List.mem_append.1 h with h | h
  · exact absurd (mem_lengthChars h) (by decide)
  · revert h
    decide_cbv

theorem count_tableText (width : Float) (s : Span) :
    (tableText width s).count ']' ≤ s.inner.count ']' := by
  unfold tableText
  split
  · exact Nat.zero_le _
  · simp [Tex.command, Tex.line, Tex.closeEnv, rowRule, paragraph, List.count_append,
      count_textWidth]

/-! ## colours and sizes -/

/-- the opening of a colour is read with its closing bracket. -/
theorem addsNo_color {opening : Text} {f : Text → Text}
    (h : ∀ name, (∀ c ∈ name, isWord c = true) → (f name).count ']' ≤ 1) :
    AddsNo ']' (Text.rewrite (Text.search (readColor opening)) f) := by
  refine addsNo_rewrite_search (takes_readColor opening) fun t name r hr => ?_
  obtain ⟨rfl, hword, -⟩ := readColor_eq_some hr
  refine ⟨opening ++ (name ++ [']']), by simp, ?_⟩
  have := h name hword
  simp only [List.count_append, List.count_singleton_self]
  omega

theorem count_eq_zero_of_isWord {name : Text} (h : ∀ c ∈ name, isWord c = true) :
    name.count ']' = 0 :=
  List.count_eq_zero_of_not_mem fun hm => by
    have := h _ hm
    revert this
    decide

theorem count_upper {name : Text} (h : ∀ c ∈ name, isWord c = true) :
    (upper name).count ']' = 0 := by
  refine List.count_eq_zero_of_not_mem fun hm => ?_
  obtain ⟨c, hc, hm⟩ := List.mem_flatMap.1 hm
  rcases isCapital_of_mem_upperChar hm with hcap | h0 | rfl
  · revert hcap
    decide
  · revert h0
    decide
  · have := h _ hc
    revert this
    decide

theorem addsNo_colors (isSet : Bool) : AddsNo ']' (colors isSet) := by
  have hend : AddsNo ']'
      (Text.replace "[/color]".toList (Tex.command "color" ["black".toList] ++ Tex.stop)) :=
    addsNo_replace (by decide_cbv) (by decide_cbv)
  cases isSet with
  | true =>
    refine hend.comp (AddsNo.comp (addsNo_color fun name hn => ?_) (addsNo_color fun name hn => ?_))
    · simp [List.count_append, count_eq_zero_of_isWord hn]
    · simp [Tex.commandWith, List.count_append, count_upper hn]
  | false =>
    refine hend.comp (addsNo_rewrite_search takes_readEither fun t name r hr => ?_)
    have hslanted : (Tex.control "it" ++ Tex.stop).count ']' = 0 := by decide_cbv
    rcases readEither_eq_some hr with h | h <;> obtain ⟨rfl, -, -⟩ := readColor_eq_some h
    · exact ⟨digitsOpening ++ (name ++ [']']), by simp, by omega⟩
    · exact ⟨colorOpening ++ (name ++ [']']), by simp, by omega⟩

theorem addsNo_sizes : AddsNo ']' (Text.rewrite (Text.search readSize) fun _ => []) := by
  refine addsNo_rewrite_search takes_readSize fun t a r hr => ?_
  obtain ⟨p, rfl, -⟩ := readSize_eq_some hr
  exact ⟨'[' :: ("size=".toList ++ (p ++ [']'])), by simp, Nat.zero_le _⟩

/-! ## the passes -/

theorem addsNo_of_mem_listTags : ∀ x ∈ listTags, AddsNo ']' (Text.replace x.1 x.2) := by
  have hne : ∀ x ∈ listTags, x.1 ≠ [] := by simp [listTags]
  -- the label of a list has a bracket, and so has its tag
  have hle : ∀ x ∈ listTags, x.2.count ']' ≤ x.1.count ']' := by
    simp [listTags, listOpening, Tex.openEnv, Tex.closeEnv]
  exact fun x hx => addsNo_replace (hne x hx) (hle x hx)

theorem addsNo_of_mem_breakTags : ∀ tag ∈ breakTags, AddsNo ']' (Text.replace tag paragraph) :=
  fun tag htag => addsNo_replace (ne_nil_of_mem_breakTags tag htag) (Nat.zero_le _)

/-- **No pass before the cells makes closing brackets more frequent.** -/
theorem addsNo_of_mem_passes (o : Options) : ∀ f ∈ passesBeforeCells o, AddsNo ']' f := by
  have hkeep {r : Rule} {render : Span → Text} (ho : r.opening ≠ [])
      (h : ∀ s : Span, (render s).count ']' = s.inner.count ']') : AddsNo ']' (r.once render) :=
    Rule.addsNo_once ho fun s _ => Nat.le_of_eq (h s)
  have hbold : ∀ s, (boldText s).count ']' = s.inner.count ']' := fun s => by
    simp [boldText, List.count_append]
  have hunderline : ∀ s, (underlineText s).count ']' = s.inner.count ']' := fun s => by
    simp [underlineText, List.count_append]
  have hitalic : ∀ s, (italicText s).count ']' = s.inner.count ']' := fun s => by
    simp [italicText, List.count_append]
  have hlowered : ∀ s, (loweredText s).count ']' = s.inner.count ']' := fun s => by
    simp [loweredText, List.count_append]
  have hraised : ∀ s, (raisedText s).count ']' = s.inner.count ']' := fun s => by
    simp [raisedText, List.count_append]
  simp only [passesBeforeCells, List.forall_mem_append, List.forall_mem_map, List.forall_mem_cons]
  refine ⟨⟨⟨⟨⟨addsNo_of_sublist fun _ => List.filter_sublist, ?math, ?bold, ?underline, ?italic,
    ?lowered, ?raised, ?smallButton, ?button, ?newline, ?_⟩, addsNo_of_mem_breakTags⟩,
    ?code, ?courier, addsNo_colors _, ?url, ?quote, ?_⟩, addsNo_of_mem_listTags⟩,
    ?center, ?left, ?font, addsNo_sizes, ?sizeEnd, ?table, ?_⟩
  case math => exact Rule.addsNo_once (by decide_cbv) fun s _ => count_mathText s
  case bold => exact Rule.addsNo_exhaust (hkeep (by decide_cbv) hbold)
  case underline => exact Rule.addsNo_exhaust (hkeep (by decide_cbv) hunderline)
  case italic => exact Rule.addsNo_exhaust (hkeep (by decide_cbv) hitalic)
  case lowered => exact hkeep (by decide_cbv) hlowered
  case raised => exact hkeep (by decide_cbv) hraised
  case smallButton => exact hkeep (by decide_cbv) (count_framed (by decide_cbv))
  case button => exact hkeep (by decide_cbv) (count_framed (by decide_cbv))
  case newline => exact addsNo_replace (by decide) (Nat.zero_le _)
  case code => exact Rule.addsNo_once (by decide_cbv) fun s _ => count_codeText s
  case courier => exact Rule.addsNo_once (by decide_cbv) fun s _ => count_verbatim s.inner
  case url => exact Rule.addsNo_once (by decide_cbv) fun s hs => count_linkText (hs rfl)
  case quote => exact hkeep (by decide_cbv) count_quoteText
  case center => exact hkeep (by decide_cbv) fun _ => rfl
  case left => exact hkeep (by decide_cbv) fun _ => rfl
  case font => exact hkeep (by decide_cbv) fun _ => rfl
  case sizeEnd => exact addsNo_replace (by decide_cbv) (Nat.zero_le _)
  case table => exact Rule.addsNo_once (by decide_cbv) fun s _ => count_tableText _ s
  all_goals exact fun _ h => absurd h List.not_mem_nil

theorem count_beforeCells_le (o : Options) : AddsNo ']' (beforeCells o) := fun t => by
  rw [beforeCells_eq]
  exact AddsNo.foldl (addsNo_of_mem_passes o) t

/-! ## cells -/

/-- what a rule finds stands in the text with its tags. -/
theorem Rule.count_write_le (r : Rule) (c : Char) {x : Text × Span} (h : x ∈ (r.spans t).1) :
    (r.write x.2).count c ≤ t.count c := by
  obtain ⟨xs, ys, hxs⟩ := List.append_of_mem h
  have hfill := congrArg (List.count c) (r.fill_write t)
  simp only [Text.fill, hxs, List.flatMap_append, List.flatMap_cons, List.count_append] at hfill
  omega

theorem count_cellContent (s : Span) : (cellContent s).count ']' ≤ s.inner.count ']' :=
  Nat.le_trans (addsNo_trim _) (Nat.le_trans (addsNo_mapRuns_const (by decide_cbv) _)
    (addsNo_trim _))

/-- **A cell has two closing brackets less than the text that it stands in.** -/
theorem count_cell_le (o : Options) {x : Text × Span}
    (h : x ∈ (Rule.cell.spans (beforeCells o t)).1) :
    (cellContent x.2).count ']' + 2 ≤ t.count ']' := by
  have hcontent := count_cellContent x.2
  have hwrite := Rule.cell.count_write_le ']' h
  have htags : (Rule.cell.write x.2).count ']' = 1 + (x.2.inner.count ']' + 1) := by
    have ho : Rule.cell.opening.count ']' = 1 := by decide_cbv
    have hc : Rule.cell.closing.count ']' = 1 := by decide_cbv
    have hp : Rule.cell.takesParam = false := rfl
    simp [Rule.write, List.count_append, ho, hc, hp]
  have hbefore := count_beforeCells_le o t
  omega

theorem count_le_of_mem_cells {o : Options} {u : Text} (h : u ∈ cells o t) :
    u.count ']' + 2 ≤ t.count ']' := by
  obtain ⟨x, hx, rfl⟩ := List.mem_map.1 h
  exact count_cell_le o (List.mem_filter.1 hx).1

/-- `u` is translated on its own, `n` cells deep, on the way of translating `t`. -/
inductive Nested (o : Options) : Nat → Text → Text → Prop
  | here (t : Text) : Nested o 0 t t
  | cell {n : Nat} {t u v : Text} : u ∈ cells o t → Nested o n u v → Nested o (n + 1) t v

theorem Nested.count_le {o : Options} {n : Nat} {t u : Text} (h : Nested o n t u) :
    u.count ']' + 2 * n ≤ t.count ']' := by
  induction h with
  | here t => exact Nat.le_refl _
  | cell hu _ ih =>
    have := count_le_of_mem_cells hu
    omega

/-! ## the depth that is allowed -/

variable {g : Gallery} {o : Options}

/-- only the cells with fewer closing brackets matter. -/
theorem fillM_cells {f h : Span → StateM Session Text}
    (hfh : ∀ c : Span, (cellContent c).count ']' + 2 ≤ t.count ']' → f c = h c) :
    Text.fillM f (Rule.cell.spans (beforeCells o t))
      = Text.fillM h (Rule.cell.spans (beforeCells o t)) :=
  Text.fillM_congr fun x hx => hfh x.2 (count_cell_le o hx)

/-- **Beyond that depth a translation does not depend on the depth allowed.** -/
theorem rewriteWithin_of_lt {a b : Nat} (ha : t.count ']' < 2 * a) (hb : t.count ']' < 2 * b) :
    rewriteWithin g o a t = rewriteWithin g o b t := by
  induction a generalizing b t with
  | zero => omega
  | succ a ih =>
    cases b with
    | zero => omega
    | succ b =>
      have hcells : Text.fillM (renderCell g o a) (Rule.cell.spans (beforeCells o t))
          = Text.fillM (renderCell g o b) (Rule.cell.spans (beforeCells o t)) := by
        refine fillM_cells fun c hc => ?_
        unfold renderCell
        rw [ih (b := b) (t := cellContent c) (by omega) (by omega)]
      rw [rewriteWithin_succ, rewriteWithin_succ, hcells]

/-- a translation calls itself for every cell. -/
theorem rewrite_eq (g : Gallery) (o : Options) (t : Text) :
    rewrite g o t = Text.fillM (fun c => if c.inner = [] then return ['&']
        else do return cellText o.columnWidth (← rewrite g o (cellContent c)))
      (Rule.cell.spans (beforeCells o t)) >>= fun t => pictures g o (Rule.row.once rowText t) := by
  have hcells : Text.fillM (renderCell g o (t.count ']' / 2)) (Rule.cell.spans (beforeCells o t))
      = Text.fillM (fun c => if c.inner = [] then return ['&']
          else do return cellText o.columnWidth (← rewrite g o (cellContent c)))
        (Rule.cell.spans (beforeCells o t)) := by
    refine fillM_cells fun c hc => ?_
    unfold renderCell rewrite
    rw [rewriteWithin_of_lt (b := cellDepth (cellContent c)) (by omega)
      (by unfold cellDepth; omega)]
  rw [rewrite, cellDepth, rewriteWithin_succ, hcells]

end

/-- how a translation goes into cells and comes to an end. -/
structure Descends (g : Gallery) (o : Options) : Prop where
  /-- what comes before the cells is these passes. -/
  passes (t : Text) : beforeCells o t = (passesBeforeCells o).foldl (fun t f => f t) t
  /-- none of them makes closing brackets more frequent. -/
  pass_le : ∀ f ∈ passesBeforeCells o, ∀ t, (f t).count ']' ≤ t.count ']'
  /-- a translation calls itself for the content of every cell that is not empty. -/
  calls (t : Text) : rewrite g o t =
    Text.fillM (fun c => if c.inner = [] then return ['&']
        else do return cellText o.columnWidth (← rewrite g o (cellContent c)))
      (Rule.cell.spans (beforeCells o t)) >>= fun t => pictures g o (Rule.row.once rowText t)
  /-- those contents have at least two closing brackets less. -/
  call_le (t : Text) : ∀ u ∈ cells o t, u.count ']' + 2 ≤ t.count ']'
  /-- no call is deeper than half the closing brackets of the text. -/
  depth_le (n : Nat) (t u : Text) : Nested o n t u → n ≤ t.count ']' / 2
  /-- escaping keeps the closing brackets of a text. -/
  escape_eq (t : Text) : (Tex.escape t).count ']' = t.count ']'

/-- **A translation comes to an end: it calls itself for cells only, and not deeper than half the
closing brackets of its text.** -/
theorem descends (g : Gallery) (o : Options) : Descends g o where
  passes := beforeCells_eq o
  pass_le := addsNo_of_mem_passes o
  calls := rewrite_eq g o
  call_le _ _ := count_le_of_mem_cells
  depth_le n t u h := by
    have := h.count_le
    omega
  escape_eq := Tex.count_escape (by decide_cbv) (by decide_cbv)

end Markup
end Bookpress
