import Bookpress.Proofs.Markup.Emphasis
import Mathlib.Data.List.Forall2

/-!
# Rules that work line by line

A rule that keeps its spans to one line does not look at one line only.  The bracket and the
closing tag that it needs may stand lines further on; there it refuses the opening tag and goes on,
where it would have given up on the line alone.  Both come to the same, since a search finds
the first start of a span, and whether a span starts at a place is seen on the line of that place.

* `Begins.of_after` : a span does not depend on what stands behind it.
* `starts_append_newline_iff` : a line end parts the starts of a text.
* `find_append_newline`, `once_append_newline` : so it parts what a search finds and a pass does.
* `ends_lines_iff` : passes over a text end where those over its lines end.
* `Emphasis.exhaust_lines` : passes over emphasis always end, so that it is rendered line by line.
* `applies_line_by_line` : one pass, some passes and all passes over a text are those over its
  lines.
-/

namespace Bookpress
namespace Markup
namespace Rule

/-- the rules whose spans stay on a line. -/
structure KeepsLine (r : Rule) : Prop where
  oneLine : r.oneLine = true
  bracket : r.opening.head? = some '['
  opening : '\n' ∉ r.opening
  closing : '\n' ∉ r.closing

/-- the texts of a renderer have no line feed, unless the span has one. -/
def AddsNoLine (render : Span → Text) : Prop :=
  ∀ s, '\n' ∉ s.param → '\n' ∉ s.inner → '\n' ∉ render s

/-- the passes over a text come to an end with another, in which there is nothing to find. -/
inductive Ends (r : Rule) (render : Span → Text) : Text → Text → Prop
  | rest {t : Text} (none : r.find t = none) : Ends r render t t
  | pass {t u : Text} (some : r.find t ≠ none) (more : Ends r render (r.once render t) u) :
      Ends r render t u

variable {r : Rule} {render : Span → Text} {l t u after : Text} {s : Span}

/-! ## a span and what stands behind it -/

/-- **A span does not depend on what stands behind it.** -/
theorem Begins.of_after (h : r.Begins t s after) (b : Text) : r.Begins (r.write s ++ b) s b := by
  refine ⟨rfl, h.param, fun u v huv => ?_, h.line⟩
  by_contra hlt
  rw [Nat.not_le] at hlt
  -- a closing tag before the end of the content ends before that of the span
  have hearlier : u ++ r.closing <+: s.inner ++ (r.closing ++ b) :=
    ⟨v, by rw [huv, List.append_assoc]⟩
  have hclosing : s.inner ++ r.closing <+: s.inner ++ (r.closing ++ b) :=
    ⟨b, by rw [List.append_assoc]⟩
  have hprefix : u ++ r.closing <+: s.inner ++ r.closing := by
    refine List.prefix_of_prefix_length_le hearlier hclosing ?_
    simp only [List.length_append]
    omega
  obtain ⟨w, hw⟩ := hprefix
  have hle := h.nearest u (w ++ after) (by
    rw [← List.append_assoc s.inner, ← hw]
    simp only [List.append_assoc])
  omega

theorem newline_not_mem_write (hr : r.KeepsLine) (h : r.Begins t s after) :
    '\n' ∉ r.write s := by
  obtain ⟨hparam, hinner⟩ := h.line hr.oneLine
  have hbracket : '\n' ∉ if r.takesParam then s.param ++ [']'] else [] := by
    split
    · simp [hparam]
    · exact List.not_mem_nil
  unfold write
  simp only [List.mem_append, not_or]
  exact ⟨hr.opening, by simpa [List.mem_append] using hbracket, hinner, hr.closing⟩

/-! ## a line end -/

/-- a span that begins before a line end ends before it. -/
theorem begins_append_newline_iff (hr : r.KeepsLine) :
    r.Begins (l ++ '\n' :: t) s after ↔ ∃ a, r.Begins l s a ∧ after = a ++ '\n' :: t := by
  constructor
  · intro h
    have hfront : r.write s <+: l ++ '\n' :: t := ⟨after, h.text.symm⟩
    obtain ⟨a, rfl⟩ := Text.prefix_of_prefix_append_cons (newline_not_mem_write hr h) hfront
    have htext := h.text
    rw [List.append_assoc, List.append_cancel_left_eq] at htext
    exact ⟨a, h.of_after a, htext.symm⟩
  · rintro ⟨a, h, rfl⟩
    have hlonger := h.of_after (a ++ '\n' :: t)
    rwa [← List.append_assoc, ← h.text] at hlonger

theorem starts_append_newline_iff (hr : r.KeepsLine) : r.Starts (l ++ '\n' :: t) ↔ r.Starts l := by
  constructor
  · rintro ⟨s, after, h⟩
    obtain ⟨a, ha, -⟩ := (begins_append_newline_iff hr).1 h
    exact ⟨s, a, ha⟩
  · rintro ⟨s, a, h⟩
    exact ⟨s, _, (begins_append_newline_iff hr).2 ⟨a, h, rfl⟩⟩

theorem drop_append_newline_of_le {j : Nat} (h : j ≤ l.length) :
    (l ++ '\n' :: t).drop j = l.drop j ++ '\n' :: t :=
  List.drop_append_of_le_length h

theorem drop_append_newline_add (j : Nat) :
    (l ++ '\n' :: t).drop (l.length + 1 + j) = t.drop j := by
  rw [Nat.add_assoc, List.drop_length_add_append, Nat.add_comm, List.drop_succ_cons]

/-- **A line end parts the starts of a text.** -/
theorem starts_drop_append_newline_iff (hr : r.KeepsLine) {j : Nat} :
    r.Starts ((l ++ '\n' :: t).drop j) ↔
      r.Starts (l.drop j) ∨ ∃ k, j = l.length + 1 + k ∧ r.Starts (t.drop k) := by
  have hnil := not_starts_nil (opening_ne_nil hr.bracket)
  rcases Nat.lt_or_ge l.length j with hlt | hle
  · obtain ⟨k, rfl⟩ := Nat.exists_eq_add_of_le (Nat.succ_le_of_lt hlt)
    have hbehind : l.drop (l.length.succ + k) = [] := List.drop_eq_nil_of_le (by omega)
    rw [hbehind, Nat.succ_eq_add_one, drop_append_newline_add]
    constructor
    · exact fun h => .inr ⟨k, rfl, h⟩
    · rintro (h | ⟨k', hk, h⟩)
      · exact absurd h hnil
      · obtain rfl : k = k' := by omega
        exact h
  · rw [drop_append_newline_of_le hle, starts_append_newline_iff hr]
    constructor
    · exact .inl
    · rintro (h | ⟨k, hk, -⟩)
      · exact h
      · omega

/-- **A search goes on behind a line end if there is nothing to find before it.** -/
theorem find_append_newline (hr : r.KeepsLine) (l t : Text) :
    r.find (l ++ '\n' :: t) = match r.find l with
      | some x => some ⟨x.before, x.hit, x.after ++ '\n' :: t⟩
      | none => (r.find t).map fun x => ⟨l ++ '\n' :: x.before, x.hit, x.after⟩ := by
  have hstarts := fun j => starts_drop_append_newline_iff hr (l := l) (t := t) (j := j)
  cases hx : r.find l with
  | some x =>
    obtain ⟨i, hbegins, hfirst, hbefore⟩ := (find_eq_some_iff hr.bracket).1 hx
    have hi : i ≤ l.length := by
      by_contra hgt
      rw [List.drop_eq_nil_of_le (by omega)] at hbegins
      exact not_starts_nil (opening_ne_nil hr.bracket) ⟨_, _, hbegins⟩
    refine (find_eq_some_iff hr.bracket).2 ⟨i, ?_, fun j hj hs => ?_, ?_⟩
    · rw [drop_append_newline_of_le hi]
      exact (begins_append_newline_iff hr).2 ⟨_, hbegins, rfl⟩
    · rcases (hstarts j).1 hs with hs | ⟨k, rfl, -⟩
      · exact hfirst j hj hs
      · omega
    · rw [List.take_append_of_le_length hi]
      exact hbefore
  | none =>
    have hl := (find_eq_none_iff hr.bracket).1 hx
    cases hy : r.find t with
    | none =>
      have ht := (find_eq_none_iff hr.bracket).1 hy
      refine (find_eq_none_iff hr.bracket).2 fun j hs => ?_
      rcases (hstarts j).1 hs with hs | ⟨k, -, hs⟩
      · exact hl j hs
      · exact ht k hs
    | some y =>
      obtain ⟨i, hbegins, hfirst, hbefore⟩ := (find_eq_some_iff hr.bracket).1 hy
      refine (find_eq_some_iff hr.bracket).2 ⟨l.length + 1 + i, ?_, fun j hj hs => ?_, ?_⟩
      · rw [drop_append_newline_add]
        exact hbegins
      · rcases (hstarts j).1 hs with hs | ⟨k, rfl, hk⟩
        · exact hl j hs
        · exact hfirst k (by omega) hk
      · rw [Nat.add_assoc, List.take_length_add_append, Nat.add_comm 1, List.take_succ_cons,
          ← hbefore]

/-! ## a pass -/

/-- **A line end parts what a pass does.** -/
theorem once_append_newline (hr : r.KeepsLine) (l t : Text) :
    r.once render (l ++ '\n' :: t) = r.once render l ++ '\n' :: r.once render t := by
  have ho := opening_ne_nil hr.bracket
  induction l using (shrinks_find ho).induction with
  | more l x hx ih =>
    rw [once_eq ho, once_eq ho render l, find_append_newline hr, hx]
    dsimp only
    rw [ih]
    simp only [List.append_assoc]
  | last l hx =>
    rw [once_eq ho, once_eq ho render l, find_append_newline hr, hx, once_eq ho render t]
    cases r.find t with
    | none => rfl
    | some y => simp only [Option.map_some, List.append_assoc, List.cons_append]

theorem newline_not_mem_once (hr : r.KeepsLine) (hrender : AddsNoLine render) (hl : '\n' ∉ l) :
    '\n' ∉ r.once render l := by
  have ho := opening_ne_nil hr.bracket
  induction l using (shrinks_find ho).induction with
  | last l hx =>
    rw [once_eq ho, hx]
    exact hl
  | more l x hx ih =>
    obtain ⟨hparam, hinner⟩ := (begins_of_find hr.bracket hx).1.line hr.oneLine
    rw [find_eq_some hx] at hl
    rw [once_eq ho, hx]
    simp only [List.mem_append, not_or] at hl ⊢
    exact ⟨hl.1, hrender _ hparam hinner, ih hl.2.2⟩

/-- **The lines of a pass over a text are the passes over its lines.** -/
theorem split_once (hr : r.KeepsLine) (hrender : AddsNoLine render) (t : Text) :
    Text.split '\n' (r.once render t) = (Text.split '\n' t).map (r.once render) := by
  induction t using Text.split_induction (c := '\n') with
  | last l hl =>
    rw [Text.split_of_not_mem hl, Text.split_of_not_mem (newline_not_mem_once hr hrender hl),
      List.map_singleton]
  | more l t hl ih =>
    rw [once_append_newline hr, Text.split_append_cons, Text.split_append_cons,
      Text.split_of_not_mem hl, Text.split_of_not_mem (newline_not_mem_once hr hrender hl), ih,
      List.map_append, List.map_singleton]

theorem find_eq_none_iff_lines (hr : r.KeepsLine) (t : Text) :
    r.find t = none ↔ ∀ l ∈ Text.split '\n' t, r.find l = none := by
  induction t using Text.split_induction (c := '\n') with
  | last l hl => rw [Text.split_of_not_mem hl, List.forall_mem_singleton]
  | more l t hl ih =>
    rw [Text.split_append_cons, Text.split_of_not_mem hl, List.singleton_append,
      List.forall_mem_cons, ← ih, find_append_newline hr]
    cases r.find l with
    | some x => simp
    | none => simp

/-! ## passes -/

/-- where there is nothing to find, further passes change nothing. -/
theorem iterate_once_of_none (ho : r.opening ≠ []) (h : r.find t = none) (n : Nat) :
    (r.once render)^[n] t = t :=
  Function.iterate_fixed (once_of_none ho h render) n

theorem passes_eq_iterate (ho : r.opening ≠ []) (n : Nat) (t : Text) :
    r.passes render n t = (r.once render)^[n] t := by
  induction n generalizing t with
  | zero => rfl
  | succ n ih =>
    unfold passes
    dsimp only
    split
    · rename_i h
      rw [iterate_once_of_none ho ((isEmpty_spans_iff ho).1 h)]
    · exact ih (r.once render t)

theorem passes_of_le (ho : r.opening ≠ []) {m n : Nat} (hle : m ≤ n)
    (h : r.find (r.passes render m t) = none) : r.passes render n t = r.passes render m t := by
  obtain ⟨k, rfl⟩ := Nat.exists_eq_add_of_le hle
  rw [passes_eq_iterate ho] at h
  rw [passes_eq_iterate ho, passes_eq_iterate ho, Nat.add_comm, Function.iterate_add_apply,
    iterate_once_of_none ho h]

/-- the passes end where enough of them leave nothing to find. -/
theorem ends_iff (ho : r.opening ≠ []) :
    r.Ends render t u ↔ ∃ n, r.passes render n t = u ∧ r.find u = none := by
  simp only [passes_eq_iterate ho]
  constructor
  · intro h
    induction h with
    | rest h => exact ⟨0, rfl, h⟩
    | pass _ _ ih =>
      obtain ⟨n, hn, hu⟩ := ih
      exact ⟨n + 1, hn, hu⟩
  · rintro ⟨n, rfl, h⟩
    induction n generalizing t with
    | zero => exact .rest h
    | succ n ih =>
      by_cases ht : r.find t = none
      · rw [iterate_once_of_none ho ht]
        exact .rest ht
      · exact .pass ht (ih h)

theorem split_passes (hr : r.KeepsLine) (hrender : AddsNoLine render) (n : Nat) (t : Text) :
    Text.split '\n' (r.passes render n t) = (Text.split '\n' t).map (r.passes render n) := by
  have ho := opening_ne_nil hr.bracket
  have hpasses : r.passes render n = (r.once render)^[n] := funext fun t =>
    passes_eq_iterate ho n t
  rw [hpasses]
  clear hpasses
  induction n with
  | zero => exact (List.map_id _).symm
  | succ n ih =>
    rw [Function.iterate_succ_apply', split_once hr hrender, ih, List.map_map]
    refine List.map_congr_left fun l _ => ?_
    exact (Function.iterate_succ_apply' _ n l).symm

/-- the passes over some lines end within a common number. -/
theorem exists_passes_of_forall (ho : r.opening ≠ []) {ls us : List Text}
    (h : List.Forall₂ (r.Ends render) ls us) :
    ∃ n, ls.map (r.passes render n) = us ∧ ∀ u ∈ us, r.find u = none := by
  suffices H : (∃ n, ∀ m, n ≤ m → ls.map (r.passes render m) = us) ∧ ∀ u ∈ us, r.find u = none by
    obtain ⟨⟨n, hn⟩, hus⟩ := H
    exact ⟨n, hn n (Nat.le_refl n), hus⟩
  induction h with
  | nil => exact ⟨⟨0, fun _ _ => rfl⟩, fun u hu => absurd hu List.not_mem_nil⟩
  | cons hl _ ih =>
    obtain ⟨a, rfl, hnone⟩ := (ends_iff ho).1 hl
    obtain ⟨⟨b, hb⟩, hus⟩ := ih
    refine ⟨⟨max a b, fun m hm => ?_⟩, List.forall_mem_cons.2 ⟨hnone, hus⟩⟩
    rw [List.map_cons, passes_of_le ho (le_trans (le_max_left a b) hm) hnone,
      hb m (le_trans (le_max_right a b) hm)]

/-- **The passes over a text end where the passes over its lines end.** -/
theorem ends_lines_iff (hr : r.KeepsLine) (hrender : AddsNoLine render) :
    r.Ends render t u ↔ ∃ us, List.Forall₂ (r.Ends render) (Text.split '\n' t) us ∧
      u = Text.join '\n' us := by
  have ho := opening_ne_nil hr.bracket
  constructor
  · intro h
    obtain ⟨n, rfl, hnone⟩ := (ends_iff ho).1 h
    have hlines := (find_eq_none_iff_lines hr _).1 hnone
    refine ⟨_, ?_, (Text.join_split '\n' _).symm⟩
    rw [split_passes hr hrender, List.forall₂_map_right_iff, List.forall₂_same]
    intro l hl
    refine (ends_iff ho).2 ⟨n, rfl, hlines _ ?_⟩
    rw [split_passes hr hrender]
    exact List.mem_map_of_mem hl
  · rintro ⟨us, h, rfl⟩
    obtain ⟨n, hn, hnone⟩ := exists_passes_of_forall ho h
    have hsplit : Text.split '\n' (r.passes render n t) = us := by
      rw [split_passes hr hrender, hn]
    have hjoin : r.passes render n t = Text.join '\n' us := by
      rw [← hsplit, Text.join_split]
    rw [← hsplit] at hnone
    rw [← hjoin]
    exact (ends_iff ho).2 ⟨n, rfl, (find_eq_none_iff_lines hr _).2 hnone⟩

/-- the passes over a text end with one text only. -/
theorem Ends.unique {u' : Text} (h : r.Ends render t u) (h' : r.Ends render t u') : u = u' := by
  induction h with
  | rest hnone =>
    cases h' with
    | rest => rfl
    | pass hsome => exact absurd hnone hsome
  | pass hsome _ ih =>
    cases h' with
    | rest hnone => exact absurd hnone hsome
    | pass _ hmore => exact ih hmore

/-- the passes within the length of a text are enough for it if they are for its lines. -/
theorem exhaust_lines (hr : r.KeepsLine) (hrender : AddsNoLine render)
    (h : ∀ l ∈ Text.split '\n' t, r.find (r.exhaust render l) = none) :
    r.exhaust render t = Text.join '\n' ((Text.split '\n' t).map (r.exhaust render)) := by
  have hlines : (Text.split '\n' t).map (r.passes render (t.length + 1))
      = (Text.split '\n' t).map (r.exhaust render) := by
    refine List.map_congr_left fun l hl => ?_
    have hlen := Text.length_le_of_mem_split hl
    exact passes_of_le (opening_ne_nil hr.bracket) (by omega) (h l hl)
  rw [← hlines, ← split_passes hr hrender, Text.join_split, exhaust]

end Rule

namespace Emphasis

variable (k : Emphasis)

theorem keepsLine_rule : k.rule.KeepsLine where
  oneLine := oneLine_eq
  bracket := head?_opening
  opening := by cases k <;> decide_cbv
  closing := by cases k <;> decide_cbv

theorem addsNoLine_render : Rule.AddsNoLine k.render := by
  intro s _ hinner
  have hopener : '\n' ∉ k.opener := by cases k <;> decide_cbv
  rw [render_eq]
  simp only [List.mem_append, List.mem_singleton, not_or]
  exact ⟨hopener, hinner, by decide⟩

theorem find_exhaust (t : Text) : k.rule.find (k.rule.exhaust k.render t) = none := by
  obtain ⟨n, -, hnone, hn⟩ := exists_passes k t
  rw [hn]
  exact hnone

/-- **Emphasis is rendered line by line.** -/
theorem exhaust_lines (t : Text) :
    k.rule.exhaust k.render t
      = Text.join '\n' ((Text.split '\n' t).map (k.rule.exhaust k.render)) :=
  Rule.exhaust_lines k.keepsLine_rule k.addsNoLine_render fun l _ => k.find_exhaust l

end Emphasis

namespace Rule

variable {r : Rule} {render : Span → Text}

/-- **A rule that keeps to a line works line by line.**  One pass over a text gives the passes over
its lines, with line feeds between them, and so do any number of passes.  Repeated until there is
nothing left to find, the passes over a text come to an end exactly if those over each of its lines
do, and leave what they leave of the lines. -/
theorem applies_line_by_line (hr : r.KeepsLine) (hrender : AddsNoLine render) (t : Text) :
    r.once render t = Text.join '\n' ((Text.split '\n' t).map (r.once render)) ∧
    (∀ n, r.passes render n t = Text.join '\n' ((Text.split '\n' t).map (r.passes render n))) ∧
    (∀ u, r.Ends render t u ↔ ∃ us, List.Forall₂ (r.Ends render) (Text.split '\n' t) us ∧
      u = Text.join '\n' us) ∧
    ((∀ l ∈ Text.split '\n' t, r.find (r.exhaust render l) = none) →
      r.exhaust render t = Text.join '\n' ((Text.split '\n' t).map (r.exhaust render)) ∧
        r.Ends render t (r.exhaust render t)) := by
  refine ⟨?_, fun n => ?_, fun u => ends_lines_iff hr hrender, fun h => ?_⟩
  · rw [← split_once hr hrender, Text.join_split]
  · rw [← split_passes hr hrender, Text.join_split]
  · have hall := exhaust_lines hr hrender h
    refine ⟨hall, (ends_lines_iff hr hrender).2 ⟨_, ?_, hall⟩⟩
    rw [List.forall₂_map_right_iff, List.forall₂_same]
    exact fun l hl => (ends_iff (opening_ne_nil hr.bracket)).2 ⟨_, rfl, h l hl⟩

/-- bold text whose tags stand on two lines is left alone; a tag behind it is rendered. -/
theorem applies_line_by_line_bold :
    Rule.bold.KeepsLine ∧ AddsNoLine boldText ∧
      (∀ l ∈ Text.split '\n' "[b]a\nb[/b] [b]c[/b]".toList,
        Rule.bold.find (Rule.bold.exhaust boldText l) = none) ∧
      Rule.bold.exhaust boldText "[b]a\nb[/b] [b]c[/b]".toList
        = "[b]a".toList ++ '\n' :: ("b[/b] ".toList ++ boldText ⟨[], ['c']⟩) := by
  have hr : Rule.bold.KeepsLine := Emphasis.bold.keepsLine_rule
  have hrender : AddsNoLine boldText := Emphasis.bold.addsNoLine_render
  have hends : ∀ l ∈ Text.split '\n' "[b]a\nb[/b] [b]c[/b]".toList,
      Rule.bold.find (Rule.bold.exhaust boldText l) = none := fun l _ =>
    Emphasis.bold.find_exhaust l
  refine ⟨hr, hrender, hends, ?_⟩
  have hlines := ((applies_line_by_line hr hrender "[b]a\nb[/b] [b]c[/b]".toList).2.2.2 hends).1
  rw [hlines]
  decide +kernel

end Rule

end Markup
end Bookpress
