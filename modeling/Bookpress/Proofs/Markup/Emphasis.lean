import Bookpress.Proofs.Markup.Marks
import Bookpress.Proofs.Text.Splitting
import Mathlib.Data.List.Infix
import Mathlib.Logic.Relation

/-!
# Nested emphasis

A pass over the tags of an emphasis pairs an opening tag with the nearest closing tag, which is not
its partner if tags are nested.  Only the passes together are right.  A pass is a sequence of
steps that render one pair each, with nothing but opening tags between the two, and a step changes
neither what the text becomes once all tags are rendered nor the level behind the text.

* `marks_step` : a step takes an opening tag and a later closing tag out of the list of tags.
* `rendered_step`, `walk_step` : what a step keeps.
* `steps_pass`, `count_pass_lt` : a pass is made of steps, so that passes come to an end.
* `walk_of_nested` : tags that are nested on every line lead back to the ground.
* `exhausts_emphasis` : the passes end with no span left, and nested tags are all rendered.
-/

namespace Bookpress

namespace Text

/-- how often a text stands in another. -/
def tally (p : Text) : Text → Nat
  | [] => 0
  | c :: t => (if (strip? p (c :: t)).isSome then 1 else 0) + tally p t

end Text

namespace Markup
namespace Emphasis

variable (k : Emphasis)

/-- one pass over the tags. -/
def pass (t : Text) : Text := k.rule.once k.render t

/-- the text with every tag rendered. -/
def rendered (t : Text) : Text :=
  Text.replace k.rule.closing ['}'] (Text.replace k.rule.opening k.opener t)

/-- on every line, no front has more closing tags than opening ones, and the line has as many. -/
def Nested (t : Text) : Prop :=
  ∀ l ∈ Text.split '\n' t,
    (∀ u, u <+: l → Text.tally k.rule.closing u ≤ Text.tally k.rule.opening u) ∧
      Text.tally k.rule.closing l = Text.tally k.rule.opening l

instance (t : Text) : Decidable (k.Nested t) :=
  decidable_of_iff (∀ l ∈ Text.split '\n' t,
    (∀ u ∈ l.inits, Text.tally k.rule.closing u ≤ Text.tally k.rule.opening u) ∧
      Text.tally k.rule.closing l = Text.tally k.rule.opening l)
    (by simp only [Nested, List.mem_inits])

variable {k} {t t' u v : Text}

/-! ## steps -/

/-- a pair of tags is rendered, with neither a closing tag nor a line end between them. -/
inductive Step (k : Emphasis) : Text → Text → Prop
  | pair (gap inner after : Text) (near : ∀ u v, inner ≠ u ++ (k.rule.closing ++ v))
      (line : '\n' ∉ inner) :
      Step k (gap ++ (k.rule.opening ++ (inner ++ (k.rule.closing ++ after))))
        (gap ++ (k.opener ++ (inner ++ '}' :: after)))

theorem Step.append (h : k.Step t t') (u : Text) : k.Step (u ++ t) (u ++ t') := by
  obtain ⟨gap, inner, after, hnear, hline⟩ := h
  rw [← List.append_assoc, ← List.append_assoc u gap]
  exact .pair (u ++ gap) inner after hnear hline

theorem steps_append (h : Relation.ReflTransGen k.Step t t') (u : Text) :
    Relation.ReflTransGen k.Step (u ++ t) (u ++ t') := by
  induction h with
  | refl => exact .refl
  | tail _ hstep ih => exact ih.tail (hstep.append u)

theorem marks_append_opening (u v : Text) :
    k.marks (u ++ (k.rule.opening ++ v)) = k.marks u ++ .opening :: k.marks v := by
  have hcut := marks_append fronts_bracket (k := k) u (k.letter :: ']' :: v)
  rw [← marks_opening, opening_eq]
  exact hcut

theorem marks_append_closing (u v : Text) :
    k.marks (u ++ (k.rule.closing ++ v)) = k.marks u ++ .closing :: k.marks v := by
  have hcut := marks_append fronts_bracket (k := k) u ('/' :: k.letter :: ']' :: v)
  rw [← marks_closing, closing_eq]
  exact hcut

theorem marks_append_opener (u v : Text) :
    k.marks (u ++ (k.opener ++ v)) = k.marks u ++ k.marks v := by
  obtain ⟨d, q, hq, hd⟩ := exists_opener (k := k)
  rw [← marks_append_of_not_mem not_mem_opener v, hq, List.cons_append, marks_append hd]

theorem marks_append_brace (u v : Text) : k.marks (u ++ '}' :: v) = k.marks u ++ k.marks v := by
  rw [marks_append fronts_brace, marks_cons, mark?_of_ne (by decide)]
  rfl

/-- a text with neither closing tags nor line ends has opening tags only. -/
theorem eq_opening_of_mem_marks (hnear : ∀ u v, t ≠ u ++ (k.rule.closing ++ v))
    (hline : '\n' ∉ t) : ∀ m ∈ k.marks t, m = .opening := by
  intro m hm
  cases m with
  | opening => rfl
  | closing =>
    obtain ⟨u, v, ht, hv⟩ := exists_of_mem_marks hm
    obtain ⟨w, hw⟩ := exists_of_mark?_closing hv
    exact absurd (by rw [ht, hw]) (hnear u w)
  | lineEnd => exact absurd (lineEnd_mem_marks_iff.1 hm) hline

/-- **A step takes a pair of tags out of the list of tags.** -/
theorem marks_step (h : k.Step t t') : ∃ as bs cs,
    k.marks t = as ++ .opening :: (bs ++ .closing :: cs) ∧ k.marks t' = as ++ (bs ++ cs) ∧
      ∀ m ∈ bs, m = .opening := by
  obtain ⟨gap, inner, after, hnear, hline⟩ := h
  refine ⟨k.marks gap, k.marks inner, k.marks after, ?_, ?_, eq_opening_of_mem_marks hnear hline⟩
  · rw [marks_append_opening, marks_append_closing]
  · rw [marks_append_opener, marks_append_brace]

/-- **A step keeps the level behind the text.** -/
theorem walk_step (h : k.Step t t') (n : Nat) : walk n (k.marks t') = walk n (k.marks t) := by
  obtain ⟨as, bs, cs, ht, ht', hbs⟩ := marks_step h
  rw [ht, ht', walk_pair hbs]

theorem count_step (h : k.Step t t') :
    (k.marks t).count .opening = (k.marks t').count .opening + 1 := by
  obtain ⟨as, bs, cs, ht, ht', -⟩ := marks_step h
  have hne : Mark.closing ≠ .opening := by decide
  rw [ht, ht', List.count_append, List.count_append, List.count_cons_self, List.count_append,
    List.count_append, List.count_cons_of_ne hne]
  omega

/-! ### all tags rendered -/

theorem closing_ne_nil : k.rule.closing ≠ [] := by
  rw [closing_eq]
  exact List.cons_ne_nil _ _

theorem replace_opening_append (s u v : Text) :
    Text.replace k.rule.opening s (u ++ (k.rule.opening ++ v))
      = Text.replace k.rule.opening s u ++ (s ++ Text.replace k.rule.opening s v) := by
  rw [← Text.replace_append (Rule.opening_ne_nil head?_opening), opening_eq]
  exact Text.replace_append_front (by cases k <;> decide) s u _

theorem replace_closing_append (s u v : Text) :
    Text.replace k.rule.closing s (u ++ (k.rule.closing ++ v))
      = Text.replace k.rule.closing s u ++ (s ++ Text.replace k.rule.closing s v) := by
  rw [← Text.replace_append closing_ne_nil, closing_eq]
  exact Text.replace_append_front (by cases k <;> decide) s u _

theorem replace_opening_closing (s u v : Text) :
    Text.replace k.rule.opening s (u ++ (k.rule.closing ++ v))
      = Text.replace k.rule.opening s u ++ (k.rule.closing ++ Text.replace k.rule.opening s v) := by
  have hnot := strip?_opening_closing (k := k) v
  have hrest : '[' ∉ ['/', k.letter, ']'] := by cases k <;> decide
  have hfront : '[' ∉ [k.letter, ']'] := by cases k <;> decide
  rw [opening_eq, closing_eq] at hnot ⊢
  rw [List.cons_append] at hnot ⊢
  rw [Text.replace_append_front hfront, Text.replace_cons_of_not (List.cons_ne_nil _ _) s hnot,
    Text.replace_append_of_not_mem s hrest]
  rfl

theorem replace_opening_opener (s u v : Text) :
    Text.replace k.rule.opening s (u ++ (k.opener ++ v))
      = Text.replace k.rule.opening s u ++ (k.opener ++ Text.replace k.rule.opening s v) := by
  obtain ⟨d, q, hq, hd⟩ := exists_opener (k := k)
  simp only [Fronts, List.mem_cons, not_or] at hd
  have hcut : d ∉ [k.letter, ']'] := by simp [hd]
  rw [opening_eq, ← Text.replace_append_of_not_mem s not_mem_opener.1, hq, List.cons_append,
    Text.replace_append_front hcut]

/-- **A step does not change what the text is with all tags rendered.** -/
theorem rendered_step (h : k.Step t t') : k.rendered t' = k.rendered t := by
  obtain ⟨gap, inner, after, -, -⟩ := h
  have hbrace : '}' ∉ k.rule.opening ∧ '}' ∉ k.rule.closing := by
    rw [opening_eq, closing_eq]
    cases k <;> decide
  unfold rendered
  rw [replace_opening_opener,
    Text.replace_append_cons (Rule.opening_ne_nil head?_opening) _ hbrace.1,
    replace_opening_append, replace_opening_closing]
  simp only [← List.append_assoc]
  rw [Text.replace_append_cons closing_ne_nil _ hbrace.2]
  rw [List.append_assoc _ k.rule.closing, replace_closing_append]
  rfl

theorem rendered_of_marks (h : ∀ m ∈ k.marks t, m = .lineEnd) : k.rendered t = t := by
  have hopening : ∀ u v, t ≠ u ++ (k.rule.opening ++ v) := by
    rintro u v rfl
    rw [marks_append_opening] at h
    exact Mark.noConfusion (h .opening (by simp))
  have hclosing : ∀ u v, t ≠ u ++ (k.rule.closing ++ v) := by
    rintro u v rfl
    rw [marks_append_closing] at h
    exact Mark.noConfusion (h .closing (by simp))
  rw [rendered, Text.replace_of_lone (Rule.opening_ne_nil head?_opening) hopening,
    Text.replace_of_lone closing_ne_nil hclosing]

/-! ## passes -/

theorem step_of_find {x : Text.Cut Span} (h : k.rule.find t = some x) :
    k.Step t (x.before ++ (k.render x.hit ++ x.after)) := by
  have hbegins := (Rule.begins_of_find head?_opening h).1
  have htext := Rule.find_eq_some h
  have hwrite : k.rule.write x.hit = k.rule.opening ++ (x.hit.inner ++ k.rule.closing) := by
    simp [Rule.write, takesParam_eq]
  rw [hwrite] at htext
  simp only [List.append_assoc] at htext
  rw [render_eq]
  simp only [List.append_assoc, List.singleton_append]
  have hstep : k.Step _ _ := .pair x.before x.hit.inner x.after ?_ (hbegins.line oneLine_eq).2
  · rwa [← htext] at hstep
  · -- the content ends at the nearest closing tag
    intro u v hu
    have hle := hbegins.nearest u (v ++ (k.rule.closing ++ x.after)) (by
      rw [hu]
      simp only [List.append_assoc])
    have hpos := List.length_pos_iff.2 (closing_ne_nil (k := k))
    rw [hu] at hle
    simp only [List.length_append] at hle
    omega

/-- **A pass is a sequence of steps.** -/
theorem steps_pass (t : Text) : Relation.ReflTransGen k.Step t (k.pass t) := by
  have ho := Rule.opening_ne_nil (head?_opening (k := k))
  induction t using (Rule.shrinks_find ho).induction with
  | last t hx =>
    have hsame : k.pass t = t := by
      unfold pass
      rw [Rule.once_eq ho, hx]
    rw [hsame]
  | more t x hx ih =>
    have hrest := steps_append ih (x.before ++ k.render x.hit)
    rw [List.append_assoc, List.append_assoc] at hrest
    unfold pass
    rw [Rule.once_eq ho, hx]
    exact .head (step_of_find hx) hrest

theorem count_steps_le (h : Relation.ReflTransGen k.Step t t') :
    (k.marks t').count .opening ≤ (k.marks t).count .opening := by
  induction h with
  | refl => exact Nat.le_refl _
  | tail _ hstep ih =>
    have := count_step hstep
    omega

/-- **A pass that finds a span leaves fewer opening tags.** -/
theorem count_pass_lt (h : k.rule.find t ≠ none) :
    (k.marks (k.pass t)).count .opening < (k.marks t).count .opening := by
  obtain ⟨x, hx⟩ := Option.ne_none_iff_exists'.1 h
  have hfirst := count_step (step_of_find hx)
  have hle := count_steps_le (steps_append (steps_pass (k := k) x.after)
    (x.before ++ k.render x.hit))
  have hpass : k.pass t = (x.before ++ k.render x.hit) ++ k.pass x.after := by
    unfold pass
    rw [Rule.once_eq (Rule.opening_ne_nil head?_opening), hx, List.append_assoc]
  rw [← hpass, List.append_assoc] at hle
  omega

theorem count_marks_le (t : Text) : (k.marks t).count .opening ≤ t.length := by
  induction t with
  | nil => exact Nat.le_refl _
  | cons c t ih =>
    rw [marks_cons, List.count_append, List.length_cons]
    have hone : (k.mark? (c :: t)).toList.count .opening ≤ 1 := by
      refine List.count_le_length.trans ?_
      cases k.mark? (c :: t) <;> simp
    omega

theorem exists_passes (k : Emphasis) (t : Text) :
    ∃ n, (∀ m, m < n → k.rule.find (k.pass^[m] t) ≠ none) ∧ k.rule.find (k.pass^[n] t) = none ∧
      k.rule.exhaust k.render t = k.pass^[n] t :=
  Rule.exists_iterate (f := fun t => (k.marks t).count .opening)
    (Rule.opening_ne_nil head?_opening) (fun _ h => count_pass_lt h)
    (Nat.lt_succ_of_le (count_marks_le t))

theorem walk_steps (h : Relation.ReflTransGen k.Step t t') (n : Nat) :
    walk n (k.marks t') = walk n (k.marks t) := by
  induction h with
  | refl => rfl
  | tail _ hstep ih => rw [walk_step hstep, ih]

theorem rendered_steps (h : Relation.ReflTransGen k.Step t t') : k.rendered t' = k.rendered t := by
  induction h with
  | refl => rfl
  | tail _ hstep ih => rw [rendered_step hstep, ih]

theorem steps_iterate (n : Nat) (t : Text) : Relation.ReflTransGen k.Step t (k.pass^[n] t) := by
  induction n generalizing t with
  | zero => exact .refl
  | succ n ih => exact (steps_pass t).trans (ih (k.pass t))

/-! ## nested tags -/

theorem count_marks_opening (t : Text) :
    (k.marks t).count .opening = Text.tally k.rule.opening t := by
  induction t with
  | nil => rfl
  | cons c t ih =>
    rw [marks_cons, List.count_append, ih, Text.tally, mark?]
    congr 1
    split <;> [skip; split <;> [skip; split]] <;> simp [*]

theorem count_marks_closing (t : Text) :
    (k.marks t).count .closing = Text.tally k.rule.closing t := by
  induction t with
  | nil => rfl
  | cons c t ih =>
    have hone : (Text.strip? k.rule.opening (c :: t)).isSome = true →
        (Text.strip? k.rule.closing (c :: t)).isSome = false := by
      intro ho
      obtain ⟨v, hv⟩ := Option.isSome_iff_exists.1 ho
      cases hc : Text.strip? k.rule.closing (c :: t) with
      | none => rfl
      | some w =>
        rw [Text.strip?_eq_some.1 hc, strip?_opening_closing] at hv
        cases hv
    rw [marks_cons, List.count_append, ih, Text.tally, mark?]
    congr 1
    split
    · rename_i ho
      rw [hone ho]
      rfl
    · split <;> [skip; split] <;> simp [*]

/-- a list of tags none of whose fronts has more closing than opening ones leads up by what the
opening ones are more. -/
theorem walk_eq_some {n : Nat} {ms : List Mark} (hline : .lineEnd ∉ ms)
    (h : ∀ as bs, ms = as ++ .closing :: bs → as.count .closing < n + as.count .opening) :
    walk n ms = some (n + ms.count .opening - ms.count .closing) := by
  have hne : Mark.closing ≠ .opening := by decide
  induction ms generalizing n with
  | nil => rfl
  | cons m ms ih =>
    rw [List.mem_cons, not_or] at hline
    cases m with
    | opening =>
      rw [walk, ih hline.2, List.count_cons_self, List.count_cons_of_ne hne.symm]
      · congr 1
        omega
      · rintro as bs rfl
        have hlt := h (.opening :: as) bs rfl
        rw [List.count_cons_self, List.count_cons_of_ne hne.symm] at hlt
        omega
    | closing =>
      have hpos := h [] ms rfl
      rw [List.count_nil, List.count_nil, Nat.add_zero] at hpos
      obtain ⟨n, rfl⟩ := Nat.exists_eq_add_of_lt hpos
      rw [Nat.zero_add, walk, ih hline.2, List.count_cons_self, List.count_cons_of_ne hne]
      · congr 1
        omega
      · rintro as bs rfl
        have hlt := h (.closing :: as) bs rfl
        rw [List.count_cons_self, List.count_cons_of_ne hne] at hlt
        omega
    | lineEnd => exact absurd rfl hline.1

/-- a line whose tags are balanced leads back to the ground. -/
theorem walk_line {l : Text} (hl : '\n' ∉ l)
    (hfront : ∀ u, u <+: l → Text.tally k.rule.closing u ≤ Text.tally k.rule.opening u)
    (htotal : Text.tally k.rule.closing l = Text.tally k.rule.opening l) :
    walk 0 (k.marks l) = some 0 := by
  rw [walk_eq_some (fun hm => hl (lineEnd_mem_marks_iff.1 hm)), count_marks_opening,
    count_marks_closing, htotal, Nat.zero_add, Nat.sub_self]
  intro as bs h
  -- the front that ends with the closing tag
  obtain ⟨u, v, rfl, rfl, hv, -⟩ := exists_of_marks h
  obtain ⟨w, rfl⟩ := exists_of_mark?_closing hv
  have hle := hfront (u ++ (k.rule.closing ++ [])) ⟨w, by simp⟩
  have hne : Mark.closing ≠ .opening := by decide
  rw [← count_marks_opening, ← count_marks_closing, marks_append_closing, List.count_append,
    List.count_append, List.count_cons_self, List.count_cons_of_ne hne, marks, List.count_nil,
    List.count_nil] at hle
  omega

theorem walk_of_nested (h : k.Nested t) : walk 0 (k.marks t) = some 0 := by
  induction t using Text.split_induction (c := '\n') with
  | last l hl =>
    unfold Nested at h
    rw [Text.split_of_not_mem hl, List.forall_mem_singleton] at h
    exact walk_line hl h.1 h.2
  | more l t hl ih =>
    unfold Nested at h
    rw [Text.split_append_cons, Text.split_of_not_mem hl, List.singleton_append,
      List.forall_mem_cons] at h
    rw [marks_append fronts_lineEnd, walk_append, walk_line hl h.1.1 h.1.2]
    have hmark : k.marks ('\n' :: t) = .lineEnd :: k.marks t := by
      rw [marks_cons, mark?, opening_eq, closing_eq, Text.strip?_cons_cons_of_ne (by decide),
        Text.strip?_cons_cons_of_ne (by decide)]
      rfl
    rw [hmark]
    exact ih h.2

/-- **Where the levels end on the ground and no span is left, no tag is left.** -/
theorem eq_lineEnd_of_find (hw : walk 0 (k.marks t) = some 0) (hx : k.rule.find t = none) :
    ∀ m ∈ k.marks t, m = .lineEnd := by
  rcases exists_adjacent hw with ⟨-, hall⟩ | ⟨hpos, -⟩ | ⟨as, bs, hpair⟩
  · exact hall
  · exact absurd hpos (Nat.lt_irrefl 0)
  · obtain ⟨u, v, rfl, -, hv, hmarks⟩ := exists_of_marks hpair
    obtain ⟨w, rfl⟩ := exists_of_mark?_opening hv
    rw [marks_opening, List.cons.injEq] at hmarks
    obtain ⟨inner, v', rfl, hinner, hv', -⟩ := exists_of_marks (a := []) hmarks.2
    obtain ⟨after, rfl⟩ := exists_of_mark?_closing hv'
    have hline : '\n' ∉ inner := by
      rw [← lineEnd_mem_marks_iff (k := k), hinner]
      exact List.not_mem_nil
    have hstart := Rule.starts_of_closing (takesParam_eq (k := k)) hline after
    refine absurd ?_ (Rule.not_starts_of_find head?_opening hx u.length)
    rw [List.drop_left' rfl]
    exact hstart

/-- **Emphasis is rendered to the end.**  The passes over the tags of an emphasis come to an end,
and what they leave has no span any more.  If the tags are nested on every line, then every tag is
rendered, whatever other markup stands between them, and nothing else changes. -/
theorem exhausts_emphasis (k : Emphasis) (t : Text) :
    (∃ n, (∀ m, m < n → k.rule.find (k.pass^[m] t) ≠ none) ∧
      k.rule.exhaust k.render t = k.pass^[n] t) ∧
    k.rule.find (k.rule.exhaust k.render t) = none ∧
    (∀ j, ¬k.rule.Starts ((k.rule.exhaust k.render t).drop j)) ∧
    (k.Nested t → k.rule.exhaust k.render t = k.rendered t) := by
  obtain ⟨n, hsome, hnone, hn⟩ := exists_passes k t
  rw [← hn] at hnone
  refine ⟨⟨n, hsome, hn⟩, hnone, Rule.not_starts_of_find head?_opening hnone, fun h => ?_⟩
  have hsteps := steps_iterate (k := k) n t
  rw [← hn] at hsteps
  have hwalk : walk 0 (k.marks (k.rule.exhaust k.render t)) = some 0 := by
    rw [walk_steps hsteps, walk_of_nested h]
  have hlines := eq_lineEnd_of_find hwalk hnone
  rw [← rendered_steps hsteps, rendered_of_marks hlines]

/-- tags that are nested, and that cross tags of another kind. -/
theorem exhausts_emphasis_crossing :
    Emphasis.bold.Nested "[b]x[i][b]y[/b]z[/b][/i]".toList ∧
      Rule.bold.exhaust boldText "[b]x[i][b]y[/b]z[/b][/i]".toList
        = bold.opener ++ ("x[i]".toList ++ (bold.opener ++ "y\x7dz\x7d[/i]".toList)) := by
  have hnested : Emphasis.bold.Nested "[b]x[i][b]y[/b]z[/b][/i]".toList := by decide +kernel
  refine ⟨hnested, ?_⟩
  have hall := (exhausts_emphasis .bold "[b]x[i][b]y[/b]z[/b][/i]".toList).2.2.2 hnested
  have hrendered : bold.rendered "[b]x[i][b]y[/b]z[/b][/i]".toList
      = bold.opener ++ ("x[i]".toList ++ (bold.opener ++ "y\x7dz\x7d[/i]".toList)) := by
    decide +kernel
  exact hall.trans hrendered

end Emphasis
end Markup
end Bookpress
