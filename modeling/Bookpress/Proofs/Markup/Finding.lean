import Bookpress.Proofs.Markup.Spans

/-!
# The leftmost span

What a rule finds is described without the search: a span begins a text if its opening tag stands
there, the parameter is what stands before the first bracket and is not empty, the content ends
at the nearest closing tag, and neither runs over a line end that the rule forbids.

The search gives up where a bracket or a closing tag is missing, and goes on one byte behind an
opening that it refuses.  It loses nothing by either: what is missing behind an opening is missing
behind every later one, and an opening tag begins with a bracket, which is one byte.

* `readSpan_eq_span_iff` : what is read behind an opening tag is the span that begins there.
* `not_starts_of_readSpan` : where the search gives up, no span begins later.
* `find_eq_some_iff`, `find_eq_none_iff` : a rule finds the first start of a span, if there is one.
* `finds_leftmost_span` : the same from any place of a text, and how a pass parts the text.
-/

namespace Bookpress
namespace Markup
namespace Rule

/-- the span that stands at the front of a text, with what follows it. -/
structure Begins (r : Rule) (t : Text) (s : Span) (after : Text) : Prop where
  text : t = r.write s ++ after
  /-- the parameter is all up to the first bracket, and is not empty. -/
  param : if r.takesParam then s.param ≠ [] ∧ ']' ∉ s.param else s.param = []
  /-- the content is all up to the nearest closing tag. -/
  nearest : ∀ u v, s.inner ++ (r.closing ++ after) = u ++ (r.closing ++ v) →
    s.inner.length ≤ u.length
  line : r.oneLine = true → '\n' ∉ s.param ∧ '\n' ∉ s.inner

/-- a span stands at the front of a text. -/
def Starts (r : Rule) (t : Text) : Prop := ∃ s after, r.Begins t s after

/-- a text parted into gaps, in which no span starts, the spans behind them, and a rest. -/
inductive Parted (r : Rule) : Text → List (Text × Span) × Text → Prop
  | rest {t : Text} (none : ∀ j, ¬r.Starts (t.drop j)) : Parted r t ([], t)
  | span {gap after rest : Text} {s : Span} {xs : List (Text × Span)}
      (begins : r.Begins (r.write s ++ after) s after)
      (first : ∀ j, j < gap.length → ¬r.Starts ((gap ++ (r.write s ++ after)).drop j))
      (tail : Parted r after (xs, rest)) :
      Parted r (gap ++ (r.write s ++ after)) ((gap, s) :: xs, rest)

variable {r : Rule} {t : Text}

/-! ## one opening tag -/

theorem breaks_eq_false_iff {u : Text} :
    r.breaks u = false ↔ (r.oneLine = true → '\n' ∉ u) := by
  unfold breaks
  cases r.oneLine <;> simp

theorem readInner_eq_span_iff {p after : Text} {s : Span} :
    r.readInner p t = .span s after ↔
      s.param = p ∧ r.breaks s.inner = false ∧
        Text.cut r.closing t = some ⟨s.inner, (), after⟩ := by
  unfold readInner
  cases hx : Text.cut r.closing t with
  | none => simp
  | some x =>
    obtain ⟨b, ⟨⟩, a⟩ := x
    obtain ⟨sp, si⟩ := s
    by_cases hb : r.breaks b = true
    · simp only [hb, if_true, reduceCtorEq, false_iff, not_and, Option.some.injEq,
        Text.Cut.mk.injEq]
      rintro rfl hsi ⟨rfl, -⟩
      rw [hb] at hsi
      cases hsi
    · simp only [hb, if_false, Bool.false_eq_true, Outcome.span.injEq, Span.mk.injEq,
        Option.some.injEq, Text.Cut.mk.injEq, true_and]
      constructor
      · rintro ⟨⟨rfl, rfl⟩, rfl⟩
        exact ⟨rfl, by simpa using hb, rfl, rfl⟩
      · rintro ⟨rfl, -, rfl, rfl⟩
        exact ⟨⟨rfl, rfl⟩, rfl⟩

/-- the content of a span, as the search cuts it out. -/
theorem cut_closing_iff {s : Span} {after : Text} :
    Text.cut r.closing t = some ⟨s.inner, (), after⟩ ↔
      t = s.inner ++ (r.closing ++ after) ∧
        ∀ u v, s.inner ++ (r.closing ++ after) = u ++ (r.closing ++ v) →
          s.inner.length ≤ u.length := by
  rw [Text.cut_eq_some_iff]
  refine and_congr_right fun ht => ?_
  rw [ht]

theorem readSpan_plain_iff (hp : r.takesParam = false) {s : Span} {after : Text} :
    r.readSpan t = .span s after ↔ r.Begins (r.opening ++ t) s after := by
  unfold readSpan
  rw [if_neg (by simp [hp]), readInner_eq_span_iff, cut_closing_iff]
  constructor
  · rintro ⟨hs, hb, ht, hnear⟩
    refine ⟨by simp [write, hp, ht], by simp [hp, hs], hnear, fun hl => ?_⟩
    exact ⟨by simp [hs], breaks_eq_false_iff.1 hb hl⟩
  · rintro ⟨ht, hs, hnear, hl⟩
    rw [if_neg (by simp [hp])] at hs
    refine ⟨hs, breaks_eq_false_iff.2 fun h => (hl h).2, ?_, hnear⟩
    simpa [write, hp] using ht

theorem readSpan_param_iff (hp : r.takesParam = true) {s : Span} {after : Text} :
    r.readSpan t = .span s after ↔ r.Begins (r.opening ++ t) s after := by
  unfold readSpan
  rw [if_pos hp]
  constructor
  · intro h
    cases hx : Text.cut [']'] t with
    | none => rw [hx] at h; cases h
    | some x =>
      obtain ⟨ht, hnot⟩ := Text.cut_singleton_eq_some_iff.1 hx
      simp only [hx, Bool.or_eq_true, decide_eq_true_eq] at h
      split at h
      · cases h
      · rename_i hgood
        rw [not_or, Bool.not_eq_true] at hgood
        obtain ⟨hs, hb, hcut⟩ := readInner_eq_span_iff.1 h
        obtain ⟨hafter, hnear⟩ := cut_closing_iff.1 hcut
        refine ⟨by simp [write, hp, ht, hafter, hs], ?_, hnear, fun hl => ?_⟩
        · rw [if_pos hp, hs]
          exact ⟨hgood.1, hnot⟩
        · rw [hs]
          exact ⟨breaks_eq_false_iff.1 hgood.2 hl, breaks_eq_false_iff.1 hb hl⟩
  · rintro ⟨ht, hs, hnear, hl⟩
    rw [if_pos hp] at hs
    have hbody : t = s.param ++ ']' :: (s.inner ++ (r.closing ++ after)) := by
      simpa [write, hp] using ht
    have hx : Text.cut [']'] t = some ⟨s.param, (), s.inner ++ (r.closing ++ after)⟩ :=
      Text.cut_singleton_eq_some_iff.2 ⟨hbody, hs.2⟩
    have hb : r.breaks s.param = false := breaks_eq_false_iff.2 fun h => (hl h).1
    simp only [hx, hs.1, hb, decide_false, Bool.or_self, Bool.false_eq_true, if_false]
    exact readInner_eq_span_iff.2
      ⟨rfl, breaks_eq_false_iff.2 fun h => (hl h).2, cut_closing_iff.2 ⟨rfl, hnear⟩⟩

/-- **What is read behind an opening tag is the span that begins there.** -/
theorem readSpan_eq_span_iff {s : Span} {after : Text} :
    r.readSpan t = .span s after ↔ r.Begins (r.opening ++ t) s after := by
  cases hp : r.takesParam with
  | false => exact readSpan_plain_iff hp
  | true => exact readSpan_param_iff hp

theorem Begins.exists_opening {s : Span} {after : Text} (h : r.Begins t s after) :
    ∃ body, t = r.opening ++ body := by
  rw [h.text, write]
  exact ⟨_, List.append_assoc _ _ _⟩

/-- the span that begins a text is unique. -/
theorem Begins.unique {s s' : Span} {after after' : Text} (h : r.Begins t s after)
    (h' : r.Begins t s' after') : s = s' ∧ after = after' := by
  obtain ⟨body, rfl⟩ := h.exists_opening
  have hs := readSpan_eq_span_iff.2 h
  rw [readSpan_eq_span_iff.2 h'] at hs
  cases hs
  exact ⟨rfl, rfl⟩

/-! ## where the search gives up -/

/-- what stands behind an occurrence of a text ends what stands behind an earlier one. -/
theorem suffix_of_append_eq {p t u w : Text} (h : p ++ t = u ++ (p ++ w)) : w <:+ t := by
  have hlen := congrArg List.length h
  simp only [List.length_append] at hlen
  have hw : w <:+ p ++ t := ⟨u ++ p, by rw [h, List.append_assoc]⟩
  exact List.suffix_of_suffix_length_le hw ⟨p, rfl⟩ (by omega)

/-- what a later span has behind its opening tag ends what stands behind this one. -/
theorem Begins.suffix {u v : Text} {s : Span} {after : Text} (h : r.Begins v s after)
    (hv : r.opening ++ t = u ++ v) :
    (if r.takesParam then s.param ++ [']'] else []) ++ (s.inner ++ (r.closing ++ after)) <:+ t := by
  refine suffix_of_append_eq (p := r.opening) (u := u) ?_
  rw [hv, h.text, write]
  simp only [List.append_assoc]

/-- no content is read where no closing tag follows. -/
theorem cut_closing_of_readInner {p : Text} (h : r.readInner p t = .none) :
    Text.cut r.closing t = none := by
  unfold readInner at h
  split at h
  · assumption
  · split at h <;> cases h

theorem not_suffix_of_cut {inner after : Text} (h : Text.cut r.closing t = none) :
    ¬inner ++ (r.closing ++ after) <:+ t := by
  rintro ⟨u, hu⟩
  exact Text.cut_eq_none_iff.1 h (u ++ inner) after (by rw [← hu, List.append_assoc])

/-- **Where the search gives up, no span begins later.** -/
theorem not_starts_of_readSpan (h : r.readSpan t = .none) {u v : Text}
    (hv : r.opening ++ t = u ++ v) : ¬r.Starts v := by
  rintro ⟨s, after, hs⟩
  have hlater := hs.suffix hv
  unfold readSpan at h
  by_cases hp : r.takesParam = true
  · rw [if_pos hp] at h hlater
    obtain ⟨u', hu'⟩ := hlater
    have ht : t = (u' ++ s.param) ++ ([']'] ++ (s.inner ++ (r.closing ++ after))) := by
      rw [← hu']
      simp only [List.append_assoc]
    split at h
    · rename_i hcut
      exact Text.cut_eq_none_iff.1 hcut _ _ ht
    · rename_i x hcut
      split at h
      · cases h
      · -- the bracket that is found does not stand behind that of the later span
        have hafter := Text.suffix_of_cut hcut ht
        exact not_suffix_of_cut (cut_closing_of_readInner h) hafter
  · rw [if_neg hp] at h hlater
    exact not_suffix_of_cut (cut_closing_of_readInner h) hlater

/-! ## the first start -/

theorem opening_ne_nil (ho : r.opening.head? = some '[') : r.opening ≠ [] := by
  intro h
  rw [h] at ho
  cases ho

theorem not_starts_nil (ho : r.opening ≠ []) : ¬r.Starts [] := by
  rintro ⟨s, after, hs⟩
  obtain ⟨body, hbody⟩ := hs.exists_opening
  exact ho (List.append_eq_nil_iff.1 hbody.symm).1

theorem not_starts_of_strip? (h : Text.strip? r.opening t = none) : ¬r.Starts t := by
  rintro ⟨s, after, hs⟩
  obtain ⟨body, hbody⟩ := hs.exists_opening
  rw [hbody, Text.strip?_append] at h
  cases h

theorem not_starts_of_retry (h : r.readSpan t = .retry) : ¬r.Starts (r.opening ++ t) := by
  rintro ⟨s, after, hs⟩
  rw [readSpan_eq_span_iff.2 hs] at h
  cases h

/-- a span is found where it begins, and none begins before. -/
theorem begins_of_find (ho : r.opening.head? = some '[') {x : Text.Cut Span}
    (h : r.find t = some x) : r.Begins (t.drop x.before.length) x.hit x.after ∧
      ∀ j, j < x.before.length → ¬r.Starts (t.drop j) := by
  induction t generalizing x with
  | nil =>
    unfold find at h
    rw [if_neg (opening_ne_nil ho)] at h
    cases h
  | cons c t ih =>
    -- a span that is found further on is the first one unless one begins here
    have later : ∀ y, r.find t = some y → ¬r.Starts (c :: t) →
        r.Begins ((c :: t).drop (y.push c).before.length) (y.push c).hit (y.push c).after ∧
          ∀ j, j < (y.push c).before.length → ¬r.Starts ((c :: t).drop j) := by
      intro y hy hnot
      obtain ⟨hbegins, hfirst⟩ := ih hy
      refine ⟨hbegins, fun j hj => ?_⟩
      cases j with
      | zero => exact hnot
      | succ j => exact hfirst j (Nat.lt_of_succ_lt_succ hj)
    unfold find at h
    split at h
    · rename_i hs
      obtain ⟨y, hy, rfl⟩ := Option.map_eq_some_iff.1 h
      exact later y hy (not_starts_of_strip? hs)
    · rename_i body hs
      have ht := Text.strip?_eq_some.1 hs
      split at h
      · rename_i s after hr
        cases h
        rw [ht]
        exact ⟨readSpan_eq_span_iff.1 hr, fun j hj => absurd hj (Nat.not_lt_zero j)⟩
      · rename_i hr
        split at h
        · obtain ⟨y, hy, rfl⟩ := Option.map_eq_some_iff.1 h
          refine later y hy ?_
          rw [ht]
          exact not_starts_of_retry hr
        · cases h
      · cases h

/-- nothing is found only where no span begins. -/
theorem not_starts_of_find (ho : r.opening.head? = some '[') (h : r.find t = none) (j : Nat) :
    ¬r.Starts (t.drop j) := by
  have hne := opening_ne_nil ho
  induction t generalizing j with
  | nil =>
    rw [List.drop_nil]
    exact not_starts_nil hne
  | cons c t ih =>
    unfold find at h
    split at h
    · rename_i hs
      cases j with
      | zero => exact not_starts_of_strip? hs
      | succ j => exact ih (Option.map_eq_none_iff.1 h) j
    · rename_i body hs
      have ht := Text.strip?_eq_some.1 hs
      -- the search goes on one byte behind a bracket, which is one character
      have hc : c = '[' := by
        obtain ⟨d, q, hq⟩ := List.exists_cons_of_ne_nil hne
        rw [hq] at ho ht
        cases ho
        exact (List.cons.inj ht).1
      split at h
      · cases h
      · rename_i hr
        rw [hc, if_pos (by decide)] at h
        cases j with
        | zero =>
          rw [List.drop_zero, ht]
          exact not_starts_of_retry hr
        | succ j => exact ih (Option.map_eq_none_iff.1 h) j
      · rename_i hr
        refine not_starts_of_readSpan hr (u := (c :: t).take j) ?_
        rw [List.take_append_drop, ht]

theorem find_eq_none_iff (ho : r.opening.head? = some '[') :
    r.find t = none ↔ ∀ j, ¬r.Starts (t.drop j) := by
  constructor
  · exact not_starts_of_find ho
  · intro h
    cases hx : r.find t with
    | none => rfl
    | some x => exact absurd ⟨_, _, (begins_of_find ho hx).1⟩ (h x.before.length)

theorem find_eq_some_iff (ho : r.opening.head? = some '[') {x : Text.Cut Span} :
    r.find t = some x ↔ ∃ i, r.Begins (t.drop i) x.hit x.after ∧
      (∀ j, j < i → ¬r.Starts (t.drop j)) ∧ x.before = t.take i := by
  constructor
  · intro h
    obtain ⟨hbegins, hfirst⟩ := begins_of_find ho h
    refine ⟨x.before.length, hbegins, hfirst, ?_⟩
    conv => rhs; rw [find_eq_some h]
    rw [List.take_left' rfl]
  · rintro ⟨i, hbegins, hfirst, hbefore⟩
    cases hy : r.find t with
    | none => exact absurd ⟨_, _, hbegins⟩ (not_starts_of_find ho hy i)
    | some y =>
      obtain ⟨hbegins', hfirst'⟩ := begins_of_find ho hy
      -- two first starts are one
      have hi : y.before.length = i := by
        rcases Nat.lt_trichotomy y.before.length i with hlt | heq | hgt
        · exact absurd ⟨_, _, hbegins'⟩ (hfirst _ hlt)
        · exact heq
        · exact absurd ⟨_, _, hbegins⟩ (hfirst' _ hgt)
      rw [hi] at hbegins'
      obtain ⟨hhit, hafter⟩ := hbegins'.unique hbegins
      have hb : y.before = x.before := by
        rw [hbefore, ← hi]
        conv => rhs; rw [find_eq_some hy]
        rw [List.take_left' rfl]
      obtain ⟨xb, xh, xa⟩ := x
      obtain ⟨yb, yh, ya⟩ := y
      cases hb
      cases hhit
      cases hafter
      rfl

/-- a tag that is closed on its line begins a span. -/
theorem starts_of_closing (hp : r.takesParam = false) {inner : Text} (hline : '\n' ∉ inner)
    (after : Text) : r.Starts (r.opening ++ (inner ++ (r.closing ++ after))) := by
  cases hx : Text.cut r.closing (inner ++ (r.closing ++ after)) with
  | none => exact absurd hx (Text.cut_append_ne_none _ _ _)
  | some x =>
    obtain ⟨htext, hnear⟩ := Text.cut_eq_some_iff.1 hx
    have hle := hnear _ _ rfl
    have hx : x.before <+: inner ++ (r.closing ++ after) := ⟨r.closing ++ x.after, htext.symm⟩
    have hbefore : x.before <+: inner :=
      List.prefix_of_prefix_length_le hx (List.prefix_append _ _) hle
    refine ⟨⟨[], x.before⟩, x.after, ?_, by simp [hp], ?_, fun _ => ⟨List.not_mem_nil, ?_⟩⟩
    · rw [htext]
      simp [write, hp]
    · rw [htext] at hnear
      exact hnear
    · exact fun hm => hline (hbefore.subset hm)

/-! ## a pass -/

/-- **A pass parts a text into gaps that hold no start and spans that begin behind them.** -/
theorem parted_spans (ho : r.opening.head? = some '[') (t : Text) : r.Parted t (r.spans t) := by
  have hshrinks := shrinks_find (opening_ne_nil ho)
  induction t using hshrinks.induction with
  | last t hx =>
    rw [spans, Text.cuts_eq hshrinks, hx]
    exact .rest (not_starts_of_find ho hx)
  | more t x hx ih =>
    obtain ⟨hbegins, hfirst⟩ := begins_of_find ho hx
    have hfront : t.drop x.before.length = r.write x.hit ++ x.after := hbegins.text
    have htext := find_eq_some hx
    rw [spans, Text.cuts_eq hshrinks, hx]
    rw [hfront] at hbegins
    rw [htext] at hfirst ⊢
    exact .span hbegins hfirst ih

/-- **A rule finds the leftmost span.**  From any place of a text it finds the span with the first
start at or behind that place, and nothing only if there is no start.  So a pass parts the text into
gaps that it copies and spans that it renders, and writing every span as it was found gives the
text back. -/
theorem finds_leftmost_span (ho : r.opening.head? = some '[') (t : Text) :
    (∀ k, (∀ x, r.find (t.drop k) = some x ↔ ∃ i, k ≤ i ∧ r.Begins (t.drop i) x.hit x.after ∧
        (∀ j, k ≤ j → j < i → ¬r.Starts (t.drop j)) ∧ x.before = (t.drop k).take (i - k)) ∧
      (r.find (t.drop k) = none ↔ ∀ j, k ≤ j → ¬r.Starts (t.drop j))) ∧
    r.Parted t (r.spans t) ∧ (∀ render, r.once render t = Text.fill render (r.spans t)) ∧
    r.once r.write t = t := by
  have hdrop : ∀ k j, (t.drop k).drop j = t.drop (k + j) := fun k j => List.drop_drop ..
  refine ⟨fun k => ⟨fun x => ?_, ?_⟩, parted_spans ho t, fun _ => rfl, fill_write r t⟩
  · rw [find_eq_some_iff ho]
    simp only [hdrop]
    constructor
    · rintro ⟨i, hbegins, hfirst, hbefore⟩
      refine ⟨k + i, Nat.le_add_right k i, hbegins, fun j hk hj => ?_, ?_⟩
      · obtain ⟨j, rfl⟩ := Nat.exists_eq_add_of_le hk
        exact hfirst j (by omega)
      · rw [hbefore, Nat.add_sub_cancel_left]
    · rintro ⟨i, hk, hbegins, hfirst, hbefore⟩
      obtain ⟨i, rfl⟩ := Nat.exists_eq_add_of_le hk
      rw [Nat.add_sub_cancel_left] at hbefore
      exact ⟨i, hbegins, fun j hj => hfirst (k + j) (Nat.le_add_right k j) (by omega), hbefore⟩
  · rw [find_eq_none_iff ho]
    simp only [hdrop]
    constructor
    · intro h j hk
      obtain ⟨j, rfl⟩ := Nat.exists_eq_add_of_le hk
      exact h j
    · exact fun h j => h (k + j) (Nat.le_add_right k j)

/-- an opening tag without a parameter is passed over, and the next one begins the span. -/
theorem finds_leftmost_span_url :
    (withParam "[url=" "[/url]").opening.head? = some '[' ∧
      ∃ i, (withParam "[url=" "[/url]").Begins ("[url=]x[url=h]y[/url]z".toList.drop i)
          ⟨['h'], ['y']⟩ ['z'] ∧
        (∀ j, j < i → ¬(withParam "[url=" "[/url]").Starts
          ("[url=]x[url=h]y[/url]z".toList.drop j)) ∧
        "[url=]x".toList = "[url=]x[url=h]y[/url]z".toList.take i := by
  have ho : (withParam "[url=" "[/url]").opening.head? = some '[' := by decide +kernel
  have hx : (withParam "[url=" "[/url]").find ("[url=]x[url=h]y[/url]z".toList.drop 0)
      = some ⟨"[url=]x".toList, ⟨['h'], ['y']⟩, ['z']⟩ := by decide +kernel
  obtain ⟨i, -, hbegins, hfirst, hbefore⟩ :=
    ((finds_leftmost_span ho "[url=]x[url=h]y[/url]z".toList).1 0).1 _ |>.1 hx
  exact ⟨ho, i, hbegins, fun j hj => hfirst j (Nat.zero_le j) hj, hbefore⟩

end Rule
end Markup
end Bookpress
