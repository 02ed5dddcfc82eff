import Bookpress.Text.Search

/-!
# Spans of markup

A span is a piece of text between an opening and a closing tag.  A rule says what the tags are,
whether the opening tag takes a parameter (the non-empty text up to the first `]`) and whether a
span may hold a line feed.

* `find_eq_some` : what a rule finds is a span of the rule, with the text around it.
* `fill_write` : writing every span back as it was found gives the text back.
-/

namespace Bookpress
namespace Markup

/-- the tags of a kind of span. -/
structure Rule where
  /-- the opening tag, up to its parameter if it takes one. -/
  opening : Text
  closing : Text
  /-- whether a parameter and `]` follow the opening. -/
  takesParam : Bool := false
  /-- whether parameter and content stay on one line. -/
  oneLine : Bool := false
deriving Repr, DecidableEq

/-- a span without its tags. -/
structure Span where
  param : Text
  inner : Text
deriving Repr, DecidableEq

namespace Rule

/-- a rule whose opening is a fixed tag. -/
def plain (opening closing : String) : Rule := ⟨opening.toList, closing.toList, false, false⟩

/-- a rule whose opening takes a parameter. -/
def withParam (opening closing : String) : Rule := ⟨opening.toList, closing.toList, true, false⟩

/-- the rule, kept to one line. -/
def inLine (r : Rule) : Rule := { r with oneLine := true }

/-- a span as it stands in a text. -/
def write (r : Rule) (s : Span) : Text :=
  r.opening ++ ((if r.takesParam then s.param ++ [']'] else []) ++ (s.inner ++ r.closing))

/-- what follows an opening tag. -/
inductive Outcome
  /-- a span, and the text after it. -/
  | span (s : Span) (after : Text)
  /-- no span, but one may begin further on. -/
  | retry
  /-- no span here or further on. -/
  | none
deriving Repr, DecidableEq

/-- whether a part of a span holds a line feed against the rule. -/
def breaks (r : Rule) (t : Text) : Bool := r.oneLine && t.contains '\n'

/-- the content of a span and what follows it. -/
def readInner (r : Rule) (param t : Text) : Outcome :=
  match Text.cut r.closing t with
  | .none => .none
  | some x => if r.breaks x.before then .retry else .span ⟨param, x.before⟩ x.after

/-- the span whose opening tag ends where `t` begins. -/
def readSpan (r : Rule) (t : Text) : Outcome :=
  if r.takesParam then
    match Text.cut [']'] t with
    | .none => .none
    | some x =>
      if x.before = [] || r.breaks x.before then .retry else r.readInner x.before x.after
  else r.readInner [] t

/-- the first span of a text.  A search that has to go on does so one byte after the opening it
has refused, so it ends there if the opening begins with a longer character. -/
def find (r : Rule) : Text → Option (Text.Cut Span)
  | [] =>
    if r.opening = [] then
      match r.readSpan [] with
      | .span s after => some ⟨[], s, after⟩
      | _ => none
    else none
  | c :: t =>
    match Text.strip? r.opening (c :: t) with
    | none => (find r t).map (Text.Cut.push c)
    | some body =>
      match r.readSpan body with
      | .span s after => some ⟨[], s, after⟩
      | .retry => if c.utf8Size = 1 then (find r t).map (Text.Cut.push c) else none
      | .none => none

/-- the spans of a text, each with the text before it, and the text after the last. -/
def spans (r : Rule) (t : Text) : List (Text × Span) × Text := Text.cuts r.find t

/-- a text with every span rendered. -/
def once (r : Rule) (render : Span → Text) (t : Text) : Text := Text.fill render (r.spans t)

/-- a text with spans rendered over and over, at most `fuel` times. -/
def passes (r : Rule) (render : Span → Text) : Nat → Text → Text
  | 0, t => t
  | fuel + 1, t =>
    let x := r.spans t
    if x.1.isEmpty then t else passes r render fuel (Text.fill render x)

/-- a text with spans rendered until there are none: every pass takes an opening tag away, so
there are fewer passes than characters. -/
def exhaust (r : Rule) (render : Span → Text) (t : Text) : Text :=
  r.passes render (t.length + 1) t

theorem readInner_eq_span {r : Rule} {param t after : Text} {s : Span}
    (h : r.readInner param t = .span s after) :
    t = s.inner ++ (r.closing ++ after) ∧ s.param = param ∧ r.breaks s.inner = false := by
  unfold readInner at h
  split at h
  · cases h
  · rename_i x hx
    split at h
    · cases h
    · rename_i hb
      cases h
      exact ⟨Text.cut_eq_some hx, rfl, by simpa using hb⟩

theorem readSpan_eq_span {r : Rule} {t after : Text} {s : Span}
    (h : r.readSpan t = .span s after) :
    r.opening ++ t = r.write s ++ after := by
  unfold readSpan at h
  split at h
  · rename_i hp
    split at h
    · cases h
    · rename_i x hx
      split at h
      · cases h
      · obtain ⟨h₁, h₂, -⟩ := readInner_eq_span h
        rw [Text.cut_eq_some hx, h₁]
        simp [write, hp, h₂]
  · rename_i hp
    obtain ⟨h₁, -, -⟩ := readInner_eq_span h
    simp [write, hp, h₁]

theorem find_eq_some {r : Rule} {t : Text} {x : Text.Cut Span} (h : r.find t = some x) :
    t = x.before ++ (r.write x.hit ++ x.after) := by
  induction t generalizing x with
  | nil =>
    unfold find at h
    split at h
    · rename_i ho
      split at h
      · rename_i s after hs
        cases h
        have := readSpan_eq_span hs
        simpa [ho] using this
      · cases h
    · cases h
  | cons c t ih =>
    unfold find at h
    split at h
    · obtain ⟨y, hy, rfl⟩ := Option.map_eq_some_iff.1 h
      simp only [Text.Cut.push, List.cons_append, List.cons.injEq, true_and]
      exact ih hy
    · rename_i body hb
      split at h
      · rename_i s after hs
        cases h
        rw [List.nil_append, ← readSpan_eq_span hs]
        exact Text.strip?_eq_some.1 hb
      · split at h
        · obtain ⟨y, hy, rfl⟩ := Option.map_eq_some_iff.1 h
          simp only [Text.Cut.push, List.cons_append, List.cons.injEq, true_and]
          exact ih hy
        · cases h
      · cases h

theorem fill_write (r : Rule) (t : Text) : Text.fill r.write (r.spans t) = t :=
  Text.fill_cuts (fun _ _ h => find_eq_some h) t

end Rule

end Markup
end Bookpress
