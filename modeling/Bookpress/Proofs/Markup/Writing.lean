import Bookpress.Proofs.Markup.Spans

/-!
# Spans as they are written

A text that is put together from spans of a rule and from texts in which its opening does not begin
is taken apart by the rule in the same way: the rule finds the spans that were written, with their
contents, and passes over the rest.

* `find_append_of_lacks`, `find_around` : what a rule finds in front of a text.
* `hits_append_of_lacks`, `hits_around` : the spans that it finds.
* `once_append_of_lacks`, `once_around` : what a pass makes of them.
* `hits_flatMap`, `once_flatMap` : the same for any number of pieces.
* `fillM_of_pure` : a pass with effects is one without, if its spans are rendered without.
-/

namespace Bookpress

namespace Text

/-- what is done with each piece in front of any rest is done with pieces one after the other. -/
theorem flatMap_append_of_pieces {α β : Type} {F : Text → List β} {xs : List α} {f : α → Text}
    {g : α → List β} (h : ∀ x ∈ xs, ∀ t, F (f x ++ t) = g x ++ F t) (t : Text) :
    F (xs.flatMap f ++ t) = xs.flatMap g ++ F t := by
  induction xs with
  | nil => rfl
  | cons x xs ih =>
    rw [List.forall_mem_cons] at h
    rw [List.flatMap_cons, List.append_assoc, h.1, ih h.2, List.flatMap_cons, List.append_assoc]

/-- **Hits that are filled in without an effect.** -/
theorem fillM_of_pure {σ α : Type} {f : α → StateM σ Text} {h : α → Text}
    {x : List (Text × α) × Text} (hf : ∀ a ∈ x.1.map Prod.snd, f a = pure (h a)) :
    fillM f x = pure (fill h x) := by
  have hparts : (x.1.mapM fun p => do let s ← f p.2; pure (p.1 ++ s))
      = (pure (x.1.map fun p => p.1 ++ h p.2) : StateM σ (List Text)) := by
    generalize x.1 = xs at hf
    induction xs with
    | nil => rfl
    | cons p xs ih =>
      rw [List.map_cons, List.forall_mem_cons] at hf
      rw [List.mapM_cons, hf.1, ih hf.2]
      rfl
  unfold fillM fill
  rw [hparts, List.flatMap_def]
  rfl

end Text

namespace Markup
namespace Rule

/-- the rules for what stands between two tags, be it on one line or not. -/
structure Encloses (r : Rule) : Prop where
  opening : r.opening ≠ []
  closing : r.closing ≠ []
  param : r.takesParam = false
  line : r.oneLine = false

/-- a text between the tags of a rule. -/
def around (r : Rule) (inner : Text) : Text := r.opening ++ (inner ++ r.closing)

variable {r : Rule} {p t u inner : Text} {render : Span → Text}

theorem lacks_around (ho : Text.lacks p r.opening = true) (hu : Text.lacks p u = true)
    (hc : Text.lacks p r.closing = true) : Text.lacks p (r.around u) = true :=
  Text.lacks_append ho (Text.lacks_append hu hc)

/-! ## the first span -/

theorem find_append_of_lacks (h : Text.lacks r.opening u = true) (t : Text) :
    r.find (u ++ t) = (r.find t).map fun x => ⟨u ++ x.before, x.hit, x.after⟩ := by
  induction u with
  | nil => exact Option.map_id'.symm
  | cons c u ih =>
    simp only [Text.lacks, Bool.and_eq_true] at h
    have hstrip := Text.strip?_eq_none_of_differ (Text.differ_append h.1 t)
    rw [List.cons_append] at hstrip ⊢
    rw [find, hstrip, ih h.2, Option.map_map]
    rfl

theorem find_around (hr : r.Encloses) (h : Text.lacks r.closing inner = true) (t : Text) :
    r.find (r.around inner ++ t) = some ⟨[], ⟨[], inner⟩, t⟩ := by
  have hcut := Text.cut_append_of_lacks hr.closing h t
  have hspan : r.readSpan (inner ++ (r.closing ++ t)) = .span ⟨[], inner⟩ t := by
    unfold readSpan readInner
    rw [hr.param, hcut]
    simp [breaks, hr.line]
  have hstrip := Text.strip?_append r.opening (inner ++ (r.closing ++ t))
  obtain ⟨c, q, hc⟩ := List.exists_cons_of_ne_nil hr.opening
  rw [around, List.append_assoc, List.append_assoc]
  rw [hc, List.cons_append] at hstrip ⊢
  rw [find, hc, hstrip]
  dsimp only
  rw [hspan]

/-! ## all spans -/

theorem hits_append_of_lacks (hr : r.Encloses) (h : Text.lacks r.opening u = true) (t : Text) :
    Text.hits r.find (u ++ t) = Text.hits r.find t := by
  have hshrinks := shrinks_find hr.opening
  rw [Text.hits_eq hshrinks, Text.hits_eq hshrinks t, find_append_of_lacks h]
  cases r.find t <;> rfl

theorem hits_around (hr : r.Encloses) (h : Text.lacks r.closing inner = true) (t : Text) :
    Text.hits r.find (r.around inner ++ t) = ⟨[], inner⟩ :: Text.hits r.find t := by
  rw [Text.hits_eq (shrinks_find hr.opening), find_around hr h]

/-- the spans of pieces are found piece by piece. -/
theorem hits_flatMap {α : Type} {xs : List α} {f : α → Text} {spans : α → List Span}
    (h : ∀ x ∈ xs, ∀ t, Text.hits r.find (f x ++ t) = spans x ++ Text.hits r.find t) (t : Text) :
    Text.hits r.find (xs.flatMap f ++ t) = xs.flatMap spans ++ Text.hits r.find t :=
  Text.flatMap_append_of_pieces (F := Text.hits r.find) h t

theorem once_append_of_lacks (hr : r.Encloses) (h : Text.lacks r.opening u = true) (t : Text) :
    r.once render (u ++ t) = u ++ r.once render t := by
  rw [once_eq hr.opening, once_eq hr.opening render t, find_append_of_lacks h]
  cases r.find t with
  | none => rfl
  | some x => simp only [Option.map_some, List.append_assoc]

theorem once_around (hr : r.Encloses) (h : Text.lacks r.closing inner = true) (t : Text) :
    r.once render (r.around inner ++ t) = render ⟨[], inner⟩ ++ r.once render t := by
  rw [once_eq hr.opening, find_around hr h]
  rfl

/-- a pass goes over pieces one by one. -/
theorem once_flatMap {α : Type} {xs : List α} {f g : α → Text}
    (h : ∀ x ∈ xs, ∀ t, r.once render (f x ++ t) = g x ++ r.once render t) (t : Text) :
    r.once render (xs.flatMap f ++ t) = xs.flatMap g ++ r.once render t :=
  Text.flatMap_append_of_pieces (F := r.once render) h t

end Rule
end Markup
end Bookpress
