import Bookpress.Markup.Tag
import Bookpress.Proofs.Markup.Flow

/-!
# Rewriting tags in texts that flow

A rule cuts a text at tags, so the gaps and the hits flow one after the other, and what is written
for the hits only has to lead from the same open groups to the same open groups.

* `pieces_cuts` : the pieces that a finder of tags makes flow.
* `Flows.rewrite`, `Flows.fillM` : hits may be rewritten, also one after the other with an effect.
* `Flows.once`, `Flows.onceM`, `Flows.replaceTag` : the rules for pairs of tags and for single tags.
* `Flows.find_eq_none` : a rule for tags that are not named finds nothing.
-/

namespace Bookpress
namespace Markup

/-! ## gaps and hits -/

section
variable {α : Type} {P : Nat → α → Nat → Prop} {find : Text → Option (Text.Cut α)}
variable {d e : Nat} {t : Text}

/-- gaps that flow, with hits between them that lead on as `P` says. -/
def Pieces (P : Nat → α → Nat → Prop) : Nat → List (Text × α) → Text → Nat → Prop
  | d, [], r, e => Flows d .text r e
  | d, (gap, a) :: xs, r, e => ∃ k l, Flows d .text gap k ∧ P k a l ∧ Pieces P l xs r e

/-- what a finder finds in a text that flows leads on as `P` says. -/
def Leads (find : Text → Option (Text.Cut α)) (P : Nat → α → Nat → Prop) : Prop :=
  ∀ d e t x, find t = some x → Flows d .text t e →
    ∃ k l, Flows d .text x.before k ∧ P k x.hit l ∧ Flows l .text x.after e

theorem pieces_cuts (h : Text.Shrinks find) (hP : Leads find P) (ht : Flows d .text t e) :
    Pieces P d (Text.cuts find t).1 (Text.cuts find t).2 e := by
  induction t using h.induction generalizing d with
  | last t hx =>
    rw [Text.cuts_eq h, hx]
    exact ht
  | more t x hx ih =>
    rw [Text.cuts_eq h, hx]
    obtain ⟨k, l, hk, ha, hl⟩ := hP d e t x hx ht
    exact ⟨k, l, hk, ha, ih hl⟩

theorem Pieces.fill {f : α → Text} (hf : ∀ k a l, P k a l → Flows k .text (f a) l)
    {xs : List (Text × α)} {r : Text} (h : Pieces P d xs r e) :
    Flows d .text (Text.fill f (xs, r)) e := by
  induction xs generalizing d with
  | nil => exact h
  | cons x xs ih =>
    obtain ⟨k, l, hk, ha, hr⟩ := h
    have := hk.append ((hf k _ l ha).append (ih hr))
    simpa [Text.fill] using this

theorem Flows.rewrite {f : α → Text} (h : Text.Shrinks find) (hP : Leads find P)
    (hf : ∀ k a l, P k a l → Flows k .text (f a) l) (ht : Flows d .text t e) :
    Flows d .text (Text.rewrite find f t) e :=
  (pieces_cuts h hP ht).fill hf

/-- the same with an effect for every hit. -/
theorem Pieces.fillM {σ : Type} {f : α → StateM σ Text}
    (hf : ∀ k a l s, P k a l → Flows k .text ((f a).run s).1 l)
    {xs : List (Text × α)} {r : Text} (h : Pieces P d xs r e) (s : σ) :
    Flows d .text ((Text.fillM f (xs, r)).run s).1 e := by
  induction xs generalizing d s with
  | nil => exact h
  | cons x xs ih =>
    obtain ⟨gap, a⟩ := x
    obtain ⟨k, l, hk, ha, hr⟩ := h
    rw [Text.run_fillM_cons]
    exact hk.append ((hf k a l s ha).append (ih hr _))

end

/-! ## pairs of tags -/

/-- a tag in a text. -/
def bracketed (w : Text) : Text := '[' :: (w ++ [']'])

/-- what stands between the brackets of a tag that a rule may look for. -/
structure Sought (w : Text) : Prop where
  close : ']' ∉ w
  option : w ∉ optionNames

/-- whether a rule may look for the tag. -/
def isSought (w : Text) : Bool := !w.contains ']' && !optionNames.contains w

theorem sought_iff {w : Text} : isSought w = true ↔ Sought w := by
  simp only [isSought, Bool.and_eq_true, Bool.not_eq_true', List.contains_eq_mem,
    decide_eq_false_iff_not]
  exact ⟨fun h => ⟨h.1, h.2⟩, fun h => ⟨h.close, h.option⟩⟩

theorem ne_append_of_isPrefixOf {u w : Text} (h : u.isPrefixOf w = false) (p : Text) :
    w ≠ u ++ p := by
  rintro rfl
  rw [List.isPrefixOf_iff_prefix.2 (List.prefix_append u p)] at h
  cases h

theorem Sought.of_front {front p : Text} (hf : ']' ∉ front) (hp : ']' ∉ p)
    (hn : ∀ w ∈ optionNames, front.isPrefixOf w = false) : Sought (front ++ p) :=
  ⟨fun hm => (List.mem_append.1 hm).elim hf hp,
    fun hm => ne_append_of_isPrefixOf (hn _ hm) p rfl⟩

/-- the rule for what stands between two tags. -/
structure Rule.Pairs (r : Rule) (o c : Text) : Prop where
  opening : r.opening = bracketed o
  closing : r.closing = bracketed c
  param : r.takesParam = false
  sought : Sought o ∧ Sought c

/-- whether a rule is for what stands between two tags. -/
def Rule.isPaired (r : Rule) (o c : Text) : Bool :=
  r.opening == bracketed o && r.closing == bracketed c && !r.takesParam && isSought o && isSought c

theorem Rule.Pairs.of_isPaired {r : Rule} {o c : Text} (h : r.isPaired o c = true) :
    r.Pairs o c := by
  simp only [isPaired, Bool.and_eq_true, beq_iff_eq, Bool.not_eq_true', sought_iff] at h
  exact ⟨h.1.1.1.1, h.1.1.1.2, h.1.1.2, h.1.2, h.2⟩

theorem Flows.cut_bracketed {d e : Nat} {m : Mode} {a w r : Text} (hw : Sought w)
    (h : Flows d m (a ++ (bracketed w ++ r)) e) :
    ∃ k, Flows d m a k ∧ IsTag w ∧ Flows k .text r e := by
  refine Flows.cut_tag hw.close hw.option ?_
  simpa [bracketed] using h

section
variable {r : Rule} {o c : Text} {d e : Nat} {m : Mode} {t : Text}

/-- the content of a span leads on. -/
def Within (k : Nat) (s : Span) (l : Nat) : Prop := Flows k .text s.inner l

/-- the content of a span leads on, and its parameter stands in a tag. -/
def WithParam (front : Text) (k : Nat) (s : Span) (l : Nat) : Prop :=
  Flows k .text s.inner l ∧ s.param ≠ [] ∧ IsTag (front ++ s.param)

theorem leads_find (hr : r.Pairs o c) : Leads r.find Within := by
  intro d e t x hx ht
  have he := Rule.find_eq_some hx
  simp only [Rule.write, hr.param, hr.opening, hr.closing, List.append_assoc] at he
  rw [he] at ht
  obtain ⟨k, hk, -, ht⟩ := ht.cut_bracketed hr.sought.1
  obtain ⟨l, hl, -, ht⟩ := ht.cut_bracketed hr.sought.2
  exact ⟨k, l, hk, hl, ht⟩

theorem leads_find_param {front : Text} (ho : r.opening = '[' :: front)
    (hc : r.closing = bracketed c) (hp : r.takesParam = true) (hf : ']' ∉ front)
    (hn : ∀ w ∈ optionNames, front.isPrefixOf w = false) (sc : Sought c) :
    Leads r.find (WithParam front) := by
  intro d e t x hx ht
  have he := Rule.find_eq_some hx
  obtain ⟨hne, hparam⟩ := Rule.param_of_find hp hx
  have so : Sought (front ++ x.hit.param) := .of_front hf hparam hn
  have he' : t = x.before ++ (bracketed (front ++ x.hit.param)
      ++ (x.hit.inner ++ (bracketed c ++ x.after))) := by
    rw [he]
    simp [Rule.write, hp, ho, hc, bracketed]
  rw [he'] at ht
  obtain ⟨k, hk, hw, ht⟩ := ht.cut_bracketed so
  obtain ⟨l, hl, -, ht⟩ := ht.cut_bracketed sc
  exact ⟨k, l, hk, ⟨hl, hne, hw⟩, ht⟩

theorem Rule.Pairs.opening_ne_nil (hr : r.Pairs o c) : r.opening ≠ [] := by
  rw [hr.opening]
  exact List.cons_ne_nil _ _

theorem Flows.once (hr : r.Pairs o c) {render : Span → Text}
    (hs : ∀ k s l, Flows k .text s.inner l → Flows k .text (render s) l)
    (ht : Flows d .text t e) : Flows d .text (r.once render t) e :=
  ht.rewrite (Rule.shrinks_find hr.opening_ne_nil) (leads_find hr) hs

theorem Flows.onceM {σ : Type} (hr : r.Pairs o c) {render : Span → StateM σ Text}
    (hs : ∀ k x l s, Flows k .text x.inner l → Flows k .text ((render x).run s).1 l)
    (ht : Flows d .text t e) (s : σ) :
    Flows d .text ((Text.fillM render (r.spans t)).run s).1 e :=
  Pieces.fillM hs (pieces_cuts (Rule.shrinks_find hr.opening_ne_nil) (leads_find hr) ht) s

/-- a rule finds no tags that are not named. -/
theorem Flows.find_eq_none (hr : r.Pairs o c) (hn : ¬ Named o) (ht : Flows d m t e) :
    r.find t = none := by
  cases hx : r.find t with
  | none => rfl
  | some x =>
    have he := Rule.find_eq_some hx
    rw [Rule.write, hr.opening, List.append_assoc] at he
    rw [he] at ht
    obtain ⟨k, -, hw, -⟩ := ht.cut_bracketed hr.sought.1
    exact absurd hw.named hn

/-! ## single tags -/

theorem Flows.replaceTag {w s : Text} (sw : Sought w) (hs : ∀ k, Flows k .text s k)
    (ht : Flows d .text t e) : Flows d .text (Text.replace (bracketed w) s t) e := by
  have hne : bracketed w ≠ [] := List.cons_ne_nil _ _
  refine @Flows.rewrite _ (fun k _ l => k = l) _ _ _ _ _ (Text.takes_strip hne).shrinks ?_
    (fun k _ l h => h ▸ hs k) ht
  intro d e t x hx ht
  rw [Text.cut_eq_some hx] at ht
  obtain ⟨k, hk, -, ht⟩ := ht.cut_bracketed sw
  exact ⟨k, k, hk, rfl, ht⟩

end

end Markup
end Bookpress
