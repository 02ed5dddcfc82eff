import Bookpress.Text.Basic

/-!
# Searching and replacing

A *finder* is a function that looks for something in a text and returns a `Cut`: the text before
the hit, the hit, and the text after it.  `cuts` applies a finder over and over to what is left,
and `fill` puts the pieces together again with a text in place of every hit; every replacement
in this library is a `fill` of `cuts`.

* `cut_eq_some` : `cut` finds an occurrence of its pattern.
* `fill_cuts` : putting every hit back as it was written gives the text back.
* `rewrite_eq` : a replacement deals with the first hit and goes on after it.
* `rewrite_search_cons` : with a reader of fronts, a replacement goes character by character.
* `Shrinks.induction`, `Takes.induction`, `replace_induction` : properties of texts are shown along
  what is found in them.
-/

namespace Bookpress
namespace Text

/-- a hit in a text, and the texts on both sides of it. -/
structure Cut (α : Type) where
  before : Text
  hit : α
  after : Text
deriving Repr, DecidableEq

namespace Cut

/-- the same cut in a text with one more character in front. -/
def push {α : Type} (c : Char) (x : Cut α) : Cut α := { x with before := c :: x.before }

end Cut

/-- the leftmost hit of a reader that looks at the front of a text only. -/
def search {α : Type} (read : Text → Option (α × Text)) : Text → Option (Cut α)
  | [] => (read []).map fun (a, r) => ⟨[], a, r⟩
  | c :: t =>
    match read (c :: t) with
    | some (a, r) => some ⟨[], a, r⟩
    | none => (search read t).map (Cut.push c)

/-- the first occurrence of `p`. -/
def cut (p : Text) : Text → Option (Cut Unit) :=
  search fun t => (strip? p t).map fun r => ((), r)

theorem search_eq_some {α : Type} {read : Text → Option (α × Text)} {t : Text} {x : Cut α}
    (h : search read t = some x) :
    ∃ s, t = x.before ++ s ∧ read s = some (x.hit, x.after) := by
  induction t generalizing x with
  | nil =>
    simp only [search, Option.map_eq_some_iff] at h
    obtain ⟨⟨a, r⟩, h, rfl⟩ := h
    exact ⟨[], rfl, h⟩
  | cons c t ih =>
    unfold search at h
    split at h
    · rename_i a r hr
      cases h
      exact ⟨c :: t, rfl, hr⟩
    · obtain ⟨y, hy, rfl⟩ := Option.map_eq_some_iff.1 h
      obtain ⟨s, hs, hr⟩ := ih hy
      exact ⟨s, by simp [Cut.push, hs], hr⟩

theorem cut_eq_some {p t : Text} {x : Cut Unit} (h : cut p t = some x) :
    t = x.before ++ (p ++ x.after) := by
  obtain ⟨s, hs, hr⟩ := search_eq_some h
  simp only [Option.map_eq_some_iff, Prod.mk.injEq] at hr
  obtain ⟨r, hr, -, rfl⟩ := hr
  rw [hs, strip?_eq_some.1 hr]

/-- what stands before and after the first `p` in a text. -/
def around? (p t : Text) : Option (Text × Text) := (cut p t).map fun x => (x.before, x.after)

/-- whether `p` occurs in `t`. -/
def occursIn (p t : Text) : Bool := (cut p t).isSome

/-- the hits of a finder in what is left after each hit, at most `fuel` of them. -/
def cutsWithin {α : Type} (find : Text → Option (Cut α)) : Nat → Text → List (Text × α) × Text
  | 0, t => ([], t)
  | fuel + 1, t =>
    match find t with
    | none => ([], t)
    | some x =>
      let rest := cutsWithin find fuel x.after
      ((x.before, x.hit) :: rest.1, rest.2)

/-- all hits of a finder, each with the text that stands before it, and the text after the last:
a text has no more hits than characters, unless hits are empty. -/
def cuts {α : Type} (find : Text → Option (Cut α)) (t : Text) : List (Text × α) × Text :=
  cutsWithin find (t.length + 1) t

/-- the pieces of a text with `f` written for every hit. -/
def fill {α : Type} (f : α → Text) (x : List (Text × α) × Text) : Text :=
  (x.1.flatMap fun (gap, a) => gap ++ f a) ++ x.2

/-- `fill` with an effect for every hit, in the order of the text. -/
def fillM {m : Type → Type} [Monad m] {α : Type} (f : α → m Text)
    (x : List (Text × α) × Text) : m Text := do
  let parts ← x.1.mapM fun (gap, a) => do
    let s ← f a
    pure (gap ++ s)
  pure (parts.flatten ++ x.2)

theorem fill_cutsWithin {α : Type} {find : Text → Option (Cut α)} {f : α → Text}
    (h : ∀ t x, find t = some x → t = x.before ++ (f x.hit ++ x.after)) (fuel : Nat) (t : Text) :
    fill f (cutsWithin find fuel t) = t := by
  induction fuel generalizing t with
  | zero => simp [cutsWithin, fill]
  | succ fuel ih =>
    unfold cutsWithin
    split
    · simp [fill]
    · rename_i x hx
      have := ih x.after
      simp only [fill] at this
      simp only [fill, List.flatMap_cons, List.append_assoc, this]
      exact (h t x hx).symm

theorem fill_cuts {α : Type} {find : Text → Option (Cut α)} {f : α → Text}
    (h : ∀ t x, find t = some x → t = x.before ++ (f x.hit ++ x.after)) (t : Text) :
    fill f (cuts find t) = t :=
  fill_cutsWithin h _ t

/-! ## replacement, hit by hit -/

/-- a finder whose hits are not empty. -/
def Shrinks {α : Type} (find : Text → Option (Cut α)) : Prop :=
  ∀ t x, find t = some x → x.after.length < t.length

/-- a finder goes along a text: it finds nothing, or goes on behind what it finds. -/
theorem Shrinks.induction {α : Type} {find : Text → Option (Cut α)} (h : Shrinks find)
    {motive : Text → Prop} (last : ∀ t, find t = none → motive t)
    (more : ∀ t x, find t = some x → motive x.after → motive t) (t : Text) : motive t := by
  induction t using length_induction with
  | step t ih =>
    cases hx : find t with
    | none => exact last t hx
    | some x => exact more t x hx (ih x.after (h t x hx))

theorem cutsWithin_of_lt {α : Type} {find : Text → Option (Cut α)} (h : Shrinks find)
    (fuel : Nat) (t : Text) (ht : t.length < fuel) : cutsWithin find fuel t = cuts find t := by
  suffices H : ∀ a b, t.length < a → t.length < b →
      cutsWithin find a t = cutsWithin find b t from H _ _ ht (Nat.lt_succ_self _)
  clear ht
  induction t using h.induction with
  | last t hx =>
    intro a b ha hb
    obtain ⟨a, rfl⟩ : ∃ k, a = k + 1 := ⟨a - 1, by omega⟩
    obtain ⟨b, rfl⟩ : ∃ k, b = k + 1 := ⟨b - 1, by omega⟩
    simp only [cutsWithin, hx]
  | more t x hx ih =>
    intro a b ha hb
    obtain ⟨a, rfl⟩ : ∃ k, a = k + 1 := ⟨a - 1, by omega⟩
    obtain ⟨b, rfl⟩ : ∃ k, b = k + 1 := ⟨b - 1, by omega⟩
    have := h t x hx
    simp only [cutsWithin, hx, ih a b (by omega) (by omega)]

theorem cuts_eq {α : Type} {find : Text → Option (Cut α)} (h : Shrinks find) (t : Text) :
    cuts find t = match find t with
      | none => ([], t)
      | some x => ((x.before, x.hit) :: (cuts find x.after).1, (cuts find x.after).2) := by
  conv => lhs; unfold cuts cutsWithin
  cases hx : find t with
  | none => rfl
  | some x =>
    have := h t x hx
    simp only [cutsWithin_of_lt h t.length x.after this]

/-- `t` with `f` of it in place of every hit. -/
def rewrite {α : Type} (find : Text → Option (Cut α)) (f : α → Text) (t : Text) : Text :=
  fill f (cuts find t)

theorem rewrite_eq {α : Type} {find : Text → Option (Cut α)} (h : Shrinks find) (f : α → Text)
    (t : Text) : rewrite find f t = match find t with
      | none => t
      | some x => x.before ++ (f x.hit ++ rewrite find f x.after) := by
  unfold rewrite
  rw [cuts_eq h]
  cases hx : find t with
  | none => simp [fill]
  | some x => simp [fill]

/-- a reader of fronts that takes at least one character. -/
def Takes {α : Type} (read : Text → Option (α × Text)) : Prop :=
  ∀ t a r, read t = some (a, r) → r.length < t.length

theorem Takes.shrinks {α : Type} {read : Text → Option (α × Text)} (h : Takes read) :
    Shrinks (search read) := by
  intro t x hx
  obtain ⟨s, hs, hr⟩ := search_eq_some hx
  have := h s x.hit x.after hr
  rw [hs, List.length_append]
  omega

theorem Takes.read_nil {α : Type} {read : Text → Option (α × Text)} (h : Takes read) :
    read [] = none := by
  cases hr : read [] with
  | none => rfl
  | some x => exact absurd (h [] x.1 x.2 hr) (by simp)

/-- a reader goes along a text: it takes a front off, or leaves a character and goes on. -/
theorem Takes.induction {α : Type} {read : Text → Option (α × Text)} (h : Takes read)
    {motive : Text → Prop} (nil : motive [])
    (front : ∀ t a r, read t = some (a, r) → motive r → motive t)
    (char : ∀ c t, read (c :: t) = none → motive t → motive (c :: t)) (t : Text) : motive t := by
  induction t using length_induction with
  | step t ih =>
    cases hr : read t with
    | some x => exact front t x.1 x.2 hr (ih x.2 (h t x.1 x.2 hr))
    | none =>
      cases t with
      | nil => exact nil
      | cons c t => exact char c t hr (ih t (Nat.lt_succ_self _))

theorem rewrite_search_nil {α : Type} {read : Text → Option (α × Text)} (h : Takes read)
    (f : α → Text) : rewrite (search read) f [] = [] := by
  rw [rewrite_eq h.shrinks]
  simp [search, h.read_nil]

theorem rewrite_search_cons {α : Type} {read : Text → Option (α × Text)} (h : Takes read)
    (f : α → Text) (c : Char) (t : Text) :
    rewrite (search read) f (c :: t) = match read (c :: t) with
      | some (a, r) => f a ++ rewrite (search read) f r
      | none => c :: rewrite (search read) f t := by
  rw [rewrite_eq h.shrinks]
  cases hr : read (c :: t) with
  | some x => simp [search, hr]
  | none =>
    rw [rewrite_eq h.shrinks f t]
    cases hx : search read t with
    | none => simp [search, hr, hx]
    | some x => simp [search, hr, hx, Cut.push]

/-- `t` with `s` in place of every occurrence of the non-empty text `p`. -/
def replace (p s t : Text) : Text := rewrite (cut p) (fun _ => s) t

theorem takes_strip {p : Text} (hp : p ≠ []) :
    Takes fun t => (strip? p t).map fun r => ((), r) := by
  intro t a r h
  obtain ⟨r', h, e⟩ := Option.map_eq_some_iff.1 h
  cases e
  have hl : 0 < p.length := List.length_pos_iff.2 hp
  rw [strip?_eq_some.1 h, List.length_append]
  omega

theorem replace_nil {p : Text} (hp : p ≠ []) (s : Text) : replace p s [] = [] :=
  rewrite_search_nil (takes_strip hp) _

theorem replace_append {p : Text} (hp : p ≠ []) (s t : Text) :
    replace p s (p ++ t) = s ++ replace p s t := by
  obtain ⟨c, q, rfl⟩ := List.exists_cons_of_ne_nil hp
  refine (rewrite_search_cons (takes_strip hp) _ c (q ++ t)).trans ?_
  have := strip?_append (c :: q) t
  rw [List.cons_append] at this
  simp [this, replace, cut]

theorem replace_cons_of_not {p : Text} (hp : p ≠ []) (s : Text) {c : Char} {t : Text}
    (h : strip? p (c :: t) = none) : replace p s (c :: t) = c :: replace p s t := by
  refine (rewrite_search_cons (takes_strip hp) _ _ _).trans ?_
  simp [h, replace, cut]

/-- a replacement goes along a text: the pattern stands there, or a character is left. -/
theorem replace_induction {p : Text} (hp : p ≠ []) {motive : Text → Prop} (nil : motive [])
    (front : ∀ t, motive t → motive (p ++ t))
    (char : ∀ c t, strip? p (c :: t) = none → motive t → motive (c :: t)) (t : Text) :
    motive t := by
  induction t using (takes_strip hp).induction with
  | nil => exact nil
  | front t a r h ih =>
    obtain ⟨r, h, e⟩ := Option.map_eq_some_iff.1 h
    cases e
    rw [strip?_eq_some.1 h]
    exact front r ih
  | char c t h ih => exact char c t (Option.map_eq_none_iff.1 h) ih

/-- the first longest run of characters in `p`. -/
def run (p : Char → Bool) (t : Text) : Option (Cut Text) :=
  match t.dropWhile fun c => !p c with
  | [] => none
  | c :: r => some ⟨t.takeWhile fun c => !p c, c :: r.takeWhile p, r.dropWhile p⟩

/-- `t` with `f` of it in place of every longest run of characters in `p`. -/
def mapRuns (p : Char → Bool) (f : Text → Text) (t : Text) : Text := rewrite (run p) f t

end Text
end Bookpress
