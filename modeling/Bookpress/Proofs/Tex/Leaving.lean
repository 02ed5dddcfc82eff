import Bookpress.Proofs.Tex.Nesting

/-!
# Leaving out what is balanced

Two texts nest alike if they open and close the same groups, whatever follows.  What is balanced
nests like nothing at all, so it may be left out of a text, also out of one that is not balanced
itself, except behind a backslash, which would take another character then.

* `NestsLike.append`, `NestsLike.group` : texts may be replaced by ones that nest alike.
* `NestsLike.skip` : what is balanced may be left out.
* `NestsLike.balanced_iff` : balance may be read off what is left.
-/

namespace Bookpress
namespace Tex

variable {a b c u x : Text} {d e : Nat}

/-! ## one character at a time -/

theorem nests_pair_iff {k : Char} : Nests d ('\\' :: k :: x) e ↔ Nests d x e := by
  refine ⟨fun h => ?_, .pair k⟩
  cases h with
  | pair _ h => exact h
  | plain slash _ _ _ => exact absurd rfl slash

theorem nests_opens_iff : Nests d ('{' :: x) e ↔ Nests (d + 1) x e := by
  refine ⟨fun h => ?_, .opens⟩
  cases h with
  | plain _ opens _ _ => exact absurd rfl opens
  | opens h => exact h

theorem nests_closes_iff : Nests d ('}' :: x) e ↔ ∃ m, d = m + 1 ∧ Nests m x e := by
  constructor
  · intro h
    cases h with
    | plain _ _ closes _ => exact absurd rfl closes
    | closes h => exact ⟨_, rfl, h⟩
  · rintro ⟨m, rfl, h⟩
    exact .closes h

theorem nests_plain_iff {k : Char} (slash : k ≠ '\\') (opens : k ≠ '{') (closes : k ≠ '}') :
    Nests d (k :: x) e ↔ Nests d x e := by
  refine ⟨fun h => ?_, .plain slash opens closes⟩
  cases h with
  | pair => exact absurd rfl slash
  | plain _ _ _ h => exact h
  | opens => exact absurd rfl opens
  | closes => exact absurd rfl closes

/-! ## texts that nest alike -/

/-- whatever follows, `a` and `b` open and close the same groups. -/
def NestsLike (a b : Text) : Prop := ∀ d r e, Nests d (a ++ r) e ↔ Nests d (b ++ r) e

/-- whether a text does not end in a backslash, which would take what follows. -/
def isSealed (t : Text) : Bool := t.getLast? ≠ some '\\'

theorem isSealed_append (hb : isSealed b = true) (ha : isSealed a = true) :
    isSealed (a ++ b) = true := by
  simp only [isSealed, decide_eq_true_eq] at *
  rw [List.getLast?_append]
  cases h : b.getLast? with
  | none => exact ha
  | some k =>
    rw [h] at hb
    exact hb

theorem isSealed_group (t : Text) : isSealed (group t) = true := by
  simp [isSealed, group, List.getLast?_cons]

theorem isSealed_flatten {ts : List Text} (h : ∀ t ∈ ts, isSealed t = true) :
    isSealed ts.flatten = true := by
  induction ts with
  | nil => rfl
  | cons t ts ih =>
    rw [List.forall_mem_cons] at h
    exact isSealed_append (ih h.2) h.1

theorem Balanced.flatMap {α : Type} {f : α → Text} {xs : List α}
    (h : ∀ k ∈ xs, Balanced (f k)) : Balanced (xs.flatMap f) := by
  induction xs with
  | nil => exact .nil
  | cons k xs ih =>
    rw [List.forall_mem_cons] at h
    exact h.1.append (ih h.2)

namespace NestsLike

theorem refl (a : Text) : NestsLike a a := fun _ _ _ => .rfl

theorem trans (h : NestsLike a b) (h' : NestsLike b c) : NestsLike a c :=
  fun d r e => (h d r e).trans (h' d r e)

/-- **What is balanced nests like nothing at all.** -/
theorem of_balanced (h : Balanced u) : NestsLike u [] := by
  intro d r e
  induction h generalizing d r with
  | nil => rfl
  | pair k _ ih => exact nests_pair_iff.trans (ih d r)
  | plain slash opens closes _ ih => exact (nests_plain_iff slash opens closes).trans (ih d r)
  | @braces s t _ _ ihs iht =>
    have hassoc : '{' :: (s ++ '}' :: t) ++ r = '{' :: (s ++ ('}' :: (t ++ r))) := by simp
    rw [hassoc, nests_opens_iff, ihs, List.nil_append, nests_closes_iff]
    constructor
    · rintro ⟨m, hm, h⟩
      cases hm
      exact (iht d r).1 h
    · exact fun h => ⟨d, rfl, (iht d r).2 h⟩

/-- a character in front does not matter, unless it is a backslash. -/
theorem cons (h : NestsLike a b) {k : Char} (hk : k ≠ '\\') : NestsLike (k :: a) (k :: b) := by
  intro d r e
  by_cases ho : k = '{'
  · subst ho
    exact nests_opens_iff.trans ((h _ r e).trans nests_opens_iff.symm)
  by_cases hc : k = '}'
  · subst hc
    refine nests_closes_iff.trans (.trans ?_ nests_closes_iff.symm)
    exact exists_congr fun m => and_congr_right fun _ => h m r e
  · exact (nests_plain_iff hk ho hc).trans ((h d r e).trans (nests_plain_iff hk ho hc).symm)

/-- a text in front does not matter, unless it ends in a backslash. -/
theorem left (h : NestsLike a b) : {x : Text} → isSealed x = true → NestsLike (x ++ a) (x ++ b)
  | [], _ => h
  | [k], hx => by
    have hslash : k ≠ '\\' := by simpa [isSealed] using hx
    exact h.cons hslash
  | k :: m :: x, hx => by
    have hrest : isSealed (m :: x) = true := by simpa [isSealed] using hx
    by_cases hk : k = '\\'
    · subst hk
      have hx : isSealed x = true := by
        cases x with
        | nil => rfl
        | cons n x => simpa [isSealed] using hrest
      exact fun d r e => nests_pair_iff.trans ((left h hx d r e).trans nests_pair_iff.symm)
    · exact (left h hrest).cons hk

theorem append {a' b' : Text} (h : NestsLike a b) (hb : isSealed b = true)
    (h' : NestsLike a' b') : NestsLike (a ++ a') (b ++ b') := by
  refine trans (fun d r e => ?_) (h'.left hb)
  simpa using h d (a' ++ r) e

/-- what is balanced may be left out in front of a text. -/
theorem skip (hu : Balanced u) (h : NestsLike a b) : NestsLike (u ++ a) b := by
  refine trans (fun d r e => ?_) h
  simpa using of_balanced hu d (a ++ r) e

/-- what is balanced may be left out behind a text that does not end in a backslash. -/
theorem skip_right (h : NestsLike a b) (hb : isSealed b = true) (hu : Balanced u) :
    NestsLike (a ++ u) b := by
  simpa using h.append hb (of_balanced hu)

theorem group (h : NestsLike a b) : NestsLike (group a) (group b) := by
  intro d r e
  have hassoc : ∀ t : Text, Tex.group t ++ r = '{' :: (t ++ '}' :: r) := by simp [Tex.group]
  rw [hassoc, hassoc, nests_opens_iff, nests_opens_iff]
  exact h (d + 1) ('}' :: r) e

theorem balanced_iff (h : NestsLike a b) : Balanced a ↔ Balanced b := by
  have := h 0 [] 0
  rwa [List.append_nil, List.append_nil, nests_zero_iff, nests_zero_iff] at this

theorem flatMap {α : Type} {f g : α → Text} {xs : List α}
    (h : ∀ k ∈ xs, NestsLike (f k) (g k) ∧ isSealed (g k) = true) :
    NestsLike (xs.flatMap f) (xs.flatMap g) := by
  induction xs with
  | nil => exact refl []
  | cons k xs ih =>
    rw [List.forall_mem_cons] at h
    exact h.1.1.append h.1.2 (ih h.2)

end NestsLike
end Tex
end Bookpress
