import Bookpress.Proofs.Text.Rewriting
import Bookpress.Proofs.Tex.Escaping

/-!
# Counting a character

How often a character stands in a text before and after a replacement.

* `count_rewrite_le` : a replacement that writes a character no more often than it stood in each hit
  does not make it more frequent.
* `AddsNo` : the functions that make a character no more frequent, closed under composition.
-/

namespace Bookpress
namespace Text

/-- a function of texts that makes a character no more frequent. -/
def AddsNo (c : Char) (f : Text → Text) : Prop := ∀ t, (f t).count c ≤ t.count c

section
variable {c : Char} {α : Type} {find : Text → Option (Cut α)}

theorem AddsNo.comp {f h : Text → Text} (hf : AddsNo c f) (hh : AddsNo c h) :
    AddsNo c fun t => f (h t) :=
  fun t => Nat.le_trans (hf (h t)) (hh t)

theorem AddsNo.foldl {fs : List (Text → Text)} (h : ∀ f ∈ fs, AddsNo c f) :
    AddsNo c fun t => fs.foldl (fun t f => f t) t := by
  induction fs with
  | nil => exact fun t => Nat.le_refl _
  | cons f fs ih =>
    rw [List.forall_mem_cons] at h
    exact AddsNo.comp (f := fun t => fs.foldl (fun t f => f t) t) (ih h.2) h.1

theorem addsNo_of_sublist {f : Text → Text} (h : ∀ t, (f t).Sublist t) : AddsNo c f :=
  fun t => (h t).count_le c

/-! ## replacements -/

theorem count_rewrite_le {f : α → Text} (h : Shrinks find)
    (hf : ∀ t x, find t = some x →
      ∃ u, t = x.before ++ (u ++ x.after) ∧ (f x.hit).count c ≤ u.count c) :
    AddsNo c (rewrite find f) := by
  intro t
  induction t using h.induction with
  | last t hx =>
    have hsame : rewrite find f t = t := by rw [rewrite_eq h, hx]
    exact Nat.le_of_eq (congrArg (List.count c) hsame)
  | more t x hx ih =>
    obtain ⟨u, hu, hle⟩ := hf t x hx
    have hsum := congrArg (List.count c) hu
    rw [rewrite_eq h, hx]
    simp only [List.count_append] at hsum ⊢
    omega

/-- the replacement of what a reader of fronts has read. -/
theorem addsNo_rewrite_search {read : Text → Option (α × Text)} {f : α → Text} (h : Takes read)
    (hf : ∀ t a r, read t = some (a, r) → ∃ u, t = u ++ r ∧ (f a).count c ≤ u.count c) :
    AddsNo c (rewrite (search read) f) := by
  refine count_rewrite_le h.shrinks fun t x hx => ?_
  obtain ⟨s, hs, hr⟩ := search_eq_some hx
  obtain ⟨u, rfl, hle⟩ := hf s _ _ hr
  exact ⟨u, hs, hle⟩

theorem addsNo_replace {p s : Text} (hp : p ≠ []) (h : s.count c ≤ p.count c) :
    AddsNo c (replace p s) :=
  count_rewrite_le (takes_strip hp).shrinks fun _ _ hx => ⟨p, cut_eq_some hx, h⟩

theorem addsNo_mapRuns {p : Char → Bool} {f : Text → Text} (h : AddsNo c f) :
    AddsNo c (mapRuns p f) := by
  refine count_rewrite_le shrinks_run fun t x hx => ?_
  obtain ⟨d, r, hd, -, rfl⟩ := run_eq_some hx
  refine ⟨d :: r.takeWhile p, ?_, h _⟩
  have := @List.takeWhile_append_dropWhile _ (fun c => !p c) t
  rw [List.cons_append, List.takeWhile_append_dropWhile, ← hd, this]

/-- every run becomes a text without the character. -/
theorem addsNo_mapRuns_const {p : Char → Bool} {s : Text} (h : c ∉ s) :
    AddsNo c (mapRuns p fun _ => s) :=
  addsNo_mapRuns fun t => by rw [List.count_eq_zero_of_not_mem h]; exact Nat.zero_le _

/-! ## white space -/

theorem addsNo_trim : AddsNo c trim := by
  refine addsNo_of_sublist fun t => ?_
  have hend : ∀ t : Text, (trimEnd t).Sublist t := fun t => by
    have := (List.dropWhile_sublist isBlank (l := t.reverse)).reverse
    rwa [List.reverse_reverse] at this
  exact (hend _).trans (List.dropWhile_sublist _)

theorem addsNo_foldBlanks (h : c ≠ ' ') : AddsNo c foldBlanks :=
  addsNo_mapRuns_const (by simpa using h)

theorem addsNo_foldBlankRuns (h : c ≠ ' ') : AddsNo c foldBlankRuns := by
  refine addsNo_mapRuns fun r => ?_
  split
  · rw [List.count_eq_zero_of_not_mem (by simpa using h)]
    exact Nat.zero_le _
  · exact Nat.le_refl _

end

end Text

namespace Tex

variable {c : Char}

/-- a character that stands for itself does not come out of sequences. -/
theorem addsNo_unescape (h : isSpecial c = false) : Text.AddsNo c unescape := by
  refine Text.addsNo_rewrite_search takes_readSpecial fun t d r hr => ?_
  obtain ⟨x, hx, hr⟩ := List.exists_of_findSome?_eq_some hr
  obtain ⟨s, hs, e⟩ := Option.map_eq_some_iff.1 hr
  cases e
  refine ⟨x.2, Text.strip?_eq_some.1 hs, ?_⟩
  rw [List.count_eq_zero_of_not_mem]
  · exact Nat.zero_le _
  · rw [List.mem_singleton]
    rintro rfl
    rw [isSpecial_of_mem hx] at h
    cases h

/-- a character of no sequence is as frequent in an escaped text as before. -/
theorem count_escape (h : isSpecial c = false) (hs : ∀ x ∈ specials, c ∉ x.2) (t : Text) :
    (escape t).count c = t.count c := by
  induction t with
  | nil => rfl
  | cons d t ih =>
    rw [escape_cons, List.count_append, ih, List.count_cons]
    cases hd : isSpecial d with
    | true =>
      have hne : (d == c) = false := beq_eq_false_iff_ne.2 fun e => by rw [e, h] at hd; cases hd
      rw [List.count_eq_zero_of_not_mem (hs _ (escapeChar_of_isSpecial hd)), hne]
      simp
    | false =>
      rw [escapeChar_of_not_isSpecial hd, List.count_singleton, Nat.add_comm]

end Tex
end Bookpress
