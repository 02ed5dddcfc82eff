import Bookpress.Markup.Span
import Bookpress.Proofs.Text.Rewriting
import Mathlib.Logic.Function.Iterate

/-!
# What a rule finds

* `shrinks_find` : a rule with an opening goes on behind what it has found.
* `param_of_find` : a parameter is not empty and ends at the first bracket.
* `find_eq_none_of_lacks` : a rule finds nothing in a text that lacks its opening.
* `exhaust_induction` : what one pass keeps is kept by passes until there is nothing left.
* `exists_iterate` : passes that make a number smaller are run until there is nothing left.
-/

namespace Bookpress
namespace Markup
namespace Rule

variable {r : Rule}

theorem shrinks_find (h : r.opening ≠ []) : Text.Shrinks r.find := by
  intro t x hx
  have := congrArg List.length (find_eq_some hx)
  have hlen := List.length_pos_iff.2 h
  simp only [write, List.length_append] at this
  omega

theorem once_eq (h : r.opening ≠ []) (render : Span → Text) (t : Text) :
    r.once render t = match r.find t with
      | none => t
      | some x => x.before ++ (render x.hit ++ r.once render x.after) := by
  show Text.rewrite r.find render t = _
  rw [Text.rewrite_eq (shrinks_find h)]
  cases r.find t <;> rfl

theorem param_of_readSpan (hp : r.takesParam = true) {t after : Text} {s : Span}
    (h : r.readSpan t = .span s after) : s.param ≠ [] ∧ ']' ∉ s.param := by
  unfold readSpan at h
  rw [if_pos hp] at h
  split at h
  · cases h
  · rename_i x hx
    split at h
    · cases h
    · rename_i hb
      rw [(readInner_eq_span h).2.1]
      exact ⟨fun e => hb (by simp [e]), Text.not_mem_of_cut hx⟩

theorem param_of_find (hp : r.takesParam = true) {t : Text} {x : Text.Cut Span}
    (h : r.find t = some x) : x.hit.param ≠ [] ∧ ']' ∉ x.hit.param := by
  induction t generalizing x with
  | nil =>
    unfold find at h
    split at h
    · split at h
      · rename_i hs
        cases h
        exact param_of_readSpan hp hs
      · cases h
    · cases h
  | cons c t ih =>
    unfold find at h
    split at h
    · obtain ⟨y, hy, rfl⟩ := Option.map_eq_some_iff.1 h
      have := ih hy
      exact this
    · split at h
      · rename_i hs
        cases h
        exact param_of_readSpan hp hs
      · split at h
        · obtain ⟨y, hy, rfl⟩ := Option.map_eq_some_iff.1 h
          have := ih hy
          exact this
        · cases h
      · cases h

theorem exhaust_induction {motive : Text → Prop} {render : Span → Text}
    (pass : ∀ t, motive t → motive (r.once render t)) {t : Text} (h : motive t) :
    motive (r.exhaust render t) := by
  unfold exhaust
  generalize t.length + 1 = fuel
  induction fuel generalizing t with
  | zero => exact h
  | succ fuel ih =>
    unfold passes
    dsimp only
    split
    · exact h
    · exact ih (pass t h)

/-! ## nothing to find -/

theorem find_eq_none_of_lacks {t : Text} (ho : r.opening ≠ [])
    (h : Text.lacks r.opening t = true) : r.find t = none := by
  induction t with
  | nil =>
    unfold find
    rw [if_neg ho]
  | cons c t ih =>
    simp only [Text.lacks, Bool.and_eq_true] at h
    unfold find
    rw [Text.strip?_eq_none_of_differ h.1, ih h.2]
    rfl

theorem spans_of_none (ho : r.opening ≠ []) {t : Text} (h : r.find t = none) :
    r.spans t = ([], t) := by
  rw [spans, Text.cuts_eq (shrinks_find ho), h]

theorem once_of_none (ho : r.opening ≠ []) {t : Text} (h : r.find t = none)
    (render : Span → Text) : r.once render t = t := by
  rw [once_eq ho, h]

theorem exhaust_of_none (ho : r.opening ≠ []) {t : Text} (h : r.find t = none)
    (render : Span → Text) : r.exhaust render t = t := by
  unfold exhaust passes
  rw [spans_of_none ho h]
  rfl

/-! ## passes -/

theorem isEmpty_spans_iff (ho : r.opening ≠ []) {t : Text} :
    (r.spans t).1.isEmpty = true ↔ r.find t = none := by
  rw [spans, Text.cuts_eq (shrinks_find ho)]
  cases r.find t <;> simp

/-- passes that make a number smaller are run until there is nothing to find. -/
theorem exists_iterate (ho : r.opening ≠ []) {render : Span → Text} {f : Text → Nat}
    (h : ∀ t, r.find t ≠ none → f (r.once render t) < f t) {fuel : Nat} {t : Text}
    (ht : f t < fuel) :
    ∃ n, (∀ m, m < n → r.find ((r.once render)^[m] t) ≠ none) ∧
      r.find ((r.once render)^[n] t) = none ∧ r.passes render fuel t = (r.once render)^[n] t := by
  induction fuel generalizing t with
  | zero => omega
  | succ fuel ih =>
    unfold passes
    dsimp only
    by_cases hx : r.find t = none
    · rw [if_pos ((isEmpty_spans_iff ho).2 hx)]
      exact ⟨0, fun m hm => absurd hm (Nat.not_lt_zero m), hx, rfl⟩
    · have hlt := h t hx
      obtain ⟨n, hsome, hnone, hpasses⟩ := ih (t := r.once render t) (by omega)
      rw [if_neg fun he => hx ((isEmpty_spans_iff ho).1 he)]
      refine ⟨n + 1, fun m hm => ?_, hnone, hpasses⟩
      cases m with
      | zero => exact hx
      | succ m => exact hsome m (Nat.lt_of_succ_lt_succ hm)

end Rule
end Markup
end Bookpress
