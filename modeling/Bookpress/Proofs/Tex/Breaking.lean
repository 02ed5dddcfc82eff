import Bookpress.Proofs.Tex.Wrapping
import Mathlib.Data.List.DropRight

/-!
# Where lines are broken

The column of the walk is the length of the line written so far, so that what is written for a space
can be told from the text before it and the word behind it.

* `wrapFrom_append_space` : a space is broken at exactly if the line so far and the next word go
  past the width.
* `wrapFrom_wrapFrom` : the walk finds nothing more to break the second time.
* `wrap_breaks` : with them, wrapping changes nothing else.
-/

namespace Bookpress
namespace Tex

/-- the line at the end of a text, after its last line feed. -/
def lastLine (t : Text) : Text := t.rtakeWhile fun c => c ≠ '\n'

/-- behind `before`, a space and the word at the front of `after` go past the width, and the line
has begun. -/
def Overflows (width : Nat) (before after : Text) : Prop :=
  lastLine before ≠ [] ∧ width < (lastLine before).length + 1 + (firstWord after).length

instance (width : Nat) (before after : Text) : Decidable (Overflows width before after) := by
  unfold Overflows
  infer_instance

/-! ## lines -/

@[simp] theorem lastLine_nil : lastLine [] = [] := rfl

@[simp] theorem lastLine_append_feed (t : Text) : lastLine (t ++ ['\n']) = [] :=
  List.rtakeWhile_concat_neg _ _ _ (by simp)

theorem lastLine_append_singleton {c : Char} (hf : c ≠ '\n') (t : Text) :
    lastLine (t ++ [c]) = lastLine t ++ [c] :=
  List.rtakeWhile_concat_pos _ _ _ (by simp [hf])

section
variable {width column column' : Nat} {t u before : Text} {c d : Char}

/-- the column of the walk is the length of the line. -/
theorem Step.length_lastLine (h : Step width column t c d column')
    (hbefore : (lastLine before).length = column) :
    (lastLine (before ++ [d])).length = column' := by
  have hkeep : ∀ e : Char, e ≠ '\n' → (lastLine (before ++ [e])).length = column + 1 := by
    intro e he
    rw [lastLine_append_singleton he, List.length_append, hbefore, List.length_singleton]
  cases h with
  | feed => exact congrArg List.length (lastLine_append_feed before)
  | breaks => exact congrArg List.length (lastLine_append_feed before)
  | stays => exact hkeep ' ' (by decide)
  | plain _ hf => exact hkeep _ hf

/-! ## where spaces are broken -/

/-- a space in the middle of a text, behind what is written for the text before it. -/
theorem wrapFrom_append_space (width : Nat) (hbefore : (lastLine before).length = column)
    (a b : Text) :
    ∃ u v, wrapFrom width column (a ++ ' ' :: b)
        = u ++ (if Overflows width (before ++ u) b then '\n' else ' ') :: v
      ∧ u.length = a.length := by
  induction a generalizing column before with
  | nil =>
    have hb : Overflows width before b
        ↔ 0 < column ∧ width < column + 1 + (firstWord b).length := by
      rw [Overflows, ← List.length_pos_iff, hbefore]
    rw [List.nil_append]
    by_cases ho : Overflows width before b
    · refine ⟨[], wrapFrom width 0 b, ?_, rfl⟩
      rw [wrapFrom_space_of_break (hb.1 ho).1 (hb.1 ho).2, List.append_nil, if_pos ho,
        List.nil_append]
    · refine ⟨[], wrapFrom width (column + 1) b, ?_, rfl⟩
      rw [wrapFrom_space_of_stay (fun h => ho (hb.2 h)), List.append_nil, if_neg ho,
        List.nil_append]
  | cons c a ih =>
    obtain ⟨d, column', hstep, he⟩ := wrapFrom_step width column c (a ++ ' ' :: b)
    obtain ⟨u, v, hu, hlength⟩ := ih (hstep.length_lastLine hbefore)
    refine ⟨d :: u, v, ?_, congrArg Nat.succ hlength⟩
    rw [List.cons_append, he, hu, List.append_assoc]
    rfl

/-! ## wrapping twice -/

theorem WrapsTo.firstWord_cons (h : WrapsTo c d) (hu : firstWord u = firstWord t) :
    firstWord (d :: u) = firstWord (c :: t) := by
  rcases h with rfl | ⟨rfl, rfl⟩
  · by_cases hs : d = ' '
    · rw [hs, firstWord_space, firstWord_space]
    · by_cases hf : d = '\n'
      · rw [hf, firstWord_feed, firstWord_feed]
      · rw [Tex.firstWord_cons hs hf, Tex.firstWord_cons hs hf, hu]
  · rw [firstWord_space, firstWord_feed]

theorem Wraps.firstWord_eq (h : Wraps t u) : firstWord u = firstWord t := by
  induction h with
  | nil => rfl
  | cons h _ ih => exact h.firstWord_cons ih

/-- what is written for a character is written for itself, in front of the same word. -/
theorem Step.again (h : Step width column t c d column') (hu : firstWord u = firstWord t) :
    wrapFrom width column (d :: u) = d :: wrapFrom width column' u := by
  cases h with
  | feed => exact wrapFrom_feed u
  | breaks => exact wrapFrom_feed u
  | stays room =>
    rw [← hu] at room
    exact wrapFrom_space_of_stay room
  | plain hs hf => exact wrapFrom_cons hs hf u

theorem wrapFrom_wrapFrom (width column : Nat) (t : Text) :
    wrapFrom width column (wrapFrom width column t) = wrapFrom width column t := by
  induction t generalizing column with
  | nil => rfl
  | cons c t ih =>
    obtain ⟨d, column', hstep, he⟩ := wrapFrom_step width column c t
    rw [he, hstep.again (wraps_wrapFrom width column' t).firstWord_eq, ih]

end

/-- **Where lines are broken.**  Wrapping turns some of the spaces into line feeds and keeps all
else: a space, exactly if the line written so far is not empty and goes past the width with a
space and the next word.  Wrapping again changes nothing. -/
theorem wrap_breaks (width : Nat) (t : Text) :
    Wraps t (wrap width t) ∧ (wrap width t).length = t.length
      ∧ (∀ a b, t = a ++ ' ' :: b → ∃ u v, u.length = a.length
          ∧ wrap width t = u ++ (if Overflows width u b then '\n' else ' ') :: v)
      ∧ wrap width (wrap width t) = wrap width t := by
  refine ⟨wraps_wrap width t, length_wrap width t, ?_, ?_⟩
  · rintro a b rfl
    obtain ⟨u, v, he, hu⟩ :=
      wrapFrom_append_space width (congrArg List.length lastLine_nil) a b
    rw [List.length_nil, List.nil_append, ← wrap_eq_wrapFrom] at he
    exact ⟨u, v, hu, he⟩
  · rw [wrap_eq_wrapFrom, wrap_eq_wrapFrom, wrapFrom_wrapFrom]

end Tex
end Bookpress
