import Bookpress.Proofs.Tex.Nesting
import Bookpress.Proofs.Text.Splitting
import Bookpress.Tex.Wrap
import Mathlib.Data.List.Forall2

/-!
# What wrapping changes

Wrapping read character by character: what is written for a character depends on the length of the
line written so far and on the next word, and on nothing else.

* `Step` : what is written for one character, and how long the line is then.
* `wrap_eq_wrapFrom` : the lines and words of wrapping are one walk along the text.
* `wraps_wrap` : wrapping turns some spaces into line feeds and changes nothing else.
* `Balanced.wrap` : so braces still balance.
-/

namespace Bookpress
namespace Tex

/-- the word at the front of a text, up to a space or a line feed. -/
def firstWord (t : Text) : Text := t.takeWhile fun c => c ≠ ' ' ∧ c ≠ '\n'

/-- a text wrapped behind a line of `column` characters. -/
def wrapFrom (width : Nat) : Nat → Text → Text
  | _, [] => []
  | column, c :: t =>
    if c = '\n' then '\n' :: wrapFrom width 0 t
    else if c = ' ' ∧ 0 < column ∧ width < column + 1 + (firstWord t).length then
      '\n' :: wrapFrom width 0 t
    else c :: wrapFrom width (column + 1) t

@[simp] theorem firstWord_nil : firstWord [] = [] := rfl

@[simp] theorem firstWord_space (t : Text) : firstWord (' ' :: t) = [] := rfl

@[simp] theorem firstWord_feed (t : Text) : firstWord ('\n' :: t) = [] := rfl

theorem firstWord_cons {c : Char} (hs : c ≠ ' ') (hf : c ≠ '\n') (t : Text) :
    firstWord (c :: t) = c :: firstWord t :=
  List.takeWhile_cons_of_pos (by simp [hs, hf])

theorem firstWord_append {w t : Text} (hs : ' ' ∉ w) (hf : '\n' ∉ w) :
    firstWord (w ++ t) = w ++ firstWord t := by
  induction w with
  | nil => rfl
  | cons c w ih =>
    rw [List.mem_cons, not_or] at hs hf
    rw [List.cons_append, firstWord_cons (Ne.symm hs.1) (Ne.symm hf.1), ih hs.2 hf.2,
      List.cons_append]

/-! ## one walk along the text -/

section
variable {width column : Nat}

theorem wrapFrom_feed (t : Text) :
    wrapFrom width column ('\n' :: t) = '\n' :: wrapFrom width 0 t := by
  rw [wrapFrom, if_pos rfl]

theorem wrapFrom_cons {c : Char} (hs : c ≠ ' ') (hf : c ≠ '\n') (t : Text) :
    wrapFrom width column (c :: t) = c :: wrapFrom width (column + 1) t := by
  rw [wrapFrom, if_neg hf, if_neg fun h => hs h.1]

theorem wrapFrom_space_of_break {t : Text} (hc : 0 < column)
    (hw : width < column + 1 + (firstWord t).length) :
    wrapFrom width column (' ' :: t) = '\n' :: wrapFrom width 0 t := by
  rw [wrapFrom, if_neg (by decide), if_pos ⟨rfl, hc, hw⟩]

theorem wrapFrom_space_of_stay {t : Text}
    (h : ¬ (0 < column ∧ width < column + 1 + (firstWord t).length)) :
    wrapFrom width column (' ' :: t) = ' ' :: wrapFrom width (column + 1) t := by
  rw [wrapFrom, if_neg (by decide), if_neg fun h' => h h'.2]

theorem wrapFrom_append {w : Text} (hs : ' ' ∉ w) (hf : '\n' ∉ w) (t : Text) :
    wrapFrom width column (w ++ t) = w ++ wrapFrom width (column + w.length) t := by
  induction w generalizing column with
  | nil => rfl
  | cons c w ih =>
    rw [List.mem_cons, not_or] at hs hf
    rw [List.cons_append, wrapFrom_cons (Ne.symm hs.1) (Ne.symm hf.1), ih hs.2 hf.2,
      List.cons_append, List.length_cons, Nat.add_right_comm, Nat.add_assoc]

/-- behind a line nothing is left of its column. -/
theorem wrapFrom_words {ws : List Text} (hws : ∀ w ∈ ws, ' ' ∉ w ∧ '\n' ∉ w) {r : Text}
    (hr : firstWord r = []) (hfrom : ∀ column, wrapFrom width column r = wrapFrom width 0 r) :
    wrapFrom width column (ws.flatMap (' ' :: ·) ++ r)
      = wrapWords width column ws ++ wrapFrom width 0 r := by
  induction ws generalizing column with
  | nil => exact hfrom column
  | cons w ws ih =>
    rw [List.forall_mem_cons] at hws
    obtain ⟨⟨hs, hf⟩, hws⟩ := hws
    -- the word after the space ends at the next space or at the end of the line
    have hnext : firstWord (ws.flatMap (' ' :: ·) ++ r) = [] := by
      cases ws with
      | nil => exact hr
      | cons v ws => rfl
    have hword : firstWord (w ++ (ws.flatMap (' ' :: ·) ++ r)) = w := by
      rw [firstWord_append hs hf, hnext, List.append_nil]
    rw [List.flatMap_cons, List.append_assoc, List.cons_append, wrapWords]
    by_cases hb : 0 < column ∧ width < column + 1 + w.length
    · rw [if_pos hb, wrapFrom_space_of_break hb.1 (by rw [hword]; exact hb.2),
        wrapFrom_append hs hf, ih hws, Nat.zero_add, List.cons_append, List.append_assoc]
    · rw [if_neg hb, wrapFrom_space_of_stay (by rw [hword]; exact hb), wrapFrom_append hs hf,
        ih hws, List.cons_append, List.append_assoc]

theorem wrapFrom_line {l r : Text} (hf : '\n' ∉ l) (hr : firstWord r = [])
    (hfrom : ∀ column, wrapFrom width column r = wrapFrom width 0 r) :
    wrapFrom width 0 (l ++ r) = wrapLine width l ++ wrapFrom width 0 r := by
  have hws : ∀ w ∈ Text.split ' ' l, ' ' ∉ w ∧ '\n' ∉ w :=
    fun w hw => Text.not_mem_of_mem_split hf hw
  have hl := cons_eq_flatMap_split ' ' l
  unfold wrapLine
  split
  · rename_i e
    exact absurd e (Text.split_ne_nil ' ' l)
  · rename_i w ws e
    rw [e, List.forall_mem_cons] at hws
    rw [e, List.flatMap_cons, List.cons_append, List.cons.injEq] at hl
    rw [hl.2, List.append_assoc, wrapFrom_append hws.1.1 hws.1.2,
      wrapFrom_words hws.2 hr hfrom, Nat.zero_add, List.append_assoc]

/-- **Wrapping is one walk along the text.** -/
theorem wrap_eq_wrapFrom (width : Nat) (t : Text) : wrap width t = wrapFrom width 0 t := by
  unfold wrap
  induction t using Text.split_induction (c := '\n') with
  | last l hf =>
    have := @wrapFrom_line width l [] hf rfl fun _ => rfl
    rw [List.append_nil] at this
    rw [Text.split_of_not_mem hf, this]
    exact (List.append_nil _).symm
  | more l t hf ih =>
    rw [Text.split_append_cons, Text.split_of_not_mem hf, List.singleton_append, List.map_cons,
      Text.join_cons _ _ (by simp [Text.split_ne_nil]), ih,
      wrapFrom_line hf rfl fun _ => wrapFrom_feed t, wrapFrom_feed]

end

/-! ## one step of the walk -/

/-- in front of `t` and behind `column` characters, a character is written as another one, and so
many characters are then in the line. -/
inductive Step (width column : Nat) (t : Text) : Char → Char → Nat → Prop
  | feed : Step width column t '\n' '\n' 0
  | breaks (begun : 0 < column) (long : width < column + 1 + (firstWord t).length) :
      Step width column t ' ' '\n' 0
  | stays (room : ¬ (0 < column ∧ width < column + 1 + (firstWord t).length)) :
      Step width column t ' ' ' ' (column + 1)
  | plain {c : Char} (space : c ≠ ' ') (feed : c ≠ '\n') : Step width column t c c (column + 1)

theorem wrapFrom_step (width column : Nat) (c : Char) (t : Text) :
    ∃ d column', Step width column t c d column' ∧
      wrapFrom width column (c :: t) = d :: wrapFrom width column' t := by
  by_cases hf : c = '\n'
  · subst hf
    exact ⟨'\n', 0, .feed, wrapFrom_feed t⟩
  · by_cases hs : c = ' '
    · subst hs
      by_cases hb : 0 < column ∧ width < column + 1 + (firstWord t).length
      · exact ⟨'\n', 0, .breaks hb.1 hb.2, wrapFrom_space_of_break hb.1 hb.2⟩
      · exact ⟨' ', column + 1, .stays hb, wrapFrom_space_of_stay hb⟩
    · exact ⟨c, column + 1, .plain hs hf, wrapFrom_cons hs hf t⟩

/-! ## what becomes of a character -/

/-- the same character, or a line feed for a space. -/
def WrapsTo (a b : Char) : Prop := b = a ∨ a = ' ' ∧ b = '\n'

/-- `u` is `t` with line feeds for some of its spaces. -/
def Wraps (t u : Text) : Prop := List.Forall₂ WrapsTo t u

theorem Step.wrapsTo {width column column' : Nat} {t : Text} {c d : Char}
    (h : Step width column t c d column') : WrapsTo c d := by
  cases h with
  | feed => exact .inl rfl
  | breaks => exact .inr ⟨rfl, rfl⟩
  | stays => exact .inl rfl
  | plain => exact .inl rfl

theorem wraps_wrapFrom (width column : Nat) (t : Text) : Wraps t (wrapFrom width column t) := by
  induction t generalizing column with
  | nil => exact .nil
  | cons c t ih =>
    obtain ⟨d, column', hstep, he⟩ := wrapFrom_step width column c t
    rw [he]
    exact .cons hstep.wrapsTo (ih column')

/-- **Wrapping turns spaces into line feeds and changes nothing else.** -/
theorem wraps_wrap (width : Nat) (t : Text) : Wraps t (wrap width t) := by
  rw [wrap_eq_wrapFrom]
  exact wraps_wrapFrom width 0 t

/-! ## braces -/

theorem Nests.wraps {d e : Nat} {t u : Text} (h : Nests d t e) (hu : Wraps t u) :
    Nests d u e := by
  induction h generalizing u with
  | nil d =>
    cases hu
    exact .nil d
  | pair c _ ih =>
    obtain _ | ⟨ha, hu⟩ := hu
    obtain _ | ⟨hb, hu⟩ := hu
    rcases ha with rfl | ⟨ha, -⟩
    · exact .pair _ (ih hu)
    · cases ha
  | plain slash opens closes _ ih =>
    obtain _ | ⟨ha, hu⟩ := hu
    rcases ha with rfl | ⟨-, rfl⟩
    · exact .plain slash opens closes (ih hu)
    · exact .plain (by decide) (by decide) (by decide) (ih hu)
  | opens _ ih =>
    obtain _ | ⟨ha, hu⟩ := hu
    rcases ha with rfl | ⟨ha, -⟩
    · exact .opens (ih hu)
    · cases ha
  | closes _ ih =>
    obtain _ | ⟨ha, hu⟩ := hu
    rcases ha with rfl | ⟨ha, -⟩
    · exact .closes (ih hu)
    · cases ha

theorem Balanced.wrap {t : Text} (h : Balanced t) (width : Nat) : Balanced (Tex.wrap width t) :=
  nests_zero_iff.1 ((h.nests 0).wraps (wraps_wrap width t))

end Tex
end Bookpress
