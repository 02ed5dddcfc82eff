import Bookpress.Text.Basic

/-!
# Line wrapping

Long lines are broken at spaces: a space becomes a line feed when the word after it would go past
the width.  Words are never cut, and the line feeds of the text stay.

* `length_wrap` : wrapping keeps the number of characters.
-/

namespace Bookpress
namespace Tex

/-- the column at which documents are wrapped. -/
def wrapColumn : Nat := 75

/-- the words after a word that ends in `column`, each with the space or line feed before it. -/
def wrapWords (width : Nat) : Nat → List Text → Text
  | _, [] => []
  | column, w :: ws =>
    if 0 < column ∧ width < column + 1 + w.length then
      '\n' :: (w ++ wrapWords width w.length ws)
    else ' ' :: (w ++ wrapWords width (column + 1 + w.length) ws)

/-- one line, broken at spaces. -/
def wrapLine (width : Nat) (l : Text) : Text :=
  match Text.split ' ' l with
  | [] => []
  | w :: ws => w ++ wrapWords width w.length ws

/-- a text with every line wrapped. -/
def wrap (width : Nat) (t : Text) : Text :=
  Text.join '\n' ((Text.split '\n' t).map (wrapLine width))

theorem length_wrapWords (width column : Nat) (ws : List Text) :
    (wrapWords width column ws).length = (ws.flatMap (' ' :: ·)).length := by
  induction ws generalizing column with
  | nil => rfl
  | cons w ws ih =>
    unfold wrapWords
    split <;> simp [ih]

theorem cons_join (c : Char) {ls : List Text} (h : ls ≠ []) :
    c :: Text.join c ls = ls.flatMap (c :: ·) := by
  induction ls with
  | nil => exact absurd rfl h
  | cons l ls ih =>
    cases ls with
    | nil => simp [Text.join]
    | cons m ls => rw [Text.join_cons c l (by simp), List.flatMap_cons, ← ih (by simp)]; rfl

theorem cons_eq_flatMap_split (c : Char) (t : Text) :
    c :: t = (Text.split c t).flatMap (c :: ·) := by
  rw [← cons_join c (Text.split_ne_nil c t), Text.join_split]

theorem length_wrapLine (width : Nat) (l : Text) : (wrapLine width l).length = l.length := by
  have h := congrArg List.length (cons_eq_flatMap_split ' ' l)
  unfold wrapLine
  split
  · rename_i e
    exact absurd e (Text.split_ne_nil ' ' l)
  · rename_i w ws e
    rw [e, List.flatMap_cons] at h
    simp only [List.length_append, List.length_cons, length_wrapWords] at h ⊢
    omega

theorem length_flatMap_wrapLine (width : Nat) (ls : List Text) :
    ((ls.map (wrapLine width)).flatMap ('\n' :: ·)).length = (ls.flatMap ('\n' :: ·)).length := by
  induction ls with
  | nil => rfl
  | cons l ls ih =>
    simp only [List.map_cons, List.flatMap_cons, List.length_append, List.length_cons, ih,
      length_wrapLine]

theorem length_wrap (width : Nat) (t : Text) : (wrap width t).length = t.length := by
  have h := congrArg List.length (cons_eq_flatMap_split '\n' t)
  have hw := congrArg List.length
    (@cons_join '\n' ((Text.split '\n' t).map (wrapLine width)) (by simp [Text.split_ne_nil]))
  rw [length_flatMap_wrapLine, ← h] at hw
  unfold wrap
  simpa using hw

end Tex
end Bookpress
