import Bookpress.Tex.Command

/-!
# Symbols

Characters that the fonts of the document do not hold are written as commands, and Greek letters
in the Greek encoding.

* `typeset_append` : texts are typeset piece by piece.
-/

namespace Bookpress
namespace Tex

/-- `t` in math mode. -/
def math (t : Text) : Text := '$' :: (t ++ ['$'])

/-- the symbols and the LaTeX that prints them. -/
def symbols : List (Char × Text) := [
  (Char.ofNat 0xA0, [' ']),
  ('€', control "euro" ++ stop),
  ('→', math (control "rightarrow")),
  ('↦', math (control "mapsto")),
  ('−', math ['-']),
  ('–', math ['-']),
  ('⊥', math (control "perp")),
  ('°', control "degree" ++ stop),
  ('▶', math (control "blacktriangleright")),
  ('∢', math (control "angle")),
  ('≤', math (control "leq")),
  ('◊', math (control "lozenge")),
  ('↶', math (control "curvearrowleft")),
  ('∙', math (control "bullet")),
  ('⊕', math (control "oplus")),
  ('⊖', math (control "ominus"))]

/-- the Greek letters that are set in the Greek encoding. -/
def greek : Text := "αβΓγΔδεζηΘθΙικΛλμνΞξΟοΠπρΣσςτυΦφχΨψΩω".toList

/-- the LaTeX that prints a character. -/
def typesetChar (c : Char) : Text :=
  if greek.contains c then command "textgreek" [[c]]
  else match symbols.lookup c with
    | some s => s
    | none => [c]

/-- a text with every symbol written as LaTeX. -/
def typeset (t : Text) : Text := t.flatMap typesetChar

@[simp] theorem typeset_nil : typeset [] = [] := rfl

@[simp] theorem typeset_cons (c : Char) (t : Text) :
    typeset (c :: t) = typesetChar c ++ typeset t := by
  simp [typeset]

@[simp] theorem typeset_append (a b : Text) : typeset (a ++ b) = typeset a ++ typeset b := by
  simp [typeset]

end Tex
end Bookpress
