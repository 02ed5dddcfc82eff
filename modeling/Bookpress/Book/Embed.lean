import Bookpress.Text.Blank

/-!
# Embedded elements

What the page says about an application or a video: the picture that shows it and the name under
which it is found.

* `file?_eq_some_of_of?` : the file of a preview is named by the first call in the script.
-/

namespace Bookpress

/-- the picture of an application and the name of its material. -/
structure Preview where
  file : Text
  material : Text
deriving Repr, DecidableEq

namespace Preview

/-- the call that names the picture of an application. -/
def call : Text := "setPreviewImage(".toList ++ [apostrophe]

/-- the argument of a call at the front of a text: it has no blanks, and an apostrophe ends it. -/
def readArgument (t : Text) : Option (Text × Text) :=
  (Text.strip? call t).bind fun r =>
    let argument := r.takeWhile fun c => c ≠ apostrophe ∧ !Text.isBlank c
    match r.drop argument.length with
    | c :: rest => if c = apostrophe ∧ argument ≠ [] then some (argument, rest) else none
    | [] => none

/-- the file that the first call in a script names. -/
def file? (script : Text) : Option Text := (Text.search readArgument script).map Text.Cut.hit

/-- the material of a file: what follows the first dash, up to the last point after it. -/
def material? (file : Text) : Option Text :=
  (Text.around? ['-'] file).bind fun (_, rest) =>
    let name := match Text.splitLast? '.' rest with
      | some (a, _) => a
      | none => rest
    if name = [] then none else some name

/-- the preview that a script names. -/
def of? (script : Text) : Option Preview :=
  (file? script).bind fun f => (material? f).map (Preview.mk f)

theorem file?_eq_some_of_of? {script : Text} {p : Preview} (h : of? script = some p) :
    file? script = some p.file := by
  obtain ⟨f, hf, h⟩ := Option.bind_eq_some_iff.1 h
  obtain ⟨m, -, rfl⟩ := Option.map_eq_some_iff.1 h
  exact hf

end Preview

/-- the name of a video at an address of its player. -/
def videoId? (src : Text) : Option Text :=
  (Text.around? "/embed/".toList src).bind fun (_, rest) =>
    let id := rest.takeWhile fun c => c ≠ '?' ∧ c ≠ '#'
    if id = [] then none else some id

end Bookpress
