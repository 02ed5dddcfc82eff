import Bookpress.Text.Search
import Bookpress.Tex.Command

/-!
# Special characters

Characters with a meaning in LaTeX are written as sequences that print them, and the sequences
can be read back.

* `escape_append` : texts are escaped piece by piece.
* `readSpecial_append` : the reader of sequences gives back the character of each sequence.
-/

namespace Bookpress
namespace Tex

/-- the special characters and the sequences that print them, in the order in which they are
read back. -/
def specials : List (Char × Text) := [
  ('\\', control "textbackslash" ++ stop),
  ('~', control "textasciitilde" ++ stop),
  ('>', control "textgreater" ++ stop),
  ('<', control "textless" ++ stop),
  ('^', control "string^"),
  ('_', control "_"),
  ('$', control "$"),
  ('%', control "%"),
  ('&', control "&"),
  ('{', ['\\', '{']),
  ('}', ['\\', '}'])]

/-- the form of a character that prints it. -/
def escapeChar (c : Char) : Text :=
  match specials.lookup c with
  | some s => s
  | none => [c]

/-- a text with every special character in its printing form. -/
def escape (t : Text) : Text := t.flatMap escapeChar

/-- the special character whose sequence stands at the front. -/
def readSpecial (t : Text) : Option (Char × Text) :=
  specials.findSome? fun (c, s) => (Text.strip? s t).map fun r => (c, r)

/-- a text with every sequence read back; other commands stay. -/
def unescape (t : Text) : Text := Text.rewrite (Text.search readSpecial) (fun c => [c]) t

@[simp] theorem escape_nil : escape [] = [] := rfl

@[simp] theorem escape_cons (c : Char) (t : Text) : escape (c :: t) = escapeChar c ++ escape t := by
  simp [escape]

@[simp] theorem escape_append (a b : Text) : escape (a ++ b) = escape a ++ escape b := by
  simp [escape]

theorem readSpecial_append {c : Char} {s : Text} (h : (c, s) ∈ specials) (t : Text) :
    readSpecial (s ++ t) = some (c, t) := by
  simp only [specials, List.mem_cons, Prod.mk.injEq, List.not_mem_nil, or_false] at h
  rcases h with ⟨rfl, rfl⟩ | ⟨rfl, rfl⟩ | ⟨rfl, rfl⟩ | ⟨rfl, rfl⟩ | ⟨rfl, rfl⟩ | ⟨rfl, rfl⟩
    | ⟨rfl, rfl⟩ | ⟨rfl, rfl⟩ | ⟨rfl, rfl⟩ | ⟨rfl, rfl⟩ | ⟨rfl, rfl⟩ <;> rfl

end Tex
end Bookpress
