import Bookpress.Text.Basic

/-!
# JSON

Values of a report and their JSON text, a field or an item a line.

* `eq_of_quote_mem_escapeChar` : in a string, a quote stands after a backslash only.
-/

namespace Bookpress

/-- a value of a report. -/
inductive Json
  | number (n : Nat)
  | string (t : Text)
  | list (items : List Json)
  | record (fields : List (String × Json))

namespace Json

/-- a character in a string: quotes, backslashes and controls are escaped. -/
def escapeChar (c : Char) : Text :=
  if c = '"' then ['\\', '"']
  else if c = '\\' then ['\\', '\\']
  else if c = '\n' then ['\\', 'n']
  else if c = '\r' then ['\\', 'r']
  else if c = '\t' then ['\\', 't']
  else if c.toNat = 8 then ['\\', 'b']
  else if c.toNat = 12 then ['\\', 'f']
  else if c.toNat < 32 then
    ['\\', 'u', '0', '0', Nat.digitChar (c.toNat / 16), Nat.digitChar (c.toNat % 16)]
  else [c]

theorem digitChar_ne_quote {n : Nat} (h : n < 16) : '"' ≠ Nat.digitChar n := by
  have : ∀ k : Fin 16, '"' ≠ Nat.digitChar k := by decide
  exact this ⟨n, h⟩

theorem eq_of_quote_mem_escapeChar {c : Char} (h : '"' ∈ escapeChar c) :
    escapeChar c = ['\\', '"'] := by
  unfold escapeChar at h ⊢
  split
  · rfl
  · rename_i hc
    rw [if_neg hc] at h
    repeat' split at h
    all_goals simp only [List.mem_cons, List.not_mem_nil, or_false] at h
    case isFalse.isFalse.isFalse.isFalse.isFalse.isFalse.isFalse => exact absurd h.symm hc
    case isFalse.isFalse.isFalse.isFalse.isFalse.isFalse.isTrue =>
      have := @digitChar_ne_quote (c.toNat / 16)
      have := @digitChar_ne_quote (c.toNat % 16)
      simp_all
    all_goals simp at h

/-- a text as a string. -/
def quoted (t : Text) : Text := '"' :: (t.flatMap escapeChar ++ ['"'])

/-- a new line with a margin. -/
def newLine (margin : Nat) : Text := '\n' :: List.replicate margin ' '

/-- entries between brackets, each on its line. -/
def bracketed (first last : Char) (margin : Nat) : List Text → Text
  | [] => [first, last]
  | es =>
    let line := newLine (margin + 2)
    first :: (line ++ (es.intersperse (',' :: line)).flatten ++ newLine margin ++ [last])

mutual

/-- a value whose further lines have a margin. -/
def pretty (margin : Nat) : Json → Text
  | .number n => Text.ofNat n
  | .string t => quoted t
  | .list items => bracketed '[' ']' margin (prettyItems (margin + 2) items)
  | .record fields => bracketed '{' '}' margin (prettyFields (margin + 2) fields)

/-- the items of a list. -/
def prettyItems (margin : Nat) : List Json → List Text
  | [] => []
  | j :: items => pretty margin j :: prettyItems margin items

/-- the fields of a record. -/
def prettyFields (margin : Nat) : List (String × Json) → List Text
  | [] => []
  | (name, j) :: fields =>
    (quoted name.toList ++ ':' :: ' ' :: pretty margin j) :: prettyFields margin fields

end

/-- the text of a value. -/
def toText (j : Json) : Text := pretty 0 j

end Json
end Bookpress
