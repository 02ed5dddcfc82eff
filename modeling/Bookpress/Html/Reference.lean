import Bookpress.Html.Named

/-!
# Character references

A reference stands for characters by their name, `&amp;`, or by their number, `&#38;` or `&#x26;`.
What only looks like a reference stays as it is.
-/

namespace Bookpress
namespace Html

/-- the character for what cannot be shown. -/
def unknownChar : Char := Char.ofNat 0xFFFD

/-- the characters that the numbers from 128 to 159 mean; zero where there is none. -/
def oldNumbers : List Nat :=
  [0x20AC, 0, 0x201A, 0x0192, 0x201E, 0x2026, 0x2020, 0x2021, 0x02C6, 0x2030, 0x0160, 0x2039,
    0x0152, 0, 0x017D, 0, 0, 0x2018, 0x2019, 0x201C, 0x201D, 0x2022, 0x2013, 0x2014, 0x02DC,
    0x2122, 0x0161, 0x203A, 0x0153, 0, 0x017E, 0x0178]

/-- the character that a number means. -/
def numbered (n : Nat) : Char :=
  if n = 0 ∨ 0x10FFFF < n ∨ (0xD800 ≤ n ∧ n ≤ 0xDFFF) then unknownChar
  else if 0x80 ≤ n ∧ n ≤ 0x9F then
    let m := oldNumbers.getD (n - 0x80) 0
    Char.ofNat (if m = 0 then n else m)
  else Char.ofNat n

/-- a text without a semicolon at its front. -/
def dropSemicolon : Text → Text
  | ';' :: r => r
  | t => t

/-- the number that digits of a base write, which may be too large to matter. -/
def digitsValue (base : Nat) (t : Text) : Nat :=
  t.foldl (fun n c => min (n * base + (Text.hexValue? c).getD 0) 0x110000) 0

/-- the number at the front of a text, and what follows it. -/
def readNumber (base : Nat) (t : Text) : Option (Text × Text) :=
  let digits := t.takeWhile fun c => (Text.hexValue? c).any (· < base)
  if digits = [] then none
  else some ([numbered (digitsValue base digits)], dropSemicolon (t.drop digits.length))

/-- the longest front of a row of letters and digits that is a name, and how long it is. -/
def longestName (name : Text) : Nat → Option (Text × Nat)
  | 0 => none
  | n + 1 =>
    match named? (name.take (n + 1)) with
    | some cs => some (cs, n + 1)
    | none => longestName name n

/-- the name at the front of a text, and what follows it; in an attribute, a name without its
semicolon does not stand in front of `=`, a letter or a digit. -/
def readName (inAttribute : Bool) (t : Text) : Option (Text × Text) :=
  let name := (t.takeWhile Char.isAlphanum).take 40
  let rest := t.drop name.length
  let closed? := if rest.head? = some ';' then named? (name ++ [';']) else none
  match closed? with
  | some cs => some (cs, rest.drop 1)
  | none =>
    match longestName name name.length with
    | none => none
    | some (cs, n) =>
      let rest := t.drop n
      if inAttribute && rest.head?.any fun c => c == '=' || c.isAlphanum then none
      else some (cs, rest)

/-- the characters of the reference whose sign stands before a text, and what follows it. -/
def readReference (inAttribute : Bool) (t : Text) : Option (Text × Text) :=
  match t with
  | '#' :: 'x' :: r | '#' :: 'X' :: r => readNumber 16 r
  | '#' :: r => readNumber 10 r
  | t => readName inAttribute t

/-- a text with at most `fuel` characters and references read. -/
def decodeWithin (inAttribute : Bool) : Nat → Text → Text
  | 0, t => t
  | _, [] => []
  | fuel + 1, c :: r =>
    if c = '&' then
      match readReference inAttribute r with
      | some (cs, rest) => cs ++ decodeWithin inAttribute fuel rest
      | none => '&' :: decodeWithin inAttribute fuel r
    else (if c.toNat = 0 then unknownChar else c) :: decodeWithin inAttribute fuel r

/-- the value of an attribute that is written as `t`. -/
def attributeValue (t : Text) : Text := decodeWithin true t.length t

end Html
end Bookpress
