import Bookpress.Text.Ranges

/-!
# Percent encoding

Link targets in the bibliography: ASCII letters, digits and the punctuation of URLs stand as they
are, and every byte of the UTF-8 form of another character is written as a percent sign and two
upper-case hexadecimal digits.  Reading back leaves a percent sign alone that is not followed by
two hexadecimal digits.

* `encode_append` : targets are encoded piece by piece.
-/

namespace Bookpress
namespace Citation

/-- the punctuation that stands as it is. -/
def urlPunctuation : Text := "-_.!*();:@&=+$,/?%#[]".toList

/-- whether a character stands as it is. -/
def isUrlChar (c : Char) : Bool :=
  c.isAlphanum || c == apostrophe || urlPunctuation.contains c

/-- the upper-case hexadecimal digit of a number below sixteen. -/
def hexDigit (n : Nat) : Char := (Nat.digitChar n).toUpper

/-- a byte as a percent sign and two digits. -/
def percentByte (b : UInt8) : Text := ['%', hexDigit (b.toNat / 16), hexDigit (b.toNat % 16)]

/-- the form of a character in the bibliography. -/
def encodeChar (c : Char) : Text :=
  if isUrlChar c then [c] else (String.utf8EncodeChar c).flatMap percentByte

/-- the form of a target in the bibliography. -/
def encode (t : Text) : Text := t.flatMap encodeChar

/-- the bytes that a percent-encoded text stands for. -/
def decode : Text → List UInt8
  | [] => []
  | '%' :: a :: b :: r =>
    match Text.hexValue? a, Text.hexValue? b with
    | some x, some y => UInt8.ofNat (x * 16 + y) :: decode r
    | _, _ => 37 :: decode (a :: b :: r)
  | c :: r => String.utf8EncodeChar c ++ decode r

@[simp] theorem encode_nil : encode [] = [] := rfl

@[simp] theorem encode_cons (c : Char) (t : Text) : encode (c :: t) = encodeChar c ++ encode t := by
  simp [encode]

@[simp] theorem encode_append (a b : Text) : encode (a ++ b) = encode a ++ encode b := by
  simp [encode]

theorem encodeChar_of_isUrlChar {c : Char} (h : isUrlChar c = true) : encodeChar c = [c] := by
  simp [encodeChar, h]

end Citation
end Bookpress
