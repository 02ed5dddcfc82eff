/-!
# Doubles as fractions

A double is a sign and an exact value `mantissa * 2 ^ exponent`, an infinity, or no number.
-/

namespace Bookpress
namespace Decimal

/-- the exact value of a finite double. -/
structure Binary where
  negative : Bool
  mantissa : Nat
  exponent : Int
deriving Repr, DecidableEq

/-- what a double says. -/
inductive Reading
  | finite (b : Binary)
  | infinite (negative : Bool)
  | notANumber
deriving Repr, DecidableEq

/-- the bit in front of a mantissa of 52 bits. -/
def leadingBit : Nat := 0x10000000000000

/-- the double with the given bits. -/
def Reading.ofBits (n : Nat) : Reading :=
  let negative := n / 0x8000000000000000 % 2 == 1
  let e : Nat := n / leadingBit % 2048
  let m := n % leadingBit
  if e = 2047 then (if m = 0 then .infinite negative else .notANumber)
  else if e = 0 then .finite ⟨negative, m, -1074⟩
  else .finite ⟨negative, m + leadingBit, (e : Int) - 1075⟩

/-- what `x` says. -/
def Reading.ofFloat (x : Float) : Reading := .ofBits x.toBits.toNat

namespace Binary

/-- the absolute value is `numerator / denominator`. -/
def numerator (b : Binary) : Nat := b.mantissa * Nat.pow 2 b.exponent.toNat

/-- a power of two. -/
def denominator (b : Binary) : Nat := Nat.pow 2 (-b.exponent).toNat

theorem denominator_pos (b : Binary) : 0 < b.denominator := Nat.pow_pos (by decide)

end Binary

/-- the text of an infinity or of what is no number. -/
def infinityText (negative : Bool) : List Char :=
  if negative then "-inf".toList else "inf".toList

/-- the text of what is no number. -/
def nanText : List Char := "NaN".toList

end Decimal
end Bookpress
