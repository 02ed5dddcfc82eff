import Bookpress.Decimal.Binary

/-!
# Shortest decimals

The decimal with the fewest digits that reads back as the same double, written without an
exponent.  The numbers that read back as a double form an interval around it; for 1, 2, … digits
the two neighbours of the value on that decimal grid are tried, and of two that lie in the
interval the nearer one is taken.
-/

namespace Bookpress
namespace Decimal

/-- the value and the ends of the interval that rounds to it, over one denominator. -/
structure Around where
  low : Nat
  value : Nat
  high : Nat
  denominator : Nat
  /-- whether the ends belong to the interval. -/
  closed : Bool
deriving Repr, DecidableEq

/-- the interval around a finite double that is not zero.  Below a power of two the doubles are
twice as dense. -/
def Binary.around (b : Binary) : Around :=
  let unit := Nat.pow 2 b.exponent.toNat
  let below := if b.mantissa = leadingBit ∧ -1074 < b.exponent then 1 else 2
  ⟨(4 * b.mantissa - below) * unit, 4 * b.mantissa * unit, (4 * b.mantissa + 2) * unit,
    4 * b.denominator, b.mantissa % 2 == 0⟩

/-- whether `n / d` lies in the interval. -/
def Around.holds (a : Around) (n d : Nat) : Bool :=
  let l := a.low * d
  let m := n * a.denominator
  let h := a.high * d
  if a.closed then l ≤ m && m ≤ h else l < m && m < h

/-- the least `k` below `fuel` with `d ≤ n * 10 ^ k`. -/
def leastPower (n d : Nat) : Nat → Nat → Nat
  | 0, k => k
  | fuel + 1, k => if d ≤ n * Nat.pow 10 k then k else leastPower n d fuel (k + 1)

/-- the power of ten of the first digit of `n / d`. -/
def leadingPower (n d : Nat) : Int :=
  if d ≤ n then ((Nat.toDigits 10 (n / d)).length : Int) - 1
  else -(leastPower n d 400 1 : Int)

/-- a number `digits * 10 ^ power`. -/
structure Scaled where
  digits : Nat
  power : Int
deriving Repr, DecidableEq

/-- the fraction of a scaled number. -/
def Scaled.fraction (s : Scaled) : Nat × Nat :=
  (s.digits * Nat.pow 10 s.power.toNat, Nat.pow 10 (-s.power).toNat)

/-- the neighbour of the value on the grid of `10 ^ power` that reads back, the nearer of two. -/
def Around.onGrid? (a : Around) (power : Int) : Option Scaled :=
  let up := Nat.pow 10 power.toNat
  let down := Nat.pow 10 (-power).toNat
  let n := a.value * down
  let d := a.denominator * up
  let q := n / d
  let lower : Scaled := ⟨q, power⟩
  let upper : Scaled := ⟨q + 1, power⟩
  let lowerIn := a.holds lower.fraction.1 lower.fraction.2
  let upperIn := a.holds upper.fraction.1 upper.fraction.2
  if lowerIn && upperIn then (if 2 * (n % d) < d then some lower else some upper)
  else if lowerIn then some lower
  else if upperIn then some upper
  else none

/-- the first grid, from `count` digits on, that holds a number that reads back. -/
def Around.firstGrid (a : Around) (top : Int) : Nat → Nat → Scaled
  | 0, _ => ⟨0, 0⟩
  | fuel + 1, count =>
    match a.onGrid? (top - (count : Int) + 1) with
    | some s => s
    | none => firstGrid a top fuel (count + 1)

/-- the decimal with the fewest digits that reads back as a finite double. -/
def Binary.shortest (b : Binary) : Scaled :=
  if b.mantissa = 0 then ⟨0, 0⟩
  else b.around.firstGrid (leadingPower b.numerator b.denominator) 18 1

/-- a scaled number without an exponent. -/
def Scaled.plain (s : Scaled) : List Char :=
  let ds := Nat.toDigits 10 s.digits
  if 0 ≤ s.power then
    (if s.digits = 0 then ['0'] else ds ++ List.replicate s.power.toNat '0')
  else
    let places := (-s.power).toNat
    let t := List.replicate (places + 1 - ds.length) '0' ++ ds
    let fraction := ((t.drop (t.length - places)).reverse.dropWhile (· = '0')).reverse
    t.take (t.length - places) ++ if fraction = [] then [] else '.' :: fraction

/-- a double as its shortest decimal. -/
def shortest (x : Float) : List Char :=
  match Reading.ofFloat x with
  | .notANumber => nanText
  | .infinite negative => infinityText negative
  | .finite b => (if b.negative then ['-'] else []) ++ b.shortest.plain

end Decimal
end Bookpress
