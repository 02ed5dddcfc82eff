/-!
# Numbers that measure

Lengths are computed in doubles.  What is said about them is said of any numbers with the same
operations, and in particular of the exact ones: the rationals with two infinities and a value
that is no number.
-/

namespace Bookpress

/-- the operations that lengths need. -/
class Scalar (α : Type) where
  ofNat : Nat → α
  div : α → α → α
  lt : α → α → Bool
  le : α → α → Bool
  isFinite : α → Bool

instance : Scalar Float where
  ofNat := Float.ofNat
  div := Float.div
  lt := Float.lt
  le := Float.le
  isFinite := Float.isFinite

/-- the rationals with two infinities and a value that is no number. -/
inductive Exact
  | finite (q : Rat)
  | infinite (negative : Bool)
  | notANumber
deriving Repr, DecidableEq

namespace Exact

/-- order, in which what is no number does not take part. -/
def lt : Exact → Exact → Bool
  | .finite a, .finite b => decide (a < b)
  | .finite _, .infinite negative => !negative
  | .infinite negative, .finite _ => negative
  | .infinite a, .infinite b => a && !b
  | _, _ => false

/-- order or equality. -/
def le : Exact → Exact → Bool
  | .finite a, .finite b => decide (a ≤ b)
  | .finite _, .infinite negative => !negative
  | .infinite negative, .finite _ => negative
  | .infinite a, .infinite b => a || !b
  | _, _ => false

/-- quotients; a number over zero is infinite, and zero over zero is no number. -/
def div : Exact → Exact → Exact
  | .finite a, .finite b =>
    if b = 0 then (if a = 0 then .notANumber else .infinite (decide (a < 0)))
    else .finite (a / b)
  | .finite _, .infinite _ => .finite 0
  | .infinite negative, .finite b => .infinite (negative != decide (b < 0))
  | _, _ => .notANumber

/-- whether a value is a rational. -/
def isFinite : Exact → Bool
  | .finite _ => true
  | _ => false

end Exact

instance : Scalar Exact where
  ofNat n := .finite n
  div := Exact.div
  lt := Exact.lt
  le := Exact.le
  isFinite := Exact.isFinite

end Bookpress
