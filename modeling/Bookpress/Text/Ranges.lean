import Bookpress.Text.Basic

/-!
# Character ranges

A property of characters is written as a row of hexadecimal code points and ranges of them,
`41-5A 5F`, in rising order, and asked by halving.
-/

namespace Bookpress
namespace Text

/-- the value of a hexadecimal digit. -/
def hexValue? (c : Char) : Option Nat :=
  if '0' ≤ c && c ≤ '9' then some (c.toNat - 48)
  else if 'a' ≤ c && c ≤ 'f' then some (c.toNat - 87)
  else if 'A' ≤ c && c ≤ 'F' then some (c.toNat - 55)
  else none

/-- the number that hexadecimal digits write; other characters count as nothing. -/
def hexNumber (t : Text) : Nat :=
  t.foldl (fun n c => match hexValue? c with
    | some d => n * 16 + d
    | none => n) 0

/-- the words of a table, which stand between spaces and line ends. -/
def words (table : String) : List Text :=
  ((split '\n' table.toList).flatMap (split ' ')).filter fun w => !w.isEmpty

/-- rising, disjoint ranges of code points, both ends included. -/
structure Ranges where
  pairs : Array (Nat × Nat)

namespace Ranges

/-- the range that `A-B` or `A` writes. -/
def readPair (t : Text) : Nat × Nat :=
  match split '-' t with
  | [a, b] => (hexNumber a, hexNumber b)
  | _ => (hexNumber t, hexNumber t)

/-- the ranges that a row `A-B C` writes. -/
def ofRow (row : String) : Ranges := ⟨((words row).map readPair).toArray⟩

/-- whether one of the pairs from `lo` up to `hi` holds `n`, after at most `fuel` halvings. -/
def holdsBetween (pairs : Array (Nat × Nat)) (n : Nat) : Nat → Nat → Nat → Bool
  | 0, _, _ => false
  | fuel + 1, lo, hi =>
    if lo < hi then
      let mid := (lo + hi) / 2
      match pairs[mid]? with
      | none => false
      | some (a, b) =>
        if n < a then holdsBetween pairs n fuel lo mid
        else if b < n then holdsBetween pairs n fuel (mid + 1) hi
        else true
    else false

/-- whether one of the ranges holds `n`. -/
def holds (r : Ranges) (n : Nat) : Bool :=
  holdsBetween r.pairs n r.pairs.size 0 r.pairs.size

end Ranges
end Text
end Bookpress
