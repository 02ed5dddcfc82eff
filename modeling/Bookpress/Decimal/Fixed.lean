import Bookpress.Decimal.Binary

/-!
# Fixed places

A fraction rounded to a number of decimal places.  The rounding is of the exact value, and a half
goes to the even neighbour.

* `roundHalfEven_le`, `le_roundHalfEven` : the rounded quotient is within half a unit.
-/

namespace Bookpress
namespace Decimal

/-- `n / d` rounded to the nearest natural number, a half to the even one. -/
def roundHalfEven (n d : Nat) : Nat :=
  let q := n / d
  let r := n % d
  if 2 * r < d then q
  else if d < 2 * r then q + 1
  else if q % 2 = 0 then q else q + 1

theorem roundHalfEven_le {n d : Nat} (hd : 0 < d) : 2 * d * roundHalfEven n d ≤ 2 * n + d := by
  have h := Nat.div_add_mod n d
  have hr := Nat.mod_lt n hd
  unfold roundHalfEven
  generalize n / d = q at h ⊢
  generalize n % d = r at h hr ⊢
  subst h
  have e : 2 * d * q = 2 * (d * q) := by rw [Nat.mul_assoc]
  have e' : 2 * d * (q + 1) = 2 * (d * q) + 2 * d := by rw [Nat.mul_add, e]; omega
  dsimp only
  split
  · omega
  · split
    · omega
    · split <;> omega

theorem le_roundHalfEven {n d : Nat} (hd : 0 < d) : 2 * n ≤ 2 * d * roundHalfEven n d + d := by
  have h := Nat.div_add_mod n d
  have hr := Nat.mod_lt n hd
  unfold roundHalfEven
  generalize n / d = q at h ⊢
  generalize n % d = r at h hr ⊢
  subst h
  have e : 2 * d * q = 2 * (d * q) := by rw [Nat.mul_assoc]
  have e' : 2 * d * (q + 1) = 2 * (d * q) + 2 * d := by rw [Nat.mul_add, e]; omega
  dsimp only
  split
  · omega
  · split
    · omega
    · split <;> omega

/-- `t` with zeros in front, up to `width` characters. -/
def padZeros (width : Nat) (t : List Char) : List Char :=
  List.replicate (width - t.length) '0' ++ t

/-- `n` over `10 ^ places`, with a point before the last `places` digits. -/
def placed (places n : Nat) : List Char :=
  let t := padZeros (places + 1) (Nat.toDigits 10 n)
  if places = 0 then t
  else t.take (t.length - places) ++ '.' :: t.drop (t.length - places)

/-- the value of a finite double in units of `10 ^ -places`, rounded. -/
def Binary.rounded (places : Nat) (b : Binary) : Nat :=
  roundHalfEven (b.numerator * Nat.pow 10 places) b.denominator

/-- a double with a fixed number of decimal places. -/
def fixed (places : Nat) (x : Float) : List Char :=
  match Reading.ofFloat x with
  | .notANumber => nanText
  | .infinite negative => infinityText negative
  | .finite b => (if b.negative then ['-'] else []) ++ placed places (b.rounded places)

end Decimal
end Bookpress
