import Bookpress.Text.Basic

/-!
# Punycode

Labels of hosts in ASCII.  A label with other characters becomes its ASCII characters and, after a
dash, a row of numbers that tell how to put the others in: rising code point by rising code point,
and from left to right.  A number counts the places passed over since the last character, and is
written in digits to the base 36 whose weights adapt to the numbers before.

* `isAscii_of_mem_toAscii` : a label in this form is ASCII.
-/

namespace Bookpress
namespace Web
namespace Punycode

/-- whether a character is ASCII. -/
def isAscii (c : Char) : Bool := c.toNat < 128

/-- the digit of a number below 36: a letter, or a digit from 26 on. -/
def digit (n : Nat) : Char := Char.ofNat (if n < 26 then 97 + n else 22 + n)

theorem isAscii_digit {n : Nat} (h : n < 36) : isAscii (digit n) = true := by
  have : ∀ k : Fin 36, isAscii (digit k) = true := by decide
  exact this ⟨n, h⟩

/-- the least value that is no last digit at a position, which rises in steps of 36. -/
def threshold (bias position : Nat) : Nat := max 1 (min 26 (position - bias))

theorem threshold_pos (bias position : Nat) : 1 ≤ threshold bias position := Nat.le_max_left ..

/-- the digits of a number, the lowest first. -/
def digits (bias position n : Nat) : Text :=
  let t := threshold bias position
  if n < t then [digit n]
  else digit (t + (n - t) % (36 - t)) :: digits bias (position + 36) ((n - t) / (36 - t))
termination_by n
decreasing_by
  have := threshold_pos bias position
  have := Nat.div_le_self (n - threshold bias position) (36 - threshold bias position)
  omega

theorem isAscii_of_mem_digits {bias position n : Nat} {c : Char} (h : c ∈ digits bias position n) :
    isAscii c = true := by
  fun_induction digits bias position n with
  | case1 position n t hn =>
    have : t ≤ 26 := Nat.max_le.2 ⟨by decide, Nat.min_le_left ..⟩
    rw [List.mem_singleton.1 h]
    exact isAscii_digit (by omega)
  | case2 position n t hn ih =>
    have : t ≤ 26 := Nat.max_le.2 ⟨by decide, Nat.min_le_left ..⟩
    have := Nat.mod_lt (n - t) (show 0 < 36 - t by omega)
    rcases List.mem_cons.1 h with rfl | h
    · exact isAscii_digit (by omega)
    · exact ih h

/-- the bias for numbers about the size of `n`, if it is on the scale of `position`. -/
def biasOf (position n : Nat) : Nat :=
  if 455 < n then biasOf (position + 36) (n / 35) else position + 36 * n / (n + 38)
termination_by n
decreasing_by omega

/-- a character beyond ASCII, and how many characters of the label it is put behind. -/
structure Insertion where
  code : Nat
  place : Nat
  /-- how many characters are there already. -/
  present : Nat
deriving Repr, DecidableEq

/-- the insertions that make up a label, in their order. -/
def insertions (t : Text) : List Insertion :=
  let codes := t.map Char.toNat
  let all := (codes.zipIdx.filter fun x => 128 ≤ x.1).map fun (c, k) =>
    ⟨c, (codes.take k).countP (· ≤ c), codes.countP (· < c) + (codes.take k).count c⟩
  all.mergeSort fun a b => a.code < b.code || (a.code == b.code && a.present ≤ b.present)

/-- the digits of insertions after a code point and a place have been reached. -/
def insertionDigits : Nat → Nat → Nat → Nat → List Insertion → Text
  | _, _, _, _, [] => []
  | code, place, bias, damping, i :: is =>
    let passed := (i.code - code) * (i.present + 1) + i.place - place
    let scaled := passed / damping
    digits bias 36 passed
      ++ insertionDigits i.code (i.place + 1) (biasOf 0 (scaled + scaled / (i.present + 1))) 2 is

theorem isAscii_of_mem_insertionDigits {is : List Insertion} {c : Char} :
    ∀ {code place bias damping : Nat}, c ∈ insertionDigits code place bias damping is →
      isAscii c = true := by
  induction is with
  | nil => exact fun h => absurd h List.not_mem_nil
  | cons i is ih =>
    intro code place bias damping h
    rcases List.mem_append.1 h with h | h
    · exact isAscii_of_mem_digits h
    · exact ih h

/-- a label in ASCII. -/
def toAscii (t : Text) : Text :=
  if t.all isAscii then t
  else
    let plain := t.filter isAscii
    "xn--".toList ++ plain ++ (if plain = [] then [] else ['-'])
      ++ insertionDigits 128 0 72 700 (insertions t)

theorem isAscii_of_mem_toAscii {t : Text} {c : Char} (h : c ∈ toAscii t) : isAscii c = true := by
  unfold toAscii at h
  split at h
  · rename_i ht
    exact List.all_eq_true.1 ht c h
  · rcases List.mem_append.1 h with h | h
    · rcases List.mem_append.1 h with h | h
      · rcases List.mem_append.1 h with h | h
        · exact List.all_eq_true.1 (by decide : "xn--".toList.all isAscii = true) c h
        · exact (List.mem_filter.1 h).2
      · split at h
        · exact absurd h List.not_mem_nil
        · rw [List.mem_singleton.1 h]; decide
    · exact isAscii_of_mem_insertionDigits h

end Punycode
end Web
end Bookpress
