import Bookpress.Proofs.Tex.Nesting

/-!
# Numerals

Decimal numbers are read back as they were written, wherever they stand.

* `toNat?_ofNat` : a number is the value of its digits.
* `takeWhile_ofNat_append` : the digits of a number end where something else begins.
-/

namespace Bookpress

theorem isAlphanum_iff {c : Char} : c.isAlphanum = true ↔
    ((65 ≤ c.toNat ∧ c.toNat ≤ 90) ∨ 97 ≤ c.toNat ∧ c.toNat ≤ 122)
      ∨ 48 ≤ c.toNat ∧ c.toNat ≤ 57 := by
  change ((decide (65 ≤ c.val ∧ c.val ≤ 90) || decide (97 ≤ c.val) && decide (c.val ≤ 122))
    || decide (48 ≤ c.val) && decide (c.val ≤ 57)) = true ↔ _
  simp only [Bool.or_eq_true, Bool.and_eq_true, decide_eq_true_eq, UInt32.le_iff_toNat_le]
  rfl

theorem lt_of_isAlphanum {c : Char} (h : c.isAlphanum = true) : c.toNat < 128 := by
  have := isAlphanum_iff.1 h
  omega

namespace Text

theorem isDigit_of_mem_ofNat {n : Nat} {c : Char} (h : c ∈ ofNat n) : c.isDigit = true :=
  Nat.isDigit_of_mem_toDigits (by decide) (by decide) h

theorem ofNat_ne_nil (n : Nat) : ofNat n ≠ [] := Nat.toDigits_ne_nil

theorem toNat?_ofNat (n : Nat) : toNat? (ofNat n) = some n := by
  have hd : (ofNat n).all Char.isDigit = true :=
    List.all_eq_true.2 fun _ h => isDigit_of_mem_ofNat h
  have hv : (ofNat n).foldl (fun n c => n * 10 + (c.toNat - 48)) 0 = n := by
    have := Nat.ofDigitChars_ten_toDigits (n := n)
    simp only [Nat.ofDigitChars, Nat.mul_comm] at this
    exact this
  simp [toNat?, ofNat_ne_nil, hd, hv]

theorem ofNat_injective {m n : Nat} (h : ofNat m = ofNat n) : m = n := by
  have := toNat?_ofNat m
  rw [h, toNat?_ofNat n] at this
  exact (Option.some.inj this).symm

theorem takeWhile_ofNat_append (n : Nat) {c : Char} (hc : c.isDigit = false) (t : Text) :
    (ofNat n ++ c :: t).takeWhile Char.isDigit = ofNat n := by
  rw [List.takeWhile_append_of_pos fun _ h => isDigit_of_mem_ofNat h]
  simp [hc]

theorem dropWhile_ofNat_append (n : Nat) {c : Char} (hc : c.isDigit = false) (t : Text) :
    (ofNat n ++ c :: t).dropWhile Char.isDigit = c :: t := by
  rw [List.dropWhile_append_of_pos fun _ h => isDigit_of_mem_ofNat h]
  simp [hc]

theorem isOrdinary_of_isDigit {c : Char} (h : c.isDigit = true) : Tex.isOrdinary c = true := by
  simp only [Tex.isOrdinary, Bool.and_eq_true, decide_eq_true_eq]
  refine ⟨⟨?_, ?_⟩, ?_⟩ <;> rintro rfl <;> revert h <;> decide

theorem slash_not_mem_ofNat (n : Nat) : '\\' ∉ ofNat n := fun h => by
  have := isDigit_of_mem_ofNat h
  revert this
  decide

theorem balanced_ofNat (n : Nat) : Tex.Balanced (ofNat n) :=
  Tex.balanced_of_isOrdinary fun _ h => isOrdinary_of_isDigit (isDigit_of_mem_ofNat h)

end Text
end Bookpress
