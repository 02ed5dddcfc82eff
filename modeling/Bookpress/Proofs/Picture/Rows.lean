import Bookpress.Picture.Bytes
import Mathlib.Data.Nat.Basic

/-!
# Rows of bytes

Pictures are written point by point and row by row, and what is written for each has one length.

* `size_fold` : as many steps as there are, each of one length, write a multiple of it.
* `byteAt_foldRows` : rows of one length, one after another, are found at multiples of it.
-/

namespace Bookpress
namespace Picture

theorem byteAt_append_left {a b : ByteArray} {i : Nat} (h : i < a.size) :
    byteAt (a ++ b) i = byteAt a i := by
  have hab : i < (a ++ b).size := by
    rw [ByteArray.size_append]
    omega
  rw [byteAt, dif_pos hab, byteAt, dif_pos h]
  exact ByteArray.getElem_append_left h

theorem byteAt_append_right {a b : ByteArray} (i : Nat) :
    byteAt (a ++ b) (a.size + i) = byteAt b i := by
  by_cases h : i < b.size
  · have hab : a.size + i < (a ++ b).size := by
      rw [ByteArray.size_append]
      omega
    rw [byteAt, dif_pos hab, byteAt, dif_pos h, ByteArray.getElem_append_right (by omega)]
    congr 1
    omega
  · have hab : ¬ a.size + i < (a ++ b).size := by
      rw [ByteArray.size_append]
      omega
    rw [byteAt, dif_neg hab, byteAt, dif_neg h]

theorem byteAt_extract {b : ByteArray} {start stop i : Nat} (h : start + i < stop) :
    byteAt (b.extract start stop) i = byteAt b (start + i) := by
  by_cases hb : start + i < b.size
  · have hi : i < (b.extract start stop).size := by
      rw [ByteArray.size_extract]
      omega
    rw [byteAt, dif_pos hi, byteAt, dif_pos hb]
    exact ByteArray.getElem_extract hi
  · have hi : ¬ i < (b.extract start stop).size := by
      rw [ByteArray.size_extract]
      omega
    rw [byteAt, dif_neg hi, byteAt, dif_neg hb]

/-! ## steps of one length -/

section
variable {size : Nat}

theorem size_fold {write : Nat → ByteArray → ByteArray} {n : Nat}
    (h : ∀ k, k < n → ∀ out, (write k out).size = out.size + size) (out : ByteArray) :
    (n.fold (fun k _ out => write k out) out).size = out.size + n * size := by
  induction n with
  | zero => simp
  | succ n ih =>
    rw [Nat.fold_succ, h n (by omega), ih fun k hk => h k (by omega), Nat.succ_mul, Nat.add_assoc]

/-- a picture that is written point by point. -/
theorem size_foldPoints {write : Nat → Nat → ByteArray → ByteArray}
    (h : ∀ x y out, (write x y out).size = out.size + size) (width height : Nat) :
    (height.fold (fun y _ out => width.fold (fun x _ out => write x y out) out)
      ByteArray.empty).size = width * height * size := by
  have hrow : ∀ y out, (width.fold (fun x _ out => write x y out) out).size
      = out.size + width * size := fun y => size_fold fun x _ => h x y
  have hrows := size_fold (n := height) (fun y _ => hrow y) ByteArray.empty
  rw [hrows, ByteArray.size_empty, Nat.zero_add, ← Nat.mul_assoc, Nat.mul_comm height]

section
variable {row : Nat → ByteArray} {n : Nat}

theorem size_foldRows (h : ∀ k, k < n → (row k).size = size) :
    (n.fold (fun k _ out => out ++ row k) ByteArray.empty).size = n * size := by
  have hrow : ∀ k, k < n → ∀ out : ByteArray, (out ++ row k).size = out.size + size := by
    intro k hk out
    rw [ByteArray.size_append, h k hk]
  rw [size_fold hrow, ByteArray.size_empty, Nat.zero_add]

theorem byteAt_foldRows (h : ∀ k, k < n → (row k).size = size) {k i : Nat}
    (hk : k < n) (hi : i < size) :
    byteAt (n.fold (fun k _ out => out ++ row k) ByteArray.empty) (k * size + i)
      = byteAt (row k) i := by
  induction n with
  | zero => omega
  | succ n ih =>
    have hrows : ∀ k, k < n → (row k).size = size := fun k hk => h k (by omega)
    have hsize := size_foldRows hrows
    rw [Nat.fold_succ]
    rcases Nat.lt_succ_iff_lt_or_eq.1 hk with hk | rfl
    · have hle : (k + 1) * size ≤ n * size := Nat.mul_le_mul_right size hk
      rw [Nat.succ_mul] at hle
      rw [byteAt_append_left (by omega), ih hrows hk]
    · rw [← hsize, byteAt_append_right]

end

end

end Picture
end Bookpress
