import Bookpress.Length.Sizing
import Bookpress.Text.Basic

/-!
# The characters of printed lengths

* `mem_lengthChars` : a printed length is made of digits and a few other characters, even where it
  is no number.
-/

namespace Bookpress

/-- what stands in a printed number beside digits. -/
def numberSigns : List Char := "-.NaNinf".toList

namespace Decimal

theorem mem_placed {places n : Nat} {c : Char} (h : c ∈ placed places n) :
    c.isDigit = true ∨ c = '.' := by
  have hd : ∀ c ∈ padZeros (places + 1) (Nat.toDigits 10 n), c.isDigit = true := by
    intro c hc
    rcases List.mem_append.1 hc with hc | hc
    · rw [(List.mem_replicate.1 hc).2]
      rfl
    · exact Nat.isDigit_of_mem_toDigits (by decide) (by decide) hc
  unfold placed at h
  dsimp only at h
  split at h
  · exact .inl (hd c h)
  · simp only [List.mem_append, List.mem_cons] at h
    rcases h with h | rfl | h
    · exact .inl (hd c (List.mem_of_mem_take h))
    · exact .inr rfl
    · exact .inl (hd c (List.mem_of_mem_drop h))

theorem mem_fixed {places : Nat} {x : Float} {c : Char} (h : c ∈ fixed places x) :
    c.isDigit = true ∨ c ∈ numberSigns := by
  have hnan : nanText.all numberSigns.contains = true := by decide_cbv
  have hinf : ∀ b, (infinityText b).all numberSigns.contains = true := fun b => by
    cases b <;> decide_cbv
  unfold fixed at h
  split at h
  · exact .inr (List.contains_iff_mem.1 (List.all_eq_true.1 hnan c h))
  · exact .inr (List.contains_iff_mem.1 (List.all_eq_true.1 (hinf _) c h))
  · rcases List.mem_append.1 h with h | h
    · split at h
      · rw [List.mem_singleton.1 h]
        exact .inr (by decide_cbv)
      · cases h
    · refine (mem_placed h).imp_right fun e => ?_
      rw [e]
      decide_cbv

end Decimal

theorem mem_lengthText {x : Float} {c : Char} (h : c ∈ lengthText x) :
    c.isDigit = true ∨ c ∈ numberSigns := by
  unfold lengthText at h
  dsimp only at h
  split at h
  · rw [List.mem_singleton.1 h]
    exact .inl rfl
  · rw [List.mem_singleton.1 h]
    exact .inl rfl
  · rw [List.mem_reverse] at h
    have h := List.dropWhile_sublist _ |>.subset h
    have h := List.dropWhile_sublist _ |>.subset h
    exact Decimal.mem_fixed (List.mem_reverse.1 h)

/-- the characters of printed lengths. -/
def lengthChars : List Char :=
  ['0', '1', '2', '3', '4', '5', '6', '7', '8', '9', '-', '.', 'N', 'a', 'i', 'n', 'f']

theorem mem_lengthChars {x : Float} {c : Char} (h : c ∈ lengthText x) : c ∈ lengthChars := by
  have hdigits : ∀ n ∈ List.range' 48 10, Char.ofNat n ∈ lengthChars := by decide
  have hsigns : ∀ c ∈ numberSigns, c ∈ lengthChars := by
    unfold numberSigns
    rw [String.toList_ofList]
    decide
  rcases mem_lengthText h with h | h
  · simp only [Char.isDigit, Bool.and_eq_true, decide_eq_true_eq, ge_iff_le,
      UInt32.le_iff_toNat_le] at h
    change 48 ≤ c.toNat ∧ c.toNat ≤ 57 at h
    rw [← Char.ofNat_toNat c]
    exact hdigits _ (List.mem_range'_1.2 ⟨h.1, by omega⟩)
  · exact hsigns c h

theorem lt_of_mem_lengthText {x : Float} {c : Char} (h : c ∈ lengthText x) : c.toNat < 128 := by
  have hchars : ∀ c ∈ lengthChars, c.toNat < 128 := by decide
  exact hchars c (mem_lengthChars h)

end Bookpress
