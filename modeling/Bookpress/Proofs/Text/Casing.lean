import Bookpress.Text.Upper

/-!
# The characters of upper case

Upper case makes no character of ASCII out of others but capital letters.

* `isCapital_of_mem_upperChar` : an upper-case form holds capital letters and characters beyond
  ASCII, or is the character itself.
-/

namespace Bookpress
namespace Text

/-- a capital letter of ASCII, or a code point beyond it that is no byte order mark. -/
def IsCapital (n : Nat) : Prop := (65 ≤ n ∧ n ≤ 90) ∨ (128 ≤ n ∧ n ≠ 0xFEFF)

instance (n : Nat) : Decidable (IsCapital n) := inferInstanceAs (Decidable (_ ∨ _))

/-- whether the upper case of a range is made of capitals. -/
def CaseRange.fits (r : CaseRange) : Bool :=
  let low := if r.up then r.first + r.distance else r.first - r.distance
  let high := if r.up then r.last + r.distance else r.last - r.distance
  (65 ≤ low && high ≤ 90) || (128 ≤ low && (high < 0xFEFF || 0xFEFF < low))

/-- what the tables of upper cases have is capitals. -/
theorem isCapital_tables : (∀ r ∈ caseRanges, r.fits = true) ∧
    ∀ x ∈ growingCases, x.2 ≠ [] ∧ ∀ c ∈ x.2, IsCapital c.toNat := by
  unfold caseRanges growingCases words
  rw [String.toList_ofList, String.toList_ofList]
  decide +kernel

theorem CaseRange.isCapital {r : CaseRange} (h : r.fits = true) {m n : Nat}
    (hn : r.upper? m = some n) : IsCapital n := by
  unfold CaseRange.upper? at hn
  split at hn
  · rename_i hm
    simp only [Bool.and_eq_true, decide_eq_true_eq] at hm
    simp only [CaseRange.fits, Bool.or_eq_true, Bool.and_eq_true, decide_eq_true_eq] at h
    cases hn
    unfold IsCapital
    cases hu : r.up <;> simp only [hu, Bool.false_eq_true, if_false, if_true] at h ⊢ <;> omega
  · cases hn

/-- the upper case of a character is in one of the tables, or it is an ASCII character, or it
stands for itself. -/
theorem upperChar_cases (c : Char) :
    (c.toNat < 128 ∧ upperChar c = [c.toUpper]) ∨ upperChar c = [c] ∨
      (∃ x ∈ growingCases, upperChar c = x.2) ∨
      ∃ r ∈ caseRanges, ∃ n, r.upper? c.toNat = some n ∧ upperChar c = [Char.ofNat n] := by
  unfold upperChar
  by_cases hc : c.toNat < 128
  · rw [if_pos hc]
    exact .inl ⟨hc, rfl⟩
  · rw [if_neg hc]
    cases hx : growingCases.find? fun x => x.1 == c.toNat with
    | some x => exact .inr (.inr (.inl ⟨x, List.mem_of_find?_eq_some hx, rfl⟩))
    | none =>
      cases hn : caseRanges.findSome? fun r => r.upper? c.toNat with
      | some n =>
        obtain ⟨r, hr, hn⟩ := List.exists_of_findSome?_eq_some hn
        exact .inr (.inr (.inr ⟨r, hr, n, hn, rfl⟩))
      | none => exact .inr (.inl rfl)

theorem toNat_ofNat (n : Nat) : (Char.ofNat n).toNat = n ∨ (Char.ofNat n).toNat = 0 := by
  by_cases h : n.isValidChar
  · left
    rw [Char.ofNat, dif_pos h]
    exact BitVec.toNat_ofNatLT _ _
  · right
    rw [Char.ofNat, dif_neg h]
    rfl

theorem toUpper_cases (c : Char) : c.toUpper = c ∨ IsCapital c.toUpper.toNat := by
  unfold Char.toUpper
  split
  · rename_i h
    have h₁ : 97 ≤ c.toNat := h.1
    have h₂ : c.toNat ≤ 122 := h.2
    -- the subtraction of 32 is an addition that wraps around
    have e : (c.val + ('A'.val - 'a'.val)).toNat = c.toNat - 32 := by
      rw [UInt32.toNat_add, show ('A'.val - 'a'.val).toNat = 2 ^ 32 - 32 by decide]
      show (c.toNat + (2 ^ 32 - 32)) % 2 ^ 32 = c.toNat - 32
      omega
    have hle : 65 ≤ (c.val + ('A'.val - 'a'.val)).toNat ∧
        (c.val + ('A'.val - 'a'.val)).toNat ≤ 90 := by omega
    exact .inr (.inl hle)
  · exact .inl rfl

theorem isCapital_of_mem_upperChar {c d : Char} (h : d ∈ upperChar c) :
    IsCapital d.toNat ∨ d.toNat = 0 ∨ d = c := by
  obtain ⟨-, e⟩ | e | ⟨x, hx, e⟩ | ⟨r, hr, n, hn, e⟩ := upperChar_cases c <;> rw [e] at h
  · rw [List.mem_singleton.1 h]
    exact (toUpper_cases c).elim (fun hu => .inr (.inr hu)) .inl
  · exact .inr (.inr (List.mem_singleton.1 h))
  · exact .inl ((isCapital_tables.2 x hx).2 d h)
  · have hcap := CaseRange.isCapital (isCapital_tables.1 r hr) hn
    rw [List.mem_singleton.1 h]
    rcases toNat_ofNat n with e | e
    · exact .inl (by rwa [e])
    · exact .inr (.inl e)

theorem upperChar_ne_nil (c : Char) : upperChar c ≠ [] := by
  obtain ⟨-, e⟩ | e | ⟨x, hx, e⟩ | ⟨-, -, n, -, e⟩ := upperChar_cases c <;> rw [e]
  · exact List.cons_ne_nil _ _
  · exact List.cons_ne_nil _ _
  · exact (isCapital_tables.2 x hx).1
  · exact List.cons_ne_nil _ _

theorem upper_ne_nil {t : Text} (h : t ≠ []) : upper t ≠ [] := by
  obtain ⟨c, t, rfl⟩ := List.exists_cons_of_ne_nil h
  simp [upper, upperChar_ne_nil]

end Text
end Bookpress
