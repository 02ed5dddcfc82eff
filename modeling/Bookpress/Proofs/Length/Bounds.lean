import Bookpress.Settings.Basic
import Mathlib.Algebra.Order.Field.Basic
import Mathlib.Algebra.Order.Field.Rat
import Mathlib.Data.Nat.Cast.Order.Basic

/-!
# Lengths within their bounds

Over the exact numbers, a sizing without faults measures every picture: its ratio and its bounds
are positive rationals and the bounds are in order, so that no division is by zero and there is
always a length between the bounds.

* `fault?_eq_none_iff` : which sizings have no fault.
* `fault?_sizing_of_build` : settings are built with such a sizing only.
* `exists_measures` : the rationals by which a sizing without faults measures.
* `Measures.length?_eq` : a length is the quotient, kept between the bounds.
* `lengths_within_bounds` : every picture has a positive length within the bounds, a larger picture
  has no smaller one, and a picture without pixels has the least.
-/

namespace Bookpress

@[simp] theorem Exact.ofNat_eq (n : Nat) : (Scalar.ofNat n : Exact) = .finite n := rfl

@[simp] theorem Exact.le_finite {a b : Rat} :
    Scalar.le (Exact.finite a) (Exact.finite b) = true ↔ a ≤ b := decide_eq_true_iff

@[simp] theorem Exact.lt_finite {a b : Rat} :
    Scalar.lt (Exact.finite a) (Exact.finite b) = true ↔ a < b := decide_eq_true_iff

theorem Exact.div_finite (a : Rat) {b : Rat} (hb : b ≠ 0) :
    Scalar.div (Exact.finite a) (Exact.finite b) = .finite (a / b) := if_neg hb

namespace Sizing

/-! ## what is looked at -/

section
variable {α : Type} [Scalar α]

theorem mem_all (f : Field) : f ∈ Field.all := by
  cases f <;> decide

/-- **Which sizings have no fault.** -/
theorem fault?_eq_none_iff {s : Sizing α} :
    s.fault? = none ↔ (∀ f, isPositive (s.get f) = true)
      ∧ (Scalar.lt s.maxWidth s.minWidth = false
        ∧ Scalar.lt s.maxInlineHeight s.minInlineHeight = false)
      ∧ Scalar.le s.columnWidth (Scalar.ofNat 0) = false
      ∧ Scalar.le (Scalar.ofNat 0) s.columnWidth = true
      ∧ Scalar.le s.columnWidth (Scalar.ofNat 1) = true := by
  have hfields : (Field.all.find? fun f => !isPositive (s.get f)) = none
      ↔ ∀ f, isPositive (s.get f) = true := by
    simp [List.find?_eq_none, mem_all]
  rw [fault?, ← hfields]
  cases Field.all.find? fun f => !isPositive (s.get f) with
  | some f => simp
  | none => simp [ite_eq_iff, and_assoc]

end

/-- settings are built with a sizing without faults only. -/
theorem fault?_sizing_of_build {d : Settings.Draft} {s : Settings} (h : d.build = .ok s) :
    s.sizing.fault? = none := by
  obtain ⟨hfault, rfl⟩ := Settings.Draft.build_eq_ok h
  unfold Settings.Draft.fault? at hfault
  split at hfault
  · cases hfault
  · split at hfault
    · cases hfault
    · exact Option.map_eq_none_iff.1 hfault

/-! ## what a length is -/

section
variable {s : Sizing Exact} {mode : Mode} {ratio low high : Rat}

/-- the rationals by which a sizing measures in a mode. -/
structure Measures (s : Sizing Exact) (mode : Mode) (ratio low high : Rat) : Prop where
  ratio_eq : s.ratio = .finite ratio
  least_eq : s.least mode = .finite low
  greatest_eq : s.greatest mode = .finite high
  ratio_pos : 0 < ratio
  low_pos : 0 < low
  low_le_high : low ≤ high

theorem isPositive_iff {x : Exact} : isPositive x = true ↔ ∃ q : Rat, x = .finite q ∧ 0 < q := by
  cases x with
  | finite q => simp [isPositive, Scalar.isFinite, Exact.isFinite]
  | infinite negative => simp [isPositive, Scalar.isFinite, Exact.isFinite]
  | notANumber => simp [isPositive, Scalar.isFinite, Exact.isFinite]

/-- positive bounds that are not inverted are rationals in order. -/
theorem exists_bounds {x y : Exact} (hx : isPositive x = true) (hy : isPositive y = true)
    (h : Scalar.lt y x = false) :
    ∃ low high : Rat, x = .finite low ∧ y = .finite high ∧ 0 < low ∧ low ≤ high := by
  obtain ⟨low, rfl, low_pos⟩ := isPositive_iff.1 hx
  obtain ⟨high, rfl, -⟩ := isPositive_iff.1 hy
  rw [← Bool.not_eq_true, Exact.lt_finite, not_lt] at h
  exact ⟨low, high, rfl, rfl, low_pos, h⟩

/-- **A sizing without faults measures by rationals.** -/
theorem exists_measures (h : s.fault? = none) (mode : Mode) :
    ∃ ratio low high, s.Measures mode ratio low high := by
  obtain ⟨hpos, ⟨hwidth, hheight⟩, -⟩ := fault?_eq_none_iff.1 h
  obtain ⟨ratio, hratio, ratio_pos⟩ := isPositive_iff.1 (hpos .ratio)
  have hmode : ∃ low high : Rat, s.least mode = .finite low ∧ s.greatest mode = .finite high
      ∧ 0 < low ∧ low ≤ high := by
    cases mode with
    | figure => exact exists_bounds (hpos .minWidth) (hpos .maxWidth) hwidth
    | inline => exact exists_bounds (hpos .minInlineHeight) (hpos .maxInlineHeight) hheight
  obtain ⟨low, high, hlow, hhigh, low_pos, hle⟩ := hmode
  exact ⟨ratio, low, high, hratio, hlow, hhigh, ratio_pos, low_pos, hle⟩

/-- keeping a rational between bounds in order. -/
theorem clamp?_finite (h : low ≤ high) (q : Rat) :
    clamp? (.finite low) (.finite high) (Exact.finite q)
      = some (.finite (max low (min high q))) := by
  rw [clamp?, if_pos (Exact.le_finite.2 h)]
  by_cases hlow : q < low
  · rw [if_pos (Exact.lt_finite.2 hlow), min_eq_right (hlow.le.trans h), max_eq_left hlow.le]
  · rw [if_neg (by simpa using hlow)]
    by_cases hhigh : high < q
    · rw [if_pos (Exact.lt_finite.2 hhigh), min_eq_left hhigh.le, max_eq_right h]
    · rw [if_neg (by simpa using hhigh), min_eq_right (not_lt.1 hhigh),
        max_eq_right (not_lt.1 hlow)]

/-- **A length is the quotient, kept between the bounds.** -/
theorem Measures.length?_eq (h : s.Measures mode ratio low high) (pixels : Nat) :
    s.length? mode pixels = some (.finite (max low (min high (pixels / ratio)))) := by
  rw [length?, h.least_eq, h.greatest_eq, h.ratio_eq, Exact.ofNat_eq,
    Exact.div_finite _ h.ratio_pos.ne', clamp?_finite h.low_le_high]

theorem Measures.length_eq (h : s.Measures mode ratio low high) (pixels : Nat) :
    s.length mode pixels = .finite (max low (min high (pixels / ratio))) := by
  rw [length, h.length?_eq, Option.getD_some]

theorem Measures.length_mono (h : s.Measures mode ratio low high) {m n : Nat} (hmn : m ≤ n) :
    Scalar.le (s.length mode m) (s.length mode n) = true := by
  have hquot : (m : Rat) / ratio ≤ n / ratio :=
    div_le_div_of_nonneg_right (Nat.cast_le.2 hmn) h.ratio_pos.le
  rw [h.length_eq, h.length_eq, Exact.le_finite]
  exact max_le_max le_rfl (min_le_min le_rfl hquot)

theorem Measures.length?_zero (h : s.Measures mode ratio low high) :
    s.length? mode 0 = some (s.least mode) := by
  have hle : min high ((0 : Nat) / ratio) ≤ low := by
    rw [Nat.cast_zero, zero_div]
    exact (min_le_right _ _).trans h.low_pos.le
  rw [h.length?_eq, max_eq_left hle, h.least_eq]

end

/-- **Lengths are within their bounds.**  With a sizing without faults nothing is divided by zero
and the bounds of each mode are in order; every number of pixels has a length, which is positive
and within the bounds of its mode; more pixels have no smaller length; and no pixels at all have
the least. -/
theorem lengths_within_bounds {s : Sizing Exact} (h : s.fault? = none) (mode : Mode) :
    s.ratio ≠ Scalar.ofNat 0
      ∧ Scalar.le (s.least mode) (s.greatest mode) = true
      ∧ (∀ pixels, s.length? mode pixels = some (s.length mode pixels)
        ∧ isPositive (s.length mode pixels) = true
        ∧ Scalar.le (s.least mode) (s.length mode pixels) = true
        ∧ Scalar.le (s.length mode pixels) (s.greatest mode) = true)
      ∧ (∀ m n, m ≤ n → Scalar.le (s.length mode m) (s.length mode n) = true)
      ∧ s.length? mode 0 = some (s.least mode) := by
  obtain ⟨ratio, low, high, hs⟩ := exists_measures h mode
  have hbounds : Scalar.le (s.least mode) (s.greatest mode) = true := by
    rw [hs.least_eq, hs.greatest_eq, Exact.le_finite]
    exact hs.low_le_high
  refine ⟨?_, hbounds, fun pixels => ⟨length?_eq_some hbounds pixels, ?_, ?_, ?_⟩,
    fun m n hmn => hs.length_mono hmn, hs.length?_zero⟩
  · rw [hs.ratio_eq, Exact.ofNat_eq, ne_eq, Exact.finite.injEq, Nat.cast_zero]
    exact hs.ratio_pos.ne'
  · rw [hs.length_eq, isPositive_iff]
    exact ⟨_, rfl, lt_max_of_lt_left hs.low_pos⟩
  · rw [hs.least_eq, hs.length_eq, Exact.le_finite]
    exact le_max_left _ _
  · rw [hs.greatest_eq, hs.length_eq, Exact.le_finite]
    exact max_le hs.low_le_high (min_le_left _ _)

/-- the standard bounds, with a ratio that is no whole number. -/
def fractional : Sizing Exact :=
  ⟨.finite (5 / 3), .finite 30, .finite 120, .finite 4, .finite 5, .finite (7 / 10),
    .finite (4 / 5)⟩

/-- figures of no pixels, and of more and more of them. -/
theorem lengths_within_bounds_fractional :
    fractional.fault? = none
      ∧ fractional.length? .figure 0 = some (.finite 30)
      ∧ isPositive (fractional.length .figure 100) = true
      ∧ (100 ≤ 1000 ∧ Scalar.le (fractional.length .figure 100)
        (fractional.length .figure 1000) = true) := by
  have hf : fractional.fault? = none := by decide +kernel
  obtain ⟨-, -, hbounds, hmono, hzero⟩ := lengths_within_bounds hf .figure
  have hle : 100 ≤ 1000 := by decide
  exact ⟨hf, hzero, (hbounds 100).2.1, hle, hmono 100 1000 hle⟩

end Sizing
end Bookpress
