import Bookpress.Picture.Grid
import Mathlib.Order.Lattice

/-!
# Least boxes

The box that is grown cell by cell is the least one: it holds every cell that counts, and one of
them stands on each of its sides.  The four sides may as well be run from values beyond the grid,
without a case for the box that holds nothing yet.

* `Box.Bounds.least` : a box with a cell on each side lies in every other box of these cells.
* `spans_boxOf?` : the box of a grid is the least box of the cells that count.
* `extremes_eq` : the running sides are the sides of that box, if there is one.
-/

namespace Bookpress
namespace Picture

/-! ## boxes and their cells -/

namespace Box
variable {b : Box} {S : Nat → Nat → Prop}

/-- a cell lies in a box. -/
def Holds (b : Box) (x y : Nat) : Prop := b.left ≤ x ∧ x ≤ b.right ∧ b.top ≤ y ∧ y ≤ b.bottom

/-- a box holds all cells of a kind, and one of them stands on each of its sides. -/
structure Bounds (b : Box) (S : Nat → Nat → Prop) : Prop where
  holds : ∀ x y, S x y → b.Holds x y
  onLeft : ∃ y, S b.left y
  onTop : ∃ x, S x b.top
  onRight : ∃ y, S b.right y
  onBottom : ∃ x, S x b.bottom

theorem Bounds.least (h : b.Bounds S) {d : Box} (hd : ∀ x y, S x y → d.Holds x y) :
    d.left ≤ b.left ∧ d.top ≤ b.top ∧ b.right ≤ d.right ∧ b.bottom ≤ d.bottom := by
  obtain ⟨y₁, h₁⟩ := h.onLeft
  obtain ⟨x₂, h₂⟩ := h.onTop
  obtain ⟨y₃, h₃⟩ := h.onRight
  obtain ⟨x₄, h₄⟩ := h.onBottom
  exact ⟨(hd _ _ h₁).1, (hd _ _ h₂).2.2.1, (hd _ _ h₃).2.1, (hd _ _ h₄).2.2.2⟩

theorem Bounds.ordered (h : b.Bounds S) : b.left ≤ b.right ∧ b.top ≤ b.bottom := by
  obtain ⟨y, hy⟩ := h.onLeft
  obtain ⟨h₁, h₂, h₃, h₄⟩ := h.holds _ _ hy
  omega

theorem bounds_cell (x y : Nat) : (cell x y).Bounds fun x' y' => x' = x ∧ y' = y where
  holds := by
    rintro x' y' ⟨rfl, rfl⟩
    simp [Holds, cell]
  onLeft := ⟨y, rfl, rfl⟩
  onTop := ⟨x, rfl, rfl⟩
  onRight := ⟨y, rfl, rfl⟩
  onBottom := ⟨x, rfl, rfl⟩

theorem Bounds.enclose (h : b.Bounds S) (x y : Nat) :
    (b.enclose x y).Bounds fun x' y' => S x' y' ∨ x' = x ∧ y' = y where
  holds := by
    rintro x' y' (hS | ⟨rfl, rfl⟩)
    · obtain ⟨h₁, h₂, h₃, h₄⟩ := h.holds x' y' hS
      simp only [Holds, Box.enclose]
      omega
    · simp only [Holds, Box.enclose]
      omega
  onLeft := by
    obtain ⟨y', hS⟩ := h.onLeft
    rcases Nat.le_total b.left x with hle | hle
    · exact ⟨y', .inl (by rwa [Box.enclose, Nat.min_eq_left hle])⟩
    · exact ⟨y, .inr ⟨Nat.min_eq_right hle, rfl⟩⟩
  onTop := by
    obtain ⟨x', hS⟩ := h.onTop
    rcases Nat.le_total b.top y with hle | hle
    · exact ⟨x', .inl (by rwa [Box.enclose, Nat.min_eq_left hle])⟩
    · exact ⟨x, .inr ⟨rfl, Nat.min_eq_right hle⟩⟩
  onRight := by
    obtain ⟨y', hS⟩ := h.onRight
    rcases Nat.le_total x b.right with hle | hle
    · exact ⟨y', .inl (by rwa [Box.enclose, Nat.max_eq_left hle])⟩
    · exact ⟨y, .inr ⟨Nat.max_eq_right hle, rfl⟩⟩
  onBottom := by
    obtain ⟨x', hS⟩ := h.onBottom
    rcases Nat.le_total y b.bottom with hle | hle
    · exact ⟨x', .inl (by rwa [Box.enclose, Nat.max_eq_left hle])⟩
    · exact ⟨x, .inr ⟨rfl, Nat.max_eq_right hle⟩⟩

end Box

/-! ## growing a box -/

/-- a box that is grown so far is the least one of the cells so far. -/
def Spans (S : Nat → Nat → Prop) : Option Box → Prop
  | none => ∀ x y, ¬ S x y
  | some b => b.Bounds S

theorem Spans.congr {S T : Nat → Nat → Prop} {b? : Option Box} (h : Spans S b?)
    (hST : ∀ x y, S x y ↔ T x y) : Spans T b? := by
  have : S = T := funext fun x => funext fun y => propext (hST x y)
  rwa [← this]

namespace Grid
variable {α : Type} {S : Nat → Nat → Prop} {keep : Nat → Nat → Bool} {b? : Option Box}

/-- one more cell. -/
theorem spans_widen (h : Spans S b?) (x y : Nat) :
    Spans (fun x' y' => S x' y' ∨ x' = x ∧ y' = y ∧ keep x' y' = true) (widen keep y b? x) := by
  unfold widen
  by_cases hk : keep x y = true
  · have hcell : ∀ x' y', x' = x ∧ y' = y ∧ keep x' y' = true ↔ x' = x ∧ y' = y := by
      intro x' y'
      constructor
      · exact fun h => ⟨h.1, h.2.1⟩
      · rintro ⟨rfl, rfl⟩
        exact ⟨rfl, rfl, hk⟩
    rw [if_pos hk]
    cases b? with
    | none =>
      have hspans : Spans _ (some (.cell x y)) := Box.bounds_cell x y
      exact hspans.congr fun x' y' => by simp [h x' y', hcell]
    | some b =>
      have hspans : Spans _ (some (b.enclose x y)) := Box.Bounds.enclose h x y
      exact hspans.congr fun x' y' => by rw [hcell]
  · rw [if_neg hk]
    refine h.congr fun x' y' => (or_iff_left ?_).symm
    rintro ⟨rfl, rfl, h⟩
    exact hk h

/-- the first `n` cells of one more row. -/
theorem spans_foldWiden (h : Spans S b?) (y n : Nat) :
    Spans (fun x' y' => S x' y' ∨ x' < n ∧ y' = y ∧ keep x' y' = true)
      (n.fold (fun x _ b? => widen keep y b? x) b?) := by
  induction n with
  | zero => exact h.congr fun x' y' => by simp
  | succ n ih =>
    rw [Nat.fold_succ]
    refine (spans_widen ih n y).congr fun x' y' => ?_
    rw [or_assoc, ← or_and_right, Nat.lt_succ_iff_lt_or_eq]

/-- **The box of a grid is the least one** of the cells that count. -/
theorem spans_boxOf? (g : Grid α) (keep : Nat → Nat → Bool) :
    Spans (fun x y => x < g.width ∧ y < g.height ∧ keep x y = true) (g.boxOf? keep) := by
  suffices H : ∀ n, Spans (fun x y => x < g.width ∧ y < n ∧ keep x y = true)
      (n.fold (fun y _ b? => g.widenRow keep b? y) none) from H g.height
  intro n
  induction n with
  | zero =>
    intro x y h
    omega
  | succ n ih =>
    rw [Nat.fold_succ]
    refine (spans_foldWiden ih n g.width).congr fun x y => ?_
    rw [← and_or_left, ← or_and_right, Nat.lt_succ_iff_lt_or_eq]

/-! ## running the four sides -/

/-- the sides with one more cell, if it counts. -/
def stretch (keep : Nat → Nat → Bool) (y : Nat) (b : Box) (x : Nat) : Box :=
  if keep x y then b.enclose x y else b

/-- the least and greatest columns and rows of the cells that count, where the least ones are run
down from the size of the grid and the greatest ones up from zero. -/
def extremes (g : Grid α) (keep : Nat → Nat → Bool) : Box :=
  g.height.fold (fun y _ b => g.width.fold (fun x _ b => stretch keep y b x) b)
    ⟨g.width, g.height, 0, 0⟩

theorem stretch_getD {w h x y : Nat} (hx : x < w) (hy : y < h) (b? : Option Box) :
    stretch keep y (b?.getD ⟨w, h, 0, 0⟩) x = (widen keep y b? x).getD ⟨w, h, 0, 0⟩ := by
  unfold stretch widen
  by_cases hk : keep x y = true
  · rw [if_pos hk, if_pos hk]
    cases b? with
    | none =>
      simp only [Option.getD_none, Option.getD_some, Box.enclose, Box.cell, Box.mk.injEq]
      omega
    | some b => rfl
  · rw [if_neg hk, if_neg hk]

theorem foldStretch_getD {w h y : Nat} (hy : y < h) (b? : Option Box) {n : Nat} (hn : n ≤ w) :
    n.fold (fun x _ b => stretch keep y b x) (b?.getD ⟨w, h, 0, 0⟩)
      = (n.fold (fun x _ b? => widen keep y b? x) b?).getD ⟨w, h, 0, 0⟩ := by
  induction n with
  | zero => rfl
  | succ n ih => rw [Nat.fold_succ, Nat.fold_succ, ih (by omega), stretch_getD (by omega) hy]

/-- **The running sides** are those of the least box, or as they started. -/
theorem extremes_eq (g : Grid α) (keep : Nat → Nat → Bool) :
    g.extremes keep = (g.boxOf? keep).getD ⟨g.width, g.height, 0, 0⟩ := by
  suffices H : ∀ n, n ≤ g.height →
      n.fold (fun y _ b => g.width.fold (fun x _ b => stretch keep y b x) b)
          ⟨g.width, g.height, 0, 0⟩
        = (n.fold (fun y _ b? => g.widenRow keep b? y) none).getD ⟨g.width, g.height, 0, 0⟩ from
    H g.height (Nat.le_refl _)
  intro n
  induction n with
  | zero => intro _; rfl
  | succ n ih =>
    intro hn
    rw [Nat.fold_succ, Nat.fold_succ, ih (by omega), foldStretch_getD (by omega) _ (Nat.le_refl _)]
    rfl

end Grid
end Picture
end Bookpress
