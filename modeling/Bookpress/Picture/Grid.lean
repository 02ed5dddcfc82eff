/-!
# Trimming

A grid of points, and the least box that holds every point that differs from the one in the
top-left corner.  Trimming cuts a uniform border away; a grid without another point keeps its
size.

* `bounds?_eq_none` : there is no box exactly when all points are equal.
-/

namespace Bookpress
namespace Picture

/-- points in rows and columns. -/
structure Grid (α : Type) where
  width : Nat
  height : Nat
  /-- the point in a column and a row. -/
  point : Nat → Nat → α

/-- a rectangle of a grid, by its first and last columns and rows. -/
structure Box where
  left : Nat
  top : Nat
  right : Nat
  bottom : Nat
deriving Repr, DecidableEq

namespace Box

/-- the box of one cell. -/
def cell (x y : Nat) : Box := ⟨x, y, x, y⟩

/-- the least box that holds a box and a cell. -/
def enclose (b : Box) (x y : Nat) : Box :=
  ⟨min b.left x, min b.top y, max b.right x, max b.bottom y⟩

/-- the number of columns. -/
def width (b : Box) : Nat := b.right - b.left + 1

/-- the number of rows. -/
def height (b : Box) : Nat := b.bottom - b.top + 1

end Box

namespace Grid
variable {α : Type}

/-- the box of the whole grid. -/
def whole (g : Grid α) : Box := ⟨0, 0, g.width - 1, g.height - 1⟩

/-- a box with one more cell, if it counts. -/
def widen (keep : Nat → Nat → Bool) (y : Nat) (b? : Option Box) (x : Nat) : Option Box :=
  if keep x y then
    match b? with
    | none => some (.cell x y)
    | some b => some (b.enclose x y)
  else b?

/-- a box with the cells of one more row that count. -/
def widenRow (g : Grid α) (keep : Nat → Nat → Bool) (b? : Option Box) (y : Nat) : Option Box :=
  g.width.fold (fun x _ b? => widen keep y b? x) b?

/-- the least box that holds the cells that count, row by row. -/
def boxOf? (g : Grid α) (keep : Nat → Nat → Bool) : Option Box :=
  g.height.fold (fun y _ b? => g.widenRow keep b? y) none

/-- the least box that holds every point different from the one in the top-left corner. -/
def bounds? [DecidableEq α] (g : Grid α) : Option Box :=
  let corner := g.point 0 0
  g.boxOf? fun x y => g.point x y != corner

/-- the part of a grid in a box. -/
def crop (g : Grid α) (b : Box) : Grid α :=
  ⟨b.width, b.height, fun x y => g.point (b.left + x) (b.top + y)⟩

/-- a grid without its uniform border. -/
def trim [DecidableEq α] (g : Grid α) : Grid α :=
  match g.bounds? with
  | none => g
  | some b => g.crop b

theorem widen_eq_none {keep : Nat → Nat → Bool} {y x : Nat} {b? : Option Box} :
    widen keep y b? x = none ↔ b? = none ∧ keep x y = false := by
  unfold widen
  cases hk : keep x y
  · simp
  · cases b? <;> simp

theorem foldWiden_eq_none {keep : Nat → Nat → Bool} {y : Nat} {b? : Option Box} (n : Nat) :
    n.fold (fun x _ b? => widen keep y b? x) b? = none
      ↔ b? = none ∧ ∀ x, x < n → keep x y = false := by
  induction n with
  | zero => simp
  | succ n ih =>
    rw [Nat.fold_succ, widen_eq_none, ih, and_assoc]
    refine and_congr_right fun _ => ⟨fun ⟨h, hn⟩ x hx => ?_,
      fun h => ⟨fun x hx => h x (by omega), h n (by omega)⟩⟩
    rcases Nat.lt_succ_iff_lt_or_eq.1 hx with hx | rfl
    · exact h x hx
    · exact hn

theorem boxOf?_eq_none {g : Grid α} {keep : Nat → Nat → Bool} :
    g.boxOf? keep = none ↔ ∀ y, y < g.height → ∀ x, x < g.width → keep x y = false := by
  suffices H : ∀ n, n.fold (fun y _ b? => g.widenRow keep b? y) none = none
      ↔ ∀ y, y < n → ∀ x, x < g.width → keep x y = false from H g.height
  intro n
  induction n with
  | zero => simp
  | succ n ih =>
    rw [Nat.fold_succ, widenRow, foldWiden_eq_none, ih]
    refine ⟨fun ⟨h, hn⟩ y hy => ?_, fun h => ⟨fun y hy => h y (by omega), h n (by omega)⟩⟩
    rcases Nat.lt_succ_iff_lt_or_eq.1 hy with hy | rfl
    · exact h y hy
    · exact hn

theorem bounds?_eq_none [DecidableEq α] {g : Grid α} :
    g.bounds? = none
      ↔ ∀ y, y < g.height → ∀ x, x < g.width → g.point x y = g.point 0 0 := by
  unfold bounds?
  rw [boxOf?_eq_none]
  simp

end Grid
end Picture
end Bookpress
