import Bookpress.Length.Scalar
import Bookpress.Decimal.Fixed

/-!
# Printed sizes

The printed length of a picture: its size in pixels over the number of pixels to a millimetre,
kept within the bounds for figures or for pictures in running text.

* `length?_eq_some` : with sensible sizing, every picture has a length.
-/

namespace Bookpress

/-- the constants that turn pixels into lengths. -/
structure Sizing (α : Type) where
  /-- pixels to a millimetre. -/
  ratio : α
  /-- bounds of the width of a figure, in millimetres. -/
  minWidth : α
  maxWidth : α
  /-- bounds of the height of a picture in running text, in millimetres. -/
  minInlineHeight : α
  maxInlineHeight : α
  /-- the width of an icon, in centimetres. -/
  iconSize : α
  /-- the width of tables and cells, as a part of the text width. -/
  columnWidth : α
deriving Repr

namespace Sizing

/-- the sizing of a book unless it is chosen. -/
def standard : Sizing Float := ⟨5.0, 30.0, 120.0, 4.0, 5.0, 0.7, 0.8⟩

/-- the sizes that have to be positive. -/
inductive Field
  | ratio | minWidth | maxWidth | minInlineHeight | maxInlineHeight | iconSize
deriving Repr, DecidableEq

/-- the name of a size in messages. -/
def Field.label : Field → String
  | .ratio => "image ratio"
  | .minWidth => "minimum figure width"
  | .maxWidth => "maximum figure width"
  | .minInlineHeight => "minimum inline height"
  | .maxInlineHeight => "maximum inline height"
  | .iconSize => "icon size"

/-- the positive sizes in the order in which they are looked at. -/
def Field.all : List Field :=
  [.ratio, .minWidth, .maxWidth, .minInlineHeight, .maxInlineHeight, .iconSize]

/-- why a sizing is refused. -/
inductive Fault (α : Type)
  | notPositive (field : Field) (value : α)
  | inverted
  | columnWidth (value : α)
deriving Repr, DecidableEq

section
variable {α : Type} [Scalar α]

/-- the size that a name stands for. -/
def get (s : Sizing α) : Field → α
  | .ratio => s.ratio
  | .minWidth => s.minWidth
  | .maxWidth => s.maxWidth
  | .minInlineHeight => s.minInlineHeight
  | .maxInlineHeight => s.maxInlineHeight
  | .iconSize => s.iconSize

/-- whether a size is a positive number. -/
def isPositive (x : α) : Bool := Scalar.isFinite x && Scalar.lt (Scalar.ofNat 0) x

/-- the first fault of a sizing. -/
def fault? (s : Sizing α) : Option (Fault α) :=
  match Field.all.find? fun f => !isPositive (s.get f) with
  | some f => some (.notPositive f (s.get f))
  | none =>
    if Scalar.lt s.maxWidth s.minWidth || Scalar.lt s.maxInlineHeight s.minInlineHeight then
      some .inverted
    else if Scalar.le s.columnWidth (Scalar.ofNat 0)
        || !(Scalar.le (Scalar.ofNat 0) s.columnWidth && Scalar.le s.columnWidth (Scalar.ofNat 1))
    then some (.columnWidth s.columnWidth)
    else none

/-- which length of a picture is printed. -/
inductive Mode
  /-- the width of a figure. -/
  | figure
  /-- the height of a picture in running text. -/
  | inline
deriving Repr, DecidableEq

/-- the least length of a mode. -/
def least (s : Sizing α) : Mode → α
  | .figure => s.minWidth
  | .inline => s.minInlineHeight

/-- the greatest length of a mode. -/
def greatest (s : Sizing α) : Mode → α
  | .figure => s.maxWidth
  | .inline => s.maxInlineHeight

/-- `x` kept between `low` and `high`, which have to be in order. -/
def clamp? (low high x : α) : Option α :=
  if Scalar.le low high then
    some (if Scalar.lt x low then low else if Scalar.lt high x then high else x)
  else none

/-- the printed length of a number of pixels, if the bounds are in order. -/
def length? (s : Sizing α) (mode : Mode) (pixels : Nat) : Option α :=
  clamp? (s.least mode) (s.greatest mode) (Scalar.div (Scalar.ofNat pixels) s.ratio)

/-- the printed length of a number of pixels. -/
def length (s : Sizing α) (mode : Mode) (pixels : Nat) : α :=
  (s.length? mode pixels).getD (s.least mode)

theorem length?_eq_some {s : Sizing α} {mode : Mode}
    (h : Scalar.le (s.least mode) (s.greatest mode) = true) (pixels : Nat) :
    s.length? mode pixels = some (s.length mode pixels) := by
  simp [length, length?, clamp?, h]

end

end Sizing

/-- a length with at most two decimal places. -/
def lengthText (x : Float) : List Char :=
  let t := ((Decimal.fixed 2 x).reverse.dropWhile (· = '0')).dropWhile (· = '.')
  match t.reverse with
  | [] => ['0']
  | ['-'] => ['0']
  | t => t

end Bookpress
