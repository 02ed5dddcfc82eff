import Bookpress.Picture.Bytes
import Bookpress.Picture.Grid

/-!
# Pixmaps

Pictures as rows of samples: gray or colour, with or without opacity, of eight or sixteen bits.
Points are compared by their eight-bit colour and opacity.
-/

namespace Bookpress
namespace Picture

/-- the colour of a point. -/
structure Rgba where
  red : UInt8
  green : UInt8
  blue : UInt8
  alpha : UInt8
deriving Repr, DecidableEq

/-- a picture. -/
structure Pixmap where
  width : Nat
  height : Nat
  /-- samples to a point: gray, gray and opacity, colour, or colour and opacity. -/
  channels : Nat
  /-- whether samples have sixteen bits. -/
  deep : Bool
  /-- the samples of the points, row by row. -/
  samples : ByteArray

namespace Pixmap

/-- bytes to a point. -/
def pointSize (m : Pixmap) : Nat := if m.deep then 2 * m.channels else m.channels

/-- a sixteen-bit sample in eight bits, rounded. -/
def reduce (n : Nat) : UInt8 := UInt8.ofNat ((n * 255 + 32767) / 65535)

/-- the sample of a channel of the point whose bytes start at `i`, in eight bits. -/
@[inline] def sample8 (m : Pixmap) (i channel : Nat) : UInt8 :=
  if m.deep then reduce (high16 m.samples (i + 2 * channel)) else byteAt m.samples (i + channel)

/-- the colour of a point; gray has three equal parts, and missing opacity is full. -/
def rgba (m : Pixmap) (x y : Nat) : Rgba :=
  let i := (y * m.width + x) * m.pointSize
  let a := m.sample8 i 0
  if m.channels = 1 then ⟨a, a, a, 255⟩
  else if m.channels = 2 then ⟨a, a, a, m.sample8 i 1⟩
  else if m.channels = 3 then ⟨a, m.sample8 i 1, m.sample8 i 2, 255⟩
  else ⟨a, m.sample8 i 1, m.sample8 i 2, m.sample8 i 3⟩

/-- the points of a picture. -/
def grid (m : Pixmap) : Grid Rgba := ⟨m.width, m.height, m.rgba⟩

/-- the part of a picture in a box. -/
def crop (m : Pixmap) (b : Box) : Pixmap :=
  let n := m.pointSize
  { m with
    width := b.width
    height := b.height
    samples := b.height.fold (fun k _ out =>
      let i := ((b.top + k) * m.width + b.left) * n
      out ++ m.samples.extract i (i + b.width * n)) ByteArray.empty }

/-- a picture without its uniform border. -/
def trim (m : Pixmap) : Pixmap :=
  match m.grid.bounds? with
  | none => m
  | some b => m.crop b

/-- the colours of the points, row by row, as bytes. -/
def rgbaBytes (m : Pixmap) : ByteArray :=
  m.height.fold (fun y _ out => m.width.fold (fun x _ out =>
    let c := m.rgba x y
    (((out.push c.red).push c.green).push c.blue).push c.alpha) out) ByteArray.empty

end Pixmap
end Picture
end Bookpress
