import Bookpress.Picture.Pixmap
import Bookpress.Picture.Inflate

/-!
# GIF

Reading the first frame of a GIF file, set on the clear canvas of the file.  The indices of a
frame are packed with growing codes: every code stands for a row of indices that already stands
in the output.
-/

namespace Bookpress
namespace Picture
namespace Gif

/-- a colour table: where it starts and how many colours it has. -/
structure Palette where
  start : Nat
  count : Nat

/-- the palette that a flags byte announces at `i`. -/
def Palette.read? (flags i : Nat) : Option Palette :=
  if 128 ≤ flags then some ⟨i, 1 <<< (flags % 8 + 1)⟩ else none

/-- the bytes of a palette. -/
def Palette.size (p? : Option Palette) : Nat :=
  match p? with
  | some p => 3 * p.count
  | none => 0

/-- where the row of sub-blocks at `i` ends, if it does. -/
def skipBlocks (b : ByteArray) : Nat → Nat → Option Nat
  | 0, _ => none
  | fuel + 1, i =>
    if b.size ≤ i then none
    else
      let n := (byteAt b i).toNat
      if n = 0 then some (i + 1) else skipBlocks b fuel (i + 1 + n)

/-- the data of the row of sub-blocks at `i`, as far as it is there. -/
def joinBlocks (b : ByteArray) : Nat → Nat → ByteArray → ByteArray
  | 0, _, out => out
  | fuel + 1, i, out =>
    let n := (byteAt b i).toNat
    if b.size ≤ i ∨ n = 0 then out
    else joinBlocks b fuel (i + 1 + n) (out ++ b.extract (i + 1) (i + 1 + n))

/-- the unpacked indices, and the rows of indices that codes stand for: where each starts in the
output and how long it is. -/
structure Unpacking where
  out : ByteArray
  rows : Array (Nat × Nat)
  /-- the row of the last code, unless the codes have just been cleared. -/
  last? : Option (Nat × Nat)

/-- bits to a code when `n` codes are known. -/
def codeBits (least n : Nat) : Nat := max (least + 1) (min 12 (Nat.log2 n + 1))

/-- `n` more indices, copied from `i` on. -/
def copyFrom : Nat → Nat → ByteArray → ByteArray
  | 0, _, out => out
  | n + 1, i, out => copyFrom n (i + 1) (out.push (byteAt out i))

/-- the output of a code; `none` is a code that is not known yet. -/
def Unpacking.add? (u : Unpacking) (least code : Nat) : Option Unpacking :=
  let base := (1 <<< least) + 2
  let start := u.out.size
  let known := base + u.rows.size
  let row? : Option (Nat × Nat × ByteArray) :=
    if code < 1 <<< least then some (start, 1, u.out.push (UInt8.ofNat code))
    else if code < known then
      let (i, n) := u.rows.getD (code - base) (0, 0)
      some (start, n, copyFrom n i u.out)
    else if code = known then
      u.last?.map fun (i, n) => (start, n + 1, copyFrom (n + 1) i u.out)
    else none
  row?.map fun (i, n, out) =>
    let rows := match u.last? with
      | some (j, k) => if known < 4096 then u.rows.push (j, k + 1) else u.rows
      | none => u.rows
    ⟨out, rows, some (i, n)⟩

/-- the indices of packed data, until `total` of them are there. -/
def unpack (b : ByteArray) (least total : Nat) : Nat → Nat → Unpacking → Option ByteArray
  | 0, _, _ => none
  | fuel + 1, p, u =>
    if total ≤ u.out.size then some u.out
    else
      let n := codeBits least ((1 <<< least) + 2 + u.rows.size)
      match Inflate.bits? b p n with
      | none => none
      | some code =>
        if code = 1 <<< least then unpack b least total fuel (p + n) ⟨u.out, #[], none⟩
        else if code = (1 <<< least) + 1 then none
        else (u.add? least code).bind fun u => unpack b least total fuel (p + n) u

/-- a frame and where its packed indices start. -/
structure Frame where
  left : Nat
  top : Nat
  width : Nat
  height : Nat
  interlaced : Bool
  palette : Palette
  /-- the index that stays clear. -/
  clear? : Option Nat
  data : Nat

/-- the first frame among the blocks from `i` on. -/
def findFrame (b : ByteArray) (shared? : Option Palette) :
    Nat → Nat → Option Nat → Option Frame
  | 0, _, _ => none
  | fuel + 1, i, clear? =>
    let kind := (byteAt b i).toNat
    if b.size ≤ i then none
    else if kind = 0x21 then
      let control := (byteAt b (i + 1)).toNat = 0xF9 ∧ (byteAt b (i + 2)).toNat = 4
      let clear? := if control then
          (if (byteAt b (i + 3)).toNat % 2 = 1 then some (byteAt b (i + 6)).toNat else none)
        else clear?
      (skipBlocks b b.size (i + 2)).bind fun i => findFrame b shared? fuel i clear?
    else if kind = 0x2C ∧ i + 10 ≤ b.size then
      let flags := (byteAt b (i + 9)).toNat
      let own? := Palette.read? flags (i + 10)
      match own? <|> shared? with
      | none => none
      | some p =>
        some ⟨low16 b (i + 1), low16 b (i + 3), low16 b (i + 5), low16 b (i + 7),
          flags / 64 % 2 = 1, p, clear?, i + 10 + Palette.size own?⟩
    else none

/-- the order in which the rows of an interlaced frame are packed: where row `y` stands. -/
def packedRow (height y : Nat) : Nat :=
  let eighth := (height + 7) / 8
  let fourth := (height + 3) / 8
  let half := (height + 1) / 4
  if y % 8 = 0 then y / 8
  else if y % 8 = 4 then eighth + y / 8
  else if y % 4 = 2 then eighth + fourth + y / 4
  else eighth + fourth + half + y / 2

/-- the colour of an index. -/
def Frame.colour (f : Frame) (b : ByteArray) (index : Nat) : Rgba :=
  let i := f.palette.start + 3 * index
  if f.palette.count ≤ index ∨ b.size < i + 3 then ⟨0, 0, 0, 0⟩
  else ⟨byteAt b i, byteAt b (i + 1), byteAt b (i + 2), if f.clear? = some index then 0 else 255⟩

/-- the colour of the canvas at a place. -/
def Frame.point (f : Frame) (b indices : ByteArray) (x y : Nat) : Rgba :=
  if x < f.left ∨ y < f.top ∨ f.left + f.width ≤ x ∨ f.top + f.height ≤ y then ⟨0, 0, 0, 0⟩
  else
    let y := y - f.top
    let row := if f.interlaced then packedRow f.height y else y
    f.colour b (byteAt indices (row * f.width + (x - f.left))).toNat

/-- the first picture in a file. -/
def decode? (b : ByteArray) : Option Pixmap := do
  let width := low16 b 6
  let height := low16 b 8
  let flags := (byteAt b 10).toNat
  if b.size < 13 ∨ width = 0 ∨ height = 0 then none
  else
    let shared? := Palette.read? flags 13
    let f ← findFrame b shared? b.size (13 + Palette.size shared?) none
    let least := (byteAt b f.data).toNat
    if b.size ≤ f.data ∨ least = 0 ∨ 11 < least then none
    else
      let packed := joinBlocks b b.size (f.data + 1) ByteArray.empty
      let indices ← unpack packed least (f.width * f.height) (8 * packed.size + 1) 0
        ⟨ByteArray.empty, #[], none⟩
      pure ⟨width, height, 4, false,
        height.fold (fun y _ out => width.fold (fun x _ out =>
          let c := f.point b indices x y
          (((out.push c.red).push c.green).push c.blue).push c.alpha) out) ByteArray.empty⟩

end Gif
end Picture
end Bookpress
