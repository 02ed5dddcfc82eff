import Bookpress.Picture.Inflate
import Bookpress.Picture.Pixmap

/-!
# PNG

Reading PNG files of every colour type, depth and interlacing, and writing them.  A file is a row
of chunks; a chunk that pictures cannot do without has to pass its check, and any other chunk
that fails it is passed over.
-/

namespace Bookpress
namespace Picture
namespace Png

/-- the first bytes of every file. -/
def signature : List UInt8 := [137, 80, 78, 71, 13, 10, 26, 10]

/-- what a picture is like. -/
structure Header where
  width : Nat
  height : Nat
  depth : Nat
  /-- 0 for gray, 2 for colour, 3 for a palette; 4 and 6 for gray and colour with opacity. -/
  colour : Nat
  interlaced : Bool
deriving Repr, DecidableEq

/-- the depths of a colour type. -/
def depthsOf (colour : Nat) : List Nat :=
  if colour = 0 then [1, 2, 4, 8, 16]
  else if colour = 3 then [1, 2, 4, 8]
  else if colour = 2 ∨ colour = 4 ∨ colour = 6 then [8, 16]
  else []

/-- samples to a point in the file. -/
def Header.channels (h : Header) : Nat :=
  if h.colour = 2 then 3 else if h.colour = 4 then 2 else if h.colour = 6 then 4 else 1

/-- bits to a point in the file. -/
def Header.pointBits (h : Header) : Nat := h.channels * h.depth

/-- the header in the thirteen bytes at `i`. -/
def Header.read? (b : ByteArray) (i : Nat) : Option Header :=
  let h : Header :=
    ⟨high32 b i, high32 b (i + 4), (byteAt b (i + 8)).toNat, (byteAt b (i + 9)).toNat,
      byteAt b (i + 12) == 1⟩
  if h.width = 0 ∨ h.height = 0 ∨ h.depth ∉ depthsOf h.colour ∨ byteAt b (i + 10) ≠ 0
      ∨ byteAt b (i + 11) ≠ 0 ∨ 1 < byteAt b (i + 12) then none
  else some h

/-- a piece of a file. -/
structure Chunk where
  kind : List Char
  /-- where its data starts, and how much there is. -/
  start : Nat
  size : Nat

/-- the kind and size that a chunk at `i` announces. -/
def announced? (b : ByteArray) (i : Nat) : Option Chunk :=
  if i + 8 ≤ b.size then
    some ⟨((b.extract (i + 4) (i + 8)).toList.map fun c => Char.ofNat c.toNat), i + 8, high32 b i⟩
  else none

/-- where the next chunk starts. -/
def Chunk.next (c : Chunk) : Nat := c.start + c.size + 4

/-- whether all of a chunk is there. -/
def Chunk.isWhole (b : ByteArray) (c : Chunk) : Bool := c.next ≤ b.size

/-- whether a chunk passes its check. -/
def Chunk.isSound (b : ByteArray) (c : Chunk) : Bool :=
  (crc b (c.start - 4) (c.start + c.size)).toNat == high32 b (c.start + c.size)

/-- whether pictures can do without a chunk of this kind. -/
def Chunk.isAncillary (c : Chunk) : Bool :=
  match c.kind with
  | k :: _ => 96 < k.toNat
  | [] => false

/-- what stands before the picture data. -/
structure Prelude where
  header : Header
  /-- where the palette starts, and its size in bytes. -/
  palette? : Option (Nat × Nat)
  /-- where the transparency starts, and its size in bytes. -/
  clear? : Option (Nat × Nat)
  /-- where the first chunk of picture data starts. -/
  data : Nat

/-- the prelude with one more chunk; the outer `none` is a fault. -/
def Prelude.add? (p : Prelude) (c : Chunk) : Option Prelude :=
  if c.kind = "PLTE".toList then
    if p.palette?.isSome ∨ c.size % 3 ≠ 0 ∨ 768 < c.size then none
    else some { p with palette? := some (c.start, c.size) }
  else if c.kind = "tRNS".toList then
    if p.clear?.isSome ∨ 4 ≤ p.header.colour ∨ (p.header.colour = 3 ∧ p.palette?.isNone)
        ∨ (p.header.colour = 0 ∧ c.size < 2) ∨ (p.header.colour = 2 ∧ c.size < 6) then none
    else some { p with clear? := some (c.start, c.size) }
  else if c.kind = "IHDR".toList ∨ c.kind = "IEND".toList then none
  else some p

/-- the chunks up to the picture data. -/
def preludeFrom (b : ByteArray) : Nat → Nat → Prelude → Option Prelude
  | 0, _, _ => none
  | fuel + 1, i, p =>
    match announced? b i with
    | none => none
    | some c =>
      if c.kind = "IDAT".toList then some { p with data := i }
      else if !c.isWhole b then none
      else if c.isSound b then (p.add? c).bind fun p => preludeFrom b fuel c.next p
      else if c.isAncillary then preludeFrom b fuel c.next p
      else none

/-- what stands before the picture data of a file. -/
def prelude? (b : ByteArray) : Option Prelude :=
  if !hasAt b 0 signature then none
  else
    match announced? b 8 with
    | none => none
    | some c =>
      if c.kind = "IHDR".toList ∧ c.size = 13 ∧ c.isWhole b ∧ c.isSound b then
        (Header.read? b c.start).bind fun h => preludeFrom b b.size c.next ⟨h, none, none, 0⟩
      else none

/-- the width and height of the picture in a file. -/
def size? (b : ByteArray) : Option (Nat × Nat) :=
  (prelude? b).map fun p => (p.header.width, p.header.height)

/-- the packed picture data of the chunks from `i` on; the chunk after the last of them has to
begin. -/
def packed? (b : ByteArray) : Nat → Nat → ByteArray → Option ByteArray
  | 0, _, _ => none
  | fuel + 1, i, out =>
    match announced? b i with
    | none => none
    | some c =>
      if c.kind = "IDAT".toList then
        if c.isWhole b && c.isSound b then
          packed? b fuel c.next (out ++ b.extract c.start (c.start + c.size))
        else none
      else some out

/-! ## rows -/

/-- one of the sub-pictures of a file: every `dx`-th column from `x` and every `dy`-th row from
`y` on. -/
structure Pass where
  x : Nat
  y : Nat
  dx : Nat
  dy : Nat

/-- the passes of a picture. -/
def Header.passes (h : Header) : List Pass :=
  if h.interlaced then
    [⟨0, 0, 8, 8⟩, ⟨4, 0, 8, 8⟩, ⟨0, 4, 4, 8⟩, ⟨2, 0, 4, 4⟩, ⟨0, 2, 2, 4⟩, ⟨1, 0, 2, 2⟩,
      ⟨0, 1, 1, 2⟩]
  else [⟨0, 0, 1, 1⟩]

/-- the columns of a pass. -/
def Pass.width (p : Pass) (h : Header) : Nat := (h.width + p.dx - 1 - p.x) / p.dx

/-- the rows of a pass. -/
def Pass.height (p : Pass) (h : Header) : Nat := (h.height + p.dy - 1 - p.y) / p.dy

/-- the bytes to a row of a pass. -/
def Pass.rowSize (p : Pass) (h : Header) : Nat := (p.width h * h.pointBits + 7) / 8

/-- the rows of a pass that has points. -/
def Pass.rows (p : Pass) (h : Header) : Nat := if p.width h = 0 then 0 else p.height h

/-- the neighbour (left, above, above left) nearest to left + above - above left. -/
def nearest (a b c : Nat) : Nat :=
  let p : Int := (a : Int) + b - c
  let da := (p - a).natAbs
  let db := (p - b).natAbs
  let dc := (p - c).natAbs
  if da ≤ db ∧ da ≤ dc then a else if db ≤ dc then b else c

/-- the prediction of a filter from the neighbours left, above and above left. -/
def predict (filter a b c : Nat) : Nat :=
  if filter = 1 then a
  else if filter = 2 then b
  else if filter = 3 then (a + b) / 2
  else if filter = 4 then nearest a b c
  else 0

/-- the bytes of a row, after its filter is undone; `i` is the row's first byte in `data`, and the
rows before it stand at the end of `out`, unless the row is the first. -/
def unfilterRow (data : ByteArray) (step rowSize filter i : Nat) (isFirst : Bool)
    (out : ByteArray) : ByteArray :=
  rowSize.fold (fun k _ out =>
    let n := out.size
    let a := if step ≤ k then (byteAt out (n - step)).toNat else 0
    let b := if isFirst then 0 else (byteAt out (n - rowSize)).toNat
    let c := if step ≤ k && !isFirst then (byteAt out (n - rowSize - step)).toNat else 0
    out.push (UInt8.ofNat ((byteAt data (i + k)).toNat + predict filter a b c))) out

/-- the rows of a pass after their filters are undone, from `i` on; a row is its filter and its
bytes. -/
def unfilterRows (data : ByteArray) (step rowSize : Nat) :
    Nat → Bool → Nat → ByteArray → Option (Nat × ByteArray)
  | 0, _, i, out => some (i, out)
  | n + 1, isFirst, i, out =>
    let filter := (byteAt data i).toNat
    if data.size < i + 1 + rowSize ∨ 4 < filter then none
    else unfilterRows data step rowSize n false (i + 1 + rowSize)
      (unfilterRow data step rowSize filter (i + 1) isFirst out)

/-- how far the rows of the passes have been read, where each pass starts, and the rows. -/
abbrev Unfiltered := Nat × Array Nat × ByteArray

/-- the rows of one more pass. -/
def addPass? (h : Header) (data : ByteArray) (x : Unfiltered) (p : Pass) : Option Unfiltered := do
  let step := (h.pointBits + 7) / 8
  let (i, rows) ← unfilterRows data step (p.rowSize h) (p.rows h) true x.1 x.2.2
  pure (i, x.2.1.push x.2.2.size, rows)

/-- the rows of all passes, and where each pass starts among them. -/
def unfilter? (h : Header) (data : ByteArray) : Option (Array Nat × ByteArray) :=
  (h.passes.foldlM (addPass? h data) (0, #[], ByteArray.empty)).map Prod.snd

/-- the pass that holds a point of an interlaced picture. -/
def passOf (x y : Nat) : Nat :=
  if y % 2 = 1 then 6
  else if x % 2 = 1 then 5
  else if y % 4 = 2 then 4
  else if x % 4 = 2 then 3
  else if y % 8 = 4 then 2
  else if x % 8 = 4 then 1
  else 0

/-! ## points -/

/-- the rows of a picture and what it takes to read points out of them. -/
structure Raster where
  header : Header
  passes : Array Pass
  rowSizes : Array Nat
  starts : Array Nat
  rows : ByteArray

/-- the pass of a point, and the number of its first bit among the rows. -/
def Raster.bitOf (r : Raster) (x y : Nat) : Nat :=
  let k := if r.header.interlaced then passOf x y else 0
  let p := r.passes.getD k ⟨0, 0, 1, 1⟩
  8 * (r.starts.getD k 0 + (y - p.y) / p.dy * r.rowSizes.getD k 0)
    + (x - p.x) / p.dx * r.header.pointBits

/-- a sample of less than a byte. -/
def Raster.small (r : Raster) (bit : Nat) : Nat :=
  ((byteAt r.rows (bit / 8)).toNat >>> (8 - r.header.depth - bit % 8)) % (1 <<< r.header.depth)

/-- the first sample of a point, in the depth of the file. -/
def Raster.sample (r : Raster) (bit channel : Nat) : Nat :=
  if r.header.depth = 16 then high16 r.rows (bit / 8 + 2 * channel)
  else if r.header.depth = 8 then (byteAt r.rows (bit / 8 + channel)).toNat
  else r.small bit

/-- `out` with a sample of the file's depth, in at least eight bits. -/
def pushSample (h : Header) (out : ByteArray) (n : Nat) : ByteArray :=
  if h.depth = 16 then (out.push (UInt8.ofNat (n / 256))).push (UInt8.ofNat n)
  else if h.depth = 8 then out.push (UInt8.ofNat n)
  else out.push (UInt8.ofNat (n * (255 / ((1 <<< h.depth) - 1))))

/-- `out` with full opacity or none. -/
def pushOpacity (h : Header) (out : ByteArray) (clear : Bool) : ByteArray :=
  let b : UInt8 := if clear then 0 else 255
  if h.depth = 16 then (out.push b).push b else out.push b

/-- the samples of a clear point that the transparency chunk names. -/
def clearSample (b : ByteArray) (h : Header) (start channel : Nat) : Nat :=
  let n := high16 b (start + 2 * channel)
  if h.depth = 16 then n else n % 256

/-- `out` with the samples of a point of a palette picture. -/
def pushIndexed (b : ByteArray) (p : Prelude) (out : ByteArray) (n : Nat) : ByteArray :=
  let (start, size) := p.palette?.getD (0, 0)
  let known := 3 * n + 2 < size
  let at3 (k : Nat) : UInt8 := if known then byteAt b (start + 3 * n + k) else 0
  let out := ((out.push (at3 0)).push (at3 1)).push (at3 2)
  match p.clear? with
  | none => out
  | some (start, size) => out.push (if n < size then byteAt b (start + n) else 255)

/-- `out` with the samples of a point. -/
def pushPoint (b : ByteArray) (p : Prelude) (r : Raster) (x y : Nat) (out : ByteArray) :
    ByteArray :=
  let h := p.header
  let bit := r.bitOf x y
  if h.colour = 3 then pushIndexed b p out (r.sample bit 0)
  else
    let n := h.channels
    let out := n.fold (fun k _ out => pushSample h out (r.sample bit k)) out
    match p.clear? with
    | none => out
    | some (start, _) =>
      pushOpacity h out ((List.range n).all fun k => r.sample bit k == clearSample b h start k)

/-- the samples to a point once palettes and clear colours are spelled out. -/
def Prelude.channels (p : Prelude) : Nat :=
  (if p.header.colour = 3 then 3 else p.header.channels) + if p.clear?.isSome then 1 else 0

/-- the picture in a file. -/
def decode? (b : ByteArray) : Option Pixmap := do
  let p ← prelude? b
  let h := p.header
  if h.colour = 3 ∧ p.palette?.isNone then none
  else
    let packed ← packed? b b.size p.data ByteArray.empty
    let data ← Inflate.unzip? packed
    let (starts, rows) ← unfilter? h data
    let passes := h.passes.toArray
    let r : Raster := ⟨h, passes, passes.map fun q => q.rowSize h, starts, rows⟩
    pure ⟨h.width, h.height, p.channels, h.depth == 16,
      h.height.fold (fun y _ out => h.width.fold (fun x _ out => pushPoint b p r x y out) out)
        ByteArray.empty⟩

/-! ## writing -/

/-- `out` with a chunk. -/
def pushChunk (out : ByteArray) (kind : String) (data : ByteArray) : ByteArray :=
  let out := push32 out data.size ++ kind.toUTF8 ++ data
  push32 out (crc out (out.size - data.size - 4) out.size).toNat

/-- the colour type of a number of channels. -/
def colourOf (channels : Nat) : UInt8 :=
  if channels = 1 then 0 else if channels = 2 then 4 else if channels = 3 then 2 else 6

/-- the rows of a picture, each after the filter that changes nothing. -/
def rowsOf (m : Pixmap) : ByteArray :=
  let n := m.width * m.pointSize
  m.height.fold (fun y _ out => out.push 0 ++ m.samples.extract (y * n) (y * n + n)) ByteArray.empty

/-- a picture as a file. -/
def encode (m : Pixmap) : ByteArray :=
  let header := ((((push32 (push32 ByteArray.empty m.width) m.height).push
    (if m.deep then 16 else 8)).push (colourOf m.channels)).push 0).push 0 |>.push 0
  let out := pushChunk (signature.foldl ByteArray.push ByteArray.empty) "IHDR" header
  let out := pushChunk out "IDAT" (zipStored (rowsOf m))
  pushChunk out "IEND" ByteArray.empty

end Png
end Picture
end Bookpress
