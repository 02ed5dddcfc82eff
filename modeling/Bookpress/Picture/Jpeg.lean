import Bookpress.Picture.Pixmap

/-!
# JPEG

Reading JPEG files with Huffman codes, sequential and progressive, in gray, in luma and chroma, in
plain colour and with four inks.  A file is a row of segments; the scans fill a store of
coefficients for every component, and the picture is computed from the store at the end.  Data
that is missing at the end of a scan counts as zero bits.
-/

namespace Bookpress
namespace Picture
namespace Jpeg

/-- a prefix code: how many symbols have each length, and the symbols by their codes. -/
structure Code where
  counts : Array Nat
  symbols : Array Nat

/-- where the bits of a scan are read. -/
structure Feed where
  /-- the byte in which the next bit stands. -/
  byte : Nat
  /-- how many bits of that byte have been read. -/
  used : Nat
deriving Repr

/-- the next bit; a marker is not passed, and gives zeros. -/
@[inline] def Feed.bit (f : Feed) (b : ByteArray) : Nat × Feed :=
  let c := (byteAt b f.byte).toNat
  if b.size ≤ f.byte ∨ (c = 255 ∧ byteAt b (f.byte + 1) ≠ 0) then (0, f)
  else
    let bit := (c >>> (7 - f.used)) % 2
    if f.used < 7 then (bit, ⟨f.byte, f.used + 1⟩)
    else (bit, ⟨if c = 255 then f.byte + 2 else f.byte + 1, 0⟩)

/-- the next `n` bits as a number, the highest first. -/
def Feed.bits (b : ByteArray) : Nat → Nat → Feed → Nat × Feed
  | 0, acc, f => (acc, f)
  | n + 1, acc, f =>
    let (x, f) := f.bit b
    Feed.bits b n (2 * acc + x) f

/-- the next symbol of a code; `fuel` lengths are left to try, and no symbol counts as zero. -/
def Code.readFrom (c : Code) (b : ByteArray) : Nat → Nat → Nat → Nat → Nat → Feed → Nat × Feed
  | 0, _, _, _, _, f => (0, f)
  | fuel + 1, length, code, first, index, f =>
    let (bit, f) := f.bit b
    let code := code + bit
    let count := c.counts.getD length 0
    if code < first + count then (c.symbols.getD (index + (code - first)) 0, f)
    else c.readFrom b fuel (length + 1) (2 * code) (2 * (first + count)) (index + count) f

/-- the next symbol of a code. -/
@[inline] def Code.read (c : Code) (b : ByteArray) (f : Feed) : Nat × Feed :=
  c.readFrom b 16 1 0 0 0 f

/-- the number that `n` bits stand for: half of them are negative. -/
def signed (n x : Nat) : Int :=
  if n = 0 then 0
  else if x < 1 <<< (n - 1) then (x : Int) - ((1 <<< n) - 1 : Nat)
  else x

/-- the next signed number of `n` bits. -/
def Feed.signed (b : ByteArray) (n : Nat) (f : Feed) : Int × Feed :=
  let (x, f) := Feed.bits b n 0 f
  (Jpeg.signed n x, f)

/-- the places of the coefficients in the order of the file. -/
def zigzag : Array Nat :=
  #[0, 1, 8, 16, 9, 2, 3, 10, 17, 24, 32, 25, 18, 11, 4, 5, 12, 19, 26, 33, 40, 48, 41, 34, 27, 20,
    13, 6, 7, 14, 21, 28, 35, 42, 49, 56, 57, 50, 43, 36, 29, 22, 15, 23, 30, 37, 44, 51, 58, 59,
    52, 45, 38, 31, 39, 46, 53, 60, 61, 54, 47, 55, 62, 63]

/-- one of the components of a picture. -/
structure Component where
  id : Nat
  /-- samples across and down in a unit of the picture. -/
  across : Nat
  down : Nat
  /-- the number of its quantisation table. -/
  table : Nat
  /-- blocks in a row and in a column of the store. -/
  columns : Nat
  rows : Nat

/-- what the frame segment says. -/
structure Frame where
  width : Nat
  height : Nat
  progressive : Bool
  components : Array Component
  maxAcross : Nat
  maxDown : Nat

/-- units in a row. -/
def Frame.unitColumns (f : Frame) : Nat := (f.width + 8 * f.maxAcross - 1) / (8 * f.maxAcross)

/-- units in a column. -/
def Frame.unitRows (f : Frame) : Nat := (f.height + 8 * f.maxDown - 1) / (8 * f.maxDown)

/-- what has been read of a file. -/
structure Store where
  tables : Array (Array Nat)
  dcCodes : Array (Option Code)
  acCodes : Array (Option Code)
  restart : Nat
  /-- the colour transform that an application segment names. -/
  transform? : Option Nat
  frame? : Option Frame
  /-- the coefficients of the components, block by block. -/
  coefficients : Array (Array Int)
  scanned : Bool

/-- the store before the first segment. -/
def Store.initial : Store :=
  ⟨Array.replicate 4 (Array.replicate 64 1), Array.replicate 4 none, Array.replicate 4 none, 0,
    none, none, #[], false⟩

/-! ## segments -/

/-- the store with the quantisation tables from `i` up to `last`. -/
def readTables (b : ByteArray) (last : Nat) : Nat → Nat → Store → Option Store
  | 0, _, _ => none
  | fuel + 1, i, s =>
    if last ≤ i then some s
    else
      let head := (byteAt b i).toNat
      let wide := 16 ≤ head
      let size := if wide then 128 else 64
      if 3 < head % 16 ∨ 31 < head ∨ last < i + 1 + size then none
      else
        let table := (List.range 64).foldl (fun (t : Array Nat) k =>
          t.setIfInBounds (zigzag.getD k 0)
            (if wide then high16 b (i + 1 + 2 * k) else (byteAt b (i + 1 + k)).toNat))
          (Array.replicate 64 1)
        readTables b last fuel (i + 1 + size)
          { s with tables := s.tables.setIfInBounds (head % 16) table }

/-- the store with the codes from `i` up to `last`. -/
def readCodes (b : ByteArray) (last : Nat) : Nat → Nat → Store → Option Store
  | 0, _, _ => none
  | fuel + 1, i, s =>
    if last ≤ i then some s
    else
      let head := (byteAt b i).toNat
      let counts := #[0] ++ ((List.range 16).map fun k => (byteAt b (i + 1 + k)).toNat).toArray
      let total := counts.foldl (· + ·) 0
      if 3 < head % 16 ∨ 31 < head ∨ last < i + 17 + total ∨ 256 < total then none
      else
        let code : Code :=
          ⟨counts, ((List.range total).map fun k => (byteAt b (i + 17 + k)).toNat).toArray⟩
        readCodes b last fuel (i + 17 + total)
          (if head < 16 then { s with dcCodes := s.dcCodes.setIfInBounds head (some code) }
           else { s with acCodes := s.acCodes.setIfInBounds (head % 16) (some code) })

/-- the store with the frame whose data stands between `i` and `last`. -/
def readFrame (b : ByteArray) (progressive : Bool) (i last : Nat) (s : Store) : Option Store :=
  let count := (byteAt b (i + 5)).toNat
  let height := high16 b (i + 1)
  let width := high16 b (i + 3)
  let shape := (List.range count).map fun k =>
    let j := i + 6 + 3 * k
    ((byteAt b j).toNat, (byteAt b (j + 1)).toNat / 16, (byteAt b (j + 1)).toNat % 16,
      (byteAt b (j + 2)).toNat)
  let maxAcross := shape.foldl (fun m c => max m c.2.1) 1
  let maxDown := shape.foldl (fun m c => max m c.2.2.1) 1
  let sound := shape.all fun c =>
    1 ≤ c.2.1 && c.2.1 ≤ 4 && 1 ≤ c.2.2.1 && c.2.2.1 ≤ 4 && c.2.2.2 ≤ 3
  if s.frame?.isSome ∨ last < i + 6 + 3 * count ∨ byteAt b i ≠ 8 ∨ width = 0 ∨ height = 0
      ∨ count ∉ [1, 3, 4] ∨ !sound then none
  else
    let f : Frame := ⟨width, height, progressive, #[], maxAcross, maxDown⟩
    let components := shape.map fun c =>
      (⟨c.1, c.2.1, c.2.2.1, c.2.2.2, f.unitColumns * c.2.1, f.unitRows * c.2.2.1⟩ : Component)
    some { s with
      frame? := some { f with components := components.toArray }
      coefficients :=
        (components.map fun c => Array.replicate (c.columns * c.rows * 64) 0).toArray }

/-! ## scans -/

/-- the part of the coefficients that a scan brings. -/
structure Part where
  first : Nat
  last : Nat
  /-- the bit that was brought before, or zero for a first scan. -/
  high : Nat
  /-- the bit that the scan brings. -/
  low : Nat

/-- the value of the bit that a scan brings. -/
def Part.unit (p : Part) : Int := (1 <<< p.low : Nat)

/-- what changes in the course of a scan. -/
structure Scan where
  feed : Feed
  /-- the last constant coefficient of each component. -/
  constants : Array Int
  /-- blocks that have no more coefficients. -/
  emptyRun : Nat
  coefficients : Array (Array Int)

/-- a scan with a coefficient of component `c`, counted from the start of the block at `base`. -/
@[inline] def Scan.set (s : Scan) (c base k : Nat) (v : Int) : Scan :=
  { s with coefficients :=
      s.coefficients.modify c fun a => a.setIfInBounds (base + zigzag.getD k 0) v }

/-- a coefficient of component `c`. -/
@[inline] def Scan.get (s : Scan) (c base k : Nat) : Int :=
  (s.coefficients.getD c #[]).getD (base + zigzag.getD k 0) 0

/-- the constant coefficient of a block. -/
def Scan.constant (b : ByteArray) (p : Part) (code : Code) (c base : Nat) (s : Scan) : Scan :=
  if p.high = 0 then
    let (n, f) := code.read b s.feed
    let (d, f) := Feed.signed b (min n 16) f
    let v := s.constants.getD c 0 + d
    { s with feed := f, constants := s.constants.setIfInBounds c v }.set c base 0 (v * p.unit)
  else
    let (bit, f) := s.feed.bit b
    let s := { s with feed := f }
    if bit = 1 then s.set c base 0 (s.get c base 0 + p.unit) else s

/-- the coefficients of a block from `k` on, in a scan that brings them first. -/
def Scan.waves (b : ByteArray) (p : Part) (code : Code) (c base : Nat) : Nat → Nat → Scan → Scan
  | 0, _, s => s
  | fuel + 1, k, s =>
    if p.last < k then s
    else
      let (x, f) := code.read b s.feed
      let run := x / 16
      let size := x % 16
      if size = 0 then
        if run = 15 then Scan.waves b p code c base fuel (k + 16) { s with feed := f }
        else
          let (extra, f) := Feed.bits b run 0 f
          { s with feed := f, emptyRun := (1 <<< run) + extra - 1 }
      else
        let (v, f) := Feed.signed b size f
        let s := { s with feed := f }.set c base (k + run) (v * p.unit)
        Scan.waves b p code c base fuel (k + run + 1) s

/-- one more bit for a coefficient that is not zero. -/
def Scan.correct (b : ByteArray) (p : Part) (c base k : Nat) (s : Scan) : Scan :=
  let (bit, f) := s.feed.bit b
  let s := { s with feed := f }
  if bit = 0 then s
  else
    let v := s.get c base k
    s.set c base k (if 0 < v then v + p.unit else v - p.unit)

/-- corrections of the coefficients from `k` on, past `zeros` that are zero; the result is the
place after them. -/
def Scan.correctPast (b : ByteArray) (p : Part) (c base : Nat) :
    Nat → Nat → Nat → Scan → Nat × Scan
  | 0, _, k, s => (k, s)
  | fuel + 1, zeros, k, s =>
    if p.last < k then (k, s)
    else if s.get c base k = 0 then
      if zeros = 0 then (k, s) else Scan.correctPast b p c base fuel (zeros - 1) (k + 1) s
    else Scan.correctPast b p c base fuel zeros (k + 1) (s.correct b p c base k)

/-- the coefficients of a block from `k` on, in a scan that corrects them. -/
def Scan.corrections (b : ByteArray) (p : Part) (code : Code) (c base : Nat) :
    Nat → Nat → Scan → Scan
  | 0, _, s => s
  | fuel + 1, k, s =>
    if p.last < k then s
    else
      let (x, f) := code.read b s.feed
      let run := x / 16
      if x % 16 = 0 ∧ run < 15 then
        let (extra, f) := Feed.bits b run 0 f
        let s := (Scan.correctPast b p c base 64 64 k { s with feed := f }).2
        { s with emptyRun := (1 <<< run) + extra - 1 }
      else
        let (bit, f) := if x % 16 = 0 then (0, f) else f.bit b
        let (k, s) := Scan.correctPast b p c base 64 run k { s with feed := f }
        let s := if x % 16 = 0 then s
          else s.set c base k (if bit = 1 then p.unit else -p.unit)
        Scan.corrections b p code c base fuel (k + 1) s

/-- the coefficients of one block in a scan of a part. -/
def Scan.block (b : ByteArray) (p : Part) (dc ac : Code) (c base : Nat) (s : Scan) : Scan :=
  let s := if p.first = 0 then s.constant b p dc c base else s
  let start := max 1 p.first
  if p.last < start then s
  else if 0 < s.emptyRun then
    let s := { s with emptyRun := s.emptyRun - 1 }
    if p.high = 0 then s else (Scan.correctPast b p c base 64 64 start s).2
  else if p.high = 0 then Scan.waves b p ac c base 64 start s
  else Scan.corrections b p ac c base 64 start s

/-- a component in a scan: its number and its codes. -/
structure Voice where
  index : Nat
  dc : Code
  ac : Code

/-- the first marker from `i` on, at its second byte. -/
def findMarker (b : ByteArray) : Nat → Nat → Nat
  | 0, i => i
  | fuel + 1, i =>
    if b.size ≤ i + 1 then b.size
    else if byteAt b i == 255 && byteAt b (i + 1) != 0 && byteAt b (i + 1) != 255 then i + 1
    else findMarker b fuel (i + 1)

/-- a scan after a restart marker, if one is next. -/
def Scan.restarted (b : ByteArray) (s : Scan) : Scan :=
  let i := findMarker b b.size s.feed.byte
  let m := (byteAt b i).toNat
  if 0xD0 ≤ m ∧ m ≤ 0xD7 then
    { s with feed := ⟨i + 1, 0⟩, constants := s.constants.map fun _ => 0, emptyRun := 0 }
  else s

/-- unit `n` of a scan of several components. -/
def Scan.unit (b : ByteArray) (f : Frame) (p : Part) (voices : List Voice) (n : Nat) (s : Scan) :
    Scan :=
  voices.foldl (fun s v =>
    match f.components[v.index]? with
    | none => s
    | some c =>
      c.down.fold (fun y _ s => c.across.fold (fun x _ s =>
        let column := n % f.unitColumns * c.across + x
        let row := n / f.unitColumns * c.down + y
        s.block b p v.dc v.ac v.index ((row * c.columns + column) * 64)) s) s) s

/-- the blocks across that a component needs alone. -/
def Frame.ownColumns (f : Frame) (c : Component) : Nat :=
  ((f.width * c.across + f.maxAcross - 1) / f.maxAcross + 7) / 8

/-- the blocks down that a component needs alone. -/
def Frame.ownRows (f : Frame) (c : Component) : Nat :=
  ((f.height * c.down + f.maxDown - 1) / f.maxDown + 7) / 8

/-- a whole scan. -/
def Scan.run (b : ByteArray) (f : Frame) (restart : Nat) (p : Part) (voices : List Voice)
    (s : Scan) : Scan :=
  let pause (n : Nat) (s : Scan) : Scan :=
    if 0 < restart ∧ 0 < n ∧ n % restart = 0 then s.restarted b else s
  match voices with
  | [v] =>
    match f.components[v.index]? with
    | none => s
    | some c =>
      let columns := f.ownColumns c
      (columns * f.ownRows c).fold (fun n _ s =>
        (pause n s).block b p v.dc v.ac v.index ((n / columns * c.columns + n % columns) * 64)) s
  | _ => (f.unitColumns * f.unitRows).fold (fun n _ s => (pause n s).unit b f p voices n) s

/-- the code that a scan names; codes that the scan does not use may be absent. -/
def pickCode (codes : Array (Option Code)) (n : Nat) (isUsed : Bool) : Option Code :=
  match codes.getD n none with
  | some c => some c
  | none => if isUsed then none else some ⟨#[], #[]⟩

/-- the store after the scan whose segment stands between `i` and `last`, and where the scan
ends. -/
def readScan (b : ByteArray) (i last : Nat) (s : Store) : Option (Nat × Store) := do
  let f ← s.frame?
  let count := (byteAt b i).toNat
  if count = 0 ∨ 4 < count ∨ last < i + 4 + 2 * count then none
  else
    let j := i + 1 + 2 * count
    let ends := (byteAt b (j + 2)).toNat
    let p : Part := if f.progressive then
        ⟨(byteAt b j).toNat, min 63 (byteAt b (j + 1)).toNat, ends / 16, ends % 16⟩
      else ⟨0, 63, 0, 0⟩
    let voices ← (List.range count).mapM fun k => do
      let id := (byteAt b (i + 1 + 2 * k)).toNat
      let names := (byteAt b (i + 2 + 2 * k)).toNat
      let index ← f.components.findIdx? fun c => c.id == id
      let dc ← pickCode s.dcCodes (names / 16) (p.first == 0 && p.high == 0)
      let ac ← pickCode s.acCodes (names % 16) (0 < p.last)
      pure (⟨index, dc, ac⟩ : Voice)
    let scan := Scan.run b f s.restart p voices
      ⟨⟨last, 0⟩, f.components.map fun _ => 0, 0, s.coefficients⟩
    pure (scan.feed.byte, { s with coefficients := scan.coefficients, scanned := true })

/-- the store after the segments from `i` on.  Once there has been a scan, the file may end. -/
def segments (b : ByteArray) : Nat → Nat → Store → Option Store
  | 0, _, _ => none
  | fuel + 1, i, s =>
    let i := findMarker b b.size i
    let m := (byteAt b i).toNat
    if b.size ≤ i ∨ m = 0xD9 then (if s.scanned then some s else none)
    else if 0xD0 ≤ m ∧ m ≤ 0xD8 ∨ m = 1 then segments b fuel (i + 1) s
    else
      let first := i + 3
      let last := i + 1 + high16 b (i + 1)
      if b.size < i + 3 ∨ last < first ∨ b.size < last then (if s.scanned then some s else none)
      else if m = 0xDB then (readTables b last b.size first s).bind (segments b fuel last)
      else if m = 0xC4 then (readCodes b last b.size first s).bind (segments b fuel last)
      else if m = 0xDD then segments b fuel last { s with restart := high16 b first }
      else if m = 0xEE ∧ hasAt b first "Adobe".toUTF8.toList then
        segments b fuel last { s with transform? := some (byteAt b (first + 11)).toNat }
      else if 0xC0 ≤ m ∧ m ≤ 0xC2 then
        (readFrame b (m = 0xC2) first last s).bind (segments b fuel last)
      else if 0xC3 ≤ m ∧ m ≤ 0xCF then none
      else if m = 0xDA then
        (readScan b first last s).bind fun (i, s) => segments b fuel i s
      else segments b fuel last s

/-! ## the picture -/

/-- the waves of the cosine transform at eight points, in units of 1/4096. -/
def cosines : Array Int :=
  #[1448, 2009, 1892, 1703, 1448, 1138, 784, 400,
    1448, 1703, 784, -400, -1448, -2009, -1892, -1138,
    1448, 1138, -784, -2009, -1448, 400, 1892, 1703,
    1448, 400, -1892, -1138, 1448, 1703, -784, -2009,
    1448, -400, -1892, 1138, 1448, -1703, -784, 2009,
    1448, -1138, -784, 2009, -1448, -400, 1892, -1703,
    1448, -1703, 784, 400, -1448, 2009, -1892, 1138,
    1448, -2009, 1892, -1703, 1448, -1138, 784, -400]

/-- eight sums of eight products: entry `x` is the wave at `x`, of the coefficients at `at`. -/
def waveAt (x : Nat) (value : Nat → Int) : Int :=
  Nat.fold 8 (fun u _ sum => sum + cosines.getD (8 * x + u) 0 * value u) 0

/-- a number as a sample. -/
def clampSample (v : Int) : UInt8 := UInt8.ofNat (min v.toNat 255)

/-- the 64 samples of a block. -/
def blockSamples (coefficients table : Array Int) (base : Nat) : Array UInt8 :=
  let scaled : Array Int := Array.ofFn fun (i : Fin 64) =>
    coefficients.getD (base + i.val) 0 * table.getD i.val 1
  let rows : Array Int := Array.ofFn fun (i : Fin 64) =>
    waveAt (i.val % 8) fun u => scaled.getD (i.val / 8 * 8 + u) 0
  Array.ofFn fun (i : Fin 64) =>
    let v := waveAt (i.val / 8) fun u => rows.getD (8 * u + i.val % 8) 0
    clampSample ((v + 128 * 16777216 + 8388608) / 16777216)

/-- the samples of a component, row by row. -/
def plane (s : Store) (index : Nat) (c : Component) : ByteArray :=
  let table := (s.tables.getD c.table #[]).map Int.ofNat
  let coefficients := s.coefficients.getD index #[]
  c.rows.fold (fun row _ out =>
    let blocks := (List.range c.columns).map fun column =>
      blockSamples coefficients table ((row * c.columns + column) * 64)
    Nat.fold 8 (fun y _ out => blocks.foldl (fun out block =>
      Nat.fold 8 (fun x _ out => out.push (block.getD (8 * y + x) 0)) out) out) out)
    ByteArray.empty

/-- red, green and blue of luma and chroma. -/
def ofLuma (y cb cr : Nat) : UInt8 × UInt8 × UInt8 :=
  let l : Int := y
  let b : Int := (cb : Int) - 128
  let r : Int := (cr : Int) - 128
  (clampSample (l + (91881 * r + 32768) / 65536),
    clampSample (l - (22554 * b + 46802 * r + 32767) / 65536),
    clampSample (l + (116130 * b + 32768) / 65536))

/-- ink and black as light. -/
def inked (ink black : UInt8) : UInt8 := UInt8.ofNat ((ink.toNat * black.toNat + 127) / 255)

/-- the picture in a file. -/
def decode? (b : ByteArray) : Option Pixmap := do
  if !hasAt b 0 [0xFF, 0xD8] then none
  else
    let s ← segments b b.size 2 .initial
    let f ← s.frame?
    let planes := f.components.mapIdx fun i c => plane s i c
    let sample (k x y : Nat) : UInt8 :=
      match f.components[k]? with
      | none => 0
      | some c =>
        byteAt (planes.getD k ByteArray.empty)
          (y * c.down / f.maxDown * (8 * c.columns) + x * c.across / f.maxAcross)
    let count := f.components.size
    let ids := f.components.toList.map fun c => c.id
    let isLuma := if count = 3 then s.transform? != some 0 && ids != [82, 71, 66]
      else s.transform? == some 2
    let point (x y : Nat) (out : ByteArray) : ByteArray :=
      let a := sample 0 x y
      if count = 1 then out.push a
      else
        let c := sample 1 x y
        let d := sample 2 x y
        let (r, g, bl) := if isLuma then ofLuma a.toNat c.toNat d.toNat else (a, c, d)
        if count = 3 then ((out.push r).push g).push bl
        else
          let k := sample 3 x y
          ((out.push (inked r k)).push (inked g k)).push (inked bl k)
    pure ⟨f.width, f.height, if count = 1 then 1 else 3, false,
      f.height.fold (fun y _ out => f.width.fold (fun x _ out => point x y out) out)
        ByteArray.empty⟩

end Jpeg
end Picture
end Bookpress
