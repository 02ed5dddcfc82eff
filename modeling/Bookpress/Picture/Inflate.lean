import Bookpress.Picture.Bytes

/-!
# Inflation

Unpacking of deflated data.  A position is a number of bits; codes are canonical, so a code is
given by how many symbols have each length and by the symbols in the order of their codes.

* `Code.ofLengths?` refuses lengths that ask for more codes than there are.
-/

namespace Bookpress
namespace Picture
namespace Inflate

/-- the bit at a position. -/
@[inline] def bitAt? (b : ByteArray) (p : Nat) : Option Nat :=
  let i := p / 8
  if h : i < b.size then some ((b[i].toNat >>> (p % 8)) % 2) else none

/-- `n` bits from a position on, the lowest first. -/
def bits? (b : ByteArray) (p n : Nat) : Option Nat :=
  if p + n ≤ 8 * b.size then
    some (n.fold (fun i _ s =>
      s + (((byteAt b ((p + i) / 8)).toNat >>> ((p + i) % 8)) % 2) <<< i) 0)
  else none

/-- a canonical prefix code. -/
structure Code where
  /-- how many symbols have each length. -/
  counts : Array Nat
  /-- the symbols by their codes. -/
  symbols : Array Nat

/-- the longest code. -/
def maxLength : Nat := 15

/-- what is left of the code space after each length, if it never runs out. -/
def spaceLeft (counts : Array Nat) : Option Nat :=
  maxLength.fold (fun i _ left? => left?.bind fun left =>
    let n := counts.getD (i + 1) 0
    if n ≤ 2 * left then some (2 * left - n) else none) (some 1)

/-- the code of symbols with the given lengths; a length of zero means no code.  The code space
has to be used up, unless there is at most one code. -/
def Code.ofLengths? (lengths : Array Nat) : Option Code :=
  let counts := lengths.foldl (fun c n => c.modify n (· + 1)) (Array.replicate (maxLength + 1) 0)
  let used := lengths.size - counts.getD 0 0
  let symbols := (List.range maxLength).foldl (fun s i =>
    lengths.size.fold (fun k _ s => if lengths.getD k 0 = i + 1 then s.push k else s) s) #[]
  match spaceLeft counts with
  | none => none
  | some left => if left = 0 ∨ used ≤ 1 then some ⟨counts, symbols⟩ else none

/-- the symbol at a position, and the position after it; `fuel` lengths are left to try. -/
def Code.readFrom (c : Code) (b : ByteArray) :
    Nat → Nat → Nat → Nat → Nat → Nat → Option (Nat × Nat)
  | 0, _, _, _, _, _ => none
  | fuel + 1, length, code, first, index, p =>
    match bitAt? b p with
    | none => none
    | some bit =>
      let code := code + bit
      let count := c.counts.getD length 0
      if code < first + count then
        some (c.symbols.getD (index + (code - first)) 0, p + 1)
      else
        c.readFrom b fuel (length + 1) (2 * code) (2 * (first + count)) (index + count) (p + 1)

/-- the symbol at a position, and the position after it. -/
@[inline] def Code.read? (c : Code) (b : ByteArray) (p : Nat) : Option (Nat × Nat) :=
  c.readFrom b maxLength 1 0 0 0 p

/-- the least match lengths of the length symbols. -/
def lengthBases : Array Nat :=
  #[3, 4, 5, 6, 7, 8, 9, 10, 11, 13, 15, 17, 19, 23, 27, 31, 35, 43, 51, 59, 67, 83, 99, 115, 131,
    163, 195, 227, 258]

/-- the extra bits of the length symbols. -/
def lengthExtras : Array Nat :=
  #[0, 0, 0, 0, 0, 0, 0, 0, 1, 1, 1, 1, 2, 2, 2, 2, 3, 3, 3, 3, 4, 4, 4, 4, 5, 5, 5, 5, 0]

/-- the least distances of the distance symbols. -/
def distanceBases : Array Nat :=
  #[1, 2, 3, 4, 5, 7, 9, 13, 17, 25, 33, 49, 65, 97, 129, 193, 257, 385, 513, 769, 1025, 1537, 2049,
    3073, 4097, 6145, 8193, 12289, 16385, 24577]

/-- the extra bits of the distance symbols. -/
def distanceExtras : Array Nat :=
  #[0, 0, 0, 0, 1, 1, 2, 2, 3, 3, 4, 4, 5, 5, 6, 6, 7, 7, 8, 8, 9, 9, 10, 10, 11, 11, 12, 12, 13,
    13]

/-- `n` more bytes, each a copy of the one `distance` bytes before it. -/
def copyBack (distance : Nat) : Nat → ByteArray → ByteArray
  | 0, out => out
  | n + 1, out => copyBack distance n (out.push (byteAt out (out.size - distance)))

/-- the value of a symbol: its base and the number in its extra bits. -/
def extended? (b : ByteArray) (bases extras : Array Nat) (k p : Nat) : Option (Nat × Nat) :=
  if k < bases.size then
    let n := extras.getD k 0
    (bits? b p n).map fun x => (bases.getD k 0 + x, p + n)
  else none

/-- the symbols of a block, up to its end. -/
def symbols (b : ByteArray) (literals distances : Code) :
    Nat → Nat → ByteArray → Option (Nat × ByteArray)
  | 0, _, _ => none
  | fuel + 1, p, out =>
    match literals.read? b p with
    | none => none
    | some (s, p) =>
      if s < 256 then symbols b literals distances fuel p (out.push (UInt8.ofNat s))
      else if s = 256 then some (p, out)
      else
        match extended? b lengthBases lengthExtras (s - 257) p with
        | none => none
        | some (length, p) =>
          match distances.read? b p with
          | none => none
          | some (d, p) =>
            match extended? b distanceBases distanceExtras d p with
            | none => none
            | some (distance, p) =>
              if distance ≤ out.size then
                symbols b literals distances fuel p (copyBack distance length out)
              else none

/-- the fixed codes. -/
def fixedCodes? : Option (Code × Code) :=
  match Code.ofLengths? (Array.replicate 144 8 ++ Array.replicate 112 9 ++ Array.replicate 24 7
      ++ Array.replicate 8 8), Code.ofLengths? (Array.replicate 32 5) with
  | some l, some d => some (l, d)
  | _, _ => none

/-- the order in which the lengths of the length code are given. -/
def lengthOrder : List Nat := [16, 17, 18, 0, 8, 7, 9, 6, 10, 5, 11, 4, 12, 3, 13, 2, 14, 1, 15]

/-- the code lengths of a block, up to `total` of them. -/
def codeLengths (b : ByteArray) (c : Code) (total : Nat) :
    Nat → Nat → Array Nat → Option (Nat × Array Nat)
  | 0, _, _ => none
  | fuel + 1, p, lengths =>
    if total < lengths.size then none
    else if lengths.size = total then some (p, lengths)
    else
      match c.read? b p with
      | none => none
      | some (s, p) =>
        if s < 16 then codeLengths b c total fuel p (lengths.push s)
        else
          let last? := if s = 16 then lengths.back? else some 0
          let base := if s = 18 then 11 else 3
          let extra := if s = 16 then 2 else if s = 17 then 3 else 7
          match last?, bits? b p extra with
          | some last, some n =>
            codeLengths b c total fuel (p + extra) (lengths ++ Array.replicate (base + n) last)
          | _, _ => none

/-- the codes that a block brings along, and the position after them. -/
def ownCodes? (b : ByteArray) (p : Nat) : Option (Nat × Code × Code) := do
  let literals := (← bits? b p 5) + 257
  let distances := (← bits? b (p + 5) 5) + 1
  let count := (← bits? b (p + 10) 4) + 4
  let lengths ← (lengthOrder.take count).zipIdx.foldlM (fun (a : Array Nat) (x : Nat × Nat) => do
    let n ← bits? b (p + 14 + 3 * x.2) 3
    pure (a.setIfInBounds x.1 n)) (Array.replicate 19 0)
  let code ← Code.ofLengths? lengths
  let total := literals + distances
  let (p, all) ← codeLengths b code total (total + 1) (p + 14 + 3 * count) #[]
  if all.getD 256 0 = 0 then none
  else
    let l ← Code.ofLengths? (all.extract 0 literals)
    let d ← Code.ofLengths? (all.extract literals total)
    pure (p, l, d)

/-- a block that is stored as it is. -/
def stored? (b : ByteArray) (p : Nat) (out : ByteArray) : Option (Nat × ByteArray) :=
  let i := (p + 7) / 8
  let n := low16 b i
  if i + 4 + n ≤ b.size ∧ n + low16 b (i + 2) = 65535 then
    some (8 * (i + 4 + n), out ++ b.extract (i + 4) (i + 4 + n))
  else none

/-- the blocks, up to the last one. -/
def blocks (b : ByteArray) : Nat → Nat → ByteArray → Option (Nat × ByteArray)
  | 0, _, _ => none
  | fuel + 1, p, out =>
    match bits? b p 1, bits? b (p + 1) 2 with
    | some final, some kind =>
      let block? :=
        if kind = 0 then stored? b (p + 3) out
        else if kind = 1 then
          fixedCodes?.bind fun (l, d) => symbols b l d (8 * b.size + 1) (p + 3) out
        else if kind = 2 then
          (ownCodes? b (p + 3)).bind fun (q, l, d) => symbols b l d (8 * b.size + 1) q out
        else none
      match block? with
      | none => none
      | some (p, out) => if final = 1 then some (p, out) else blocks b fuel p out
    | _, _ => none

/-- the data of a stream with a two-byte header and a four-byte check at its end.  The check has
to be there, but its value does not matter. -/
def unzip? (b : ByteArray) : Option ByteArray :=
  let header := high16 b 0
  if b.size < 2 ∨ header % 31 ≠ 0 ∨ header / 256 % 16 ≠ 8 ∨ 7 < header / 4096 ∨ header / 32 % 2 = 1
  then none
  else
    match blocks b (8 * b.size + 1) 16 ByteArray.empty with
    | none => none
    | some (p, out) => if (p + 7) / 8 + 4 ≤ b.size then some out else none

end Inflate

/-! ## storing -/

/-- the blocks of at most 65535 bytes that hold the data from `i` on as it is. -/
def storedBlocks (data : ByteArray) : Nat → Nat → ByteArray → ByteArray
  | 0, _, out => out
  | fuel + 1, i, out =>
    let n := min 65535 (data.size - i)
    let final := data.size ≤ i + n
    let head := ((((out.push (if final then 1 else 0)).push (UInt8.ofNat n)).push
      (UInt8.ofNat (n / 256))).push (UInt8.ofNat (65535 - n))).push
      (UInt8.ofNat ((65535 - n) / 256))
    let out := head ++ data.extract i (i + n)
    if final then out else storedBlocks data fuel (i + n) out

/-- data as a stream that `Inflate.unzip?` reads, without packing. -/
def zipStored (data : ByteArray) : ByteArray :=
  push32 (storedBlocks data (data.size + 1) 0 ((ByteArray.empty.push 0x78).push 0x01))
    (adler data).toNat

end Picture
end Bookpress
