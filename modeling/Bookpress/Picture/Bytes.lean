/-!
# Bytes

Reading numbers out of a row of bytes and writing them, and the two checksums of PNG files.
-/

namespace Bookpress
namespace Picture

/-- the byte at `i`, or zero beyond the end. -/
@[inline] def byteAt (b : ByteArray) (i : Nat) : UInt8 := if h : i < b.size then b[i] else 0

/-- two bytes at `i` as a number, the higher first. -/
def high16 (b : ByteArray) (i : Nat) : Nat := (byteAt b i).toNat * 256 + (byteAt b (i + 1)).toNat

/-- two bytes at `i` as a number, the lower first. -/
def low16 (b : ByteArray) (i : Nat) : Nat := (byteAt b i).toNat + (byteAt b (i + 1)).toNat * 256

/-- four bytes at `i` as a number, the highest first. -/
def high32 (b : ByteArray) (i : Nat) : Nat := high16 b i * 65536 + high16 b (i + 2)

/-- four bytes of a number, the highest first. -/
def push32 (b : ByteArray) (n : Nat) : ByteArray :=
  (((b.push (UInt8.ofNat (n / 16777216))).push (UInt8.ofNat (n / 65536))).push
    (UInt8.ofNat (n / 256))).push (UInt8.ofNat n)

/-- whether the bytes of `p` stand at `i`. -/
def hasAt (b : ByteArray) (i : Nat) (p : List UInt8) : Bool :=
  i + p.length ≤ b.size && (b.extract i (i + p.length)).toList == p

/-! ## checksums -/

/-- one bit of the polynomial division. -/
def crcBit (c : UInt32) : UInt32 :=
  if c % 2 = 1 then (c >>> 1) ^^^ (0xedb88320 : UInt32) else c >>> 1

/-- the remainders of the single bytes. -/
def crcTable : Array UInt32 :=
  (Array.range 256).map fun n => (List.range 8).foldl (fun c _ => crcBit c) (UInt32.ofNat n)

/-- the remainder with one more byte. -/
@[inline] def crcStep (c : UInt32) (b : UInt8) : UInt32 :=
  (crcTable.getD ((c ^^^ b.toUInt32) &&& 0xff).toNat 0) ^^^ (c >>> 8)

/-- the cyclic redundancy check of the bytes from `first` to `last`. -/
def crc (b : ByteArray) (first last : Nat) : UInt32 :=
  b.foldl crcStep 0xffffffff first last ^^^ 0xffffffff

/-- the sums of the Adler check with one more byte. -/
@[inline] def adlerStep (s : UInt32 × UInt32) (b : UInt8) : UInt32 × UInt32 :=
  let low := (s.1 + b.toUInt32) % 65521
  (low, (s.2 + low) % 65521)

/-- the Adler check of a row of bytes. -/
def adler (b : ByteArray) : UInt32 :=
  let s := b.foldl adlerStep (1, 0)
  (s.2 <<< 16) ||| s.1

end Picture
end Bookpress
