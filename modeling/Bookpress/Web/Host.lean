import Bookpress.Text.Search
import Bookpress.Web.Punycode
import Bookpress.Web.Url

/-!
# Hosts

The hosts of URLs: names, whose labels are written in ASCII, and addresses of numbers, which are
written in one way only.

* `length_widened` : an address has eight pieces when what is left out has been put in.
-/

namespace Bookpress
namespace Web

/-! ## addresses of four bytes -/

/-- the number that a text writes in a base. -/
def numberIn? (base : Nat) (t : Text) : Option Nat :=
  t.foldl (fun n? c => n?.bind fun n => (Text.hexValue? c).bind fun d =>
    if d < base then some (n * base + d) else none) (some 0)

/-- the number that a part of an address writes: octal after a zero, hexadecimal after a zero and
an x, and decimal else. -/
def addressNumber? (t : Text) : Option Nat :=
  match t with
  | [] => none
  | '0' :: 'x' :: r | '0' :: 'X' :: r => numberIn? 16 r
  | '0' :: r => numberIn? 8 r
  | _ => numberIn? 10 t

/-- the parts of a host, without an empty one at the end. -/
def hostParts (t : Text) : List Text :=
  let parts := Text.split '.' t
  if 1 < parts.length ∧ parts.getLast? = some [] then parts.dropLast else parts

/-- whether a host has to be an address of numbers. -/
def endsInNumber (t : Text) : Bool :=
  match (hostParts t).getLast? with
  | some p => (!p.isEmpty && p.all Char.isDigit) || (addressNumber? p).isSome
  | none => false

/-- the four bytes of an address. -/
def addressOf? (t : Text) : Option Text := do
  let parts := hostParts t
  let numbers ← parts.mapM addressNumber?
  let last ← numbers.getLast?
  let front := numbers.dropLast
  if 4 < numbers.length ∨ front.any (255 < ·) ∨ 1 <<< (8 * (5 - numbers.length)) ≤ last then none
  else
    let n := front.zipIdx.foldl (fun n x => n + x.1 <<< (8 * (3 - x.2))) last
    some (Text.join '.' ([3, 2, 1, 0].map fun k => Text.ofNat ((n >>> (8 * k)) % 256)))

/-! ## addresses of eight pieces -/

/-- a piece of an address: up to four hexadecimal digits. -/
def piece? (t : Text) : Option Nat :=
  if t = [] ∨ 4 < t.length then none else numberIn? 16 t

/-- a byte of an address in decimal digits. -/
def byte? (t : Text) : Option Nat :=
  (Text.toNat? t).filter fun n => n ≤ 255 ∧ Text.ofNat n = t

/-- the two pieces that four bytes in decimal digits stand for. -/
def bytePieces? (t : Text) : Option (List Nat) := do
  match ← (Text.split '.' t).mapM byte? with
  | [a, b, c, d] => some [a * 256 + b, c * 256 + d]
  | _ => none

/-- the pieces of a text; at the end of an address, bytes may stand for the last two. -/
def pieces? (atEnd : Bool) (t : Text) : Option (List Nat) :=
  if t = [] then some []
  else do
    let groups := Text.split ':' t
    let front ← groups.dropLast.mapM piece?
    let last := groups.getLast?.getD []
    let back ← if atEnd && last.contains '.' then bytePieces? last
      else (piece? last).map fun n => [n]
    some (front ++ back)

/-- eight pieces, with zeros between the first and the last of them. -/
def widened (front back : List Nat) : List Nat :=
  front ++ (List.replicate (8 - (front.length + back.length)) 0 ++ back)

theorem length_widened {front back : List Nat} (h : front.length + back.length ≤ 8) :
    (widened front back).length = 8 := by
  simp only [widened, List.length_append, List.length_replicate]
  omega

/-- the eight pieces that a text writes; two colons stand for zeros that are left out. -/
def eightPieces? (t : Text) : Option (List Nat) :=
  match Text.around? [':', ':'] t with
  | none => (pieces? true t).filter fun ps => ps.length = 8
  | some (a, b) => do
    let front ← pieces? false a
    let back ← pieces? true b
    if front.length + back.length ≤ 7 then some (widened front back) else none

/-- where the first longest row of zeros begins, and its length. -/
def zeroRow (ps : List Nat) : Nat × Nat :=
  (List.range ps.length).foldl (fun best k =>
    let n := ((ps.drop k).takeWhile (· = 0)).length
    if best.2 < n then (k, n) else best) (0, 0)

/-- the text of pieces. -/
def piecesText (ps : List Nat) : Text := Text.join ':' (ps.map (Nat.toDigits 16))

/-- the text of an address; its longest row of zeros is left out if it has two or more. -/
def addressText (ps : List Nat) : Text :=
  let (start, n) := zeroRow ps
  if n < 2 then piecesText ps
  else piecesText (ps.take start) ++ ':' :: ':' :: piecesText (ps.drop (start + n))

/-! ## hosts -/

/-- what cannot stand in a host. -/
def hostExcluded : Text := " #/:<>?@[\\]^|".toList

/-- whether a character cannot stand in the host of a special scheme. -/
def isNoHostChar (c : Char) : Bool :=
  c.toNat < 32 || (127 ≤ c.toNat && c.toNat < 161) || c == '%' || hostExcluded.contains c

/-- the host of a special scheme; capital letters are taken for small ones in ASCII. -/
def specialHost (t : Text) : Except UrlFault Text :=
  match String.fromUTF8? ⟨(Citation.decode t).toArray⟩ with
  | none => .error .badHost
  | some s =>
    let name := s.toList.map Char.toLower
    if name.any isNoHostChar then .error .badHost
    else
      let host := Text.join '.' ((Text.split '.' name).map Punycode.toAscii)
      if host = [] then .error .emptyHost
      else if endsInNumber host then
        match addressOf? host with
        | some a => .ok a
        | none => .error .badIpv4
      else .ok host

/-- the host that a text names. -/
def hostOf (special : Bool) (t : Text) : Except UrlFault Text :=
  match t with
  | '[' :: r =>
    match (Text.stripEnd? [']'] r).bind eightPieces? with
    | some ps => .ok ('[' :: (addressText ps ++ [']']))
    | none => .error .badIpv6
  | _ =>
    if special then specialHost t
    else if t.any hostExcluded.contains then .error .badCharacter
    else .ok (encodeFor [] t)

end Web
end Bookpress
