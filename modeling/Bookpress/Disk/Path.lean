import Bookpress.Text.Basic

/-!
# Paths

A path is a text with parts between slashes.  Joining is textual; the other operations look past
repeated slashes and parts that stay in place.

* `join_absolute` : an absolute path replaces what it is joined to.
-/

namespace Bookpress

/-- the text of a path. -/
abbrev Path := Text

namespace Path

/-- whether a path starts at the root. -/
def isAbsolute (p : Path) : Bool := p.head? = some '/'

/-- `q` seen from the folder `p`. -/
def join (p q : Path) : Path :=
  if isAbsolute q then q
  else if p = [] ∨ p.getLast? = some '/' then p ++ q
  else p ++ '/' :: q

theorem join_absolute {p q : Path} (h : isAbsolute q = true) : join p q = q := by
  simp [join, h]

theorem join_append (p : Path) {a : Text} (ha : a ≠ []) (e : Text) :
    join p (a ++ e) = join p a ++ e := by
  have habs : isAbsolute (a ++ e) = isAbsolute a := by
    obtain ⟨c, a, rfl⟩ := List.exists_cons_of_ne_nil ha
    rfl
  unfold join
  rw [habs]
  split
  · rfl
  · split <;> simp

theorem join_ne_nil {p : Path} {a : Text} (ha : a ≠ []) : join p a ≠ [] := by
  unfold join
  split
  · exact ha
  · split <;> simp [ha]

/-- the length of the front part that is no component to take off: the root, or a leading part
that stays in place. -/
def anchor (p : Path) : Nat :=
  match p with
  | '/' :: _ => 1
  | ['.'] => 1
  | '.' :: '/' :: _ => 1
  | _ => 0

/-- the part after the last slash, and what stands before it with the slash. -/
def lastPart (p : Path) : Path × Text :=
  match Text.splitLast? '/' p with
  | some (a, b) => (a ++ ['/'], b)
  | none => ([], p)

/-- a path without slashes and parts that stay in place at its end, down to `least` characters. -/
def trimTail (least : Nat) : Nat → Path → Path
  | 0, p => p
  | fuel + 1, p =>
    if p.length ≤ least then p
    else
      let (front, part) := lastPart p
      if part = [] then trimTail least fuel p.dropLast
      else if part = ['.'] ∧ least ≤ front.length then trimTail least fuel front
      else p

/-- a path without what its end does not need. -/
def trimmed (p : Path) : Path := trimTail (anchor p) p.length p

/-- the path of the folder that holds `p`; the root and the empty path have none. -/
def parent? (p : Path) : Option Path :=
  let t := trimmed p
  if t = [] ∨ t = ['/'] then none
  else if t = ['.'] then some []
  else some (trimTail (anchor p) t.length (lastPart t).1)

/-- the last part of a path, if it is a name. -/
def fileName? (p : Path) : Option Text :=
  let part := (lastPart (trimmed p)).2
  if part = [] ∨ part = ['.'] ∨ part = ['.', '.'] then none else some part

/-- a name without its extension. -/
def stem (name : Text) : Text :=
  match Text.splitLast? '.' name with
  | some (a, _) => if a = [] then name else a
  | none => name

/-- `p` with another extension. -/
def withExtension (p : Path) (extension : Text) : Path :=
  match fileName? p with
  | none => p
  | some name => (lastPart (trimmed p)).1 ++ (stem name ++ '.' :: extension)

end Path
end Bookpress
