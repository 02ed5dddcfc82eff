/-!
# Texts

A text is the list of its characters.  This module holds the operations on texts that name no
particular format: the byte length, taking a leading part off, splitting at a character and
putting the parts together again.

* `strip?_eq_some` : a part comes off the front exactly when the text is that part and the rest.
* `join_split` : joining the parts of a split text gives the text back.
* `split_ne_nil` : a split has at least one part.
* `length_induction` : a property of texts is shown from the shorter ones.
-/

namespace Bookpress

/-- the list of the characters of a text. -/
abbrev Text := List Char

/-- the apostrophe. -/
def apostrophe : Char := Char.ofNat 39

namespace Text

/-- all texts have a property that a text has if all shorter ones do. -/
theorem length_induction {motive : Text → Prop}
    (step : ∀ t, (∀ u : Text, u.length < t.length → motive u) → motive t) (t : Text) : motive t :=
  (measure List.length).wf.induction t step

-- A property of the characters of a text is decided along the text, even where all characters
-- could be gone through.
instance (priority := high) decidableForallMem (p : Char → Prop) [DecidablePred p] (t : Text) :
    Decidable (∀ c ∈ t, p c) := List.decidableBAll p t

instance (priority := high) decidableExistsMem (p : Char → Prop) [DecidablePred p] (t : Text) :
    Decidable (∃ c ∈ t, p c) := List.decidableBEx p t

/-- the length of the UTF-8 form. -/
def byteSize : Text → Nat
  | [] => 0
  | c :: t => c.utf8Size + byteSize t

@[simp] theorem byteSize_nil : byteSize [] = 0 := rfl

@[simp] theorem byteSize_append (a b : Text) : byteSize (a ++ b) = byteSize a + byteSize b := by
  induction a with
  | nil => simp
  | cons c a ih => simp [byteSize, ih, Nat.add_assoc]

/-- `t` without the leading part `p`. -/
def strip? (p t : Text) : Option Text :=
  if p.isPrefixOf t then some (t.drop p.length) else none

theorem strip?_append (p r : Text) : strip? p (p ++ r) = some r := by
  simp [strip?]

theorem strip?_eq_some {p t r : Text} : strip? p t = some r ↔ t = p ++ r := by
  constructor
  · intro h
    unfold strip? at h
    split at h
    · rename_i hp
      obtain ⟨s, rfl⟩ := List.isPrefixOf_iff_prefix.1 hp
      simpa using h
    · cases h
  · rintro rfl
    exact strip?_append p r

/-- the parts of `t` between the occurrences of `c`. -/
def split (c : Char) : Text → List Text
  | [] => [[]]
  | d :: r =>
    if d = c then [] :: split c r
    else match split c r with
      | [] => [[d]]
      | l :: ls => (d :: l) :: ls

theorem split_ne_nil (c : Char) (t : Text) : split c t ≠ [] := by
  cases t with
  | nil => simp [split]
  | cons d r =>
    unfold split
    split
    · simp
    · split <;> simp

/-- the texts of `ls` with `c` between neighbours. -/
def join (c : Char) : List Text → Text
  | [] => []
  | [l] => l
  | l :: m :: ls => l ++ c :: join c (m :: ls)

theorem join_cons (c : Char) (l : Text) {ls : List Text} (h : ls ≠ []) :
    join c (l :: ls) = l ++ c :: join c ls := by
  cases ls with
  | nil => exact absurd rfl h
  | cons m ls => rfl

theorem join_cons_cons (c d : Char) (l : Text) (ls : List Text) :
    join c ((d :: l) :: ls) = d :: join c (l :: ls) := by
  cases ls <;> simp [join]

theorem join_split (c : Char) (t : Text) : join c (split c t) = t := by
  induction t with
  | nil => rfl
  | cons d r ih =>
    unfold split
    split
    · rename_i h
      rw [join_cons c [] (split_ne_nil c r), ih, h]
      rfl
    · split
      · rename_i h
        exact absurd h (split_ne_nil c r)
      · rename_i l ls h
        rw [join_cons_cons, ← h, ih]

/-- the parts before and after the last `c`. -/
def splitLast? (c : Char) : Text → Option (Text × Text)
  | [] => none
  | d :: r =>
    match splitLast? c r with
    | some (a, b) => some (d :: a, b)
    | none => if d = c then some ([], r) else none

/-- `t` without the last part `p`. -/
def stripEnd? (p t : Text) : Option Text :=
  (strip? p.reverse t.reverse).map List.reverse

/-- `t` without the characters in `p` at its end. -/
def dropEndWhile (p : Char → Bool) (t : Text) : Text :=
  (t.reverse.dropWhile p).reverse

/-- the decimal digits of a number. -/
def ofNat (n : Nat) : Text := Nat.toDigits 10 n

/-- the number that a non-empty row of decimal digits writes. -/
def toNat? (t : Text) : Option Nat :=
  if t.isEmpty || !t.all Char.isDigit then none
  else some (t.foldl (fun n c => n * 10 + (c.toNat - 48)) 0)

end Text

end Bookpress
