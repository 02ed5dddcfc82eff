import Bookpress.Disk.Path

/-!
# Disks

A disk as a value: folders, and files with their bytes, by their places.  Every operation gives
the disk that it leaves, or says why the system refuses it.

* `get?_put`, `get?_erase` : what stands at each place after a change.
* `get?_write`, `read_write` : writing changes the written place alone, and is read back.
-/

namespace Bookpress

/-- the names on the way from the root. -/
abbrev Place := List Text

-- Bytes are compared as the core library does it, even where there is another way.
instance (priority := high) decidableEqByteArray : DecidableEq ByteArray :=
  ByteArray.instDecidableEq

/-- what stands at a place. -/
inductive Node
  | file (bytes : ByteArray)
  | folder
deriving DecidableEq

/-- why the system refuses an operation. -/
inductive Refusal
  | missing
  | notFolder
  | isFolder
  | badName
  | longName
  | notText
  | occupied
deriving Repr, DecidableEq

/-- the words of the system. -/
def Refusal.message : Refusal → String
  | .missing => "No such file or directory (os error 2)"
  | .notFolder => "Not a directory (os error 20)"
  | .isFolder => "Is a directory (os error 21)"
  | .badName => "file name contained an unexpected NUL byte"
  | .longName => "File name too long (os error 36)"
  | .notText => "stream did not contain valid UTF-8"
  | .occupied => "File exists (os error 17)"

/-- the folders and files below the root. -/
structure Disk where
  nodes : List (Place × Node)
  /-- the folder that relative paths start from. -/
  here : Place
deriving DecidableEq

namespace Disk

/-- a disk without files. -/
def empty : Disk := ⟨[], []⟩

/-- what stands at a place; the root is a folder. -/
def get? (d : Disk) (q : Place) : Option Node :=
  if q = [] then some .folder else d.nodes.lookup q

/-- the disk with `n` at a place. -/
def put (d : Disk) (q : Place) (n : Node) : Disk :=
  { d with nodes := (q, n) :: d.nodes.filter fun x => x.1 != q }

/-- the disk with nothing at a place. -/
def erase (d : Disk) (q : Place) : Disk :=
  { d with nodes := d.nodes.filter fun x => x.1 != q }

/-- whether a folder stands at a place. -/
def hasFolder (d : Disk) (q : Place) : Bool :=
  match d.get? q with
  | some .folder => true
  | _ => false

/-- the place of `name` in the folder at `q`. -/
def step (d : Disk) (q : Place) (name : Text) : Except Refusal Place :=
  match d.get? q with
  | none => .error .missing
  | some (.file _) => .error .notFolder
  | some .folder =>
    if name = [] ∨ name = ['.'] then .ok q
    else if name = ['.', '.'] then .ok q.dropLast
    else if 255 < Text.byteSize name then .error .longName
    else .ok (q ++ [name])

/-- where the walk along a path starts, and the names on it. -/
def route (d : Disk) (p : Path) : Place × List Text :=
  (if Path.isAbsolute p then [] else d.here, Text.split '/' p)

/-- a path that no system call takes. -/
def illegal? (p : Path) : Option Refusal :=
  if p = [] then some .missing
  else if p.any fun c => c.toNat == 0 then some .badName
  else if 4095 < Text.byteSize p then some .longName
  else none

/-- the place that a path names; all folders on the way have to be there. -/
def locate (d : Disk) (p : Path) : Except Refusal Place :=
  match illegal? p with
  | some r => .error r
  | none =>
    let (start, names) := d.route p
    names.foldlM d.step start

/-- what stands at a path. -/
def look? (d : Disk) (p : Path) : Option Node :=
  match d.locate p with
  | .ok q => d.get? q
  | .error _ => none

/-- whether something stands at a path. -/
def exists? (d : Disk) (p : Path) : Bool := (d.look? p).isSome

/-- the bytes of the file at a path. -/
def read (d : Disk) (p : Path) : Except Refusal ByteArray := do
  let q ← d.locate p
  match d.get? q with
  | none => .error .missing
  | some .folder => .error .isFolder
  | some (.file b) => .ok b

/-- the text of the file at a path. -/
def readText (d : Disk) (p : Path) : Except Refusal Text := do
  let b ← d.read p
  match String.fromUTF8? b with
  | some s => .ok s.toList
  | none => .error .notText

/-- the disk with a file of the given bytes at a path. -/
def write (d : Disk) (p : Path) (b : ByteArray) : Except Refusal Disk := do
  let q ← d.locate p
  match d.get? q with
  | some .folder => .error .isFolder
  | _ => .ok (d.put q (.file b))

/-- the disk with a file of the given text at a path. -/
def writeText (d : Disk) (p : Path) (t : Text) : Except Refusal Disk :=
  d.write p (String.ofList t).toUTF8

/-- the disk with a folder at a path where nothing stands; slashes at the end do not count. -/
def makeFolder (d : Disk) (p : Path) : Except Refusal Disk := do
  let trimmed := Text.dropEndWhile (· = '/') p
  let q ← if p ≠ [] ∧ trimmed = [] then pure [] else d.locate trimmed
  match d.get? q with
  | some _ => .error .occupied
  | none => .ok (d.put q .folder)

/-- the disk after a folder could not be made at a path: all is well if one stands there. -/
def settle (d : Disk) (p : Path) (r : Refusal) : Except (Refusal × Disk) Disk :=
  match d.look? p with
  | some .folder => .ok d
  | _ => .error (r, d)

/-- the folders on at most `fuel` steps up from a path, and the one at the path. -/
def makeFoldersWithin : Nat → Disk → Path → Except (Refusal × Disk) Disk
  | 0, d, _ => .error (.missing, d)
  | fuel + 1, d, p =>
    if p = [] then .ok d
    else match d.makeFolder p with
      | .ok d => .ok d
      | .error .missing => do
        let q ← match Path.parent? p with
          | some q => pure q
          | none => throw (.missing, d)
        let d ← makeFoldersWithin fuel d q
        match d.makeFolder p with
        | .ok d => pure d
        | .error r => d.settle p r
      | .error r => d.settle p r

/-- the disk with the folder of a path and the folders on the way; a refusal leaves the folders
that were made before it. -/
def makeFolders (d : Disk) (p : Path) : Except (Refusal × Disk) Disk :=
  makeFoldersWithin (p.length + 1) d p

/-- the disk with the file at `p` moved to `q`, in place of a file there. -/
def rename (d : Disk) (p q : Path) : Except Refusal Disk := do
  let a ← d.locate p
  let b ← d.locate q
  match d.get? a, d.get? b with
  | none, _ => .error .missing
  | some (.file _), some .folder => .error .isFolder
  | some n, _ => .ok (if a = b then d else (d.erase a).put b n)

/-- the disk without the file at a path. -/
def remove (d : Disk) (p : Path) : Except Refusal Disk := do
  let q ← d.locate p
  match d.get? q with
  | none => .error .missing
  | some .folder => .error .isFolder
  | some (.file _) => .ok (d.erase q)

/-- the name that a place has in the folder at `q`, if it stands in it. -/
def nameIn? (q : Place) (x : Place × Node) : Option Text :=
  match x.1.getLast? with
  | some name => if x.1.dropLast = q then some name else none
  | none => none

/-- the names in the folder at a path, in the order of their characters. -/
def list (d : Disk) (p : Path) : List Text :=
  match d.locate p with
  | .error _ => []
  | .ok q =>
    if d.hasFolder q then
      (d.nodes.filterMap (nameIn? q)).mergeSort fun a b => String.ofList a ≤ String.ofList b
    else []

theorem lookup_filter_ne {q r : Place} (xs : List (Place × Node)) :
    (xs.filter fun x => x.1 != q).lookup r = if r = q then none else xs.lookup r := by
  induction xs with
  | nil => simp
  | cons x xs ih =>
    obtain ⟨k, n⟩ := x
    by_cases hk : k = q
    · subst hk
      simp only [bne_self_eq_false, Bool.false_eq_true, not_false_eq_true,
        List.filter_cons_of_neg, ih, List.lookup_cons]
      split
      · rfl
      · rename_i h
        have : (r == k) = false := by simpa using h
        simp [this]
    · have : (k != q) = true := by simpa using hk
      rw [List.filter_cons_of_pos (by simpa using this)]
      simp only [List.lookup_cons, ih]
      by_cases hr : r = k
      · subst hr; simp [hk]
      · have : (r == k) = false := by simpa using hr
        simp [this]

theorem get?_put (d : Disk) (q r : Place) (n : Node) (hq : q ≠ []) :
    (d.put q n).get? r = if r = q then some n else d.get? r := by
  by_cases hr : r = []
  · subst hr
    simp [get?, Ne.symm hq]
  · by_cases h : r = q
    · subst h; simp [get?, put, hr]
    · have : (r == q) = false := by simpa using h
      simp [get?, put, hr, h, List.lookup_cons, this, lookup_filter_ne]

theorem get?_erase (d : Disk) (q r : Place) (hq : q ≠ []) :
    (d.erase q).get? r = if r = q then none else d.get? r := by
  by_cases hr : r = []
  · subst hr
    simp [get?, Ne.symm hq]
  · simp [get?, erase, hr, lookup_filter_ne]

theorem get?_write {d d' : Disk} {p : Path} {b : ByteArray} (h : d.write p b = .ok d') :
    ∃ q, d.locate p = .ok q ∧ d.hasFolder q = false
      ∧ ∀ r, d'.get? r = if r = q then some (.file b) else d.get? r := by
  unfold write at h
  cases hq : d.locate p with
  | error e => simp [hq, bind, Except.bind] at h
  | ok q =>
    simp only [hq, bind, Except.bind] at h
    split at h
    · cases h
    · rename_i hf
      cases h
      have hne : q ≠ [] := by
        rintro rfl
        exact hf (by simp [get?])
      refine ⟨q, rfl, ?_, fun r => get?_put d q r _ hne⟩
      unfold hasFolder
      split
      · rename_i hg
        exact absurd hg hf
      · rfl

/-- a disk on which all folders of another are still there. -/
def Covers (d' d : Disk) : Prop :=
  d'.here = d.here ∧ ∀ q, d.get? q = some .folder → d'.get? q = some .folder

theorem step_covers {d d' : Disk} (h : Covers d' d) {q r : Place} {name : Text}
    (hs : d.step q name = .ok r) : d'.step q name = .ok r := by
  unfold step at hs ⊢
  split at hs
  · cases hs
  · cases hs
  · rename_i hq
    simpa [h.2 q hq] using hs

theorem locate_covers {d d' : Disk} (h : Covers d' d) {p : Path} {q : Place}
    (hq : d.locate p = .ok q) : d'.locate p = .ok q := by
  have walk : ∀ (names : List Text) (q r : Place),
      names.foldlM d.step q = .ok r → names.foldlM d'.step q = .ok r := by
    intro names
    induction names with
    | nil => exact fun _ _ h => h
    | cons name names ih =>
      intro q r hr
      rw [List.foldlM_cons] at hr ⊢
      cases hs : d.step q name with
      | error e => simp [hs, bind, Except.bind] at hr
      | ok s =>
        rw [step_covers h hs]
        simp only [hs, bind, Except.bind] at hr ⊢
        exact ih s r hr
  unfold locate at hq ⊢
  cases hp : illegal? p with
  | some e => simp [hp] at hq
  | none =>
    simp only [hp] at hq ⊢
    rw [show d'.route p = d.route p by simp [route, h.1]]
    exact walk _ _ _ hq

theorem covers_write {d d' : Disk} {p : Path} {b : ByteArray} (h : d.write p b = .ok d') :
    Covers d' d := by
  obtain ⟨q, hq, hf, hg⟩ := get?_write h
  refine ⟨?_, fun r hr => ?_⟩
  · unfold write at h
    simp only [hq, bind, Except.bind] at h
    split at h
    · cases h
    · cases h
      rfl
  · rw [hg, if_neg, hr]
    rintro rfl
    simp [hasFolder, hr] at hf

theorem read_write {d d' : Disk} {p : Path} {b : ByteArray} (h : d.write p b = .ok d') :
    d'.read p = .ok b := by
  obtain ⟨q, hq, -, hg⟩ := get?_write h
  simp [read, locate_covers (covers_write h) hq, hg, bind, Except.bind]

end Disk
end Bookpress
