import Bookpress.Disk.Basic
import Bookpress.Proofs.Text.Splitting

/-!
# The files in one folder

Where a path leads does not depend on the files in a folder, as long as there are no folders among
them: a walk cannot go on from a file, whether it is there or not.  So a file of the folder can be
written without any other path being led elsewhere.

* `locate_join` : where the file with a name stands.
* `Alike.locate_eq_ok`, `Alike.readable` : what the files in one folder do not touch.
* `exists_write` : a file of the folder can be written, and nothing else changes.
* `makeFolders_of_folder` : a folder that is there need not be made.
-/

namespace Bookpress

/-- a text that names one step of a path. -/
structure IsPart (name : Text) : Prop where
  no_slash : '/' ∉ name
  ne_nil : name ≠ []
  ne_here : name ≠ ['.']
  ne_above : name ≠ ['.', '.']

/-- a text that names a file in a folder. -/
structure IsName (name : Text) : Prop where
  no_slash : '/' ∉ name
  ne_nil : name ≠ []
  ne_here : name ≠ ['.']
  ne_above : name ≠ ['.', '.']
  short : Text.byteSize name ≤ 255

theorem IsPart.isName {name : Text} (h : IsPart name) (hshort : Text.byteSize name ≤ 255) :
    IsName name :=
  ⟨h.no_slash, h.ne_nil, h.ne_here, h.ne_above, hshort⟩

namespace Disk

variable {d d' : Disk} {p : Path} {q r : Place} {name : Text} {b : ByteArray}

/-- a path that can be taken further can be taken. -/
theorem illegal?_of_append {e : Text} (h : illegal? (p ++ e) = none) (hp : p ≠ []) :
    illegal? p = none := by
  have hsize := Text.byteSize_append p e
  unfold illegal? at h ⊢
  simp only [List.append_eq_nil_iff, hp, false_and, if_false, List.any_append,
    Bool.or_eq_true] at h ⊢
  split at h
  · cases h
  · rename_i hany
    rw [if_neg fun he => hany (.inl he)]
    split at h
    · cases h
    · rw [if_neg (by omega)]

/-! ## walks -/

theorem locate_eq_ok :
    d.locate p = .ok r ↔
      illegal? p = none ∧ (Text.split '/' p).foldlM d.step (d.route p).1 = .ok r := by
  unfold locate
  cases illegal? p <;> simp [route]

theorem ne_nil_of_locate (h : d.locate p = .ok r) : p ≠ [] := by
  rintro rfl
  simp [locate, illegal?] at h

theorem step_name (hq : d.get? q = some .folder) (hn : IsName name) :
    d.step q name = .ok (q ++ [name]) := by
  simp [step, hq, hn.ne_nil, hn.ne_here, hn.ne_above, Nat.not_lt.2 hn.short]

theorem step_nil (h : d.step q [] = .ok r) : r = q := by
  unfold step at h
  split at h
  · cases h
  · cases h
  · simpa using h.symm

/-- a walk goes on along one more name. -/
theorem foldlM_concat {names : List Text} {start : Place} :
    (names ++ [name]).foldlM d.step start = .ok r ↔
      ∃ x, names.foldlM d.step start = .ok x ∧ d.step x name = .ok r := by
  rw [List.foldlM_append]
  cases names.foldlM d.step start with
  | error e => simp [bind, Except.bind]
  | ok x => cases hs : d.step x name <;> simp [hs, bind, Except.bind, pure, Except.pure]

/-- a slash at the end of a path does not lead elsewhere. -/
theorem locate_of_concat_slash (h : d.locate (p ++ ['/']) = .ok r) (hp : p ≠ []) :
    d.locate p = .ok r := by
  obtain ⟨hl, hw⟩ := locate_eq_ok.1 h
  refine locate_eq_ok.2 ⟨?_, ?_⟩
  · unfold illegal? at hl ⊢
    split at hl
    · cases hl
    · split at hl
      · cases hl
      · rename_i hz
        rw [List.any_append, Bool.or_eq_true, not_or] at hz
        rw [if_neg hp, if_neg hz.1]
        split at hl
        · cases hl
        · rename_i hs
          rw [Text.byteSize_append] at hs
          rw [if_neg (by omega)]
  · rw [Text.split_append_cons, show Text.split '/' [] = [[]] from rfl] at hw
    obtain ⟨x, hx, hs⟩ := foldlM_concat.1 hw
    obtain rfl := step_nil hs
    obtain ⟨c, p, rfl⟩ := List.exists_cons_of_ne_nil hp
    exact hx

/-- **Where the file with a name stands**: in the folder. -/
theorem locate_join (hp : d.locate p = .ok q) (hq : d.get? q = some .folder) (hn : IsName name)
    (hl : illegal? (Path.join p name) = none) : d.locate (Path.join p name) = .ok (q ++ [name]) := by
  refine locate_eq_ok.2 ⟨hl, ?_⟩
  obtain ⟨-, hw⟩ := locate_eq_ok.1 hp
  obtain ⟨c, t, rfl⟩ := List.exists_cons_of_ne_nil (ne_nil_of_locate hp)
  have hrel : Path.isAbsolute name = false := by
    cases name with
    | nil => rfl
    | cons c t =>
      have : c ≠ '/' := fun e => hn.no_slash (by simp [e])
      simpa [Path.isAbsolute] using this
  have hjoin : Path.join (c :: t) name =
      if (c :: t).getLast? = some '/' then (c :: t) ++ name else (c :: t) ++ '/' :: name := by
    simp [Path.join, hrel]
  have hstart : (d.route (Path.join (c :: t) name)).1 = (d.route (c :: t)).1 := by
    rw [hjoin]
    split <;> rfl
  rw [hstart, hjoin]
  split
  · rename_i hlast
    obtain ⟨a, ha⟩ := List.getLast?_eq_some_iff.1 hlast
    rw [ha, Text.split_append_cons, show Text.split '/' [] = [[]] from rfl, ← ha] at hw
    obtain ⟨x, hx, hs⟩ := foldlM_concat.1 hw
    obtain rfl := step_nil hs
    rw [show c :: t ++ name = a ++ '/' :: name by simp [ha], Text.split_append_cons,
      Text.split_of_not_mem hn.no_slash]
    exact foldlM_concat.2 ⟨_, hx, step_name hq hn⟩
  · rw [Text.split_append_cons, Text.split_of_not_mem hn.no_slash]
    exact foldlM_concat.2 ⟨_, hw, step_name hq hn⟩

/-! ## disks that differ in one folder -/

/-- the folder at `q` is the only one in which two disks differ, and it holds no folders. -/
structure Alike (q : Place) (d d' : Disk) : Prop where
  here : d'.here = d.here
  outside : ∀ r, (∀ name, r ≠ q ++ [name]) → d'.get? r = d.get? r
  left : ∀ name, d.get? (q ++ [name]) ≠ some .folder
  right : ∀ name, d'.get? (q ++ [name]) ≠ some .folder

namespace Alike

theorem refl (h : ∀ name, d.get? (q ++ [name]) ≠ some .folder) : Alike q d d :=
  ⟨rfl, fun _ _ => rfl, h, h⟩

theorem symm (h : Alike q d d') : Alike q d' d :=
  ⟨h.here.symm, fun r hr => (h.outside r hr).symm, h.right, h.left⟩

theorem trans {d'' : Disk} (h : Alike q d d') (h' : Alike q d' d'') : Alike q d d'' :=
  ⟨h'.here.trans h.here, fun r hr => (h'.outside r hr).trans (h.outside r hr), h.left, h'.right⟩

theorem covers (h : Alike q d d') : Covers d' d := by
  refine ⟨h.here, fun r hr => ?_⟩
  rw [h.outside r, hr]
  rintro name rfl
  exact h.left name hr

/-- **Alike disks lead a path to the same place.** -/
theorem locate_eq_ok (h : Alike q d d') : d'.locate p = .ok r ↔ d.locate p = .ok r :=
  ⟨locate_covers h.symm.covers, locate_covers h.covers⟩

end Alike

/-! ## reading and writing -/

theorem readable : (d.read p).toOption = some b ↔
    ∃ r, d.locate p = .ok r ∧ d.get? r = some (.file b) := by
  unfold read
  cases d.locate p with
  | error e => simp [bind, Except.bind, Except.toOption]
  | ok r =>
    cases hr : d.get? r with
    | none => simp [bind, Except.bind, Except.toOption, hr]
    | some n => cases n <;> simp [bind, Except.bind, Except.toOption, hr]

/-- **What a path leads to outside of the folder is the same on alike disks.** -/
theorem Alike.readable (h : Alike q d d')
    (hp : ∀ name, d.locate p ≠ .ok (q ++ [name])) :
    (d'.read p).toOption = (d.read p).toOption := by
  refine Option.ext fun b => ?_
  rw [Disk.readable, Disk.readable]
  refine exists_congr fun r => ?_
  rw [h.locate_eq_ok]
  refine and_congr_right fun hr => ?_
  rw [h.outside r]
  rintro name rfl
  exact hp name hr

/-- **A file of the folder can be written, and nothing else changes.** -/
theorem exists_write (hfiles : ∀ name, d.get? (q ++ [name]) ≠ some .folder)
    (hp : d.locate p = .ok (q ++ [name])) (b : ByteArray) :
    ∃ d', d.write p b = .ok d' ∧ Alike q d d'
      ∧ ∀ r, d'.get? r = if r = q ++ [name] then some (.file b) else d.get? r := by
  have hput := fun r => get?_put d (q ++ [name]) r (.file b) (by simp)
  have hwrite : d.write p b = .ok (d.put (q ++ [name]) (.file b)) := by
    unfold write
    simp only [hp, bind, Except.bind]
    split
    · rename_i hf
      exact absurd hf (hfiles name)
    · rfl
  refine ⟨_, hwrite, ⟨rfl, fun r hr => ?_, hfiles, fun other => ?_⟩, hput⟩
  · rw [hput, if_neg (hr name)]
  · rw [hput]
    split
    · simp
    · exact hfiles other

/-! ## folders that are there -/

theorem locate_dropEndWhile (h : d.locate p = .ok q)
    (hp : Text.dropEndWhile (· = '/') p ≠ []) :
    d.locate (Text.dropEndWhile (· = '/') p) = .ok q := by
  unfold Text.dropEndWhile at hp ⊢
  obtain ⟨t, rfl⟩ : ∃ t, p = t.reverse := ⟨p.reverse, by simp⟩
  rw [List.reverse_reverse] at hp ⊢
  induction t with
  | nil => simp at hp
  | cons c t ih =>
    by_cases hc : c = '/'
    · subst hc
      simp only [List.dropWhile_cons, decide_true, if_true] at hp ⊢
      have ht : t.reverse ≠ [] := by
        rintro ht
        rw [List.reverse_eq_nil_iff.1 ht] at hp
        exact hp rfl
      exact ih (locate_of_concat_slash (by simpa using h) ht) hp
    · simpa [List.dropWhile_cons, hc] using h

/-- **A folder that is there need not be made.** -/
theorem makeFolders_of_folder (h : d.look? p = some .folder) : d.makeFolders p = .ok d := by
  obtain ⟨q, hp, hq⟩ : ∃ q, d.locate p = .ok q ∧ d.get? q = some .folder := by
    unfold look? at h
    split at h
    · exact ⟨_, ‹_›, h⟩
    · cases h
  have hoccupied : d.makeFolder p = .error .occupied := by
    unfold makeFolder
    by_cases ht : Text.dropEndWhile (· = '/') p = []
    · simp [ht, ne_nil_of_locate hp, bind, Except.bind, pure, Except.pure, get?]
    · simp [ht, locate_dropEndWhile hp ht, bind, Except.bind, hq]
  unfold makeFolders makeFoldersWithin
  rw [if_neg (ne_nil_of_locate hp), hoccupied]
  simp [settle, h]

end Disk
end Bookpress
