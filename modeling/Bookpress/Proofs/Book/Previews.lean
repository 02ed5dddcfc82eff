import Bookpress.Book.Embed
import Bookpress.Proofs.Text.Searching
import Bookpress.Proofs.Text.Splitting
import Mathlib.Data.List.TakeWhile

/-!
# The material of a preview

The first call in a script names the file of a preview, and the name of the file is to name the
material: what stands between its first dash and its ending.  It is the first dash of the whole
path that is looked for, so that a dash in the folder is taken for the one in the name.

* `file?_of_firstCall` : the file is the one that the first call names.
* `material?_file`, `material?_file_of_dash` : the material of a file in a folder without a dash,
  and in one with a dash.
* `names_material_iff` : a preview has the material that its file is named for exactly if the folder
  has no dash.
-/

namespace Bookpress
namespace Preview

/-! ## the first call -/

/-- what a call can name: a text that neither a blank nor an apostrophe ends. -/
structure IsArgument (f : Text) : Prop where
  nonempty : f ≠ []
  plain : ∀ c ∈ f, c ≠ apostrophe ∧ Text.isBlank c = false

/-- a call that names `f`, before `b`. -/
def written (f b : Text) : Text := call ++ (f ++ apostrophe :: b)

/-- the first call in a script names a file: a call of that file stands in the script, and none
begins before it. -/
def FirstCall (script f : Text) : Prop :=
  ∃ a b, script = a ++ written f b ∧
    ∀ a' f' b', script = a' ++ written f' b' → IsArgument f' → a.length ≤ a'.length

theorem readArgument_written {f : Text} (hf : IsArgument f) (b : Text) :
    readArgument (written f b) = some (f, b) := by
  have htake : (f ++ apostrophe :: b).takeWhile
      (fun c => c ≠ apostrophe ∧ !Text.isBlank c) = f := by
    rw [List.takeWhile_append_of_pos (by simpa using hf.plain),
      List.takeWhile_cons_of_neg (by simp), List.append_nil]
  rw [readArgument, written, Text.strip?_append, Option.bind_some, htake]
  simp [hf.nonempty]

theorem readArgument_eq_some {t f b : Text} (h : readArgument t = some (f, b)) :
    IsArgument f ∧ t = written f b := by
  obtain ⟨r, hr, h⟩ := Option.bind_eq_some_iff.1 h
  rw [Text.strip?_eq_some] at hr
  simp only at h
  -- what is read is the front of the rest, and the apostrophe follows it
  have hfront := List.prefix_iff_eq_append.1
    (List.takeWhile_prefix (l := r) fun c => decide (c ≠ apostrophe ∧ (!Text.isBlank c) = true))
  split at h
  · rename_i c rest hdrop
    split at h
    · rename_i hc
      cases h
      refine ⟨⟨hc.2, fun d hd => ?_⟩, ?_⟩
      · simpa using List.mem_takeWhile_imp hd
      · rw [hdrop, hc.1] at hfront
        rw [hr, written, hfront]
    · cases h
  · cases h

/-- **The file is the one that the first call names.** -/
theorem file?_of_firstCall {script f : Text} (hf : IsArgument f) (h : FirstCall script f) :
    file? script = some f := by
  obtain ⟨a, b, rfl, hfirst⟩ := h
  have hsearch : Text.search readArgument (a ++ written f b) = some ⟨a, f, b⟩ := by
    refine Text.search_append_of_first (readArgument_written hf b) fun v w ha hw => ?_
    cases hr : readArgument (w ++ written f b) with
    | none => rfl
    | some x =>
      obtain ⟨f', b'⟩ := x
      obtain ⟨hf', he⟩ := readArgument_eq_some hr
      have hle := hfirst v f' b' (by rw [ha, List.append_assoc, he]) hf'
      have hpos := List.length_pos_iff.2 hw
      rw [ha, List.length_append] at hle
      omega
  rw [file?, hsearch]
  rfl

/-! ## the name of a file -/

/-- the path of a preview, in its parts: what stands before the name, the name up to its first
dash, the material and the ending. -/
structure Naming where
  folder : Text
  stem : Text
  material : Text
  ending : Text

/-- the path with the parts of a naming. -/
def Naming.file (n : Naming) : Text :=
  n.folder ++ (n.stem ++ '-' :: (n.material ++ '.' :: n.ending))

/-- the parts of a path are what they are called, and a call can name the path. -/
structure Naming.Regular (n : Naming) : Prop where
  folder : n.folder = [] ∨ ∃ d, n.folder = d ++ ['/']
  stem : ∀ c ∈ n.stem, c ≠ '-' ∧ c ≠ '/' ∧ c ≠ '.'
  nonempty : n.material ≠ []
  material : ∀ c ∈ n.material, c ≠ '/' ∧ c ≠ '.'
  ending : ∀ c ∈ n.ending, c ≠ '/' ∧ c ≠ '.'
  plain : ∀ c ∈ n.file, c ≠ apostrophe ∧ Text.isBlank c = false

section
variable {n : Naming}

theorem Naming.Regular.isArgument (hn : n.Regular) : IsArgument n.file where
  nonempty := by simp [Naming.file]
  plain := hn.plain

/-- the material is what stands between the first dash and the last point behind it. -/
theorem material?_append {a b c : Text} (ha : '-' ∉ a) (hb : b ≠ []) (hc : '.' ∉ c) :
    material? (a ++ '-' :: (b ++ '.' :: c)) = some b := by
  have hcut : Text.cut ['-'] (a ++ '-' :: (b ++ '.' :: c)) = some ⟨a, (), b ++ '.' :: c⟩ :=
    Text.cut_singleton_eq_some_iff.2 ⟨rfl, ha⟩
  rw [material?, Text.around?, hcut, Option.map_some, Option.bind_some]
  simp only [Text.splitLast?_append_cons b hc]
  exact if_neg hb

theorem material?_file (hn : n.Regular) (h : '-' ∉ n.folder) :
    material? n.file = some n.material := by
  have hfront : '-' ∉ n.folder ++ n.stem := by
    rw [List.mem_append, not_or]
    exact ⟨h, fun hs => (hn.stem _ hs).1 rfl⟩
  rw [Naming.file, ← List.append_assoc]
  exact material?_append hfront hn.nonempty fun he => (hn.ending _ he).2 rfl

/-- the first dash of a path may stand in its folder. -/
theorem material?_file_of_dash (hn : n.Regular) {a b : Text} (hf : n.folder = a ++ '-' :: b)
    (ha : '-' ∉ a) : material? n.file = some (b ++ (n.stem ++ '-' :: n.material)) := by
  have hfile : n.file = a ++ '-' :: ((b ++ (n.stem ++ '-' :: n.material)) ++ '.' :: n.ending) := by
    rw [Naming.file, hf]
    simp only [List.append_assoc, List.cons_append]
  rw [hfile]
  exact material?_append ha (by simp) fun he => (hn.ending _ he).2 rfl

/-- **Which previews have the material that their file is named for.**  The first call in a script
gives a preview of the file that it names, and its material is the one in the name of the file
exactly if there is no dash in the folder. -/
theorem names_material_iff {script : Text} (hn : n.Regular) (h : FirstCall script n.file) :
    (∃ m, of? script = some ⟨n.file, m⟩)
      ∧ (of? script = some ⟨n.file, n.material⟩ ↔ '-' ∉ n.folder) := by
  have hfile : ∀ m, material? n.file = some m → of? script = some ⟨n.file, m⟩ := by
    intro m hm
    rw [of?, file?_of_firstCall hn.isArgument h, Option.bind_some, hm, Option.map_some]
  by_cases hdash : '-' ∈ n.folder
  · obtain ⟨a, b, hf, ha⟩ := List.eq_append_cons_of_mem hdash
    have hof := hfile _ (material?_file_of_dash hn hf ha)
    refine ⟨⟨_, hof⟩, iff_of_false ?_ (not_not_intro hdash)⟩
    intro heq
    rw [hof, Option.some.injEq, Preview.mk.injEq] at heq
    have hlen := congrArg List.length heq.2
    simp only [List.length_append, List.length_cons] at hlen
    omega
  · have hof := hfile _ (material?_file hn hdash)
    exact ⟨⟨_, hof⟩, iff_of_true hof hdash⟩

end

/-- a file for the material 7 in a folder. -/
def material7 (folder : Text) : Naming := ⟨folder, ['m'], ['7'], ['p', 'n', 'g']⟩

/-- a script that begins with its call. -/
theorem firstCall_written (f b : Text) : FirstCall (written f b) f :=
  ⟨[], b, rfl, fun _ _ _ _ _ => Nat.zero_le _⟩

/-- a call behind a point. -/
theorem names_material_behind_point :
    (material7 ['a', '/']).Regular
      ∧ FirstCall ('x' :: '.' :: written (material7 ['a', '/']).file [')'])
        (material7 ['a', '/']).file
      ∧ of? ('x' :: '.' :: written (material7 ['a', '/']).file [')'])
        = some ⟨(material7 ['a', '/']).file, ['7']⟩ := by
  have hn : (material7 ['a', '/']).Regular := by
    refine ⟨.inr ⟨['a'], rfl⟩, ?_, ?_, ?_, ?_, ?_⟩ <;> decide
  have hcall : FirstCall ('x' :: '.' :: written (material7 ['a', '/']).file [')'])
      (material7 ['a', '/']).file := by
    refine ⟨['x', '.'], [')'], rfl, fun a f b h _ => ?_⟩
    rcases a with _ | ⟨c, _ | ⟨d, a⟩⟩
    · cases h
    · cases h
    · simp
  exact ⟨hn, hcall, (names_material_iff hn hcall).2.2 (by decide)⟩

/-- a dash in the folder is taken for the one in the name. -/
theorem not_names_material_dashed :
    ¬ ∀ (script : Text) (n : Naming), n.Regular → FirstCall script n.file →
      of? script = some ⟨n.file, n.material⟩ := by
  intro h
  have hn : (material7 ['a', '-', 'b', '/']).Regular := by
    refine ⟨.inr ⟨['a', '-', 'b'], rfl⟩, ?_, ?_, ?_, ?_, ?_⟩ <;> decide
  have := h _ _ hn (firstCall_written _ [])
  revert this
  decide

end Preview
end Bookpress
