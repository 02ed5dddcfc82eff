import Bookpress.Proofs.Disk.Slashes
import Bookpress.Proofs.Gallery.Runs
import Bookpress.Proofs.Markup.Pictures
import Bookpress.Proofs.Tex.Leaving

/-!
# The path of a picture in the document

A gallery writes a picture into its folder on disk, and the document names it by the folder as the
settings have it.  In the document a backslash is a slash, symbols are typeset, and the argument
ends where its braces do; on disk nothing of the kind happens.

* `solid_typeset_shownPlace` : the characters of the path that the document has.
* `literal_of_designates`, `designates_of_literal` : when the two paths are the same.
* `designates_iff` : the document names the file that was written iff the picture folder is one that
  a document can write as it is.
-/

namespace Bookpress
namespace Markup

open Tex Bookpress.Path

variable {g : Gallery} {t : Text} {σ : Slot}

/-- whether the picture at the front of a text is the file under a name in the picture folder; paths
in the document start in the work folder. -/
def Designates (g : Gallery) (name t : Text) : Prop :=
  ∃ a, pictureArgument? t = some a ∧
    Path.squeeze (join g.settings.workDir a) = Path.squeeze (g.place name)

/-- a folder that a document can write as it is. -/
structure Literal (dir : Path) : Prop where
  slash : '\\' ∉ dir
  fixed : typeset dir = dir
  braces : Balanced dir

/-- a picture folder that settings can have. -/
structure Relative (dir : Path) : Prop where
  isAbsolute : isAbsolute dir = false
  ne_nil : dir ≠ []

theorem relative_of_build {d : Settings.Draft}
    (h : ∀ f, d.build = .error f → ∃ x, f = .sizing x) : Relative d.chosen.imageDir := by
  have herror : ∀ f, d.fault? = some f → ∃ x, f = .sizing x := fun f hf =>
    h f (by rw [Settings.Draft.build, hf])
  unfold Settings.Draft.fault? at herror
  split at herror
  · obtain ⟨x, hx⟩ := herror _ rfl
    cases hx
  · rename_i htrim
    split at herror
    · obtain ⟨x, hx⟩ := herror _ rfl
      cases hx
    · rename_i habs
      exact ⟨by simpa using habs, fun e => htrim (by rw [e]; rfl)⟩

theorem Relative.exists_ne {dir : Path} (h : Relative dir) : ∃ c ∈ dir, c ≠ '/' := by
  obtain ⟨c, r, rfl⟩ := List.exists_cons_of_ne_nil h.ne_nil
  exact ⟨c, List.mem_cons_self, by simpa [Path.isAbsolute] using h.isAbsolute⟩

/-! ## names of pictures -/

/-- a name begins with a letter or a digit. -/
theorem exists_png_eq_cons (σ : Slot) : ∃ c r, σ.png = c :: r ∧ c ≠ '/' := by
  obtain ⟨c, r, e⟩ := List.exists_cons_of_ne_nil (Slot.raw_ne_nil (σ := σ))
  refine ⟨c, r ++ pngEnding, by rw [Slot.png, e, List.cons_append], ?_⟩
  rintro rfl
  exact Slot.not_mem_raw (σ := σ) (c := '/') (by decide) (by simp [e])

theorem isAlphanum_or_of_mem_png {c : Char} (h : c ∈ σ.png) : c.isAlphanum = true ∨ c = '.' := by
  obtain h | h := List.mem_append.1 h
  · exact .inl (Slot.isAlphanum_of_mem_raw h)
  · revert h
    have H : ∀ c ∈ pngEnding, c.isAlphanum = true ∨ c = '.' := by decide_cbv
    exact H c

theorem solid_png (σ : Slot) : solid σ.png = σ.png :=
  solid_of_not_mem fun h => by
    have := isAlphanum_or_of_mem_png h
    revert this
    decide

theorem typeset_png (σ : Slot) : typeset σ.png = σ.png :=
  typeset_of_lt fun _ hc => (isAlphanum_or_of_mem_png hc).elim lt_of_isAlphanum
    fun e => by rw [e]; decide

theorem balanced_png (σ : Slot) : Balanced σ.png := by
  refine balanced_of_isOrdinary fun c hc => ?_
  simp only [isOrdinary, Bool.and_eq_true, decide_eq_true_eq]
  have := isAlphanum_or_of_mem_png hc
  refine ⟨⟨?_, ?_⟩, ?_⟩ <;> rintro rfl <;> exact absurd this (by decide)

/-! ## the characters of the two paths -/

theorem solid_typeset (t : Text) : solid (typeset t) = typeset (solid t) :=
  filter_typeset (by decide_cbv) (typesetChar_of_lt (by decide)) t

theorem count_point_typeset (t : Text) : (typeset t).count '.' = t.count '.' :=
  count_typeset (by decide_cbv) (typesetChar_of_lt (by decide)) t

theorem count_point_solid (p : Path) : (solid p).count '.' = p.count '.' :=
  List.count_filter (by decide)

theorem solid_shownFolder (g : Gallery) :
    solid g.shownFolder = (solid g.settings.imageDir).filter (· ≠ '\\') := by
  rw [Gallery.shownFolder, solid_map '\\' (by decide), solid_dropEndWhile]

/-- **The characters of the path that the document has.** -/
theorem solid_typeset_shownPlace (g : Gallery) (σ : Slot) :
    solid (typeset (g.shownPlace σ.png)) =
      typeset ((solid g.settings.imageDir).filter (· ≠ '\\')) ++ σ.png := by
  rw [solid_typeset, Gallery.shownPlace, solid_append, solid_slash, solid_png, solid_shownFolder,
    typeset_append, typeset_png]

theorem solid_place (h : Relative g.settings.imageDir) (σ : Slot) :
    solid (g.place σ.png) =
      solid g.settings.workDir ++ (solid g.settings.imageDir ++ σ.png) := by
  obtain ⟨c, r, e, hc⟩ := exists_png_eq_cons σ
  have hname : isAbsolute σ.png = false := by rw [e]; simpa [isAbsolute] using hc
  rw [Gallery.place, Gallery.folder, Settings.imagePath, solid_join, solid_join, hname,
    h.isAbsolute, solid_png]
  simp

/-- a path that is the one on disk has its characters, but for the work folder, which may be
part of it. -/
theorem exists_solid_eq (h : Relative g.settings.imageDir) {a : Path}
    (ha : Path.squeeze (join g.settings.workDir a) = Path.squeeze (g.place σ.png)) :
    ∃ v, solid a = v ++ (solid g.settings.imageDir ++ σ.png) := by
  have hsolid := solid_eq_of_squeeze_eq ha
  rw [solid_place h, solid_join] at hsolid
  split at hsolid
  · exact ⟨_, hsolid⟩
  · exact ⟨[], List.append_cancel_left hsolid⟩

/-- **The argument is not cut short**: the name of the picture is behind the folder, and only it has
the last point. -/
theorem not_cut (h : Relative g.settings.imageDir) {a b : Text}
    (ha : Path.squeeze (join g.settings.workDir a) = Path.squeeze (g.place σ.png)) :
    typeset (g.shownPlace σ.png) ≠ a ++ '}' :: b := by
  intro hcut
  obtain ⟨v, hv⟩ := exists_solid_eq h ha
  have hname : '}' ∉ σ.png := fun hm => absurd (isAlphanum_or_of_mem_png hm) (by decide)
  have hpoint : 0 < σ.png.count '.' :=
    List.count_pos_iff.2 (List.mem_append_right _ (by decide_cbv))
  -- the argument ends in the folder
  have hfront : a.count '.' ≤ (typeset (g.shownFolder ++ ['/'])).count '.' := by
    have hassoc : g.shownPlace σ.png = (g.shownFolder ++ ['/']) ++ σ.png := by
      simp [Gallery.shownPlace]
    rw [hassoc, typeset_append, typeset_png] at hcut
    obtain ⟨x, rfl, hx⟩ | ⟨x, hx, -⟩ := List.append_eq_append_iff.1 hcut
    · exact absurd (by rw [hx]; simp) hname
    · rw [hx, List.count_append]
      exact Nat.le_add_right _ _
  have hfolder : (typeset (g.shownFolder ++ ['/'])).count '.' ≤
      (solid g.settings.imageDir).count '.' := by
    rw [count_point_typeset, List.count_append, ← count_point_solid g.shownFolder,
      solid_shownFolder]
    exact (List.filter_sublist).count_le '.'
  have hcount := congrArg (List.count '.') hv
  rw [count_point_solid, List.count_append, List.count_append] at hcount
  omega

/-! ## balance -/

theorem shownFolder_eq (h : '\\' ∉ g.settings.imageDir) :
    g.shownFolder = Text.dropEndWhile (· = '/') g.settings.imageDir := by
  have hmap : ∀ c ∈ Text.dropEndWhile (· = '/') g.settings.imageDir,
      (if c = '\\' then '/' else c) = c := fun c hc =>
    if_neg fun e : c = '\\' => h (e ▸ Text.mem_of_mem_dropEndWhile hc)
  rw [Gallery.shownFolder, List.map_congr_left hmap, List.map_id'']
  exact fun _ => rfl

theorem typeset_shownPlace (hslash : '\\' ∉ g.settings.imageDir)
    (hfixed : typeset g.settings.imageDir = g.settings.imageDir) :
    typeset (g.shownPlace σ.png) = g.shownPlace σ.png := by
  have hfolder : typeset g.shownFolder = g.shownFolder := by
    rw [shownFolder_eq hslash]
    exact typeset_of_forall fun c hc =>
      typeset_eq_self_iff.1 hfixed c (Text.mem_of_mem_dropEndWhile hc)
  rw [Gallery.shownPlace, typeset_append, typeset_cons, hfolder, typeset_png,
    typesetChar_of_lt (by decide)]
  rfl

theorem balanced_shownPlace_iff (h : '\\' ∉ g.settings.imageDir) (σ : Slot) :
    Balanced (g.shownPlace σ.png) ↔ Balanced g.settings.imageDir := by
  have hsealed : ∀ t : Text, '\\' ∉ t → isSealed t = true := fun t ht => by
    simp only [isSealed, ne_eq, decide_eq_true_eq]
    exact fun e => ht (List.mem_of_getLast? e)
  have hslashes : ∀ run : Text, (∀ c ∈ run, c = '/') → Balanced run := fun run hrun =>
    balanced_of_isOrdinary fun c hc => by rw [hrun c hc]; decide
  have hname : Balanced ('/' :: σ.png) := (balanced_png σ).cons (by decide)
  rw [Gallery.shownPlace, shownFolder_eq h,
    ((NestsLike.refl _).skip_right (hsealed _ fun hm => h (Text.mem_of_mem_dropEndWhile hm))
      hname).balanced_iff]
  obtain hall | ⟨u, c, run, e, -, hrun, hdrop⟩ :=
    Text.dropEndWhile_cases (· = '/') g.settings.imageDir
  · simp only [decide_eq_true_eq] at hall
    exact iff_of_true (hslashes _ fun c hc => hall c (Text.mem_of_mem_dropEndWhile hc))
      (hslashes _ hall)
  · simp only [decide_eq_true_eq] at hrun
    rw [hdrop]
    rw [e] at h ⊢
    have hassoc : u ++ c :: run = (u ++ [c]) ++ run := by simp
    rw [hassoc] at h ⊢
    rw [((NestsLike.refl _).skip_right (hsealed _ fun hm => h (List.mem_append_left _ hm))
      (hslashes _ hrun)).balanced_iff]

/-! ## when the paths are the same -/

variable {k : PictureTag} {size : Float}

theorem literal_of_designates (h : Relative g.settings.imageDir)
    (hd : Designates g σ.png (k.text size (typeset (g.shownPlace σ.png)))) :
    Literal g.settings.imageDir := by
  obtain ⟨a, ha, hpath⟩ := hd
  rw [pictureArgument?_text] at ha
  obtain ⟨⟨x, b⟩, hread, rfl⟩ := Option.map_eq_some_iff.1 ha
  obtain ⟨hgroup, hbalanced⟩ := readArgument_eq_some_iff.1 hread
  dsimp only at hpath
  have hgroup : typeset (g.shownPlace σ.png) ++ ['}'] = x ++ '}' :: b := by
    simpa [group] using hgroup
  have hwhole : typeset (g.shownPlace σ.png) = x := by
    obtain rfl | ⟨b, c, rfl⟩ := List.eq_nil_or_concat b
    · exact List.append_cancel_right hgroup
    · rw [List.concat_eq_append, ← List.cons_append, ← List.append_assoc] at hgroup
      exact absurd (List.append_inj_left' hgroup rfl) (not_cut h hpath)
  subst hwhole
  -- no character has been rewritten
  obtain ⟨v, hv⟩ := exists_solid_eq h hpath
  rw [solid_typeset_shownPlace, ← List.append_assoc] at hv
  have hkeeps : ∀ c, typesetChar c ≠ [c] → decide (c ≠ '\\') = true := fun c hc => by
    rw [decide_eq_true_eq]
    rintro rfl
    exact hc (typesetChar_of_lt (by decide))
  have hfixed := forall_of_typeset_filter (by decide) hkeeps (List.append_cancel_right hv)
  have hmem : ∀ {c}, c ∈ g.settings.imageDir → c ≠ '/' → c ∈ solid g.settings.imageDir :=
    fun hc hne => List.mem_filter.2 ⟨hc, decide_eq_true hne⟩
  have hslash : '\\' ∉ g.settings.imageDir := fun hm =>
    absurd (hfixed _ (hmem hm (by decide))).1 (by simp)
  have hchars : typeset g.settings.imageDir = g.settings.imageDir := by
    refine typeset_eq_self_iff.2 fun c hc => ?_
    by_cases hs : c = '/'
    · rw [hs]
      exact typesetChar_of_lt (by decide)
    · exact (hfixed c (hmem hc hs)).2
  refine ⟨hslash, hchars, ?_⟩
  rwa [typeset_shownPlace hslash hchars, balanced_shownPlace_iff hslash] at hbalanced

theorem designates_of_literal (h : Relative g.settings.imageDir)
    (hl : Literal g.settings.imageDir) :
    Designates g σ.png (k.text size (typeset (g.shownPlace σ.png))) := by
  obtain ⟨c, r, e, hc⟩ := exists_png_eq_cons σ
  have hbalanced : Balanced (g.shownPlace σ.png) :=
    (balanced_shownPlace_iff hl.slash σ).2 hl.braces
  have hread := readArgument_group hbalanced []
  rw [List.append_nil] at hread
  refine ⟨g.shownPlace σ.png, ?_, ?_⟩
  · rw [typeset_shownPlace hl.slash hl.fixed, pictureArgument?_text, hread]
    rfl
  · rw [Gallery.shownPlace, shownFolder_eq hl.slash, e]
    exact squeeze_join_join _ h.isAbsolute h.exists_ne hc

/-! ## pictures on a page -/

section
variable {u : Text} {s s' : Session}
  (hicon : k = .image → Text.occursIn Rule.icon.opening g.shownFolder = false)
include hicon

/-- **What the document has for a picture on a page**, and what there is on disk. -/
theorem translated_picture (hw : g.settings.wordWrap = false) (hu : Address u)
    (hrun : (translateRaw g (.of g.settings) (k.write u)).run s = (t, s')) :
    (∃ size, t = k.text size (typeset (g.shownPlace (Slot.keyed u).png))) ∧
      (s'.counts.failed = s.counts.failed → s'.counts.reused = s.counts.reused →
        ∃ bytes png, Picture.normal? false bytes = some png ∧
          s'.disk.read (g.place (Slot.keyed u).png) = .ok png) := by
  obtain ⟨size, es, fs, hwritten⟩ := run_translateRaw_write hu (o := .of g.settings) hw hicon s
  rw [hwritten] at hrun
  cases hrun
  exact ⟨⟨size, rfl⟩, Gallery.read_ensure⟩

/-- **The document names the file that was written** iff a document can write the picture folder as
it is.  A draft may be refused for its sizes here, which no path depends on. -/
theorem designates_iff {d : Settings.Draft} (hbuild : ∀ f, d.build = .error f → ∃ x, f = .sizing x)
    (hdir : g.settings.imageDir = d.chosen.imageDir) (hw : g.settings.wordWrap = false)
    (hu : Address u) (hrun : (translateRaw g (.of g.settings) (k.write u)).run s = (t, s'))
    (hfailed : s'.counts.failed = s.counts.failed) (hreused : s'.counts.reused = s.counts.reused) :
    (∃ bytes png, Picture.normal? false bytes = some png ∧
      s'.disk.read (g.place (cacheKey u ++ pngEnding)) = .ok png) ∧
    (Designates g (cacheKey u ++ pngEnding) t ↔ Literal g.settings.imageDir) := by
  have hrelative : Relative g.settings.imageDir := hdir ▸ relative_of_build hbuild
  obtain ⟨⟨size, rfl⟩, hread⟩ := translated_picture hicon hw hu hrun
  exact ⟨hread hfailed hreused, literal_of_designates (σ := .keyed u) hrelative,
    designates_of_literal (σ := .keyed u) hrelative⟩

end

/-! ### two picture folders -/

/-- a gallery to which one picture is sent, with a picture folder. -/
def hall (dir : Path) : Gallery :=
  { Gallery.album with settings := { Settings.standard with imageDir := dir } }

/-- a disk with folders in each other. -/
def nested (names : List Text) : Disk where
  nodes := names.inits.tail.map (·, .folder)
  here := []

/-- the settings of a hall are refused for their sizes at most, if its picture folder is not blank
and not absolute. -/
theorem build_hall {dir : Path} (htrim : Text.trim dir ≠ []) (habs : isAbsolute dir = false) :
    ∀ f, (Settings.Draft.mk (hall dir).settings none).build = .error f → ∃ x, f = .sizing x := by
  have hfault : (Settings.Draft.mk (hall dir).settings none).fault? =
      (hall dir).settings.sizing.fault?.map .sizing := by
    unfold Settings.Draft.fault?
    rw [if_neg (show Text.trim (hall dir).settings.imageDir ≠ [] from htrim),
      if_neg (by simpa [hall] using habs)]
  intro f hf
  rw [Settings.Draft.build, hfault] at hf
  cases hx : (hall dir).settings.sizing.fault? with
  | none =>
    rw [hx] at hf
    cases hf
  | some x =>
    rw [hx] at hf
    cases hf
    exact ⟨x, rfl⟩

theorem address_pointUrl : Address Gallery.pointUrl where
  brackets := by decide_cbv
  angles := by decide_cbv
  mark := by
    unfold Gallery.pointUrl
    rw [String.toList_ofList]
    decide
  solid := by
    unfold Gallery.pointUrl
    rw [String.toList_ofList]
    decide

/-- what becomes of an icon on a page, in a hall with a picture folder. -/
def hung (dir : Path) (names : List Text) : Text × Session :=
  (translateRaw (hall dir) (.of (hall dir).settings) (PictureTag.icon.write Gallery.pointUrl)).run
    (.start (nested names))

theorem hung_eq (dir : Path) (names : List Text) :
    (translateRaw (hall dir) (.of (hall dir).settings) (PictureTag.icon.write Gallery.pointUrl)).run
      (.start (nested names)) = ((hung dir names).1, (hung dir names).2) :=
  (Prod.eta (hung dir names)).symm

/-- no picture failed in a hall and none was there before. -/
def Fetched (dir : Path) (names : List Text) : Prop :=
  (hung dir names).2.counts.failed = 0 ∧ (hung dir names).2.counts.reused = 0

instance (dir : Path) (names : List Text) : Decidable (Fetched dir names) :=
  inferInstanceAs (Decidable (_ ∧ _))

theorem fetched_halls :
    Fetched "out/img//".toList ["out".toList, "img".toList] ∧ Fetched ['α'] [['α']] := by
  decide +kernel

theorem literal_plain : Literal "out/img//".toList := by
  rw [String.toList_ofList]
  exact ⟨by decide, typeset_of_lt (by decide), by decide⟩

/-- **A picture in a folder with a plain path** is named as it was written, but for slashes. -/
theorem designates_iff_plain :
    (∃ bytes png, Picture.normal? false bytes = some png ∧
      (hung "out/img//".toList ["out".toList, "img".toList]).2.disk.read
        ((hall "out/img//".toList).place (cacheKey Gallery.pointUrl ++ pngEnding)) = .ok png) ∧
    Designates (hall "out/img//".toList) (cacheKey Gallery.pointUrl ++ pngEnding)
      (hung "out/img//".toList ["out".toList, "img".toList]).1 := by
  obtain ⟨hfailed, hreused⟩ := fetched_halls.1
  obtain ⟨hread, hiff⟩ := designates_iff (k := .icon) (fun h => nomatch h)
    (build_hall (by decide_cbv) (by decide_cbv)) rfl rfl address_pointUrl
    (hung_eq "out/img//".toList _) hfailed hreused
  exact ⟨hread, hiff.2 literal_plain⟩

/-- **A picture in a folder with a Greek name** is written, and the document names another path. -/
theorem not_designates_greek :
    (∀ f, (Settings.Draft.mk (hall ['α']).settings none).build = .error f → ∃ x, f = .sizing x) ∧
    Address Gallery.pointUrl ∧
    (∃ bytes png, Picture.normal? false bytes = some png ∧ (hung ['α'] [['α']]).2.disk.read
      ((hall ['α']).place (cacheKey Gallery.pointUrl ++ pngEnding)) = .ok png) ∧
    ¬ Designates (hall ['α']) (cacheKey Gallery.pointUrl ++ pngEnding) (hung ['α'] [['α']]).1 := by
  have hrelative : Relative (hall ['α']).settings.imageDir := ⟨rfl, List.cons_ne_nil _ _⟩
  obtain ⟨hfailed, hreused⟩ := fetched_halls.2
  obtain ⟨⟨size, hwritten⟩, hread⟩ := translated_picture (k := .icon) (fun h => nomatch h) rfl
    address_pointUrl (hung_eq ['α'] [['α']])
  refine ⟨build_hall (by decide_cbv) rfl, address_pointUrl, hread hfailed hreused,
    fun hd => ?_⟩
  rw [hwritten] at hd
  have hfixed : typeset ['α'] = ['α'] :=
    (literal_of_designates (σ := .keyed Gallery.pointUrl) hrelative hd).fixed
  exact absurd hfixed (by decide_cbv)

end Markup
end Bookpress
