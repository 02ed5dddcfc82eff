import Bookpress.Document.Print
import Bookpress.Proofs.Document.Walk
import Bookpress.Proofs.Gallery.Slots
import Bookpress.Proofs.Length.Printing
import Bookpress.Proofs.Markup.Untouched
import Bookpress.Proofs.Tex.Leaving
import Bookpress.Proofs.Text.Numerals

/-!
# What is copied into documents

The address of the author, the materials of applications and the names of videos stand in a
document as they stand on the page, each in an argument of its own.  All the rest of a document
without running text is balanced, so the document is balanced iff these arguments are, one after
the other.

* `Graphic.nestsLike` : a graphic nests like its link and its caption.
* `Element.nestsLike_toText` : an application or a video nests like what is copied of it.
* `Document.nestsLike_body` : a document nests like its bodies, behind the address of its author.
* `balanced_body_of_copied` : if all that is copied is balanced, the document is.
* `balanced_body_iff` : when the document of a book is balanced.
-/

namespace Bookpress

open Tex

/-! ## graphics -/

namespace Tex.Graphic

/-- the arguments for the link and the caption of a graphic. -/
def enclosure (x : Graphic) : Text := x.link?.elim [] group ++ x.caption?.elim [] group

variable {x : Graphic}

theorem balanced_picture (hpath : Balanced x.path) (hwidth : Balanced x.width) :
    Balanced x.picture := by
  have hoption : Balanced ("width=".toList ++ x.width ++ "mm".toList) :=
    ((balanced_toList (by decide)).append hwidth).append (balanced_toList (by decide))
  have hassoc : x.picture = control "includegraphics" ++
      (['['] ++ (("width=".toList ++ x.width ++ "mm".toList) ++ ([']'] ++ group x.path))) := by
    simp [picture, commandWith]
  rw [hassoc]
  refine (balanced_control (by decide)).append (.append (by decide) (hoption.append ?_))
  exact Balanced.append (by decide) (balanced_group hpath)

theorem balanced_framedPicture (hpath : Balanced x.path) (hwidth : Balanced x.width) :
    Balanced x.framedPicture := by
  have hpicture := balanced_picture hpath hwidth
  unfold framedPicture
  split
  · rw [command_one]
    exact (balanced_control (by decide)).append (balanced_group hpicture)
  · exact hpicture

theorem nestsLike_linkedPicture (hpath : Balanced x.path) (hwidth : Balanced x.width) :
    NestsLike x.linkedPicture (x.link?.elim [] group) := by
  have hframed := balanced_framedPicture hpath hwidth
  unfold linkedPicture
  cases x.link? with
  | none => exact .of_balanced hframed
  | some l =>
    show NestsLike (command "hrefnoref" [l, x.framedPicture]) (group l)
    rw [command_two]
    exact .skip (balanced_control (by decide))
      ((NestsLike.refl _).skip_right (isSealed_group l) (balanced_group hframed))

theorem nestsLike_captionLine (x : Graphic) :
    NestsLike x.captionLine (x.caption?.elim [] group) := by
  unfold captionLine
  cases x.caption? with
  | none => exact .refl _
  | some c =>
    show NestsLike (line (command "caption*" [c])) (group c)
    rw [command_one, line, List.append_assoc]
    exact .skip (balanced_control (by decide))
      ((NestsLike.refl _).skip_right (isSealed_group c) (by decide))

/-- **A graphic nests like its link and its caption.** -/
theorem nestsLike (hpath : Balanced x.path) (hwidth : Balanced x.width) :
    NestsLike x.toText x.enclosure := by
  have hlink : isSealed (x.link?.elim [] group) = true := by
    cases x.link? with
    | none => rfl
    | some l => exact isSealed_group l
  have hcaption : isSealed (x.caption?.elim [] group) = true := by
    cases x.caption? with
    | none => rfl
    | some c => exact isSealed_group c
  have hfigure : Balanced (openEnv "figure") := balanced_openEnv (by decide)
  have hplaced : Balanced (openEnv "figure" ++ "[H]".toList) :=
    hfigure.append (balanced_toList (by decide))
  have hbegin : Balanced (line (openEnv "figure" ++ "[H]".toList) ++ line (openEnv "center")) :=
    (balanced_line hplaced).append (balanced_line (balanced_openEnv (by decide)))
  have hend : Balanced (line (closeEnv "center") ++ (line (closeEnv "figure") ++ ['\n'])) :=
    (balanced_line (balanced_closeEnv (by decide))).append
      ((balanced_line (balanced_closeEnv (by decide))).append (by decide))
  have hassoc : x.toText = (line (openEnv "figure" ++ "[H]".toList) ++ line (openEnv "center")) ++
      (x.linkedPicture ++ (['\n'] ++ (x.captionLine ++
        (line (closeEnv "center") ++ (line (closeEnv "figure") ++ ['\n']))))) := by
    simp [toText, line]
  rw [hassoc]
  refine .skip hbegin ((nestsLike_linkedPicture hpath hwidth).append hlink (.skip (by decide) ?_))
  exact (nestsLike_captionLine x).skip_right hcaption hend

theorem isSealed_toText (x : Graphic) : isSealed x.toText = true := by
  simp [isSealed, toText]

end Tex.Graphic
/-! ## elements -/

theorem isOrdinary_of_isAlphanum {c : Char} (h : c.isAlphanum = true) : isOrdinary c = true := by
  simp only [isOrdinary, Bool.and_eq_true, decide_eq_true_eq]
  refine ⟨⟨?_, ?_⟩, ?_⟩ <;> rintro rfl <;> exact absurd h (by decide)

theorem balanced_lengthText (x : Float) : Balanced (lengthText x) := by
  have hchars : ∀ c ∈ lengthChars, isOrdinary c = true := by decide
  exact balanced_of_isOrdinary fun c hc => hchars c (mem_lengthChars hc)

/-- the path of a picture is balanced if the path of the picture folder is. -/
theorem balanced_shownPlace {g : Gallery} (h : Balanced g.shownFolder) (σ : Slot) :
    Balanced (g.shownPlace σ.png) := by
  have hraw : Balanced σ.raw :=
    balanced_of_isOrdinary fun _ hc => isOrdinary_of_isAlphanum (Slot.isAlphanum_of_mem_raw hc)
  have hname : Balanced σ.png := hraw.append (balanced_toList (by decide))
  exact h.append (Balanced.append (s := ['/']) (by decide) hname)

namespace Element

/-- whether an element is an application or a video. -/
def isEmbedded : Element → Bool
  | .applet _ | .video _ => true
  | _ => false

/-- what is copied of an element as it stands on the page: the material of an application, or the
name of a video. -/
def copied? : Element → Option Text
  | .applet script => (Preview.of? script).map Preview.material
  | .video src => videoId? src
  | _ => none

/-- the arguments for what is copied of an element: an application leads to its material and shows
its address below, and of a video the address is shown. -/
def enclosure (x : Element) : Text :=
  match x, x.copied? with
  | .applet _, some t => group t ++ group (group t)
  | _, some t => group (group t)
  | _, none => []

variable {g : Gallery} {o : Markup.Options} {x : Element} {s : Session}

/-- a caption that shows an address nests like what follows the front of the address. -/
theorem nestsLike_captionFor {front t : Text} (hfront : Balanced front) (label : Text) :
    NestsLike (captionFor label (front ++ t)) (group t) := by
  have hassoc : captionFor label (front ++ t) =
      (escape label ++ ", ".toList ++ control "url") ++ group (front ++ t) := by
    simp [captionFor]
  rw [hassoc]
  have hlabel : Balanced (escape label ++ ", ".toList) :=
    (balanced_escape label).append (balanced_toList (by decide))
  refine .skip (hlabel.append (balanced_control (by decide))) ?_
  exact (NestsLike.skip hfront (.refl t)).group

theorem run_appletText_of_none {script : Text} (h : Preview.of? script = none) (s : Session) :
    ((appletText g script).run s).1 =
      Graphic.toText ⟨g.shownPlace Slot.logo.png, logoWidth, none, false, none⟩ := by
  simp only [appletText, h]
  rfl

theorem run_appletText_of_some {script : Text} {p : Preview} (h : Preview.of? script = some p)
    (s : Session) :
    ∃ n width, ((appletText g script).run s).1 =
      Graphic.toText ⟨g.shownPlace (Slot.numbered n).png, lengthText width,
        some (captionFor g.settings.labels.applet (materialUrl p.material)), true,
        some (materialUrl p.material)⟩ := by
  simp only [appletText, h]
  exact ⟨_, _, rfl⟩

theorem run_videoText (id : Text) (s : Session) :
    ∃ n width, ((videoText g id).run s).1 =
      Graphic.toText ⟨g.shownPlace (Slot.numbered n).png, lengthText width,
        some (captionFor g.settings.labels.video (videoUrl id)), false, none⟩ := by
  exact ⟨_, _, rfl⟩

/-- an application or a video is nothing, or a graphic that nests like what is copied of it. -/
theorem exists_graphic (hfolder : Balanced g.shownFolder) (hx : x.isEmbedded = true)
    (s : Session) :
    (((x.toText g o).run s).1 = [] ∧ x.enclosure = []) ∨
      ∃ y : Graphic, ((x.toText g o).run s).1 = y.toText ∧ Balanced y.path ∧ Balanced y.width ∧
        NestsLike y.enclosure x.enclosure := by
  cases x with
  | applet script =>
    right
    show ∃ y : Graphic, ((appletText g script).run s).1 = _ ∧ _
    cases h : Preview.of? script with
    | none =>
      have hnone : enclosure (.applet script) = [] := by simp [enclosure, copied?, h]
      have hwidth : Balanced logoWidth := balanced_toList (by decide)
      rw [hnone]
      exact ⟨_, run_appletText_of_none h s, balanced_shownPlace hfolder .logo, hwidth, .refl []⟩
    | some p =>
      have hsome : enclosure (.applet script) = group p.material ++ group (group p.material) := by
        simp [enclosure, copied?, h]
      obtain ⟨n, width, e⟩ := run_appletText_of_some (g := g) h s
      have hfront : Balanced "http://www.geogebra.org/m/".toList := balanced_toList (by decide)
      rw [hsome]
      refine ⟨_, e, balanced_shownPlace hfolder (.numbered n), balanced_lengthText width, ?_⟩
      exact (NestsLike.skip hfront (.refl p.material)).group.append (isSealed_group _)
        (nestsLike_captionFor hfront _).group
  | video src =>
    cases h : videoId? src with
    | none =>
      left
      simp only [toText, enclosure, copied?, h]
      exact ⟨rfl, trivial⟩
    | some id =>
      right
      have hsome : enclosure (.video src) = group (group id) := by simp [enclosure, copied?, h]
      have hrun : ((toText g o (.video src)).run s).1 = ((videoText g id).run s).1 := by
        simp only [toText, h]
      obtain ⟨n, width, e⟩ := run_videoText (g := g) id s
      have hfront : Balanced "https://www.youtube.com/watch?v=".toList :=
        balanced_toList (by decide)
      rw [hrun, hsome]
      exact ⟨_, e, balanced_shownPlace hfolder (.numbered n), balanced_lengthText width,
        (nestsLike_captionFor hfront _).group⟩
  | _ => cases hx

/-- **An application or a video nests like what is copied of it.** -/
theorem nestsLike_toText (hfolder : Balanced g.shownFolder) (hx : x.isEmbedded = true)
    (s : Session) : NestsLike ((x.toText g o).run s).1 x.enclosure := by
  obtain ⟨e, e'⟩ | ⟨y, e, hpath, hwidth, hy⟩ := exists_graphic (o := o) hfolder hx s
  · rw [e, e']
    exact .refl []
  · rw [e]
    exact (Graphic.nestsLike hpath hwidth).trans hy

theorem isSealed_toText (hfolder : Balanced g.shownFolder) (hx : x.isEmbedded = true)
    (s : Session) : isSealed ((x.toText g o).run s).1 = true := by
  obtain ⟨e, -⟩ | ⟨y, e, -⟩ := exists_graphic (o := o) hfolder hx s
  · rw [e]
    rfl
  · rw [e]
    exact Graphic.isSealed_toText y

theorem isSealed_enclosure (x : Element) : isSealed x.enclosure = true := by
  unfold enclosure
  split
  · exact isSealed_append (isSealed_group _) (isSealed_group _)
  · exact isSealed_group _
  · rfl

theorem balanced_enclosure (x : Element) (h : ∀ t ∈ x.copied?, Balanced t) :
    Balanced x.enclosure := by
  unfold enclosure
  split
  · rename_i t ht
    have := balanced_group (h t ht)
    exact this.append (balanced_group this)
  · rename_i t _ ht
    exact balanced_group (balanced_group (h t ht))
  · exact .nil

end Element

/-! ## worksheets -/

namespace Document

/-- the arguments for what is copied of a worksheet. -/
def copies (w : Worksheet) : Text := w.flatMap Element.enclosure

/-- the arguments for what is copied of a book: the address of its author, and the worksheets that
have an entry below the menu. -/
def enclosure (b : Book) : Text :=
  group (group b.author.link) ++ (b.worksheets.take (itemsOf b.menu).length).flatMap copies

section
variable {g : Gallery} {o : Markup.Options} {w : Worksheet} {b : Book} {s : Session}

theorem isSealed_copies (w : Worksheet) : isSealed (copies w) = true := by
  rw [copies, List.flatMap_def]
  refine isSealed_flatten fun t ht => ?_
  obtain ⟨x, -, rfl⟩ := List.mem_map.1 ht
  exact Element.isSealed_enclosure x

/-- a block nests like what is copied of its worksheet. -/
theorem nestsLike_blockOf (hfolder : Balanced g.shownFolder)
    (hw : ∀ x ∈ w, x.isEmbedded = true) (s : Session) :
    NestsLike ((blockOf g o w).run s).1 (copies w) := by
  show NestsLike ((w.mapM (Element.toText g o)).run s).1.flatten _
  induction w generalizing s with
  | nil => exact .refl []
  | cons x w ih =>
    rw [List.forall_mem_cons] at hw
    simp only [List.mapM_cons, StateT.run_bind, StateT.run_pure]
    exact (Element.nestsLike_toText hfolder hw.1 s).append (Element.isSealed_enclosure x)
      (ih hw.2 _)

theorem isSealed_blockOf (hfolder : Balanced g.shownFolder)
    (hw : ∀ x ∈ w, x.isEmbedded = true) (s : Session) :
    isSealed ((blockOf g o w).run s).1 = true := by
  show isSealed ((w.mapM (Element.toText g o)).run s).1.flatten = true
  induction w generalizing s with
  | nil => rfl
  | cons x w ih =>
    rw [List.forall_mem_cons] at hw
    simp only [List.mapM_cons, StateT.run_bind, StateT.run_pure]
    exact isSealed_append (ih hw.2 _) (Element.isSealed_toText hfolder hw.1 s)

/-- whether worksheets hold nothing but applications and videos. -/
def IsEmbedded (b : Book) : Prop := ∀ w ∈ b.worksheets, ∀ x ∈ w, x.isEmbedded = true

theorem rendering_cases (hfolder : Balanced g.shownFolder) (hb : IsEmbedded b) (k : Nat) :
    NestsLike (rendering g b s k) (b.worksheets[k]?.elim [] copies) ∧
      isSealed (rendering g b s k) = true := by
  unfold rendering
  cases h : b.worksheets[k]? with
  | none => exact ⟨.refl [], rfl⟩
  | some w =>
    have hw := hb w (List.mem_of_getElem? h)
    exact ⟨nestsLike_blockOf hfolder hw _, isSealed_blockOf hfolder hw _⟩

/-- what is copied of the first worksheets, one after the other. -/
theorem flatMap_range_copies (ws : List Worksheet) (m : Nat) :
    (List.range m).flatMap (fun k => ws[k]?.elim [] copies) = (ws.take m).flatMap copies := by
  induction ws generalizing m with
  | nil => simp
  | cons w ws ih =>
    cases m with
    | zero => rfl
    | succ m =>
      rw [List.range_succ_eq_map, List.flatMap_cons, List.flatMap_map, List.take_succ_cons,
        List.flatMap_cons, ← ih m]
      rfl

end

/-! ## sections -/

section
variable {l : Layout} {xs : List Section} {d : Document}

theorem balanced_line_command {name : String} {t : Text} (hname : Balanced (control name))
    (h : Balanced t) : Balanced (line (command name [t])) := by
  rw [command_one]
  exact balanced_line (hname.append (balanced_group h))

theorem balanced_line_setlength {name value : Text} (hname : Balanced name)
    (hvalue : Balanced value) : Balanced (line (command "setlength" [name, value])) := by
  rw [command_two]
  exact balanced_line ((balanced_control (by decide)).append
    ((balanced_group hname).append (balanced_group hvalue)))

theorem nestsLike_subsectionText {x : Subsection} (h : Balanced x.title) :
    NestsLike (subsectionText l x) x.body := by
  have hcommand : Balanced (control (headingCommand l)) := by
    cases l <;> exact balanced_control (by decide)
  exact .skip (balanced_line_command hcommand h) (.refl _)

theorem nestsLike_sectionText {x : Section} (ht : ∀ t ∈ x.title?, Balanced t)
    (hh : ∀ y ∈ x.subsections, Balanced y.title)
    (hs : ∀ y ∈ x.subsections, isSealed y.body = true) :
    NestsLike (sectionText l x) (x.subsections.flatMap Subsection.body) := by
  have hbodies : NestsLike (x.subsections.flatMap (subsectionText l))
      (x.subsections.flatMap Subsection.body) :=
    .flatMap fun y hy => ⟨nestsLike_subsectionText (hh y hy), hs y hy⟩
  unfold sectionText
  cases e : x.title? with
  | none => exact hbodies
  | some t => exact .skip (balanced_line_command (balanced_control (by decide)) (ht t e)) hbodies

end

/-! ## documents -/

section
variable {g : Gallery} {b : Book} {s : Session} {d : Document} {r : Report}

/-- a text without anything in it stays so. -/
theorem translateRaw_nil (g : Gallery) (o : Markup.Options) (hw : o.wordWrap = false)
    (s : Session) : ((Markup.translateRaw g o []).run s).1 = [] := by
  have huntouched : Markup.Untouched [] := ⟨by simp, by simp, fun _ _ => rfl, fun _ _ => rfl⟩
  have hunparted := Markup.unparted_of_not_mem (t := []) (by simp)
  obtain ⟨s', hs'⟩ := Markup.run_translateRaw g o [] s
  rw [hs', escape_nil, Markup.rewrite_of_lacks huntouched hunparted,
    Markup.pictures_of_none (Markup.spans_of_not_mem rfl List.not_mem_nil)
      (Markup.spans_of_not_mem rfl List.not_mem_nil)]
  show Markup.finish o [] = []
  unfold Markup.finish
  rw [hw]
  rfl

/-- the line of the author nests like the address of the author. -/
theorem nestsLike_authorLine {link name : Text} (hname : Balanced name) :
    NestsLike (line (command "author" [command "hrefnoref" [link, name]]))
      (group (group link)) := by
  have hinner : NestsLike (command "hrefnoref" [link, name]) (group link) := by
    rw [command_two]
    exact .skip (balanced_control (by decide))
      ((NestsLike.refl _).skip_right (isSealed_group link) (balanced_group hname))
  rw [command_one, line, List.append_assoc]
  exact .skip (balanced_control (by decide))
    (hinner.group.skip_right (isSealed_group _) (by decide))

/-- what stands before the sections nests like the address of the author. -/
theorem nestsLike_frontLines {settings : Settings}
    (hlanguage : Balanced settings.language.name) (htitle : Balanced d.title)
    (hname : Balanced d.authorName) (hdate : Balanced d.date) (hsummary : d.summary = []) :
    NestsLike (frontLines d settings) (group (group d.authorLink)) := by
  have hbegin : Balanced ('\n' :: line (openEnv "document")
      ++ line (command "setlength" [control "parskip", "6pt plus0.2pt minus0.2pt".toList])
      ++ line (command "setlength" [control "fboxsep", "0pt".toList])
      ++ '\n' :: line (command "selectlanguage" [settings.language.name])) := by
    have hopen : Balanced ('\n' :: line (openEnv "document")) :=
      .cons (by decide) (balanced_line (balanced_openEnv (by decide)))
    have hskip : Balanced (line (command "setlength"
        [control "parskip", "6pt plus0.2pt minus0.2pt".toList])) :=
      balanced_line_setlength (balanced_control (by decide)) (balanced_toList (by decide))
    have hsep : Balanced (line (command "setlength" [control "fboxsep", "0pt".toList])) :=
      balanced_line_setlength (balanced_control (by decide)) (balanced_toList (by decide))
    have hselect : Balanced (line (command "selectlanguage" [settings.language.name])) :=
      balanced_line_command (balanced_control (by decide)) hlanguage
    exact ((hopen.append hskip).append hsep).append (.cons (by decide) hselect)
  have hend : Balanced (line (command "date" [d.date]) ++ (line (control "maketitle")
      ++ line (control "tableofcontents"))) :=
    (balanced_line_command (balanced_control (by decide)) hdate).append
      ((balanced_line (balanced_control (by decide))).append
        (balanced_line (balanced_control (by decide))))
  unfold frontLines
  rw [if_pos hsummary, List.append_nil]
  have hhead : Balanced (line (command "title" [d.title])) :=
    balanced_line_command (balanced_control (by decide)) htitle
  have hauthor : NestsLike
      (line (command "author" [command "hrefnoref" [d.authorLink, d.authorName]]))
      (group (group d.authorLink)) := nestsLike_authorLine hname
  have := NestsLike.skip hbegin (.skip hhead (hauthor.skip_right (isSealed_group _) hend))
  simpa only [List.append_assoc, List.cons_append] using this

/-- the headings of sections are escaped. -/
theorem Pairs.balanced_titles (hpairs : Pairs g b s d r) {x : Section} (hx : x ∈ d.sections) :
    (∀ t ∈ x.title?, Balanced t) ∧ ∀ y ∈ x.subsections, Balanced y.title := by
  constructor
  · intro t ht
    have hmem : x.title? ∈ b.menu.map (titleOf d.layout) := by
      rw [← hpairs.titles]
      exact List.mem_map_of_mem hx
    obtain ⟨e, -, he⟩ := List.mem_map.1 hmem
    rw [← he, titleOf] at ht
    split at ht
    · rw [← Option.some.inj ht]
      exact balanced_escape _
    · cases ht
  · intro y hy
    have hmem : x.subsections.map Subsection.title ∈ b.menu.map fun e => e.items.map escape := by
      rw [← hpairs.headings]
      exact List.mem_map_of_mem hx
    obtain ⟨e, -, he⟩ := List.mem_map.1 hmem
    have hy : y.title ∈ e.items.map escape := by
      rw [he]
      exact List.mem_map_of_mem hy
    obtain ⟨item, -, e⟩ := List.mem_map.1 hy
    rw [← e]
    exact balanced_escape item

/-- the sections nest like what is copied of the worksheets that they hold. -/
theorem Pairs.nestsLike_sections (hpairs : Pairs g b s d r) (hfolder : Balanced g.shownFolder)
    (hb : IsEmbedded b) (l : Layout) :
    NestsLike (d.sections.flatMap (sectionText l))
      ((b.worksheets.take (itemsOf b.menu).length).flatMap copies) := by
  have hcases := rendering_cases (s := s) hfolder hb
  have hsealed : ∀ x ∈ d.sections, ∀ y ∈ x.subsections,
      isSealed y.body = true := by
    intro x hx y hy
    have hmem : y.body ∈ (List.range (itemsOf b.menu).length).map (rendering g b s) := by
      rw [← hpairs.bodies]
      exact List.mem_map_of_mem (List.mem_flatMap.2 ⟨x, hx, hy⟩)
    obtain ⟨k, -, hk⟩ := List.mem_map.1 hmem
    rw [← hk]
    exact (hcases k).2
  have hbodies : NestsLike (d.sections.flatMap (sectionText l))
      (d.sections.flatMap fun x => x.subsections.flatMap Subsection.body) :=
    .flatMap fun x hx => ⟨nestsLike_sectionText (hpairs.balanced_titles hx).1
      (hpairs.balanced_titles hx).2 (hsealed x hx), by
        rw [List.flatMap_def]
        refine isSealed_flatten fun t ht => ?_
        obtain ⟨y, hy, rfl⟩ := List.mem_map.1 ht
        exact hsealed x hx y hy⟩
  have hrenderings : d.sections.flatMap
      (fun x => x.subsections.flatMap Subsection.body)
        = (List.range (itemsOf b.menu).length).flatMap (rendering g b s) := by
    rw [← List.flatMap_assoc, List.flatMap_def, hpairs.bodies, List.flatMap_def]
  rw [← flatMap_range_copies]
  refine hbodies.trans (hrenderings ▸ .flatMap fun k _ => ⟨(hcases k).1, ?_⟩)
  cases b.worksheets[k]? with
  | none => rfl
  | some w => exact isSealed_copies w

/-- what stands on the title page of a document without a description is escaped. -/
structure Fronted (b : Book) (d : Document) : Prop where
  title : Balanced d.title
  authorName : Balanced d.authorName
  authorLink : d.authorLink = b.author.link
  date : Balanced d.date
  summary : d.summary = []

theorem fronted_compose (hplain : g.settings.wordWrap = false) (hdescription : b.description = [])
    (s : Session) : Fronted b ((compose g b).run s).1.1 := by
  have hsummary := translateRaw_nil g (.of g.settings) hplain s
  rw [run_compose, hdescription, hsummary]
  exact ⟨balanced_escape _, balanced_escape _, rfl, balanced_escape _, rfl⟩

/-- **A document nests like what is copied into it.** -/
theorem nestsLike_body (hpairs : Pairs g b s d r) (hfront : Fronted b d)
    (hsettings : g.settings = .standard) (hb : IsEmbedded b) :
    NestsLike (d.body g.settings) (enclosure b) := by
  have hfolder : Balanced g.shownFolder := by
    rw [Gallery.shownFolder, hsettings]
    show Balanced ((Text.dropEndWhile _ "images".toList).map _)
    rw [String.toList_ofList]
    decide
  have hlanguage : Balanced g.settings.language.name := by
    rw [hsettings]
    exact balanced_toList (by decide)
  have hlines := nestsLike_frontLines hlanguage hfront.title hfront.authorName hfront.date
    hfront.summary
  rw [hfront.authorLink] at hlines
  exact hlines.append (isSealed_group _) (hpairs.nestsLike_sections hfolder hb d.layout)

theorem nestsLike_compose (hsettings : g.settings = .standard) (hdescription : b.description = [])
    (hb : IsEmbedded b) (s : Session) :
    NestsLike (((compose g b).run s).1.1.body g.settings) (enclosure b) := by
  have hplain : g.settings.wordWrap = false := by
    rw [hsettings]
    rfl
  exact nestsLike_body (compose_pairs g b s) (fronted_compose hplain hdescription s) hsettings hb

/-- **If all that is copied is balanced, the document is.** -/
theorem balanced_body_of_copied (hsettings : g.settings = .standard)
    (hdescription : b.description = []) (hb : IsEmbedded b) (hlink : Balanced b.author.link)
    (hcopied : ∀ w ∈ b.worksheets, ∀ x ∈ w, ∀ t ∈ x.copied?, Balanced t) (s : Session) :
    Balanced (((compose g b).run s).1.1.body g.settings) := by
  refine (nestsLike_compose hsettings hdescription hb s).balanced_iff.2 ?_
  refine (balanced_group (balanced_group hlink)).append (Balanced.flatMap fun w hw => ?_)
  exact Balanced.flatMap fun x hx =>
    x.balanced_enclosure (hcopied w (List.mem_of_mem_take hw) x hx)

/-- **The document of a book of applications and videos is balanced iff what is copied into it is**,
in its arguments and one after the other: the address of the author, the materials of applications
and the names of videos.  Everything else that depends on the page is escaped. -/
theorem balanced_body_iff (hsettings : g.settings = .standard) (hdescription : b.description = [])
    (hb : IsEmbedded b) (s : Session) :
    Balanced (((compose g b).run s).1.1.body g.settings) ↔ Balanced (enclosure b) :=
  (nestsLike_compose hsettings hdescription hb s).balanced_iff

end

/-! ### a book with its author -/

/-- a gallery to which nothing is sent. -/
def idleGallery : Gallery where
  world := ⟨fun _ _ => .error [], fun _ => []⟩
  settings := .standard
  base := .page []

/-- a book with an application and a video, by an author with an address. -/
def signedBook (link : Text) : Book where
  title := "Curves {1}".toList
  author := ⟨"A. B.".toList, link⟩
  date := []
  description := []
  worksheets := [[.applet "setPreviewImage('files/material-42.png')".toList],
    [.video "https://x.org/embed/abc".toList]]
  menu := [⟨"1. Curves".toList, ["Circles".toList, "Lines".toList]⟩]

theorem isEmbedded_signedBook (link : Text) : IsEmbedded (signedBook link) := by
  intro w hw x hx
  rcases List.mem_cons.1 hw with rfl | hw
  · rw [List.mem_singleton.1 hx]
    rfl
  · rw [List.mem_singleton.1 hw, List.mem_singleton] at hx
    rw [hx]
    rfl

/-- a brace in the address of the author stays open in what is copied. -/
theorem balanced_enclosure_signedBook :
    Balanced (enclosure (signedBook "http://x.org/u/ab".toList)) ∧
      ¬ Balanced (enclosure (signedBook "http://x.org/u/ab\x7d".toList)) := by
  decide +kernel

/-- **The document of a book by an author with a plain address is balanced.** -/
theorem balanced_body_signedBook : Balanced
    (((compose idleGallery (signedBook "http://x.org/u/ab".toList)).run
      (.start ⟨[], []⟩)).1.1.body .standard) :=
  (balanced_body_iff (g := idleGallery) rfl rfl (isEmbedded_signedBook _) _).2
    balanced_enclosure_signedBook.1

/-- **The document of a book by an author whose address has a brace is not balanced.** -/
theorem not_balanced_body_of_brace : ¬ Balanced
    (((compose idleGallery (signedBook "http://x.org/u/ab\x7d".toList)).run
      (.start ⟨[], []⟩)).1.1.body .standard) := fun h =>
  absurd ((nestsLike_compose (g := idleGallery) rfl rfl
    (isEmbedded_signedBook _) _).balanced_iff.1 h) balanced_enclosure_signedBook.2

end Document
end Bookpress
