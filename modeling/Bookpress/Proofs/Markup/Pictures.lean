import Bookpress.Proofs.Gallery.Slots
import Bookpress.Proofs.Length.Printing
import Bookpress.Proofs.Markup.Rounds
import Bookpress.Proofs.Markup.Untouched
import Bookpress.Proofs.Markup.Writing
import Bookpress.Proofs.Tex.Typesetting

/-!
# Pictures from page to document

What becomes of a picture on a page: the rules before those for pictures leave its tag alone, the
gallery keeps the picture, and the tag becomes a command whose argument is the path of the picture
with its symbols typeset.

* `rewrite_write` : the tag of a picture comes to the rules for pictures as it stands.
* `run_pictures_write` : the gallery is asked once, and its answer is the argument of the command.
* `run_translateRaw_write` : the translation of a picture.
* `pictureArgument?_text` : the argument is read back as an argument between braces is.
-/

namespace Bookpress
namespace Markup

open Tex

/-! ## pictures on a page -/

/-- the tags of pictures. -/
inductive PictureTag
  | image
  | icon
deriving DecidableEq

namespace PictureTag

/-- the rule for a tag. -/
def rule : PictureTag → Rule
  | image => .image
  | icon => .icon

/-- a picture as it is written on a page. -/
def write (k : PictureTag) (u : Text) : Text := k.rule.opening ++ (u ++ k.rule.closing)

/-- a picture as it is written in a document. -/
def text (k : PictureTag) (size : Float) (path : Text) : Text :=
  match k with
  | image => pictureText "height" size "mm" path
  | icon => pictureText "width" size "cm" path

end PictureTag

/-- what the address of a picture may be. -/
structure Address (u : Text) : Prop where
  brackets : '[' ∉ u ∧ ']' ∉ u
  angles : '<' ∉ u ∧ '>' ∉ u
  mark : ∀ x ∈ u, x.toNat ≠ 0xFEFF
  solid : ∀ x ∈ u, Text.isBlank x = false

variable {k : PictureTag} {u : Text} {g : Gallery} {o : Options} {s : Session}

theorem escape_write (k : PictureTag) (u : Text) : escape (k.write u) = k.write (escape u) := by
  have ho : escape k.rule.opening = k.rule.opening := by cases k <;> decide_cbv
  have hc : escape k.rule.closing = k.rule.closing := by cases k <;> decide_cbv
  rw [PictureTag.write, escape_append, escape_append, ho, hc]
  rfl

/-! ## the rules before those for pictures -/

/-- the fronts of the tags that are looked for before those of pictures, but for `<br>`. -/
def earlierTags : List Text :=
  "[br]".toList :: pairRules.map Rule.opening
    ++ (colorTags ++ (partRules.map Rule.opening ++ partTags))

theorem earlierTags_foreign (k : PictureTag) : ∀ p ∈ earlierTags, p.head? = some '[' ∧
    Text.lacks p k.rule.opening = true ∧ Text.lacks p k.rule.closing = true := by
  cases k <;> decide_cbv

theorem lacks_write {p : Text} (ho : Text.lacks p k.rule.opening = true)
    (hu : Text.lacks p u = true) (hc : Text.lacks p k.rule.closing = true) :
    Text.lacks p (k.write u) = true :=
  Rule.lacks_around ho hu hc

/-- the tag of a picture is none of the earlier ones. -/
theorem lacks_write_of_mem (hu : '[' ∉ u) : ∀ p ∈ earlierTags, Text.lacks p (k.write u) = true := by
  intro p hp
  obtain ⟨hhead, ho, hc⟩ := earlierTags_foreign k p hp
  obtain ⟨q, rfl⟩ := List.head?_eq_some_iff.1 hhead
  exact lacks_write ho (Text.lacks_of_not_mem hu) hc

namespace Address

theorem bracket_escape (h : Address u) : '[' ∉ escape u :=
  not_mem_escape (by decide_cbv) h.brackets.1

theorem untouched (h : Address u) : Untouched (k.write (escape u)) where
  mark x hx := by
    have H : (∀ x ∈ k.rule.opening, x.toNat ≠ 0xFEFF) ∧ ∀ x ∈ k.rule.closing, x.toNat ≠ 0xFEFF := by
      cases k <;> unfold PictureTag.rule Rule.image Rule.icon Rule.plain <;> dsimp only <;>
        repeat rw [String.toList_ofList]
      all_goals decide
    simp only [PictureTag.write, List.mem_append] at hx
    rcases hx with hx | hx | hx
    · exact H.1 x hx
    · exact ne_mark_of_mem_escape h.mark x hx
    · exact H.2 x hx
  line hx := by
    have H : '\n' ∉ k.rule.opening ∧ '\n' ∉ k.rule.closing := by cases k <;> decide_cbv
    simp only [PictureTag.write, List.mem_append] at hx
    rcases hx with hx | hx | hx
    · exact H.1 hx
    · exact not_mem_escape (by decide_cbv) (fun hm => absurd (h.solid _ hm) (by decide)) hx
    · exact H.2 hx
  breaks := by
    have hb : Text.lacks (escape "<br>".toList) k.rule.opening = true ∧
        Text.lacks (escape "<br>".toList) k.rule.closing = true := by cases k <;> decide_cbv
    simp only [breakTags, List.forall_mem_cons]
    exact ⟨lacks_write_of_mem h.bracket_escape _ (by simp [earlierTags]),
      lacks_write hb.1 (lacks_br h.angles) hb.2, by simp⟩
  pairs r hr := lacks_write_of_mem h.bracket_escape _
    (List.mem_append_left _ (List.mem_cons_of_mem _ (List.mem_map_of_mem hr)))

theorem unparted (h : Address u) : Unparted (k.write (escape u)) := by
  have hlacks := lacks_write_of_mem (k := k) h.bracket_escape
  simp only [earlierTags, List.forall_mem_append, List.forall_mem_map] at hlacks
  exact ⟨hlacks.2.1, hlacks.2.2.1, hlacks.2.2.2⟩

end Address

/-- **The tag of a picture comes to the rules for pictures as it stands.** -/
theorem rewrite_write (h : Address u) :
    rewrite g o (k.write (escape u)) = pictures g o (k.write (escape u)) :=
  rewrite_of_lacks h.untouched h.unparted

/-! ## the rules for pictures -/

theorem encloses_rule (k : PictureTag) : k.rule.Encloses := by
  cases k <;> exact ⟨by decide_cbv, by decide_cbv, rfl, rfl⟩

theorem spans_write (k : PictureTag) (hu : '[' ∉ u) :
    k.rule.spans (k.write u) = ([([], ⟨[], u⟩)], []) := by
  have hrule := encloses_rule k
  obtain ⟨q, hclose⟩ : ∃ q, k.rule.closing = '[' :: q := by cases k <;> exact ⟨_, rfl⟩
  have hinner : Text.lacks k.rule.closing u = true := by
    rw [hclose]
    exact Text.lacks_of_not_mem hu
  have hfind : k.rule.find (k.write u) = some ⟨[], ⟨[], u⟩, []⟩ := by
    have hfirst := Rule.find_around hrule hinner []
    rwa [List.append_nil] at hfirst
  have hend : Text.cuts k.rule.find [] = ([], []) := Rule.spans_of_lacks hrule.opening rfl
  rw [Rule.spans, Text.cuts_eq (Rule.shrinks_find hrule.opening), hfind]
  simp only [hend]

theorem sourceOf_escape (h : Address u) : sourceOf ⟨[], escape u⟩ = u := by
  unfold sourceOf
  rw [unescape_escape]
  exact Text.trim_eq_self (fun c r e => h.solid c (by simp [e]))
    (fun r c e => h.solid c (by simp [e]))

/-- the command of a picture has no tag of an icon in it, if the picture folder has none. -/
theorem lacks_icon_text (hfolder : Text.occursIn Rule.icon.opening g.shownFolder = false)
    (size : Float) (σ : Slot) :
    Text.lacks Rule.icon.opening (PictureTag.image.text size (g.shownPlace σ.png)) = true := by
  have hopening : Rule.icon.opening = '[' :: Rule.icon.opening.tail := by decide_cbv
  have hlength : '[' ∉ lengthText size := fun hm => absurd (mem_lengthChars hm) (by decide)
  have hname : '[' ∉ σ.png ++ ['}'] := by
    simp only [List.mem_append, Slot.png]
    rintro ((h | h) | h)
    · exact Slot.not_mem_raw (by decide) h
    · exact absurd h (by decide_cbv)
    · exact absurd h (by decide)
  have hassoc : PictureTag.image.text size (g.shownPlace σ.png) =
      (control "includegraphics" ++ '[' :: "height=".toList) ++ (lengthText size ++
        ("mm]".toList ++ '{' :: ((g.shownFolder ++ ['/']) ++ (σ.png ++ ['}'])))) := by
    simp [PictureTag.text, pictureText, commandWith, group, Gallery.shownPlace]
  rw [hassoc]
  refine Text.lacks_append (by decide_cbv) (Text.lacks_append ?_ (Text.lacks_append
    (u := "mm]".toList) (by decide_cbv) (Text.lacks_append (u := ['{']) (by decide_cbv)
    (Text.lacks_append (Text.lacks_of_not_occursIn (by decide_cbv) hfolder) ?_))))
  · rw [hopening]
    exact Text.lacks_of_not_mem hlength
  · rw [hopening]
    exact Text.lacks_of_not_mem hname

theorem run_bind_of_run {σ α β : Type} {x : StateM σ α} {s s' : σ} {a : α}
    (h : x.run s = (a, s')) (f : α → StateM σ β) : (x >>= f).run s = (f a).run s' := by
  rw [StateT.run_bind, h]
  rfl

/-- **The gallery is asked for the picture once**, and the path that it gives is written. -/
theorem run_pictures_write (h : Address u)
    (hicon : k = .image → Text.occursIn Rule.icon.opening g.shownFolder = false) (s : Session) :
    ∃ size es fs, (pictures g o (k.write (escape u))).run s =
      (k.text size (g.shownPlace (Slot.keyed u).png), (g.keep u (s.record es)).record fs) := by
  have hspans := spans_write k h.bracket_escape
  have hopening : Rule.icon.opening ≠ [] := by decide_cbv
  unfold pictures
  cases k with
  | image =>
    obtain ⟨height, es, fs, hserved⟩ : ∃ height es fs,
        @StateT.run Session Id Inline (g.inline u) s =
          (⟨g.shownPlace (Slot.keyed u).png, height⟩, (g.keep u (s.record es)).record fs) :=
      ⟨_, _, _, rfl⟩
    have hnone : Rule.icon.spans (pictureText "height" height "mm"
        (g.shownPlace (Slot.keyed u).png)) = ([], _) :=
      Rule.spans_of_lacks hopening (lacks_icon_text (hicon rfl) height (.keyed u))
    refine ⟨height, es, fs, ?_⟩
    rw [show Rule.image.spans _ = _ from hspans, Text.fillM_singleton, sourceOf_escape h,
      bind_assoc, run_bind_of_run hserved, pure_bind]
    dsimp only
    rw [hnone, Text.fillM_nil]
    rfl
  | icon =>
    have hnone : Rule.image.spans (PictureTag.icon.write (escape u)) = ([], _) :=
      Rule.spans_of_lacks (by decide_cbv) (lacks_write (by decide_cbv)
        (Text.lacks_of_not_mem h.bracket_escape) (by decide_cbv))
    have hquiet : ∀ s : Session, s.record [] = s := fun s => by simp [Session.record]
    refine ⟨o.iconSize, [], [], ?_⟩
    rw [hnone, Text.fillM_nil, pure_bind, show Rule.icon.spans _ = _ from hspans,
      Text.fillM_singleton, sourceOf_escape h, hquiet, hquiet]
    rfl

/-! ## the picture in the document -/

/-- how the command of a picture begins. -/
def pictureOpening : Text := control "includegraphics" ++ ['[']

/-- a picture is a command with an option and a path. -/
theorem text_eq (k : PictureTag) (size : Float) :
    ∃ option, (∀ c ∈ option, c.toNat < 128 ∧ c ≠ ']') ∧ ∀ path, k.text size path =
      pictureOpening ++ (option ++ ']' :: group path) := by
  have hlength : ∀ c ∈ lengthText size, c.toNat < 128 ∧ c ≠ ']' := by
    have hchars : ∀ c ∈ lengthChars, c ≠ ']' := by decide
    exact fun c hc => ⟨lt_of_mem_lengthText hc, hchars c (mem_lengthChars hc)⟩
  have hword : ∀ dimension unit : Text, (∀ c ∈ dimension ++ '=' :: unit, c.toNat < 128 ∧ c ≠ ']') →
      ∀ c ∈ dimension ++ '=' :: (lengthText size ++ unit), c.toNat < 128 ∧ c ≠ ']' := by
    intro dimension unit h c hc
    simp only [List.mem_append, List.mem_cons] at h hc
    rcases hc with hc | hc | hc | hc
    · exact h c (.inl hc)
    · exact h c (.inr (.inl hc))
    · exact hlength c hc
    · exact h c (.inr (.inr hc))
  cases k with
  | image =>
    refine ⟨_, hword "height".toList "mm".toList ?_, fun path => ?_⟩
    · rw [String.toList_ofList, String.toList_ofList]
      decide
    · simp [PictureTag.text, pictureText, commandWith, pictureOpening]
  | icon =>
    refine ⟨_, hword "width".toList "cm".toList ?_, fun path => ?_⟩
    · rw [String.toList_ofList, String.toList_ofList]
      decide
    · simp [PictureTag.text, pictureText, commandWith, pictureOpening]

theorem typeset_group (t : Text) : typeset (group t) = group (typeset t) := by
  have hopens : typesetChar '{' = ['{'] := typesetChar_of_lt (by decide)
  have hcloses : typesetChar '}' = ['}'] := typesetChar_of_lt (by decide)
  simp [group, hopens, hcloses]

/-- only the path of a picture has symbols. -/
theorem typeset_text (k : PictureTag) (size : Float) (path : Text) :
    typeset (k.text size path) = k.text size (typeset path) := by
  obtain ⟨option, hoption, h⟩ := text_eq k size
  have hname : typeset pictureOpening = pictureOpening := typeset_of_lt (by
    unfold pictureOpening Tex.control
    rw [String.toList_ofList]
    decide)
  have hclose : typesetChar ']' = [']'] := typesetChar_of_lt (by decide)
  rw [h, h, typeset_append, typeset_append, typeset_cons, hname, hclose, typeset_group,
    typeset_of_lt fun c hc => (hoption c hc).1]
  rfl

/-- **The translation of a picture is a picture**, and its path has the symbols typeset. -/
theorem run_translateRaw_write (h : Address u) (hw : o.wordWrap = false)
    (hicon : k = .image → Text.occursIn Rule.icon.opening g.shownFolder = false) (s : Session) :
    ∃ size es fs, (translateRaw g o (k.write u)).run s =
      (k.text size (typeset (g.shownPlace (Slot.keyed u).png)),
        (g.keep u (s.record es)).record fs) := by
  have hrecord : ∀ (s : Session) es fs, (s.record es).record fs = s.record (es ++ fs) :=
    fun s es fs => by simp [Session.record]
  obtain ⟨es, fs, hrun⟩ := translateRaw_eq g o (k.write u) s
  obtain ⟨size, es', fs', hpicture⟩ := run_pictures_write (o := o) h hicon (s.record es)
  rw [hrun, escape_write, rewrite_write h, hpicture]
  refine ⟨size, es ++ es', fs' ++ fs, ?_⟩
  unfold finish
  rw [if_neg (by simp [hw]), typeset_text, hrecord, hrecord]

/-- the argument of the picture at the front of a text. -/
def pictureArgument? (t : Text) : Option Text :=
  (Text.strip? pictureOpening t).bind fun r =>
    (Text.cut [']'] r).bind fun x => (readArgument x.after).map Prod.fst

theorem pictureArgument?_text (k : PictureTag) (size : Float) (path : Text) :
    pictureArgument? (k.text size path) = (readArgument (group path)).map Prod.fst := by
  obtain ⟨option, hoption, h⟩ := text_eq k size
  have hcut := Text.cut_append_of_lacks (p := [']']) (by simp)
    (Text.lacks_of_not_mem fun hm => (hoption _ hm).2 rfl) (group path)
  rw [List.singleton_append] at hcut
  unfold pictureArgument?
  rw [h, Text.strip?_append, Option.bind_some, hcut]
  rfl

end Markup
end Bookpress
