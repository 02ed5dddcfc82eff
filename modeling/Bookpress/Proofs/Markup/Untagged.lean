import Bookpress.Proofs.Document.Plan
import Bookpress.Proofs.Markup.Balance
import Bookpress.Proofs.Markup.Untouched
import Bookpress.Proofs.Tex.Decoding

/-!
# Texts without tags

Every tag of a worksheet begins with a bracket, but for `<br>`.  So a text without opening brackets
goes through all rules with its line ends rewritten, and with nothing else: what the rules see of it
is its escaped form, and an escaped tag stands there only where the page has a tag.

* `breakLines_escape` : line ends are rewritten before or after escaping.
* `beforeCells_escape` : what the rules make of a text without tags.
* `plan_translateRaw_of_not_mem` : its translation asks the gallery for nothing.
* `translateRaw_of_untagged` : its translation is the text, escaped and typeset.
-/

namespace Bookpress

namespace Planned

variable {g : Gallery} {α : Type} {k : α → StateM Session Text}

/-- a text without hits is filled without an order. -/
theorem plan_fillM_of_none (f : ∀ a, Planned g (k a)) {x : List (Text × α) × Text} {t : Text}
    (h : x = ([], t)) : (fillM f x).plan = .done t := by
  subst h
  rfl

end Planned

namespace Markup

open Tex

variable {g : Gallery} {o : Options} {t : Text}

/-! ## line ends -/

/-- a text with an empty line for every line end, be it a character or a tag. -/
def paragraphs (t : Text) : Text :=
  Text.replace "<br>".toList paragraph (Text.replace ['\n'] paragraph t)

theorem not_mem_replace {p s : Text} (hp : p ≠ []) {c : Char} (ht : c ∉ t) (hs : c ∉ s) :
    c ∉ Text.replace p s t :=
  fun h => (Text.mem_replace hp h).elim ht hs

theorem bracket_not_mem_paragraphs (h : '[' ∉ t) : '[' ∉ paragraphs t :=
  not_mem_replace (by decide_cbv) (not_mem_replace (by decide) h (by decide)) (by decide)

theorem escape_paragraph : escape paragraph = paragraph := by decide_cbv

/-- no sequence goes on with a backslash or a line end. -/
theorem not_mem_tail_of_mem_specials :
    ∀ x ∈ specials, '\\' ∉ x.2.tail ∧ '\n' ∉ x.2.tail := by decide_cbv

/-- **Line ends are rewritten before or after escaping.** -/
theorem breakLines_escape (h : '[' ∉ t) : breakLines (escape t) = escape (paragraphs t) := by
  have hline := replace_escape (p := ['\n']) (a := '\n') (q := []) (by decide_cbv)
    (fun x hx => (not_mem_tail_of_mem_specials x hx).2) paragraph t
  have htag := replace_escape (p := "<br>".toList) (a := '\\') (q := (escape "<br>".toList).tail)
    (by decide_cbv) (fun x hx => (not_mem_tail_of_mem_specials x hx).1) paragraph
    (Text.replace ['\n'] paragraph t)
  rw [escape_paragraph] at hline htag
  -- the tag in brackets does not occur
  have hbracket : '[' ∉ escape (Text.replace ['\n'] paragraph t) :=
    not_mem_escape (by decide_cbv) (not_mem_replace (by decide) h (by decide))
  have hbr : Text.replace "[br]".toList paragraph (escape (Text.replace ['\n'] paragraph t))
      = escape (Text.replace ['\n'] paragraph t) := by
    rw [String.toList_ofList]
    exact Text.replace_of_lacks (by decide) _ (Text.lacks_of_not_mem hbracket)
  unfold breakLines breakTags
  simp only [List.foldl_cons, List.foldl_nil]
  rw [show Text.replace ['\n'] paragraph (escape t) = _ from hline, hbr, htag]
  rfl

/-! ## the rules -/

/-- every rule looks for a bracket. -/
theorem opening_of_mem_rules : ∀ r ∈ pairRules ++ partRules, r.opening.head? = some '[' := by
  decide_cbv

/-- **Of the rules for characters and lines, only those for line ends change a text without
brackets.** -/
theorem inlineRules_of_not_mem (h : '[' ∉ t) :
    inlineRules t = breakLines (t.filter fun c => c.toNat ≠ 0xFEFF) := by
  have hfind : ∀ r ∈ pairRules, ∀ {u : Text}, '[' ∉ u → r.opening ≠ [] ∧ r.find u = none :=
    fun r hr u hu => find_of_not_mem (opening_of_mem_rules r (List.mem_append_left _ hr)) hu
  have honce : ∀ r ∈ pairRules, ∀ render {u : Text}, '[' ∉ u → r.once render u = u :=
    fun r hr render u hu => Rule.once_of_none (hfind r hr hu).1 (hfind r hr hu).2 render
  have hexhaust : ∀ r ∈ pairRules, ∀ render {u : Text}, '[' ∉ u → r.exhaust render u = u :=
    fun r hr render u hu => Rule.exhaust_of_none (hfind r hr hu).1 (hfind r hr hu).2 render
  have hmark : '[' ∉ t.filter fun c => c.toNat ≠ 0xFEFF := fun hm => h (List.mem_filter.1 hm).1
  have hlines : '[' ∉ breakLines (t.filter fun c => c.toNat ≠ 0xFEFF) := by
    unfold breakLines breakTags
    simp only [List.foldl_cons, List.foldl_nil]
    exact not_mem_replace (by decide_cbv) (not_mem_replace (by decide_cbv)
      (not_mem_replace (by decide) hmark (by decide)) (by decide)) (by decide)
  unfold inlineRules
  dsimp only
  rw [honce .math (by simp [pairRules]) _ hmark, hexhaust .bold (by simp [pairRules]) _ hmark,
    hexhaust .underline (by simp [pairRules]) _ hmark,
    hexhaust .italic (by simp [pairRules]) _ hmark,
    honce .lowered (by simp [pairRules]) _ hmark, honce .raised (by simp [pairRules]) _ hmark,
    honce .smallButton (by simp [pairRules]) _ hmark, honce .button (by simp [pairRules]) _ hmark,
    honce .code (by simp [pairRules]) _ hlines, honce .courier (by simp [pairRules]) _ hlines]

/-- a text without byte order marks, and with an empty line for every line end. -/
def bareText (t : Text) : Text := paragraphs (t.filter fun c => c.toNat ≠ 0xFEFF)

theorem bracket_not_mem_escape_bareText (h : '[' ∉ t) : '[' ∉ escape (bareText t) :=
  not_mem_escape (by decide_cbv)
    (bracket_not_mem_paragraphs fun hm => h (List.mem_filter.1 hm).1)

/-- **What the rules make of a text without tags.** -/
theorem beforeCells_escape (h : '[' ∉ t) : beforeCells o (escape t) = escape (bareText t) := by
  have hmark : '[' ∉ t.filter fun c => c.toNat ≠ 0xFEFF := fun hm => h (List.mem_filter.1 hm).1
  have hbare := bracket_not_mem_escape_bareText h
  have hlines : breakLines (cleaned t) = escape (bareText t) := by
    rw [cleaned_eq]
    exact breakLines_escape hmark
  unfold beforeCells
  rw [inlineRules_of_not_mem (not_mem_escape (by decide_cbv) h)]
  show blockRules o (breakLines (cleaned t)) = _
  rw [hlines, blockRules_of_lacks (unparted_of_not_mem hbare)]

/-! ## the translation -/

theorem plan_pictures_of_not_mem (h : '[' ∉ t) : (planPictures g o t).plan = .done t := by
  unfold planPictures Planned.bind
  dsimp only
  rw [Planned.plan_fillM_of_none _ (spans_of_not_mem (r := .image) (by decide_cbv) h)]
  exact Planned.plan_fillM_of_none _ (spans_of_not_mem (r := .icon) (by decide_cbv) h)

theorem plan_rewriteWithin_of_not_mem (h : '[' ∉ t) (depth : Nat) :
    (planRewriteWithin g o (depth + 1) (escape t)).plan = .done (escape (bareText t)) := by
  have hbare := bracket_not_mem_escape_bareText h
  have hcells : Rule.cell.spans (beforeCells o (escape t)) = ([], escape (bareText t)) := by
    rw [beforeCells_escape h]
    exact spans_of_not_mem (by decide_cbv) hbare
  have hrows := (unparted_of_not_mem hbare).once (r := .row) (by simp [partRules]) rowText
  unfold planRewriteWithin Planned.cast Planned.bind
  dsimp only
  rw [Planned.plan_fillM_of_none _ hcells]
  show (planPictures g o _).plan = _
  rw [hrows, plan_pictures_of_not_mem hbare]

/-- **The translation of a text without tags asks the gallery for nothing.** -/
theorem plan_translateRaw_of_not_mem (h : '[' ∉ t) :
    ∃ es fs, (planTranslateRaw g o t).plan =
      .note es (.note fs (.done (finish o (escape (bareText t))))) := by
  have hdepth : ∃ depth, cellDepth (escape t) = depth + 1 := ⟨_, rfl⟩
  obtain ⟨depth, hdepth⟩ := hdepth
  have hrewrite := plan_rewriteWithin_of_not_mem (g := g) (o := o) h depth
  rw [← hdepth] at hrewrite
  unfold planTranslateRaw Planned.bind
  dsimp only
  rw [hrewrite]
  exact ⟨_, _, rfl⟩

/-- **A text without tags is translated as it stands**: without byte order marks, with an empty line
for every line end, escaped and with its symbols typeset.  No picture is asked for. -/
theorem translateRaw_of_untagged (g : Gallery) (o : Options) (t : Text) (ht : '[' ∉ t)
    (hw : o.wordWrap = false) (s : Session) :
    (∃ es, (translateRaw g o t).run s = (typeset (escape (bareText t)), s.record es)) ∧
      (planTranslateRaw g o t).plan.trace g s = [] := by
  obtain ⟨es, fs, hplan⟩ := plan_translateRaw_of_not_mem (g := g) (o := o) ht
  have hfinish : finish o (escape (bareText t)) = typeset (escape (bareText t)) := by
    unfold finish
    rw [if_neg (by simp [hw])]
  refine ⟨⟨es ++ fs, ?_⟩, ?_⟩
  · rw [← (planTranslateRaw g o t).run_plan, hplan, Plan.run_note, Plan.run_note, Plan.run_done,
      hfinish]
    simp [Session.record]
  · rw [hplan]
    rfl

/-- a text with a byte order mark, line ends of both kinds, a special character and a symbol. -/
def verse : Text := Char.ofNat 0xFEFF :: "a<br>b\nc → 5%".toList

/-- a gallery to which nothing is sent. -/
def bareGallery : Gallery where
  world := ⟨fun _ _ => .error [], fun _ => []⟩
  settings := .standard
  base := .page []

theorem translateRaw_verse :
    '[' ∉ verse ∧ (Options.of .standard).wordWrap = false ∧
      (∃ es, (translateRaw bareGallery (.of .standard) verse).run (.start .empty) =
        ("a\n\nb\n\nc $\\rightarrow$ 5\\%".toList, (Session.start .empty).record es)) ∧
      (planTranslateRaw bareGallery (.of .standard) verse).plan.trace bareGallery (.start .empty)
        = [] := by
  have hverse : '[' ∉ verse := by decide_cbv
  have hwrap : (Options.of .standard).wordWrap = false := rfl
  have hbare : bareText verse = "a\n\nb\n\nc → 5%".toList := by decide +kernel
  have hshown : typeset (escape (bareText verse)) = "a\n\nb\n\nc $\\rightarrow$ 5\\%".toList := by
    rw [hbare]
    decide +kernel
  have h := translateRaw_of_untagged bareGallery (.of .standard) verse hverse hwrap (.start .empty)
  rw [hshown] at h
  exact ⟨hverse, hwrap, h⟩

end Markup
end Bookpress
