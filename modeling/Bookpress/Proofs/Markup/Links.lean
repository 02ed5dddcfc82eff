import Bookpress.Citation.Link
import Bookpress.Proofs.Markup.Untouched

/-!
# Links on a page

What becomes of a link of a page: the tags are rewritten, and symbols are typeset, also those in
the target.

* `beforeCells_pageLink` : only the rule for links changes the text of a link.
* `run_translateRaw_pageLink` : the translation of a link, with its target typeset.
-/

namespace Bookpress
namespace Markup

open Tex

/-! ## links on a page -/

/-- a link as it is written on a page. -/
def pageLink (t c : Text) : Text := "[url=".toList ++ (t ++ ']' :: (c ++ "[/url]".toList))

/-- what the target of a link may be. -/
structure Target (t : Text) : Prop where
  ne_nil : t ≠ []
  brackets : '[' ∉ t ∧ ']' ∉ t
  angles : '<' ∉ t ∧ '>' ∉ t
  mark : ∀ x ∈ t, x.toNat ≠ 0xFEFF
  solid : ∀ x ∈ t, Text.isBlank x = false

/-- what the caption of a link may be. -/
structure Caption (c : Text) : Prop where
  bracket : '[' ∉ c
  angles : '<' ∉ c ∧ '>' ∉ c
  mark : ∀ x ∈ c, x.toNat ≠ 0xFEFF
  line : ∀ x ∈ c, Text.isLineEnd x = false
  shown : ∃ x ∈ c, Text.isBlank x = false

theorem escape_pageLink (t c : Text) : escape (pageLink t c) = pageLink (escape t) (escape c) := by
  have ho : escape "[url=".toList = "[url=".toList := by decide_cbv
  have hb : escape [']'] = [']'] := by decide_cbv
  have hc : escape "[/url]".toList = "[/url]".toList := by decide_cbv
  have e : ∀ t c : Text, pageLink t c
      = "[url=".toList ++ (t ++ ([']'] ++ (c ++ "[/url]".toList))) := fun _ _ => rfl
  rw [e, e, escape_append, escape_append, escape_append, escape_append, ho, hb, hc]

/-- whether a tag begins neither of the tags of a link. -/
def isForeign (p : Text) : Bool :=
  p.head? = some '[' && Text.lacks p "[url=".toList && Text.lacks p "[/url]".toList

theorem exists_of_isForeign {p : Text} (h : isForeign p = true) : ∃ q, p = '[' :: q := by
  simp only [isForeign, Bool.and_eq_true, decide_eq_true_eq] at h
  cases p with
  | nil => simp at h
  | cons a q => exact ⟨q, by simpa using h.1.1⟩

section
variable {t c : Text}

theorem lacks_pageLink {p : Text} (ho : Text.lacks p "[url=".toList = true)
    (ht : Text.lacks p t = true) (hb : Text.lacks p [']'] = true) (hc : Text.lacks p c = true)
    (he : Text.lacks p "[/url]".toList = true) : Text.lacks p (pageLink t c) = true :=
  Text.lacks_append ho (Text.lacks_append ht
    (Text.lacks_append (u := [']']) hb (Text.lacks_append hc he)))

theorem lacks_of_isForeign {p : Text} (hp : isForeign p = true) (ht : '[' ∉ t) (hc : '[' ∉ c) :
    Text.lacks p (pageLink t c) = true := by
  obtain ⟨q, rfl⟩ := exists_of_isForeign hp
  simp only [isForeign, Bool.and_eq_true] at hp
  exact lacks_pageLink hp.1.2 (Text.lacks_of_not_mem ht) (Text.lacks_of_not_mem (by decide))
    (Text.lacks_of_not_mem hc) hp.2

/-! ## the rules before the rule for links -/

theorem Target.bracket (h : Target t) : '[' ∉ escape t :=
  not_mem_escape (by decide_cbv) h.brackets.1

theorem Caption.bracket_escape (h : Caption c) : '[' ∉ escape c :=
  not_mem_escape (by decide_cbv) h.bracket

theorem untouched_pageLink (ht : Target t) (hc : Caption c) :
    Untouched (pageLink (escape t) (escape c)) where
  mark x hx := by
    have ho : ∀ x ∈ "[url=".toList, x.toNat ≠ 0xFEFF := by rw [String.toList_ofList]; decide
    have he : ∀ x ∈ "[/url]".toList, x.toNat ≠ 0xFEFF := by rw [String.toList_ofList]; decide
    rcases List.mem_append.1 hx with hx | hx
    · exact ho x hx
    rcases List.mem_append.1 hx with hx | hx
    · exact ne_mark_of_mem_escape ht.mark x hx
    rcases List.mem_cons.1 hx with rfl | hx
    · decide
    rcases List.mem_append.1 hx with hx | hx
    · exact ne_mark_of_mem_escape hc.mark x hx
    · exact he x hx
  line := by
    have hsolid : '\n' ∉ escape t :=
      not_mem_escape (by decide_cbv) fun hm => absurd (ht.solid _ hm) (by decide)
    have hline : '\n' ∉ escape c :=
      not_mem_escape (by decide_cbv) fun hm => absurd (hc.line _ hm) (by decide)
    simp [pageLink, hsolid, hline]
  breaks := by
    have hb : Text.lacks (escape "<br>".toList) (pageLink (escape t) (escape c)) = true :=
      lacks_pageLink (by decide_cbv) (lacks_br ht.angles) (by decide_cbv) (lacks_br hc.angles)
        (by decide_cbv)
    simp only [breakTags, List.forall_mem_cons]
    exact ⟨lacks_of_isForeign (by decide_cbv) ht.bracket hc.bracket_escape, hb, by simp⟩
  pairs r hr := by
    have H : ∀ r ∈ pairRules, isForeign r.opening = true := by decide_cbv
    exact lacks_of_isForeign (H r hr) ht.bracket hc.bracket_escape

/-! ## the rule for links -/

theorem find_url (hne : t ≠ []) (ht : ']' ∉ t) (hc : '[' ∉ c) :
    Rule.url.find (pageLink t c) = some ⟨[], ⟨t, c⟩, []⟩ := by
  have hspan : Rule.url.readSpan (t ++ ']' :: (c ++ "[/url]".toList)) = .span ⟨t, c⟩ [] := by
    have hparam := Text.cut_append_of_lacks (p := [']']) (by decide)
      (Text.lacks_of_not_mem ht) (c ++ "[/url]".toList)
    have hinner := Text.cut_append_of_lacks (p := "[/url]".toList) (by decide_cbv)
      (u := c) (by rw [String.toList_ofList]; exact Text.lacks_of_not_mem hc) []
    rw [List.append_nil] at hinner
    simp only [List.cons_append, List.nil_append] at hparam
    have hbreaks : ∀ u, Rule.url.breaks u = false := fun _ => rfl
    unfold Rule.readSpan Rule.readInner
    rw [if_pos (show Rule.url.takesParam = true from rfl), hparam]
    simp only [hne, hbreaks, Bool.false_eq_true, decide_false, Bool.or_self, if_false]
    rw [show Rule.url.closing = "[/url]".toList from rfl, hinner]
  have hopen : Text.strip? Rule.url.opening (pageLink t c)
      = some (t ++ ']' :: (c ++ "[/url]".toList)) := Text.strip?_append _ _
  obtain ⟨r, hr⟩ : ∃ r, pageLink t c = '[' :: r := by
    simp only [pageLink, String.reduceToList]
    exact ⟨_, rfl⟩
  rw [hr] at hopen ⊢
  unfold Rule.find
  rw [hopen]
  dsimp only
  rw [hspan]

/-- the caption as the page shows it. -/
def shownCaption (c : Text) : Text := Text.foldBlanks (Text.trim c)

theorem Caption.shownCaption_ne_nil (h : Caption c) : shownCaption c ≠ [] := by
  obtain ⟨x, hx, hb⟩ := h.shown
  have hm : x ∈ Text.trim c := Text.mem_dropEndWhile_of_neg hb (Text.mem_dropWhile_of_neg hb hx)
  exact List.ne_nil_of_mem (Text.mem_mapRuns_of_neg (f := fun _ => [' ']) hb hm)

theorem Caption.bracket_shown (h : Caption c) : '[' ∉ shownCaption c := by
  intro hm
  rcases Text.mem_mapRuns hm with hm | hm
  · exact h.bracket ((List.dropWhile_sublist _).mem (Text.mem_of_mem_dropEndWhile hm))
  · exact absurd hm (by decide)

/-- what the rules make of a link. -/
def hrefText (t c : Text) : Text := Tex.command "href" [t, escape (shownCaption c)]

theorem linkText_escape (hc : Caption c) : linkText ⟨escape t, escape c⟩ = hrefText t c := by
  have hne : escape c ≠ [] := by
    obtain ⟨x, hx, -⟩ := hc.shown
    exact fun h => List.ne_nil_of_mem hx (escape_eq_nil_iff.1 h)
  unfold linkText hrefText shownCaption
  rw [if_neg hne, unescape_escape, trim_escape, foldBlanks_escape]

theorem bracket_hrefText (ht : Target t) (hc : Caption c) : '[' ∉ hrefText t c := by
  have hcap : '[' ∉ escape (shownCaption c) := not_mem_escape (by decide_cbv) hc.bracket_shown
  have hname : '[' ∉ Tex.control "href" := by decide_cbv
  simp [hrefText, Tex.command_two, group, ht.brackets.1, hcap, hname]

theorem url_pageLink (ht : Target t) (hc : Caption c) :
    Rule.url.once linkText (pageLink (escape t) (escape c)) = hrefText t c := by
  have hne : escape t ≠ [] := fun h => ht.ne_nil (escape_eq_nil_iff.1 h)
  have hb : ']' ∉ escape t := not_mem_escape (by decide_cbv) ht.brackets.2
  have ho : Rule.url.opening ≠ [] := by decide_cbv
  have hend : Rule.url.once linkText [] = [] :=
    Rule.once_of_none ho (Rule.find_eq_none_of_lacks ho rfl) _
  rw [Rule.once_eq ho, find_url hne hb hc.bracket_escape]
  dsimp only
  rw [linkText_escape hc, hend, List.nil_append, List.append_nil]

/-! ## the rules behind it -/

variable {g : Gallery} {o : Options}

/-- only the rule for links changes the text of a link. -/
theorem beforeCells_pageLink (ht : Target t) (hc : Caption c) :
    beforeCells o (pageLink (escape t) (escape c)) = hrefText t c := by
  have H : ∀ p ∈ colorTags, isForeign p = true := by decide_cbv
  have hb := unparted_of_not_mem (bracket_hrefText ht hc)
  have hlists : lists (hrefText t c) = hrefText t c :=
    lists_of_lacks fun p hp => hb.tags p (List.mem_append_left _ hp)
  unfold beforeCells blockRules
  dsimp only
  rw [inlineRules_of_lacks (untouched_pageLink ht hc),
    colors_of_lacks _ fun p hp => lacks_of_isForeign (H p hp) ht.bracket hc.bracket_escape,
    url_pageLink ht hc, hb.once (r := .quote) (by simp [partRules]), hlists, hb.untabled.unplaced,
    hb.once (r := .table) (by simp [partRules])]

theorem rewrite_pageLink (ht : Target t) (hc : Caption c) :
    rewrite g o (pageLink (escape t) (escape c)) = pure (hrefText t c) := by
  have hb := bracket_hrefText ht hc
  have hrow := (unparted_of_not_mem hb).once (r := .row) (by simp [partRules])
  unfold rewrite cellDepth
  exact rewriteWithin_of_none (beforeCells_pageLink ht hc)
    (spans_of_not_mem (by decide_cbv) hb) (hrow _)
    (spans_of_not_mem (by decide_cbv) hb) (spans_of_not_mem (by decide_cbv) hb)

/-- **The translation of a link is a link**, and the target has its symbols typeset. -/
theorem run_translateRaw_pageLink (ht : Target t) (hc : Caption c) (hw : o.wordWrap = false)
    (s : Session) : ((translateRaw g o (pageLink t c)).run s).1
      = (Citation.Link.mk (typeset t) (typeset (escape (shownCaption c)))).written := by
  have hname : ∀ x ∈ Tex.control "href", x.toNat < 128 := by
    rw [Tex.control, String.toList_ofList]
    decide
  obtain ⟨s', hs'⟩ := run_translateRaw g o (pageLink t c) s
  rw [hs', escape_pageLink, rewrite_pageLink ht hc]
  show finish o (hrefText t c) = _
  unfold finish
  rw [hw]
  show typeset (hrefText t c) = _
  have hbrace : typesetChar '{' = ['{'] ∧ typesetChar '}' = ['}'] :=
    ⟨typesetChar_of_lt (by decide), typesetChar_of_lt (by decide)⟩
  unfold hrefText Citation.Link.written
  simp only [Tex.command_two, group, typeset_append, typeset_cons, typeset_of_lt hname, hbrace,
    typeset_nil, List.cons_append, List.nil_append, List.append_nil]

end

end Markup
end Bookpress
