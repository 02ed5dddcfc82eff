import Bookpress.Proofs.Citation.Listing
import Bookpress.Proofs.Markup.Links

/-!
# Links that survive

A link of the page survives if the references cite it once, with the target that it has on the
page.  The target is written as it is between braces, so it is read back only if the braces in it
balance, and symbols in it are typeset before it is read.

* `references_written` : a link on its own is cited once.
* `Survives.balanced`, `Survives.typeset_eq` : what a target that survives is like.
* `survives_iff` : these targets survive, and no others.
-/

namespace Bookpress
namespace Citation

open Tex Markup

/-! ## one link -/

theorem sound_of_mem_found {t : Text} {l : Link} (h : l ∈ found t) : l.Sound := by
  induction t using scan_induction with
  | nil => cases h
  | link m r hm ih =>
    rw [found_written hm, List.mem_cons] at h
    rcases h with rfl | h
    · exact hm
    · exact ih h
  | char c t hc ih =>
    rw [found_cons hc] at h
    exact ih h

theorem balanced_target {t : Text} {e : Entry} (h : e ∈ entries t) : Balanced e.target := by
  have ht := (numbers_entriesOf (found t)).target e h
  obtain ⟨l, hl, hle⟩ := Option.map_eq_some_iff.1 ht
  rw [← hle]
  exact (sound_of_mem_found (List.mem_of_find?_eq_some hl)).target

theorem references_written {l : Link} (h : l.Sound) :
    references l.written = ⟨l.written ++ citation 1, [⟨1, l.caption, l.target⟩],
      bibliography [⟨1, l.caption, l.target⟩]⟩ := by
  have hfound : found l.written = [l] := by
    have := found_written h []
    rw [List.append_nil] at this
    exact this
  have hentries : entries l.written = [⟨1, l.caption, l.target⟩] := by
    rw [entries_eq, hfound]
    rfl
  have hmarked : marked l.written = l.written ++ citation 1 := by
    rw [marked_eq, hentries]
    have := annotate_written
      (fun m => citation (numberOf [⟨1, l.caption, l.target⟩] m.caption)) h []
    rw [List.append_nil, annotate_nil, List.append_nil] at this
    rw [this]
    simp [numberOf]
  show References.mk (marked l.written) (entries l.written) (bibliography (entries l.written)) = _
  rw [hmarked, hentries]

/-! ## citations in it -/

/-- no citation begins in a caption that is escaped and typeset. -/
theorem lacks_typeset_escape (k : Text) :
    Text.lacks citationOpening.tail (typeset (escape k)) = true := by
  have hspecial : ∀ x ∈ specials, Text.lacks citationOpening.tail x.2 = true := by
    unfold specials citationOpening Tex.control
    repeat rw [String.toList_ofList]
    decide
  have hgreek : Text.lacks citationOpening.tail (Tex.control "textgreek" ++ ['{']) = true := by
    decide_cbv
  have hsymbol : ∀ x ∈ symbols, Text.lacks citationOpening.tail x.2 = true := by
    unfold symbols citationOpening math Tex.control
    repeat rw [String.toList_ofList]
    decide
  have htail : citationOpening.tail = '\\' :: citationOpening.tail.tail := by decide_cbv
  induction k with
  | nil => rfl
  | cons c k ih =>
    rw [escape_cons, typeset_append]
    refine Text.lacks_append ?_ ih
    cases hs : isSpecial c with
    | true =>
      have hm := escapeChar_of_isSpecial hs
      rw [typeset_of_lt (lt_of_mem_specials _ hm)]
      exact hspecial _ hm
    | false =>
      rw [escapeChar_of_not_isSpecial hs, typeset_cons, typeset_nil, List.append_nil]
      obtain e | ⟨hc, e⟩ | ⟨s, hs', e⟩ := typesetChar_cases c <;> rw [e]
      · rw [htail]
        refine Text.lacks_of_not_mem fun hm => ?_
        exact ne_slash_of_not_isSpecial hs (List.mem_singleton.1 hm).symm
      · have hletter : Text.lacks citationOpening.tail [c, '}'] = true := by
          have := le_toNat_of_mem_greek c hc
          rw [htail]
          refine Text.lacks_of_not_mem fun hm => ?_
          simp only [List.mem_cons, List.not_mem_nil, or_false] at hm
          rcases hm with rfl | hm
          · exact absurd this (by decide)
          · exact absurd hm (by decide)
        have := Text.lacks_append hgreek hletter
        simpa [Tex.command_one, group] using this
      · exact hsymbol _ hs'

theorem lacks_citationOpening {t k : Text} (ht : ' ' ∉ t) :
    Text.lacks citationOpening (Link.mk t (typeset (escape k))).written = true := by
  have hopen : citationOpening = ' ' :: citationOpening.tail := by decide_cbv
  have hfront : ' ' ∉ Tex.control "href" ++ (group t ++ ['{']) := by
    have hname : ' ' ∉ Tex.control "href" := by decide_cbv
    simp [group, ht, hname]
  have hcap : Text.lacks citationOpening (typeset (escape k) ++ ['}']) = true := by
    rw [hopen]
    exact Text.lacks_cons (Text.lacks_append (lacks_typeset_escape k) (by decide_cbv)) (by decide)
  have e : (Link.mk t (typeset (escape k))).written
      = (Tex.control "href" ++ (group t ++ ['{'])) ++ (typeset (escape k) ++ ['}']) := by
    simp [Link.written, Tex.command_two, group]
  rw [e]
  refine Text.lacks_append ?_ hcap
  rw [hopen]
  exact Text.lacks_of_not_mem hfront

/-! ## survival -/

/-- a target survives in a translation: the translation is a link to it, the link is cited once,
directly behind it, and the bibliography shows the target. -/
structure Survives (t out : Text) : Prop where
  written : ∃ caption, out = (Link.mk t caption).written
  entry : ∃ e, (references out).entries = [e] ∧ e.target = t
  listed : Citation.listed (references out).bibliography = [(1, encode t)]
  marked : (references out).text = out ++ citation 1
  cited : Text.hits (Text.search readCitation) (references out).text = [1]

section
variable {t c : Text} {g : Gallery} {o : Options} {s : Session}

theorem Survives.balanced {out : Text} (h : Survives t out) : Balanced t := by
  obtain ⟨e, he, rfl⟩ := h.entry
  have hm : e ∈ (references out).entries := by rw [he]; exact List.mem_singleton_self e
  exact balanced_target hm

theorem sound_typeset (hb : Balanced t) (hc : Caption c) :
    Link.Sound ⟨typeset t, typeset (escape (shownCaption c))⟩ where
  target := hb.typeset
  caption := (balanced_escape _).typeset
  caption_ne := fun h => hc.shownCaption_ne_nil (escape_eq_nil_iff.1 (typeset_eq_nil_iff.1 h))

theorem Survives.typeset_eq (ht : Target t) (hc : Caption c) (hw : o.wordWrap = false)
    (h : Survives t ((translateRaw g o (pageLink t c)).run s).1) : typeset t = t := by
  have hs := sound_typeset h.balanced hc
  obtain ⟨e, he, hte⟩ := h.entry
  rw [run_translateRaw_pageLink ht hc hw, references_written hs] at he
  have hhead : typeset t = e.target := congrArg Entry.target (List.cons.inj he).1
  exact hhead.trans hte

theorem survives_of_balanced (ht : Target t) (hc : Caption c) (hw : o.wordWrap = false)
    (hb : Balanced t) (he : typeset t = t) :
    Survives t ((translateRaw g o (pageLink t c)).run s).1 := by
  have hs := sound_typeset hb hc
  rw [run_translateRaw_pageLink ht hc hw, he]
  rw [he] at hs
  have hspace : ' ' ∉ t := fun hm => absurd (ht.solid _ hm) (by decide)
  refine ⟨⟨_, rfl⟩, ⟨⟨1, typeset (escape (shownCaption c)), t⟩, ?_, rfl⟩, ?_, ?_, ?_⟩ <;>
    rw [references_written hs]
  · exact listed_bibliography [⟨1, _, t⟩]
  · have hread : ∀ u, Text.strip? citationOpening u = none → readCitation u = none :=
      fun u hu => by simp [readCitation, hu]
    rw [Text.hits_append_of_misses takes_readCitation
      (Text.misses_of_lacks hread (lacks_citationOpening hspace))]
    have := Text.hits_search_of_some takes_readCitation (readCitation_citation 1 [])
    rwa [List.append_nil, Text.hits_search_nil takes_readCitation] at this

/-- **A link survives** iff its target is balanced and holds no symbol that is typeset. -/
theorem survives_iff (ht : Target t) (hc : Caption c) (hw : o.wordWrap = false) :
    Survives t ((translateRaw g o (pageLink t c)).run s).1 ↔ Balanced t ∧ typeset t = t :=
  ⟨fun h => ⟨h.balanced, h.typeset_eq ht hc hw⟩,
    fun ⟨hb, he⟩ => survives_of_balanced ht hc hw hb he⟩

end

theorem caption_x : Caption ['x'] where
  bracket := by decide
  angles := by decide
  mark := by decide
  line := by decide
  shown := by decide

theorem typeset_address : typeset "http://x.org/".toList = "http://x.org/".toList := by
  refine typeset_of_lt ?_
  rw [String.toList_ofList]
  decide

/-- an address is a target that survives. -/
theorem survives_address :
    Target "http://x.org/".toList ∧ Caption ['x'] ∧ (Options.of .standard).wordWrap = false ∧
      Survives "http://x.org/".toList
        ((translateRaw ⟨⟨fun _ _ => .error [], fun _ => []⟩, .standard, .page []⟩ (.of .standard)
          (pageLink "http://x.org/".toList ['x'])).run (.start .empty)).1 := by
  have ht : Target "http://x.org/".toList := by
    rw [String.toList_ofList]
    constructor <;> decide
  exact ⟨ht, caption_x, rfl, (survives_iff ht caption_x rfl).2 ⟨by decide_cbv, typeset_address⟩⟩

/-- a Greek letter in a target is typeset, so not every target survives. -/
theorem not_survives_greek :
    ¬ ∀ (t c : Text) (g : Gallery) (o : Options) (s : Session), Target t → Caption c →
      o.wordWrap = false → Survives t ((translateRaw g o (pageLink t c)).run s).1 := by
  intro h
  have ht : Target "http://x.org/α".toList := by
    rw [String.toList_ofList]
    constructor <;> decide
  have := (h _ _ ⟨⟨fun _ _ => .error [], fun _ => []⟩, .standard, .page []⟩ (.of .standard)
    (.start .empty) ht caption_x rfl).typeset_eq ht caption_x rfl
  have hgreek : typesetChar 'α' ≠ ['α'] := by
    unfold typesetChar greek
    rw [String.toList_ofList]
    decide
  have e : "http://x.org/α".toList = "http://x.org/".toList ++ ['α'] := by
    rw [String.toList_ofList, String.toList_ofList]
    rfl
  rw [e, typeset_append, typeset_address, List.append_cancel_left_eq, typeset_cons, typeset_nil,
    List.append_nil] at this
  exact hgreek this

end Citation
end Bookpress
