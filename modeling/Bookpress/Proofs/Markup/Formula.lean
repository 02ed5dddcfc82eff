import Bookpress.Proofs.Markup.Untagged
import Bookpress.Proofs.Markup.Writing
import Bookpress.Proofs.Tex.Typesetting

/-!
# Formulas

The content of a formula is escaped with the page around it, and the first rule takes the escaping
back.  From there on it is ordinary text to all later rules.  Without brackets and line ends no rule
finds anything in it, but the symbols in it are typeset like those of any text.

* `find_math` : the tags of a formula hold its content.
* `inlineRules_formula` : behind the first rule, a formula is the text between dollar signs.
* `rewrite_formula` : no other rule changes it.
* `run_translateRaw_formula` : a formula keeps its characters iff none of them is a symbol.
-/

namespace Bookpress
namespace Markup

open Tex

variable {t x : Text} {g : Gallery} {o : Options}

/-- a formula as it is written on a page. -/
def formula (t : Text) : Text := "[math]".toList ++ (t ++ "[/math]".toList)

/-- the front of the escaped tag of line ends. -/
def escapedLess : Text := control "textless" ++ stop

/-- what a formula may be for the rules to leave it alone. -/
structure Formula (x : Text) : Prop where
  bracket : '[' ∉ x
  line : '\n' ∉ x
  mark : ∀ c ∈ x, c.toNat ≠ 0xFEFF
  less : Text.occursIn escapedLess x = false

theorem escape_formula (x : Text) : escape (formula x) = formula (escape x) := by
  have ho : escape "[math]".toList = "[math]".toList := by decide_cbv
  have hc : escape "[/math]".toList = "[/math]".toList := by decide_cbv
  unfold formula
  rw [escape_append, escape_append, ho, hc]

/-! ## the first rule -/

theorem encloses_math : Rule.math.Encloses := ⟨by decide_cbv, by decide_cbv, rfl, rfl⟩

theorem find_math (ht : '[' ∉ t) : Rule.math.find (formula t) = some ⟨[], ⟨[], t⟩, []⟩ := by
  have hclosing : Rule.math.closing = '[' :: "/math]".toList := by decide_cbv
  have hinner : Text.lacks Rule.math.closing t = true := by
    rw [hclosing]
    exact Text.lacks_of_not_mem ht
  have hfirst := Rule.find_around encloses_math hinner []
  rwa [List.append_nil] at hfirst

theorem math_formula (hx : '[' ∉ x) : Rule.math.once mathText (formula (escape x)) = math x := by
  have ho : Rule.math.opening ≠ [] := by decide_cbv
  have hend : Rule.math.once mathText [] = [] :=
    Rule.once_of_none ho (Rule.find_eq_none_of_lacks ho rfl) _
  rw [Rule.once_eq ho, find_math (not_mem_escape (by decide_cbv) hx)]
  dsimp only
  rw [hend, List.nil_append, List.append_nil, mathText, unescape_escape, math]

theorem filter_mark {u : Text} (h : ∀ c ∈ u, c.toNat ≠ 0xFEFF) :
    (u.filter fun c => c.toNat ≠ 0xFEFF) = u :=
  List.filter_eq_self.2 fun c hc => decide_eq_true (h c hc)

theorem ne_mark_formula (h : ∀ c ∈ t, c.toNat ≠ 0xFEFF) : ∀ c ∈ formula t, c.toNat ≠ 0xFEFF := by
  have htags : (∀ c ∈ "[math]".toList, c.toNat ≠ 0xFEFF) ∧
      ∀ c ∈ "[/math]".toList, c.toNat ≠ 0xFEFF := by
    rw [String.toList_ofList, String.toList_ofList]
    decide
  intro c hc
  rcases List.mem_append.1 hc with hc | hc
  · exact htags.1 c hc
  · rcases List.mem_append.1 hc with hc | hc
    · exact h c hc
    · exact htags.2 c hc

theorem ne_mark_math (h : ∀ c ∈ x, c.toNat ≠ 0xFEFF) : ∀ c ∈ math x, c.toNat ≠ 0xFEFF := by
  intro c hc
  rcases List.mem_cons.1 hc with rfl | hc
  · decide
  · rcases List.mem_append.1 hc with hc | hc
    · exact h c hc
    · rw [List.mem_singleton.1 hc]
      decide

theorem bracket_not_mem_math (h : '[' ∉ x) : '[' ∉ math x := by
  simp [math, h]

/-- **Behind the first rule, a formula is the text between dollar signs.** -/
theorem inlineRules_formula (hx : '[' ∉ x) (hm : ∀ c ∈ x, c.toNat ≠ 0xFEFF) :
    inlineRules (formula (escape x)) = inlineRules (math x) := by
  have hnone := find_of_not_mem (r := .math) (by decide_cbv) (bracket_not_mem_math hx)
  unfold inlineRules
  dsimp only
  rw [filter_mark (ne_mark_formula (ne_mark_of_mem_escape hm)), filter_mark (ne_mark_math hm),
    math_formula hx, Rule.once_of_none hnone.1 hnone.2]

/-! ## the rules behind it -/

theorem occursIn_eq_false_iff {p : Text} :
    Text.occursIn p t = false ↔ ∀ u v, t ≠ u ++ (p ++ v) := by
  rw [Text.occursIn, ← Text.cut_eq_none_iff, Option.isSome_eq_false_iff, Option.isNone_iff_eq_none]

theorem lacks_breakTags (h : Formula x) : ∀ p ∈ breakTags, Text.lacks p (math x) = true := by
  have hescape : escape "<br>".toList = escapedLess ++ ("br".toList ++ escape ['>']) := by
    decide_cbv
  have hless : Text.occursIn (escape "<br>".toList) x = false := by
    rw [occursIn_eq_false_iff, hescape]
    rintro u v rfl
    exact occursIn_eq_false_iff.1 h.less u ("br".toList ++ (escape ['>'] ++ v)) (by simp)
  have hdollar : '$' ∉ escape "<br>".toList := by decide_cbv
  have hfront : Text.lacks (escape "<br>".toList) ['$'] = true := by decide_cbv
  simp only [breakTags, List.forall_mem_cons]
  refine ⟨?_, ?_, fun _ hp => absurd hp List.not_mem_nil⟩
  · rw [String.toList_ofList]
    exact Text.lacks_of_not_mem (by simp [math, h.bracket])
  · exact Text.lacks_append (u := ['$']) hfront (Text.lacks_of_not_occursIn hdollar hless)

/-- **No other rule changes a formula.** -/
theorem beforeCells_formula (h : Formula x) : beforeCells o (formula (escape x)) = math x := by
  have hbracket := bracket_not_mem_math h.bracket
  have hline : '\n' ∉ math x := by simp [math, h.line]
  unfold beforeCells
  rw [inlineRules_formula h.bracket h.mark, inlineRules_of_not_mem hbracket,
    filter_mark (ne_mark_math h.mark), breakLines_of_lacks hline (lacks_breakTags h),
    blockRules_of_lacks (unparted_of_not_mem hbracket)]

theorem rewrite_formula (h : Formula x) :
    rewrite g o (formula (escape x)) = pure (math x) := by
  have hbracket := bracket_not_mem_math h.bracket
  have hrow := (unparted_of_not_mem hbracket).once (r := .row) (by simp [partRules])
  unfold rewrite cellDepth
  exact rewriteWithin_of_none (beforeCells_formula h)
    (spans_of_not_mem (by decide_cbv) hbracket) (hrow _)
    (spans_of_not_mem (by decide_cbv) hbracket) (spans_of_not_mem (by decide_cbv) hbracket)

/-! ## the translation -/

theorem typeset_math (x : Text) : typeset (math x) = math (typeset x) := by
  have hdollar : typesetChar '$' = ['$'] := typesetChar_of_lt (by decide)
  simp [math, hdollar]

/-- a character stands for itself unless it is a Greek letter or in the table of symbols. -/
theorem typesetChar_eq_self_iff {c : Char} :
    typesetChar c = [c] ↔ c ∉ greek ∧ c ∉ symbols.map Prod.fst := by
  constructor
  · intro h
    have hgreek : c ∉ greek := by
      intro hc
      have hle := le_toNat_of_mem_greek c hc
      rw [typesetChar, if_pos (List.contains_iff_mem.2 hc)] at h
      have hslash : '\\' = c := (List.cons.inj h).1
      rw [← hslash] at hle
      exact absurd hle (by decide)
    refine ⟨hgreek, fun hc => ?_⟩
    obtain ⟨p, hp, rfl⟩ := List.mem_map.1 hc
    have hle := le_toNat_of_mem_symbols p hp
    rw [typesetChar, if_neg (by simpa using hgreek)] at h
    cases hs : symbols.lookup p.1 with
    | none => exact absurd (List.lookup_eq_none_iff.1 hs p hp) (by simp)
    | some w =>
      rw [hs] at h
      obtain ⟨a, b, hab, -⟩ := List.lookup_eq_some_iff.1 hs
      have hw : (p.1, w) ∈ symbols := by
        rw [hab]
        simp
      have hmem : p.1 ∈ w := by
        rw [show w = [p.1] from h]
        exact List.mem_singleton_self p.1
      -- what is written for a symbol is ASCII
      have hlt := lt_of_mem_typesetSigns p.1
        (List.mem_append_right _ (List.mem_flatMap.2 ⟨_, hw, hmem⟩))
      omega
  · rintro ⟨hgreek, hsymbols⟩
    obtain h | ⟨hc, -⟩ | ⟨s, hs, -⟩ := typesetChar_cases c
    · exact h
    · exact absurd hc hgreek
    · exact absurd (List.mem_map_of_mem hs) hsymbols

/-- a formula is translated to its content between dollar signs, with its symbols typeset. -/
theorem run_translateRaw_eq_math (g : Gallery) (hx : Formula x) (hw : o.wordWrap = false)
    (s : Session) : ((translateRaw g o (formula x)).run s).1 = math (typeset x) := by
  obtain ⟨s', hs'⟩ := run_translateRaw g o (formula x) s
  rw [hs', escape_formula, rewrite_formula hx]
  show finish o (math x) = _
  unfold finish
  rw [hw, typeset_math]
  rfl

theorem math_typeset_eq_iff :
    math (typeset x) = math x ↔ ∀ c ∈ x, c ∉ greek ∧ c ∉ symbols.map Prod.fst := by
  have hmath : math (typeset x) = math x ↔ typeset x = x := by simp [math]
  rw [hmath, typeset_eq_self_iff]
  simp only [typesetChar_eq_self_iff]

/-- **A formula keeps its characters iff none of them is a symbol.**  The rules leave a formula
alone, but its symbols are typeset like those of any text. -/
theorem run_translateRaw_formula (g : Gallery) (o : Options) (hx : Formula x)
    (hw : o.wordWrap = false) (s : Session) :
    ((translateRaw g o (formula x)).run s).1 = math (typeset x) ∧
      (((translateRaw g o (formula x)).run s).1 = math x ↔
        ∀ c ∈ x, c ∉ greek ∧ c ∉ symbols.map Prod.fst) := by
  rw [run_translateRaw_eq_math g hx hw s]
  exact ⟨rfl, math_typeset_eq_iff⟩

/-- a formula with special characters of LaTeX keeps them. -/
theorem run_translateRaw_power :
    Formula "a_1^2 \\le b".toList ∧ (Options.of .standard).wordWrap = false ∧
      ((translateRaw bareGallery (.of .standard) (formula "a_1^2 \\le b".toList)).run
        (.start .empty)).1 = math "a_1^2 \\le b".toList := by
  have hlt : ∀ c ∈ "a_1^2 \\le b".toList, c.toNat < 128 := by
    rw [String.toList_ofList]
    decide
  have hx : Formula "a_1^2 \\le b".toList :=
    ⟨by decide_cbv, by decide_cbv, fun c hc hm => absurd (hlt c hc) (by omega), by decide_cbv⟩
  refine ⟨hx, rfl, (run_translateRaw_formula bareGallery _ hx rfl _).2.2 fun c hc => ?_⟩
  exact typesetChar_eq_self_iff.1 (typesetChar_of_lt (hlt c hc))

/-- **A Greek letter of a formula is not kept.** -/
theorem run_translateRaw_alpha :
    Formula ['α'] ∧ (Options.of .standard).wordWrap = false ∧
      ((translateRaw bareGallery (.of .standard) (formula ['α'])).run (.start .empty)).1
        ≠ math ['α'] := by
  have hx : Formula ['α'] := ⟨by decide, by decide, by decide, by decide_cbv⟩
  have hgreek : 'α' ∈ greek := by decide_cbv
  refine ⟨hx, rfl, ?_⟩
  rw [run_translateRaw_eq_math bareGallery hx rfl, ne_eq, math_typeset_eq_iff,
    List.forall_mem_singleton]
  exact fun h => h.1 hgreek

end Markup
end Bookpress
