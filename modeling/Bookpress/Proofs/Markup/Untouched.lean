import Bookpress.Proofs.Markup.Rounds
import Bookpress.Proofs.Markup.Rules

/-!
# Texts that the rules leave alone

A rule leaves a text alone that lacks its opening.  So a text that lacks the tags of all rules up
to the pictures is the text in which pictures are looked for.

* `inlineRules_of_lacks` : the rules for characters and lines.
* `blockRules_of_untabled`, `blockRules_of_lacks` : the rules for colours, links and blocks.
* `rewrite_of_lacks` : all of them, and those for cells and rows.
-/

namespace Bookpress
namespace Markup

variable {t : Text} {o : Options} {g : Gallery}

namespace Rule

variable {r : Rule}

theorem once_of_lacks (ho : r.opening ≠ []) (h : Text.lacks r.opening t = true)
    (render : Span → Text) : r.once render t = t :=
  once_of_none ho (find_eq_none_of_lacks ho h) render

theorem exhaust_of_lacks (ho : r.opening ≠ []) (h : Text.lacks r.opening t = true)
    (render : Span → Text) : r.exhaust render t = t :=
  exhaust_of_none ho (find_eq_none_of_lacks ho h) render

theorem spans_of_lacks (ho : r.opening ≠ []) (h : Text.lacks r.opening t = true) :
    r.spans t = ([], t) :=
  spans_of_none ho (find_eq_none_of_lacks ho h)

end Rule

/-- a text without opening brackets has nothing for a rule to find. -/
theorem find_of_not_mem {r : Rule} (hr : r.opening.head? = some '[') (ht : '[' ∉ t) :
    r.opening ≠ [] ∧ r.find t = none := by
  cases ho : r.opening with
  | nil => rw [ho] at hr; cases hr
  | cons a q =>
    rw [ho] at hr
    cases hr
    have hne : r.opening ≠ [] := by rw [ho]; exact List.cons_ne_nil _ _
    exact ⟨List.cons_ne_nil _ _,
      Rule.find_eq_none_of_lacks hne (by rw [ho]; exact Text.lacks_of_not_mem ht)⟩

theorem spans_of_not_mem {r : Rule} (hr : r.opening.head? = some '[') (ht : '[' ∉ t) :
    r.spans t = ([], t) :=
  have ⟨hne, hf⟩ := find_of_not_mem hr ht
  Rule.spans_of_none hne hf

theorem once_of_not_mem {r : Rule} (hr : r.opening.head? = some '[') (ht : '[' ∉ t)
    (render : Span → Text) : r.once render t = t :=
  have ⟨hne, hf⟩ := find_of_not_mem hr ht
  Rule.once_of_none hne hf render

/-! ## characters and lines -/

/-- the rules that look for pairs of tags in running text. -/
def pairRules : List Rule :=
  [.math, .bold, .underline, .italic, .lowered, .raised, .smallButton, .button, .code, .courier]

/-- a text in which no character and no tag of running text is rewritten. -/
structure Untouched (t : Text) : Prop where
  mark : ∀ c ∈ t, c.toNat ≠ 0xFEFF
  line : '\n' ∉ t
  breaks : ∀ p ∈ breakTags, Text.lacks p t = true
  pairs : ∀ r ∈ pairRules, Text.lacks r.opening t = true

theorem opening_ne_nil_of_mem_pairRules : ∀ r ∈ pairRules, r.opening ≠ [] := by
  have H : ∀ r ∈ pairRules, r.opening.isEmpty = false := by decide_cbv
  exact fun r hr => List.isEmpty_eq_false_iff.1 (H r hr)

theorem breakLines_of_lacks (hline : '\n' ∉ t) (hbreaks : ∀ p ∈ breakTags, Text.lacks p t = true) :
    breakLines t = t := by
  have hne := ne_nil_of_mem_breakTags
  unfold breakLines
  rw [Text.replace_of_lacks (by decide) _ (Text.lacks_of_not_mem hline)]
  generalize breakTags = ps at hne hbreaks
  induction ps with
  | nil => rfl
  | cons p ps ih =>
    rw [List.forall_mem_cons] at hne hbreaks
    rw [List.foldl_cons, Text.replace_of_lacks hne.1 _ hbreaks.1, ih hne.2 hbreaks.2]

/-- **The rules for characters and lines leave a text alone that lacks their tags.** -/
theorem inlineRules_of_lacks (h : Untouched t) : inlineRules t = t := by
  have hmark : (t.filter fun c => c.toNat ≠ 0xFEFF) = t :=
    List.filter_eq_self.2 fun c hc => decide_eq_true (h.mark c hc)
  have honce : ∀ r ∈ pairRules, ∀ render, r.once render t = t := fun r hr =>
    Rule.once_of_lacks (opening_ne_nil_of_mem_pairRules r hr) (h.pairs r hr)
  have hexhaust : ∀ r ∈ pairRules, ∀ render, r.exhaust render t = t := fun r hr =>
    Rule.exhaust_of_lacks (opening_ne_nil_of_mem_pairRules r hr) (h.pairs r hr)
  unfold inlineRules
  dsimp only
  rw [hmark, honce .math (by simp [pairRules]), hexhaust .bold (by simp [pairRules]),
    hexhaust .underline (by simp [pairRules]), hexhaust .italic (by simp [pairRules]),
    honce .lowered (by simp [pairRules]), honce .raised (by simp [pairRules]),
    honce .smallButton (by simp [pairRules]), honce .button (by simp [pairRules]),
    breakLines_of_lacks h.line h.breaks, honce .code (by simp [pairRules]),
    honce .courier (by simp [pairRules])]

/-! ## escaped texts -/

section
open Tex

/-- an escaped text without angle brackets lacks the escaped tag of line ends. -/
theorem lacks_br (ht : '<' ∉ t ∧ '>' ∉ t) :
    Text.lacks (escape "<br>".toList) (escape t) = true := by
  have H : ∀ x ∈ specials, x.1 ≠ '<' → x.1 ≠ '>' →
      Text.lacks (escape "<br>".toList) x.2 = true := by
    rw [escape_br]
    unfold specials Tex.control stop
    repeat rw [String.toList_ofList]
    decide
  have he : escape "<br>".toList = '\\' :: (escape "<br>".toList).tail := by
    rw [escape_br]
    rfl
  induction t with
  | nil => rfl
  | cons c t ih =>
    simp only [List.mem_cons, not_or] at ht
    rw [escape_cons]
    refine Text.lacks_append ?_ (ih ⟨ht.1.2, ht.2.2⟩)
    cases hs : isSpecial c with
    | true => exact H _ (escapeChar_of_isSpecial hs) (Ne.symm ht.1.1) (Ne.symm ht.2.1)
    | false =>
      rw [escapeChar_of_not_isSpecial hs, he]
      refine Text.lacks_of_not_mem fun hm => ?_
      exact ne_slash_of_not_isSpecial hs (List.mem_singleton.1 hm).symm

theorem not_mem_escape {x : Char} (hx : ∀ s ∈ specials, x ∉ s.2) (h : x ∉ t) : x ∉ escape t :=
  fun hm => h (mem_of_mem_escape hx hm).1

theorem ne_mark_of_mem_escape {u : Text} (h : ∀ x ∈ u, x.toNat ≠ 0xFEFF) :
    ∀ x ∈ escape u, x.toNat ≠ 0xFEFF := by
  intro x hx hm
  refine h x (mem_of_mem_escape (fun s hs hxs => ?_) hx).1 hm
  have := lt_of_mem_specials s hs x hxs
  omega

end

/-! ## colours, links and blocks -/

/-- the fronts of the tags of colours. -/
def colorTags : List Text := [colorOpening, digitsOpening, "[/color]".toList]

theorem colors_of_lacks (isSet : Bool) (h : ∀ p ∈ colorTags, Text.lacks p t = true) :
    colors isSet t = t := by
  have hread : ∀ opening u, Text.strip? opening u = none → readColor opening u = none :=
    fun opening u h => by simp [readColor, h]
  have hname := Text.misses_of_lacks (hread colorOpening) (h _ (by simp [colorTags]))
  have hdigits := Text.misses_of_lacks (hread digitsOpening) (h _ (by simp [colorTags]))
  have hend : Text.replace "[/color]".toList (Tex.command "color" ["black".toList] ++ Tex.stop) t
      = t :=
    Text.replace_of_lacks (by decide_cbv) _ (h _ (by simp [colorTags]))
  cases isSet with
  | true =>
    unfold colors
    simp only [if_true]
    rw [Text.rewrite_of_misses (takes_readColor _) _ hdigits,
      Text.rewrite_of_misses (takes_readColor _) _ hname, hend]
  | false =>
    have heither : Text.Misses readEither t := hdigits.or hname
    unfold colors
    simp only [Bool.false_eq_true, if_false]
    show Text.replace _ _ (Text.rewrite (Text.search readEither) _ t) = t
    rw [Text.rewrite_of_misses takes_readEither _ heither, hend]

/-- the rules that look for pairs of tags around blocks, and the parts of tables. -/
def partRules : List Rule := [.url, .quote, .center, .left, .font, .table, .cell, .row]

/-- the fronts of the tags of lists and sizes. -/
def partTags : List Text := listTags.map Prod.fst ++ ["[size=".toList, "[/size]".toList]

/-- a text in which no tag of a block is rewritten. -/
structure Unparted (t : Text) : Prop where
  colors : ∀ p ∈ colorTags, Text.lacks p t = true
  rules : ∀ r ∈ partRules, Text.lacks r.opening t = true
  tags : ∀ p ∈ partTags, Text.lacks p t = true

theorem opening_ne_nil_of_mem_partRules : ∀ r ∈ partRules, r.opening ≠ [] := by
  have H : ∀ r ∈ partRules, r.opening.isEmpty = false := by decide_cbv
  exact fun r hr => List.isEmpty_eq_false_iff.1 (H r hr)

theorem lists_of_lacks (h : ∀ p ∈ listTags.map Prod.fst, Text.lacks p t = true) : lists t = t := by
  have H : ∀ x ∈ listTags, x.1.isEmpty = false := by decide_cbv
  have hne : ∀ x ∈ listTags, x.1 ≠ [] := fun x hx => List.isEmpty_eq_false_iff.1 (H x hx)
  unfold lists
  generalize listTags = xs at hne h
  induction xs with
  | nil => rfl
  | cons x xs ih =>
    rw [List.map_cons, List.forall_mem_cons] at h
    rw [List.forall_mem_cons] at hne
    rw [List.foldl_cons, Text.replace_of_lacks hne.1 _ h.1, ih hne.2 h.2]

/-- every one of the tags begins with a bracket. -/
theorem exists_of_mem_partTags {p : Text}
    (hp : p ∈ colorTags ++ (partRules.map Rule.opening ++ partTags)) : ∃ q, p = '[' :: q := by
  have H : ∀ p ∈ colorTags ++ (partRules.map Rule.opening ++ partTags),
      (Text.strip? ['['] p).isSome = true := by decide_cbv
  obtain ⟨q, hq⟩ := Option.isSome_iff_exists.1 (H p hp)
  exact ⟨q, Text.strip?_eq_some.1 hq⟩

/-- a text without opening brackets has no tags. -/
theorem unparted_of_not_mem (h : '[' ∉ t) : Unparted t := by
  have hlacks : ∀ p ∈ colorTags ++ (partRules.map Rule.opening ++ partTags),
      Text.lacks p t = true := fun p hp => by
    obtain ⟨q, rfl⟩ := exists_of_mem_partTags hp
    exact Text.lacks_of_not_mem h
  simp only [List.forall_mem_append, List.forall_mem_map] at hlacks
  exact ⟨hlacks.1, hlacks.2.1, hlacks.2.2⟩

namespace Unparted

theorem once (h : Unparted t) {r : Rule} (hr : r ∈ partRules) (render : Span → Text) :
    r.once render t = t :=
  Rule.once_of_lacks (opening_ne_nil_of_mem_partRules r hr) (h.rules r hr) render

end Unparted

/-- the rules that come before those for tables. -/
def placeRules : List Rule := [.url, .quote, .center, .left, .font]

theorem partRules_eq : partRules = placeRules ++ [.table, .cell, .row] := rfl

/-- a text in which no tag of a block is rewritten but those of tables. -/
structure Untabled (t : Text) : Prop where
  colors : ∀ p ∈ colorTags, Text.lacks p t = true
  rules : ∀ r ∈ placeRules, Text.lacks r.opening t = true
  tags : ∀ p ∈ partTags, Text.lacks p t = true

theorem Unparted.untabled (h : Unparted t) : Untabled t where
  colors := h.colors
  rules r hr := h.rules r (by rw [partRules_eq]; exact List.mem_append_left _ hr)
  tags := h.tags

namespace Untabled

theorem once (h : Untabled t) {r : Rule} (hr : r ∈ placeRules) (render : Span → Text) :
    r.once render t = t := by
  have hpart : r ∈ partRules := by
    rw [partRules_eq]
    exact List.mem_append_left _ hr
  exact Rule.once_of_lacks (opening_ne_nil_of_mem_partRules r hpart) (h.rules r hr) render

theorem unplaced (h : Untabled t) : Markup.unplaced t = t := by
  have hsize : Text.rewrite (Text.search readSize) (fun _ => []) t = t :=
    Text.rewrite_of_misses takes_readSize _ (Text.misses_of_lacks (p := "[size=".toList)
      (fun u hu => by unfold readSize; rw [hu]; rfl) (h.tags _ (by simp [partTags])))
  have hend : Text.replace "[/size]".toList [] t = t :=
    Text.replace_of_lacks (by decide_cbv) _ (h.tags _ (by simp [partTags]))
  unfold Markup.unplaced
  dsimp only
  rw [h.once (r := .center) (by simp [placeRules]), h.once (r := .left) (by simp [placeRules]),
    h.once (r := .font) (by simp [placeRules]), hsize, hend]

end Untabled

/-- **The rules for colours, links and blocks** make tables of a text that lacks their other
tags. -/
theorem blockRules_of_untabled (h : Untabled t) :
    blockRules o t = Rule.table.once (tableText o.columnWidth) t := by
  have hlists : lists t = t :=
    lists_of_lacks fun p hp => h.tags p (List.mem_append_left _ hp)
  unfold blockRules
  dsimp only
  rw [colors_of_lacks _ h.colors, h.once (r := .url) (by simp [placeRules]),
    h.once (r := .quote) (by simp [placeRules]), hlists, h.unplaced]

/-- **The rules for colours, links and blocks leave a text alone that lacks their tags.** -/
theorem blockRules_of_lacks (h : Unparted t) : blockRules o t = t := by
  rw [blockRules_of_untabled h.untabled, h.once (r := .table) (by simp [partRules])]

/-- **In a text without tags but those of pictures, nothing is rewritten but the pictures.** -/
theorem rewrite_of_lacks (h : Untouched t) (h' : Unparted t) :
    rewrite g o t = pictures g o t := by
  have hcells : Rule.cell.spans t = ([], t) := Rule.spans_of_lacks
    (opening_ne_nil_of_mem_partRules _ (by simp [partRules])) (h'.rules _ (by simp [partRules]))
  have hbefore : beforeCells o t = t := by
    unfold beforeCells
    rw [inlineRules_of_lacks h, blockRules_of_lacks h']
  unfold rewrite cellDepth
  rw [rewriteWithin_succ, hbefore, hcells, Text.fillM_nil, pure_bind,
    h'.once (r := .row) (by simp [partRules])]

end Markup
end Bookpress
