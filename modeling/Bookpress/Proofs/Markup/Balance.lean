import Bookpress.Proofs.Markup.Rounds
import Bookpress.Proofs.Markup.Rules
import Bookpress.Proofs.Tex.Wrapping

/-!
# Balance of translated texts

Whatever way tags open, close and cross each other, the translation of a text has balanced braces.

* `Tagged` : the texts that are made of plain characters and complete tags, in any order.
* `Tagged.flows` : such a text flows once it is escaped.
* `Flows.rewriteWithin` : the rules keep it flowing, in cells of any depth.
* `balanced_translateRaw` : the translation of such a text is balanced.
-/

namespace Bookpress
namespace Markup

open Tex

/-! ## the texts -/

/-- the tags without a parameter, as they are written. -/
def writtenNames : List Text := [
  "b".toList, "/b".toList, "u".toList, "/u".toList, "i".toList, "/i".toList,
  "sub".toList, "/sub".toList, "sup".toList, "/sup".toList, "button".toList, "/button".toList,
  "button_small".toList, "/button_small".toList, "code".toList, "/code".toList,
  "quote".toList, "/quote".toList, "center".toList, "/center".toList, "left".toList,
  "/left".toList, "table".toList, "/table".toList, "tr".toList, "/tr".toList, "td".toList,
  "/td".toList, "list".toList, "list=1".toList, "list=a".toList, "/list".toList, "*".toList,
  "/*".toList, "br".toList, "/color".toList, "/size".toList, "/url".toList]

/-- whether a character may stand in a parameter. -/
def isParam (c : Char) : Bool := c ≠ '[' && c ≠ ']' && !Text.isLineEnd c

/-- whether a character may stand in a written target. -/
def isTarget (c : Char) : Bool :=
  isParam c && c ≠ '{' && c ≠ '}' && c ≠ '\\' && c ≠ '<' && c ≠ '>'

/-- what may stand between the brackets of a written tag. -/
inductive Written : Text → Prop
  | name {w : Text} : w ∈ writtenNames → Written w
  | color {w : Text} : w ≠ [] → (∀ c ∈ w, Text.isWord c = true) → Written ("color=".toList ++ w)
  | digits {w : Text} : w ≠ [] → (∀ c ∈ w, Text.isWord c = true) → Written ("color=#".toList ++ w)
  | size {p : Text} : p ≠ [] → (∀ c ∈ p, isParam c = true) → Written ("size=".toList ++ p)
  | url {t : Text} : t ≠ [] → (∀ c ∈ t, isTarget c = true) → Written ("url=".toList ++ t)

/-- characters and complete tags, in any order. -/
inductive Tagged : Text → Prop
  | nil : Tagged []
  | char {c : Char} {t : Text} : c ≠ '[' → Tagged t → Tagged (c :: t)
  | tag {w t : Text} : Written w → Tagged t → Tagged ('[' :: (w ++ ']' :: t))

/-! ## escaping -/

/-- a text as the rules see it first: escaped, and without byte order marks. -/
def cleaned (t : Text) : Text := (escape t).filter fun c => c.toNat ≠ 0xFEFF

theorem cleaned_append (s t : Text) : cleaned (s ++ t) = cleaned s ++ cleaned t := by
  simp [cleaned]

theorem cleaned_eq (t : Text) : cleaned t = escape (t.filter fun c => c.toNat ≠ 0xFEFF) := by
  have hmark : ∀ x ∈ specials, x.1.toNat ≠ 0xFEFF ∧ ∀ c ∈ x.2, c.toNat ≠ 0xFEFF := by
    unfold specials Tex.control stop
    repeat rw [String.toList_ofList]
    decide
  induction t with
  | nil => rfl
  | cons c t ih =>
    have hc : cleaned (c :: t) = cleaned [c] ++ cleaned t := cleaned_append [c] t
    rw [hc, ih, List.filter_cons]
    cases hs : isSpecial c with
    | true =>
      have hm := hmark _ (escapeChar_of_isSpecial hs)
      simp only at hm
      rw [if_pos (by simpa using hm.1), escape_cons]
      have hself : ((escapeChar c).filter fun c => c.toNat ≠ 0xFEFF) = escapeChar c :=
        List.filter_eq_self.2 fun x hx => by simpa using hm.2 x hx
      simp only [cleaned, escape_cons, escape_nil, List.append_nil, hself]
    | false =>
      have he := escapeChar_of_not_isSpecial hs
      split
      · rename_i hn
        simp only [decide_eq_true_eq] at hn
        simp [cleaned, he, hn]
      · rename_i hn
        simp only [decide_eq_true_eq] at hn
        simp [cleaned, he, hn]

/-- the sequence of a special character flows. -/
theorem flows_of_mem_specials {x : Char × Text} (hx : x ∈ specials) (d : Nat) :
    Flows d .text x.2 d := by
  have hstop : Flows d .word stop d := Flows.stop (.inl rfl) (.nil d .text)
  have hsign : ∀ {c : Char}, isSign c = true → Flows d .text ['\\', c] d := fun hc =>
    .sign hc (.nil d .text)
  simp only [specials, List.mem_cons, List.not_mem_nil, or_false] at hx
  rcases hx with rfl | rfl | rfl | rfl | rfl | rfl | rfl | rfl | rfl | rfl | rfl
  · exact Flows.control String.toList_ofList (by decide) hstop .text
  · exact Flows.control String.toList_ofList (by decide) hstop .text
  · exact Flows.control String.toList_ofList (by decide) hstop .text
  · exact Flows.control String.toList_ofList (by decide) hstop .text
  · have : Flows d .word ['^'] d := .plain (by decide) (.nil d .text)
    have := Flows.control (m := .text) (c := 's') (u := "tring".toList) String.toList_ofList
      (by decide) this
    simpa [Tex.control] using this
  · exact hsign (by decide)
  · exact hsign (by decide)
  · exact hsign (by decide)
  · exact hsign (by decide)
  · exact hsign (by decide)
  · exact hsign (by decide)

theorem flows_cleaned {t : Text} (h : '[' ∉ t) (d : Nat) : Flows d .text (cleaned t) d := by
  rw [cleaned_eq]
  have hm : ∀ c ∈ t.filter fun c => c.toNat ≠ 0xFEFF, c ≠ '[' ∧ c.toNat ≠ 0xFEFF := by
    intro c hc
    obtain ⟨hc, hn⟩ := List.mem_filter.1 hc
    exact ⟨fun e => h (e ▸ hc), by simpa using hn⟩
  generalize t.filter (fun c => c.toNat ≠ 0xFEFF) = u at hm
  induction u with
  | nil => exact .nil d _
  | cons c u ih =>
    rw [List.forall_mem_cons] at hm
    rw [escape_cons]
    cases hs : isSpecial c with
    | true => exact (flows_of_mem_specials (escapeChar_of_isSpecial hs) d).append (ih hm.2)
    | false =>
      rw [escapeChar_of_not_isSpecial hs]
      refine .plain ?_ (ih hm.2)
      have hne : c ≠ '\\' ∧ c ≠ '{' ∧ c ≠ '}' := by
        refine ⟨?_, ?_, ?_⟩ <;> rintro rfl <;> revert hs <;> decide_cbv
      simp [isPlain, hne, hm.1]

/-! ## tags as they are escaped -/

theorem Written.bare {w : Text} (h : Written w) : Bare w := by
  have hword : ∀ {u : Text}, (∀ c ∈ u, Text.isWord c = true) → Bare u := fun hu =>
    ⟨fun hm => absurd (hu _ hm) (by decide), fun hm => absurd (hu _ hm) (by decide)⟩
  have hparam : ∀ {u : Text}, (∀ c ∈ u, isParam c = true) → Bare u := fun hu =>
    ⟨fun hm => absurd (hu _ hm) (by decide), fun hm => absurd (hu _ hm) (by decide)⟩
  have happ : ∀ {u v : Text}, Bare u → Bare v → Bare (u ++ v) := fun hu hv =>
    ⟨fun hm => (List.mem_append.1 hm).elim hu.1 hv.1,
      fun hm => (List.mem_append.1 hm).elim hu.2 hv.2⟩
  cases h with
  | name h =>
    have H : ∀ w ∈ writtenNames, Bare w := by
      unfold writtenNames
      repeat rw [String.toList_ofList]
      decide
    exact H w h
  | color _ hw => exact happ (by decide_cbv) (hword hw)
  | digits _ hw => exact happ (by decide_cbv) (hword hw)
  | size _ hp => exact happ (by decide_cbv) (hparam hp)
  | url _ ht =>
    refine happ (by decide_cbv) (hparam fun c hc => ?_)
    have := ht c hc
    simp only [isTarget, Bool.and_eq_true] at this
    exact this.1.1.1.1.1

theorem Written.named {w : Text} (h : Written w) : Named (cleaned w) := by
  cases h with
  | name h =>
    have H : ∀ w ∈ writtenNames, cleaned w ∈ tagNames := by
      unfold writtenNames tagNames cleaned escape escapeChar specials Tex.control
      repeat rw [String.toList_ofList]
      decide
    exact .fixed (H w h)
  | color _ _ =>
    rw [cleaned_append, show cleaned "color=".toList = "color=".toList by decide_cbv]
    exact .color _
  | digits _ _ =>
    rw [cleaned_append, show cleaned "color=#".toList = "color=".toList ++ ['#'] by decide_cbv,
      List.append_assoc]
    exact .color _
  | size _ _ =>
    rw [cleaned_append, show cleaned "size=".toList = "size=".toList by decide_cbv]
    exact .size _
  | @url t _ ht =>
    rw [cleaned_append, show cleaned "url=".toList = "url=".toList by decide_cbv, cleaned_eq]
    refine .url fun c hc => ?_
    obtain ⟨hc, hn⟩ := List.mem_filter.1 hc
    have := ht c hc
    simp only [isTarget, isParam, Bool.and_eq_true, Bool.not_eq_true', decide_eq_true_eq] at this hn
    simp [isTame, isPlain, this, hn]

theorem bare_cleaned {w : Text} (h : Bare w) : Bare (cleaned w) := by
  have mem : ∀ {c : Char}, (∀ x ∈ specials, c ∉ x.2) → c ∈ cleaned w → c ∈ w := fun hs hc =>
    (mem_of_mem_escape hs (List.mem_of_mem_filter hc)).1
  exact ⟨fun hm => h.1 (mem (by decide_cbv) hm), fun hm => h.2 (mem (by decide_cbv) hm)⟩

/-- **A text of characters and tags flows once it is escaped.** -/
theorem Tagged.flows {t : Text} (h : Tagged t) : Flows 0 .text (cleaned t) 0 := by
  induction h with
  | nil => exact .nil 0 _
  | @char c t hc _ ih =>
    have := (flows_cleaned (t := [c]) (by simpa using Ne.symm hc) 0).append ih
    rwa [← cleaned_append] at this
  | @tag w t hw _ ih =>
    have e : cleaned ('[' :: (w ++ ']' :: t)) = '[' :: (cleaned w ++ ']' :: cleaned t) := by
      have h₁ : cleaned ['['] = ['['] := by decide_cbv
      have h₂ : cleaned [']'] = [']'] := by decide_cbv
      rw [show '[' :: (w ++ ']' :: t) = ['['] ++ (w ++ ([']'] ++ t)) from rfl, cleaned_append,
        cleaned_append, cleaned_append, h₁, h₂]
      rfl
    rw [e]
    exact .tag (bare_cleaned hw.bare) hw.named (flows_cleaned hw.bare.1 0) ih

/-! ## the translation -/

section
variable {d e : Nat} {t : Text}

theorem Flows.filter_mark {m : Mode} (h : Flows d m t e) :
    (t.filter fun c => c.toNat ≠ 0xFEFF) = t :=
  List.filter_eq_self.2 fun c hc => by simpa using h.ne_mark c hc

/-- what the rules for characters and lines do behind the first filter. -/
theorem flows_inlineRules (h : Flows d .text (t.filter fun c => c.toNat ≠ 0xFEFF) e) :
    Flows d .text (inlineRules t) e := by
  have hlines := h.bold.underline.italic.lowered.raised.smallButton.button.breakLines.code
  unfold inlineRules
  dsimp only
  rw [h.math, hlines.courier]
  exact hlines

theorem Flows.blockRules (o : Options) (h : Flows d .text t e) :
    Flows d .text (Markup.blockRules o t) e :=
  (h.colors o.textColor).url.quote.lists.unplaced.table

theorem flows_beforeCells (o : Options)
    (h : Flows d .text (t.filter fun c => c.toNat ≠ 0xFEFF) e) :
    Flows d .text (beforeCells o t) e :=
  (flows_inlineRules h).blockRules o

/-- one round of the rules keeps a text flowing, if the rules for its cells do. -/
theorem flows_rewriteWithin_succ {g : Gallery} {o : Options} {depth : Nat}
    (ih : ∀ d e t s, Flows d .text t e → Flows d .text ((rewriteWithin g o depth t).run s).1 e)
    (h : Flows d .text (t.filter fun c => c.toNat ≠ 0xFEFF) e) (s : Session) :
    Flows d .text ((rewriteWithin g o (depth + 1) t).run s).1 e := by
  have hpair : Rule.cell.Pairs "td".toList "/td".toList := .of_isPaired (by decide_cbv)
  have hrender : ∀ k c l s, Flows k .text c.inner l →
      Flows k .text ((renderCell g o depth c).run s).1 l := by
    intro k c l s hc
    unfold renderCell
    split
    · rename_i hnil
      rw [hnil] at hc
      cases hc.nests
      exact .plain (by decide) (.nil k _)
    · exact (ih k l _ s hc.cellContent).cellText o.columnWidth
  have hfilled := (flows_beforeCells o h).onceM hpair hrender s
  rw [rewriteWithin_succ, StateT.run_bind]
  generalize (Text.fillM (renderCell g o depth) (Rule.cell.spans (beforeCells o t))).run s = x
    at hfilled
  have hrow := hfilled.row
  show Flows d .text ((pictures g o (Rule.row.once rowText x.1)).run x.2).1 e
  rw [pictures_of_none hrow.images hrow.icons]
  exact hrow

/-- **The rules keep a text flowing**, whatever its cells hold. -/
theorem Flows.rewriteWithin (g : Gallery) (o : Options) (depth : Nat) (h : Flows d .text t e)
    (s : Session) : Flows d .text ((Markup.rewriteWithin g o depth t).run s).1 e := by
  induction depth generalizing d e t s with
  | zero => exact h
  | succ depth ih =>
    exact flows_rewriteWithin_succ (fun _ _ _ s ht => ih ht s) (by rwa [h.filter_mark]) s

end

/-- the last rules do not touch the balance. -/
theorem balanced_finish {o : Options} {t : Text} (h : Balanced t) : Balanced (finish o t) := by
  unfold finish
  dsimp only
  split
  · exact h.typeset.wrap _
  · exact h.typeset

/-- **The translation of characters and tags is balanced**, in whatever order they stand. -/
theorem balanced_translateRaw {t : Text} (h : Tagged t) (g : Gallery) (o : Options) (s : Session) :
    Balanced ((translateRaw g o t).run s).1 := by
  have hrules : ∀ s, Flows 0 .text ((rewrite g o (escape t)).run s).1 0 := by
    unfold rewrite cellDepth
    exact flows_rewriteWithin_succ (fun _ _ _ s ht => ht.rewriteWithin g o _ s) h.flows
  obtain ⟨s', hs'⟩ := run_translateRaw g o t s
  rw [hs']
  exact balanced_finish (hrules s').balanced

/-- bold and slanted text that cross each other. -/
theorem balanced_crossing :
    Tagged "[b]x[i]y[/b]z[/i]".toList ∧
      Balanced ((translateRaw ⟨⟨fun _ _ => .error [], fun _ => []⟩, .standard, .page []⟩
        (.of .standard) "[b]x[i]y[/b]z[/i]".toList).run (.start .empty)).1 := by
  have h : Tagged "[b]x[i]y[/b]z[/i]".toList := by
    rw [String.toList_ofList]
    exact .tag (w := ['b']) (.name (by decide_cbv)) <| .char (by decide) <|
      .tag (w := ['i']) (.name (by decide_cbv)) <| .char (by decide) <|
      .tag (w := ['/', 'b']) (.name (by decide_cbv)) <| .char (by decide) <|
      .tag (w := ['/', 'i']) (.name (by decide_cbv)) .nil
  exact ⟨h, balanced_translateRaw h _ _ _⟩

end Markup
end Bookpress
