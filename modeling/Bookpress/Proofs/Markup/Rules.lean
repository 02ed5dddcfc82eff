import Bookpress.Proofs.Length.Printing
import Bookpress.Proofs.Markup.Folding
import Bookpress.Proofs.Markup.Pieces
import Bookpress.Proofs.Text.Casing

/-!
# The rules keep texts flowing

One lemma for every rule of the translation: it takes texts that flow to texts that flow between
the same open groups.
-/

namespace Bookpress
namespace Markup

open Tex

section
variable {d e : Nat} {m : Mode} {s t : Text}

/-! ## commands -/

/-- a control word with running text as its argument. -/
theorem Flows.command {name : String} {c : Char} {u : Text} (hn : name.toList = c :: u)
    (hu : ∀ x ∈ c :: u, x.isAlpha = true) (h : Flows d .text s e) (m : Mode) :
    Flows d m (Tex.command name [s]) e := by
  rw [command_one]
  exact Flows.control hn hu (.argument (.inl rfl) (h.enclose (.nil e .text) .arg)) m

/-- a group that begins with a command without an argument. -/
theorem Flows.declaration {name : String} {c : Char} {u : Text} (hn : name.toList = c :: u)
    (hu : ∀ x ∈ c :: u, x.isAlpha = true) (hc : c ≠ 't') (h : Flows d .text s e) (m : Mode) :
    Flows d m (Tex.group (Tex.control name ++ Tex.stop ++ s)) e := by
  rw [Tex.group, List.append_assoc, List.append_assoc]
  exact Flows.groupControl hn hu hc
    (Flows.stop (.inl rfl) (h.enclose (.nil e .text) .text)) m

/-- the distance of a frame. -/
theorem flows_frameDistance {points : String} (hf : Fills points.toList)
    (hne : points.toList ≠ []) (d : Nat) : Flows d .text (frameDistance points) d := by
  have hargs : Flows d .word (Tex.group (Tex.control "fboxsep") ++ Tex.group points.toList) d := by
    rw [Tex.group, List.cons_append, List.append_assoc]
    refine .argument (.inl rfl) ?_
    refine Flows.control String.toList_ofList (by decide) (.close ?_) _
    have := Flows.filled hf hne (.inr rfl) (.nil d .closed)
    rwa [List.append_nil] at this
  rw [frameDistance, command_two]
  exact Flows.control String.toList_ofList (by decide) hargs .text

/-- a command with one argument on a line. -/
theorem flows_filled {name : String} {c : Char} {u v : Text} (hn : name.toList = c :: u)
    (hu : ∀ x ∈ c :: u, x.isAlpha = true) (hv : Fills v) (hne : v ≠ []) (d : Nat) :
    Flows d .text (Tex.command name [v]) d := by
  have := Flows.filled hv hne (.inl rfl) (.nil d .closed)
  rw [List.append_nil] at this
  rw [command_one]
  exact Flows.control hn hu this .text

theorem flows_openEnv {name : String} (hf : Fills name.toList) (hne : name.toList ≠ []) (d : Nat) :
    Flows d .text (openEnv name) d :=
  flows_filled String.toList_ofList (by decide) hf hne d

theorem flows_closeEnv {name : String} (hf : Fills name.toList) (hne : name.toList ≠ [])
    (d : Nat) : Flows d .text (closeEnv name) d :=
  flows_filled String.toList_ofList (by decide) hf hne d

/-! ## emphasis -/

theorem Flows.bold (h : Flows d .text t e) : Flows d .text (Rule.bold.exhaust boldText t) e := by
  refine Rule.exhaust_induction (motive := fun t => Flows d .text t e) (fun t h => ?_) h
  exact h.once (o := "b".toList) (c := "/b".toList) (.of_isPaired (by decide_cbv)) fun _ _ _ hs =>
    hs.declaration String.toList_ofList (by decide) (by decide) .text

theorem Flows.underline (h : Flows d .text t e) :
    Flows d .text (Rule.underline.exhaust underlineText t) e := by
  refine Rule.exhaust_induction (motive := fun t => Flows d .text t e) (fun t h => ?_) h
  exact h.once (o := "u".toList) (c := "/u".toList) (.of_isPaired (by decide_cbv)) fun _ _ _ hs =>
    hs.command String.toList_ofList (by decide) .text

theorem Flows.italic (h : Flows d .text t e) :
    Flows d .text (Rule.italic.exhaust italicText t) e := by
  refine Rule.exhaust_induction (motive := fun t => Flows d .text t e) (fun t h => ?_) h
  exact h.once (o := "i".toList) (c := "/i".toList) (.of_isPaired (by decide_cbv)) fun _ _ _ hs =>
    hs.declaration String.toList_ofList (by decide) (by decide) .text

theorem Flows.lowered (h : Flows d .text t e) :
    Flows d .text (Rule.lowered.once loweredText t) e :=
  h.once (o := "sub".toList) (c := "/sub".toList) (.of_isPaired (by decide_cbv)) fun _ _ _ hs =>
    hs.command String.toList_ofList (by decide) .text

theorem Flows.raised (h : Flows d .text t e) :
    Flows d .text (Rule.raised.once raisedText t) e :=
  h.once (o := "sup".toList) (c := "/sup".toList) (.of_isPaired (by decide_cbv)) fun _ _ _ hs =>
    hs.command String.toList_ofList (by decide) .text

theorem Flows.framed {points : String} (hf : Fills points.toList) (hne : points.toList ≠ [])
    {k l : Nat} {x : Span} (h : Flows k .text x.inner l) :
    Flows k .text (Markup.framed points x) l :=
  ((flows_frameDistance hf hne k).append (h.command String.toList_ofList (by decide) .text)).append
    (flows_frameDistance (by decide) (by decide) l)

theorem Flows.smallButton (h : Flows d .text t e) :
    Flows d .text (Rule.smallButton.once (Markup.framed "2pt") t) e :=
  h.once (o := "button\\_small".toList) (c := "/button\\_small".toList)
    (.of_isPaired (by decide_cbv)) fun _ _ _ hs => hs.framed (by decide) (by decide)

theorem Flows.button (h : Flows d .text t e) :
    Flows d .text (Rule.button.once (Markup.framed "3pt") t) e :=
  h.once (o := "button".toList) (c := "/button".toList) (.of_isPaired (by decide_cbv))
    fun _ _ _ hs => hs.framed (by decide) (by decide)

/-! ## lines and program texts -/

theorem ne_nil_of_mem_breakTags : ∀ tag ∈ breakTags, tag ≠ [] := by
  have H : ∀ tag ∈ breakTags, tag.isEmpty = false := by decide_cbv
  exact fun tag htag => List.isEmpty_eq_false_iff.1 (H tag htag)

theorem Flows.breakLines (h : Flows d .text t e) : Flows d .text (Markup.breakLines t) e := by
  have hbr : "[br]".toList = bracketed "br".toList := by decide_cbv
  have hp : ∀ k, Flows k .text paragraph k := fun k =>
    .plain (by decide) (.plain (by decide) (.nil k _))
  show Flows d .text (Text.replace (escape "<br>".toList) paragraph
    (Text.replace "[br]".toList paragraph (Text.replace ['\n'] paragraph t))) e
  rw [hbr]
  exact breaks_br.flows ((breaks_newline.flows h).replaceTag (sought_iff.1 (by decide_cbv)) hp)

theorem Flows.code (h : Flows d .text t e) : Flows d .text (Rule.code.once codeText t) e :=
  h.once (o := "code".toList) (c := "/code".toList) (.of_isPaired (by decide_cbv)) fun _ _ _ hs =>
    (folds_codeLine.flows_mapRuns hs).command String.toList_ofList (by decide) .text

/-! ## tags that are not named -/

theorem not_named {w : Text} (hw : w ∉ tagNames) (hf : ∀ u ∈ tagFronts, u.isPrefixOf w = false) :
    ¬ Named w := by
  intro h
  cases h with
  | fixed h => exact hw h
  | color p => exact ne_append_of_isPrefixOf (hf _ (by simp [tagFronts])) p rfl
  | size p => exact ne_append_of_isPrefixOf (hf _ (by simp [tagFronts])) p rfl
  | url _ => exact ne_append_of_isPrefixOf (hf _ (by simp [tagFronts])) _ rfl

/-- the tags of formulas, typewriter text and pictures. -/
def heldNames : List Text :=
  ["math".toList, "font=Courier New".toList, "img".toList, "icon".toList]

theorem not_named_of_mem_heldNames : ∀ w ∈ heldNames, ¬ Named w := by
  have H : ∀ w ∈ heldNames, w ∉ tagNames ∧ ∀ u ∈ tagFronts, u.isPrefixOf w = false := by
    unfold heldNames tagNames tagFronts
    repeat rw [String.toList_ofList]
    decide
  exact fun w hw => not_named (H w hw).1 (H w hw).2

/-- the fronts of a target and of a typeface begin no tag without a parameter. -/
theorem isPrefixOf_of_mem_tagNames :
    ∀ w ∈ tagNames, ∀ u ∈ ["url=".toList, "font=".toList], u.isPrefixOf w = false := by
  unfold tagNames
  repeat rw [String.toList_ofList]
  decide

theorem Flows.math (h : Flows d m t e) : Rule.math.once mathText t = t := by
  have hr : Rule.math.Pairs "math".toList "/math".toList := .of_isPaired (by decide_cbv)
  exact Rule.once_of_none hr.opening_ne_nil
    (h.find_eq_none hr (not_named_of_mem_heldNames _ (by simp [heldNames]))) _

theorem Flows.courier (h : Flows d m t e) :
    Rule.courier.once (fun s => verbatim s.inner) t = t := by
  have hr : Rule.courier.Pairs "font=Courier New".toList "/font".toList :=
    .of_isPaired (by decide_cbv)
  exact Rule.once_of_none hr.opening_ne_nil
    (h.find_eq_none hr (not_named_of_mem_heldNames _ (by simp [heldNames]))) _

theorem Flows.images (h : Flows d m t e) : Rule.image.spans t = ([], t) := by
  have hr : Rule.image.Pairs "img".toList "/img".toList := .of_isPaired (by decide_cbv)
  exact Rule.spans_of_none hr.opening_ne_nil
    (h.find_eq_none hr (not_named_of_mem_heldNames _ (by simp [heldNames])))

theorem Flows.icons (h : Flows d m t e) : Rule.icon.spans t = ([], t) := by
  have hr : Rule.icon.Pairs "icon".toList "/icon".toList := .of_isPaired (by decide_cbv)
  exact Rule.spans_of_none hr.opening_ne_nil
    (h.find_eq_none hr (not_named_of_mem_heldNames _ (by simp [heldNames])))

/-! ## colours -/

/-- a character that is not in the table of signs stands in an argument as it is. -/
theorem isPlain_and_not_isLineEnd {c : Char}
    (h : c ∉ ['\\', '{', '}', '[', '\r', '\n']) (hm : c.toNat ≠ 0xFEFF) :
    isPlain c = true ∧ Text.isLineEnd c = false := by
  simp only [List.mem_cons, List.not_mem_nil, or_false, not_or] at h
  simp [isPlain, Text.isLineEnd, h, hm]

theorem fills_of_isWord {u : Text} (hw : ∀ c ∈ u, Text.isWord c = true)
    (hm : ∀ c ∈ u, c.toNat ≠ 0xFEFF) : Fills u := by
  have hs : ∀ c ∈ ['\\', '{', '}', '[', '\r', '\n'], Text.isWord c = false := by decide_cbv
  refine fun c hc => isPlain_and_not_isLineEnd (fun h => ?_) (hm c hc)
  have := hw c hc
  rw [hs c h] at this
  cases this

theorem fills_upper {u : Text} (hw : ∀ c ∈ u, Text.isWord c = true)
    (hm : ∀ c ∈ u, c.toNat ≠ 0xFEFF) : Fills (Text.upper u) := by
  intro d hd
  obtain ⟨c, hc, hd⟩ := List.mem_flatMap.1 hd
  rcases Text.isCapital_of_mem_upperChar hd with h | h | rfl
  · refine isPlain_and_not_isLineEnd (fun hs => ?_) ?_
    · have : ∀ c ∈ ['\\', '{', '}', '[', '\r', '\n'], ¬ Text.IsCapital c.toNat := by decide
      exact this d hs h
    · unfold Text.IsCapital at h
      omega
  · refine isPlain_and_not_isLineEnd (fun hs => ?_) (by omega)
    have : ∀ c ∈ ['\\', '{', '}', '[', '\r', '\n'], c.toNat ≠ 0 := by decide
    exact this d hs h
  · exact fills_of_isWord hw hm d hc

theorem readColor_eq_some {opening t name r : Text}
    (h : readColor opening t = some (name, r)) :
    t = opening ++ (name ++ ']' :: r) ∧ (∀ c ∈ name, Text.isWord c = true) ∧ name ≠ [] := by
  obtain ⟨u, hu, h⟩ := Option.bind_eq_some_iff.1 h
  dsimp only at h
  split at h
  · rename_i rest hrest
    split at h
    · cases h
    · rename_i hne
      cases h
      refine ⟨?_, fun c hc => List.all_eq_true.1 (List.all_takeWhile) c hc, hne⟩
      rw [Text.strip?_eq_some.1 hu, ← hrest]
      congr 1
      exact (List.prefix_iff_eq_append.1 (List.takeWhile_prefix _)).symm
  · cases h

theorem takes_readColor (opening : Text) : Text.Takes (readColor opening) := by
  intro t name r h
  rw [(readColor_eq_some h).1]
  simp only [List.length_append, List.length_cons]
  omega

/-- the name of a colour may stand in an argument, and no group is opened or closed. -/
def Names (k : Nat) (name : Text) (l : Nat) : Prop :=
  k = l ∧ (∀ c ∈ name, Text.isWord c = true) ∧ (∀ c ∈ name, c.toNat ≠ 0xFEFF) ∧ name ≠ []

/-- the tags of colours are cut out of a text that flows. -/
theorem names_of_readColor {front u name r : Text} (hf : ']' ∉ front)
    (hn : ∀ w ∈ optionNames, front.isPrefixOf w = false)
    (h : readColor ('[' :: front) u = some (name, r)) (ht : Flows d .text (t ++ u) e) :
    ∃ k l, Flows d .text t k ∧ Names k name l ∧ Flows l .text r e := by
  obtain ⟨rfl, hw, hne⟩ := readColor_eq_some h
  have hclose : ']' ∉ name := fun hm => by
    have := hw _ hm
    revert this
    decide
  have hs : Sought (front ++ name) := .of_front hf hclose hn
  have ht' : Flows d .text (t ++ (bracketed (front ++ name) ++ r)) e := by
    simpa [bracketed] using ht
  obtain ⟨k, hk, htag, hr⟩ := ht'.cut_bracketed hs
  refine ⟨k, k, hk, ⟨rfl, hw, fun c hc => ?_, hne⟩, hr⟩
  exact htag.flows.ne_mark c (List.mem_append_right _ hc)

theorem colorOpening_eq : colorOpening = '[' :: "color=".toList := by decide_cbv

theorem digitsOpening_eq : digitsOpening = '[' :: "color=#".toList := by decide_cbv

theorem leads_readColor {opening front : Text} (ho : opening = '[' :: front) (hf : ']' ∉ front)
    (hn : ∀ w ∈ optionNames, front.isPrefixOf w = false) :
    Leads (Text.search (readColor opening)) Names := by
  intro d e t x hx ht
  obtain ⟨u, rfl, hu⟩ := Text.search_eq_some hx
  rw [ho] at hu
  exact names_of_readColor hf hn hu ht

/-- a colour is set, or slanted text takes its place. -/
theorem flows_color {name : Text} (hf : Fills name) (hne : name ≠ []) (k : Nat) :
    Flows k .text (Tex.command "color" [name] ++ Tex.stop) k := by
  have := Flows.filled hf hne (.inl rfl) (Flows.stop (.inr rfl) (.nil k .text))
  rw [command_one, List.append_assoc]
  rw [List.append_nil] at this
  exact Flows.control String.toList_ofList (by decide) this .text

theorem flows_htmlColor {digits : Text} (hf : Fills digits) (hne : digits ≠ []) (k : Nat) :
    Flows k .text (Tex.commandWith "color" "HTML".toList [digits] ++ Tex.stop) k := by
  have := Flows.filled hf hne (.inr rfl) (Flows.stop (.inr rfl) (.nil k .text))
  rw [List.append_nil] at this
  have := Flows.control (u := "olor".toList) (c := 'c') (m := .text) String.toList_ofList (by decide)
    (Flows.option (w := "HTML".toList) (by decide_cbv) this)
  simpa [commandWith] using this

theorem leads_colorOpening : Leads (Text.search (readColor colorOpening)) Names :=
  leads_readColor colorOpening_eq (by decide_cbv) (by decide_cbv)

theorem leads_digitsOpening : Leads (Text.search (readColor digitsOpening)) Names :=
  leads_readColor digitsOpening_eq (by decide_cbv) (by decide_cbv)

/-- either of the two openings. -/
def readEither (t : Text) : Option (Text × Text) :=
  (readColor digitsOpening t).or (readColor colorOpening t)

theorem readEither_eq_some {name r : Text} (h : readEither t = some (name, r)) :
    readColor digitsOpening t = some (name, r) ∨ readColor colorOpening t = some (name, r) := by
  unfold readEither at h
  cases hd : readColor digitsOpening t with
  | none => rw [hd] at h; exact .inr h
  | some x => rw [hd] at h; exact .inl h

theorem takes_readEither : Text.Takes readEither := fun t name r h =>
  (readEither_eq_some h).elim (takes_readColor _ t name r) (takes_readColor _ t name r)

theorem leads_readEither : Leads (Text.search readEither) Names := by
  intro d e t x hx ht
  obtain ⟨u, rfl, hu⟩ := Text.search_eq_some hx
  rcases readEither_eq_some hu with hu | hu
  · rw [digitsOpening_eq] at hu
    exact names_of_readColor (by decide_cbv) (by decide_cbv) hu ht
  · rw [colorOpening_eq] at hu
    exact names_of_readColor (by decide_cbv) (by decide_cbv) hu ht

/-- the colour behind a coloured text. -/
theorem Flows.endColor (h : Flows d .text t e) : Flows d .text
    (Text.replace "[/color]".toList (Tex.command "color" ["black".toList] ++ Tex.stop) t) e := by
  have htag : "[/color]".toList = bracketed "/color".toList := by decide_cbv
  rw [htag]
  exact h.replaceTag (sought_iff.1 (by decide_cbv)) fun k => flows_color (by decide) (by decide) k

theorem Flows.colors (isSet : Bool) (h : Flows d .text t e) :
    Flows d .text (Markup.colors isSet t) e := by
  cases isSet with
  | true =>
    refine Flows.endColor ?_
    refine Flows.rewrite (takes_readColor _).shrinks leads_colorOpening ?_
      (h.rewrite (takes_readColor _).shrinks leads_digitsOpening ?_)
    · rintro k name _ ⟨rfl, hw, hm, hne⟩
      exact flows_color (fills_of_isWord hw hm) hne k
    · rintro k digits _ ⟨rfl, hw, hm, hne⟩
      exact flows_htmlColor (fills_upper hw hm) (Text.upper_ne_nil hne) k
  | false =>
    refine Flows.endColor (h.rewrite takes_readEither.shrinks leads_readEither ?_)
    rintro k name _ ⟨rfl, -⟩
    have := Flows.stop (.inl rfl) (.nil k .text)
    rw [List.append_nil] at this
    exact Flows.control String.toList_ofList (by decide) this .text

/-! ## links and quotations -/

theorem isTame_and_fills {u : Text} (h : ∀ c ∈ u, isTame c = true) : Fills u := by
  intro c hc
  have := h c hc
  simp only [isTame, Bool.and_eq_true, Bool.not_eq_true'] at this
  exact ⟨this.1.1.1.1, this.2⟩

theorem Named.exists_target {u : Text} (h : Named ("url=".toList ++ u)) :
    ∃ v, (∀ c ∈ v, isTame c = true) ∧ u = escape v := by
  generalize hw : "url=".toList ++ u = w at h
  have front : ∀ v : Text, 'u' :: 'r' :: 'l' :: '=' :: u = v → v.head? = some 'u' := by
    rintro v rfl
    rfl
  cases h with
  | fixed h =>
    exact absurd hw.symm
      (ne_append_of_isPrefixOf (isPrefixOf_of_mem_tagNames w h _ List.mem_cons_self) u)
  | color p => cases front _ hw
  | size p => cases front _ hw
  | url hv => exact ⟨_, hv, List.append_cancel_left hw⟩

theorem Flows.linkText {k l : Nat} {x : Span} (h : WithParam "url=".toList k x l) :
    Flows k .text (Markup.linkText x) l := by
  obtain ⟨hinner, hne, htag⟩ := h
  obtain ⟨u, hu, hp⟩ := htag.named.exists_target
  have hparam : Flows k .text x.param k :=
    (Flows.of_plains (by decide_cbv) htag.flows).within k
  have htrim : Flows k .text (Text.trim (if x.inner = [] then x.param else x.inner)) l := by
    split
    · rename_i hnil
      rw [hnil] at hinner
      rw [← hinner.eq_of_nil]
      exact hparam.trim
    · exact hinner.trim
  have hcap := (folds_blanks.flows_mapRuns htrim).enclose (.nil l .text) .arg
  have hune : u ≠ [] := fun e => hne (by rw [hp, e, escape_nil])
  have := Flows.filled (isTame_and_fills hu) hune (.inl rfl) (.argument (.inr rfl) hcap)
  rw [Markup.linkText, command_two, hp, unescape_escape]
  rw [hp] at this
  exact Flows.control String.toList_ofList (by decide) this .text

theorem Flows.url (h : Flows d .text t e) :
    Flows d .text (Rule.url.once Markup.linkText t) e := by
  have hl : Leads Rule.url.find (WithParam "url=".toList) :=
    leads_find_param (c := "/url".toList) (by decide_cbv) (by decide_cbv) rfl
      (by decide_cbv) (by decide_cbv) (sought_iff.1 (by decide_cbv))
  exact h.rewrite (Rule.shrinks_find (by decide_cbv)) hl fun _ _ _ => Flows.linkText

theorem Flows.quote (h : Flows d .text t e) : Flows d .text (Rule.quote.once quoteText t) e :=
  h.once (o := "quote".toList) (c := "/quote".toList) (.of_isPaired (by decide_cbv)) fun k _ l hs =>
    ((flows_openEnv (by decide) (by decide) k).append hs).append
      (flows_closeEnv (by decide) (by decide) l)

/-! ## lists -/

/-- plain characters around a control word. -/
theorem flows_around {u v : Text} {name : String} {c : Char} {x : Text}
    (hn : name.toList = c :: x) (hx : ∀ y ∈ c :: x, y.isAlpha = true)
    (hu : ∀ y ∈ u, isPlain y = true) (hv : ∀ y ∈ v, isPlain y = true) (k : Nat) :
    Flows k .text (u ++ (Tex.control name ++ v)) k := by
  have := Flows.plains hv (.nil k .text) .word
  rw [List.append_nil] at this
  exact Flows.plains hu (Flows.control hn hx this .text) .text

theorem bare_of_mem_tagNames : ∀ w ∈ tagNames, Bare w := by
  unfold tagNames
  repeat rw [String.toList_ofList]
  decide

/-- a list whose label is a control word between plain characters. -/
theorem flows_listOpening {label u v : Text} {name : String} {c : Char} {x : Text}
    (hn : name.toList = c :: x) (hx : ∀ y ∈ c :: x, y.isAlpha = true)
    (hu : ∀ y ∈ u, isPlain y = true) (hv : ∀ y ∈ v, isPlain y = true)
    (he : "label=".toList ++ label = u ++ (Tex.control name ++ v))
    (hw : "label=".toList ++ label ∈ tagNames) (k : Nat) :
    Flows k .text (listOpening label) k := by
  have henv : Flows k .text (openEnv "enumerate") k := flows_openEnv (by decide) (by decide) k
  have inner : Flows 0 .text ("label=".toList ++ label) 0 := he ▸ flows_around hn hx hu hv 0
  have htag : Flows k .text ('[' :: (("label=".toList ++ label) ++ ']' :: [])) k :=
    .tag (bare_of_mem_tagNames _ hw) (.fixed hw) inner (.nil k .text)
  simpa [listOpening] using henv.append htag

/-- the labels of the lists are control words between plain characters. -/
theorem labels_eq :
    "label=".toList ++ "$\\bullet$".toList
        = "label=$".toList ++ (Tex.control "bullet" ++ ['$']) ∧
      "label=".toList ++ "\\arabic*.".toList
        = "label=".toList ++ (Tex.control "arabic" ++ ['*', '.']) ∧
      "label=".toList ++ "(\\alph*)".toList
        = "label=(".toList ++ (Tex.control "alph" ++ ['*', ')']) := by
  unfold Tex.control
  repeat rw [String.toList_ofList]
  exact ⟨rfl, rfl, rfl⟩

theorem mem_tagNames_labels :
    ∀ u ∈ ["$\\bullet$".toList, "\\arabic*.".toList, "(\\alph*)".toList],
      "label=".toList ++ u ∈ tagNames := by
  unfold tagNames
  repeat rw [String.toList_ofList]
  decide

theorem flows_bullet (k : Nat) : Flows k .text (listOpening "$\\bullet$".toList) k :=
  flows_listOpening String.toList_ofList (by decide) (by rw [String.toList_ofList]; decide)
    (by decide) labels_eq.1 (mem_tagNames_labels _ (.head _)) k

theorem flows_arabic (k : Nat) : Flows k .text (listOpening "\\arabic*.".toList) k :=
  flows_listOpening String.toList_ofList (by decide) (by rw [String.toList_ofList]; decide)
    (by decide) labels_eq.2.1 (mem_tagNames_labels _ (.tail _ (.head _))) k

theorem flows_alph (k : Nat) : Flows k .text (listOpening "(\\alph*)".toList) k :=
  flows_listOpening String.toList_ofList (by decide) (by rw [String.toList_ofList]; decide)
    (by decide) labels_eq.2.2 (mem_tagNames_labels _ (.tail _ (.tail _ (.head _)))) k

theorem flows_item (k : Nat) : Flows k .text "\\item ".toList k := by
  have e : "\\item ".toList = [] ++ (Tex.control "item" ++ " ".toList) := by simp [Tex.control]
  rw [e]
  exact flows_around String.toList_ofList (by decide) (by simp) (by simp [isPlain]) k

theorem flows_of_mem_listTags :
    ∀ x ∈ listTags, ∃ w, x.1 = bracketed w ∧ Sought w ∧ ∀ k, Flows k .text x.2 k := by
  simp only [listTags, List.forall_mem_cons]
  exact ⟨⟨"list".toList, by decide_cbv, sought_iff.1 (by decide_cbv), flows_bullet⟩,
    ⟨"list=1".toList, by decide_cbv, sought_iff.1 (by decide_cbv), flows_arabic⟩,
    ⟨"list=a".toList, by decide_cbv, sought_iff.1 (by decide_cbv), flows_alph⟩,
    ⟨"/list".toList, by decide_cbv, sought_iff.1 (by decide_cbv),
      flows_closeEnv (by decide) (by decide)⟩,
    ⟨"*".toList, by decide_cbv, sought_iff.1 (by decide_cbv), flows_item⟩,
    ⟨"/*".toList, by decide_cbv, sought_iff.1 (by decide_cbv), fun k => .nil k _⟩,
    fun _ h => by cases h⟩

theorem Flows.lists (h : Flows d .text t e) : Flows d .text (Markup.lists t) e := by
  unfold Markup.lists
  suffices H : ∀ xs : List (Text × Text), (∀ x ∈ xs, x ∈ listTags) → ∀ t, Flows d .text t e →
      Flows d .text (xs.foldl (fun t x => Text.replace x.1 x.2 t) t) e from
    H listTags (fun _ hx => hx) t h
  intro xs hxs
  induction xs with
  | nil => exact fun _ h => h
  | cons x xs ih =>
    intro t h
    rw [List.forall_mem_cons] at hxs
    obtain ⟨w, hw, hs, hx⟩ := flows_of_mem_listTags x hxs.1
    rw [List.foldl_cons]
    refine ih hxs.2 _ ?_
    rw [hw]
    exact h.replaceTag hs hx

/-! ## what is left out -/

theorem sizeOpening_eq : "[size=".toList = '[' :: "size=".toList := by decide_cbv

theorem readSize_eq_some {r : Text} {a : Unit} (h : readSize t = some (a, r)) :
    ∃ p, t = '[' :: ("size=".toList ++ (p ++ ']' :: r)) ∧ ']' ∉ p := by
  obtain ⟨u, hu, h⟩ := Option.bind_eq_some_iff.1 h
  split at h
  · rename_i c rest hrest
    split at h
    · cases h
    · cases h
      have hc := List.head?_dropWhile_not (fun c => decide (c ≠ ']')) u
      rw [hrest] at hc
      have hc : c = ']' := by simpa using hc
      refine ⟨u.takeWhile fun c => decide (c ≠ ']'), ?_, fun hm => ?_⟩
      · rw [hc] at hrest
        rw [← hrest, List.takeWhile_append_dropWhile, Text.strip?_eq_some.1 hu, sizeOpening_eq,
          List.cons_append]
      · have := List.all_eq_true.1 List.all_takeWhile _ hm
        simp at this
  · cases h

theorem takes_readSize : Text.Takes readSize := by
  intro t a r h
  obtain ⟨p, rfl, -⟩ := readSize_eq_some h
  simp only [List.length_cons, List.length_append]
  omega

theorem leads_readSize : Leads (Text.search readSize) fun k _ l => k = l := by
  intro d e t x hx ht
  obtain ⟨u, rfl, hu⟩ := Text.search_eq_some hx
  obtain ⟨p, rfl, hp⟩ := readSize_eq_some hu
  have hs : Sought ("size=".toList ++ p) := .of_front (by decide_cbv) hp (by decide_cbv)
  have ht' : Flows d .text (x.before ++ (bracketed ("size=".toList ++ p) ++ x.after)) e := by
    simpa [bracketed] using ht
  obtain ⟨k, hk, -, hr⟩ := ht'.cut_bracketed hs
  exact ⟨k, k, hk, rfl, hr⟩

theorem Flows.font (h : Flows d .text t e) : Rule.font.once Span.inner t = t := by
  have hl : Leads Rule.font.find (WithParam "font=".toList) :=
    leads_find_param (c := "/font".toList) (by decide_cbv) (by decide_cbv) rfl
      (by decide_cbv) (by decide_cbv) (sought_iff.1 (by decide_cbv))
  refine Rule.once_of_none (by decide_cbv) ?_ _
  cases hx : Rule.font.find t with
  | none => rfl
  | some x =>
    obtain ⟨k, l, -, ⟨-, -, htag⟩, -⟩ := hl d e t x hx h
    refine absurd htag.named (not_named (fun hm => ?_) (by simp [tagFronts, List.isPrefixOf]))
    have hfix := isPrefixOf_of_mem_tagNames _ hm _ (.tail _ (.head _))
    exact ne_append_of_isPrefixOf hfix _ rfl

theorem Flows.unplaced (h : Flows d .text t e) : Flows d .text (Markup.unplaced t) e := by
  have hsize : "[/size]".toList = bracketed "/size".toList := by decide_cbv
  have hcenter := h.once (r := Rule.center) (o := "center".toList) (c := "/center".toList)
    (.of_isPaired (by decide_cbv)) fun _ _ _ hs => hs
  have hleft := hcenter.once (r := Rule.left) (o := "left".toList) (c := "/left".toList)
    (.of_isPaired (by decide_cbv)) fun _ _ _ hs => hs
  unfold Markup.unplaced
  dsimp only
  rw [hleft.font, hsize]
  refine Flows.replaceTag (sought_iff.1 (by decide_cbv)) (fun k => .nil k _) ?_
  exact hleft.rewrite takes_readSize.shrinks leads_readSize fun k _ _ h => h ▸ .nil k _

/-! ## tables -/

theorem isPlain_of_mem_lengthText {x : Float} {c : Char} (h : c ∈ lengthText x) :
    isPlain c = true := by
  have hchars : ∀ c ∈ lengthChars, isPlain c = true := by decide
  exact hchars c (mem_lengthChars h)

/-- a part of the text width, which another argument may follow. -/
theorem flows_textWidth (width : Float) (hm : m = .word ∨ m = .closed)
    (h : Flows d .closed t e) : Flows d m (Tex.group (textWidth width) ++ t) e := by
  rw [Tex.group, textWidth, List.cons_append, List.append_assoc, List.append_assoc]
  refine .argument hm (Flows.plains (fun c hc => isPlain_of_mem_lengthText hc) ?_ .arg)
  exact Flows.control String.toList_ofList (by decide) (.close h) .text

theorem Flows.line (h : Flows d .text s e) : Flows d .text (Tex.line s) e :=
  h.append (.plain (by decide) (.nil e _))

theorem flows_rowRule (d : Nat) : Flows d .text rowRule d := by
  have h₃ := Flows.filled (u := "0.3em".toList) (by decide) (by decide) (.inr rfl)
    (.nil d .closed)
  have h₂ := Flows.filled (u := "0.3em".toList) (by decide) (by decide) (.inr rfl) h₃
  have h₁ := Flows.filled (u := "0em".toList) (by decide) (by decide) (.inl rfl) h₂
  have := Flows.control (m := .text) (d := d) (e := d) (c := 's') (u := "pecialrule".toList)
    String.toList_ofList (by decide) h₁
  simpa [rowRule, Tex.command] using this

theorem flows_tabulary (width : Float) (d : Nat) : Flows d .text
    (Tex.command "begin" ["tabulary".toList, textWidth width, "LLLLLLLLLLLLLL".toList]) d := by
  have h₃ := Flows.filled (u := "LLLLLLLLLLLLLL".toList) (by decide) (by decide) (.inr rfl)
    (.nil d .closed)
  have h₂ := flows_textWidth width (.inr rfl) h₃
  have h₁ := Flows.filled (u := "tabulary".toList) (by decide) (by decide) (.inl rfl) h₂
  have := Flows.control (m := .text) (d := d) (e := d) (c := 'b') (u := "egin".toList)
    String.toList_ofList (by decide) h₁
  simpa [Tex.command] using this

theorem Flows.tableText {width : Float} {k l : Nat} {x : Span} (h : Flows k .text x.inner l) :
    Flows k .text (Markup.tableText width x) l := by
  unfold Markup.tableText
  split
  · rename_i hnil
    rw [hnil] at h
    rw [h.eq_of_nil]
    exact .nil l _
  · have hend : Flows l .text (Tex.line (closeEnv "tabulary")) l :=
      (flows_closeEnv (by decide) (by decide) l).line
    have hbody := ((((flows_tabulary width k).append (Flows.nil k .text).line).append
      (flows_rowRule k).line).append h).append hend
    have hbreak : Flows l .text paragraph l :=
      .plain (by decide) (.plain (by decide) (.nil l _))
    have := Flows.groupControl (m := .text) (c := 's') (u := "mall".toList) String.toList_ofList
      (by decide) (by decide) (hbody.enclose hbreak .word)
    simpa [Tex.group] using this

theorem Flows.table {width : Float} (h : Flows d .text t e) :
    Flows d .text (Rule.table.once (Markup.tableText width) t) e :=
  h.once (o := "table".toList) (c := "/table".toList) (.of_isPaired (by decide_cbv)) fun _ _ _ hs =>
    hs.tableText

theorem Flows.row (h : Flows d .text t e) : Flows d .text (Rule.row.once rowText t) e :=
  h.once (o := "tr".toList) (c := "/tr".toList) (.of_isPaired (by decide_cbv)) fun _ _ l hs => by
    have hend : Flows l .text ("\\\\".toList ++ Tex.line rowRule) l := by
      rw [String.toList_ofList]
      exact .sign (by decide) (flows_rowRule l).line
    have := hs.append hend
    rwa [← List.append_assoc] at this

/-- what a cell holds leads on. -/
theorem Flows.cellContent {k l : Nat} {x : Span} (h : Flows k .text x.inner l) :
    Flows k .text (Markup.cellContent x) l :=
  (folds_newline.flows_mapRuns h.trim).trim

theorem Flows.cellText (width : Float) (h : Flows d .text s e) :
    Flows d .text (Markup.cellText width s) e := by
  have hamp : Flows e .text ['&'] e := .plain (by decide) (.nil e _)
  have hargs := flows_textWidth width (.inr rfl) (.argument (.inr rfl) (h.enclose hamp .arg))
  have := Flows.control (m := .text) (c := 'p') (u := "box".toList) String.toList_ofList
    (by decide) (Flows.option (w := ['c']) (by decide_cbv) hargs)
  simpa [Markup.cellText, commandWith, Tex.group] using this

end

end Markup
end Bookpress
