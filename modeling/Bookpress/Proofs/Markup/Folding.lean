import Bookpress.Markup.Tag
import Bookpress.Proofs.Markup.Flow
import Bookpress.Proofs.Tex.Escaping

/-!
# White space and line ends in texts that flow

The passes that do not look at tags: they rewrite white space, line ends and the ends of a text,
in the parameters of tags as well.

* `Folds.flows` : runs of white space may be rewritten.
* `Breaks.flows` : line ends may become empty lines.
* `Flows.trim` : white space may be taken from both ends.
-/

namespace Bookpress
namespace Markup

open Tex

/-! ## the names of tags under a pass -/

theorem isBlank_of_mem_tagNames : ∀ w ∈ tagNames, ∀ c ∈ w, Text.isBlank c = false := by
  unfold tagNames
  repeat rw [String.toList_ofList]
  decide

theorem isBlank_of_mem_optionNames : ∀ w ∈ optionNames, ∀ c ∈ w, Text.isBlank c = false := by
  unfold optionNames
  repeat rw [String.toList_ofList]
  decide

/-- the fronts of tags with a parameter. -/
def tagFronts : List Text := ["color=".toList, "size=".toList, "url=".toList]

theorem isBlank_of_mem_tagFronts : ∀ u ∈ tagFronts, ∀ c ∈ u, Text.isBlank c = false := by
  unfold tagFronts
  repeat rw [String.toList_ofList]
  decide

theorem Named.map {op : Text → Text} {w : Text} (h : Named w)
    (fixed : ∀ w ∈ tagNames, op w = w)
    (front : ∀ u ∈ tagFronts, ∀ p, op (u ++ p) = u ++ op p)
    (url : ∀ t, (∀ c ∈ t, isTame c = true) →
      ∃ t', (∀ c ∈ t', isTame c = true) ∧ op (escape t) = escape t') : Named (op w) := by
  cases h with
  | fixed hw =>
    rw [fixed w hw]
    exact .fixed hw
  | color p =>
    rw [front _ (by simp [tagFronts])]
    exact .color _
  | size p =>
    rw [front _ (by simp [tagFronts])]
    exact .size _
  | url ht =>
    obtain ⟨t', ht', e⟩ := url _ ht
    rw [front _ (by simp [tagFronts]), e]
    exact .url ht'

/-! ## runs of white space -/

/-- `s` may stand in place of runs of the white space `p`. -/
structure Folds (p : Char → Bool) (s : Text) : Prop where
  blank : ∀ c, p c = true → Text.isBlank c = true
  bare : Bare s
  flows : ∀ {d e : Nat} {m : Mode} {c : Char} {t : Text}, p c = true →
    Flows d (m.next c) t e → Flows d m (s ++ t) e
  url : ∀ t, (∀ c ∈ t, isTame c = true) → ∃ t', (∀ c ∈ t', isTame c = true) ∧
    Text.mapRuns p (fun _ => s) (escape t) = escape t'

section
variable {p : Char → Bool} {s : Text} {d e : Nat} {m : Mode} {t : Text}

theorem Folds.of_not_blank (h : Folds p s) {c : Char} (hc : Text.isBlank c = false) :
    p c = false := by
  cases hp : p c with
  | false => rfl
  | true =>
    rw [h.blank c hp] at hc
    cases hc

theorem Folds.named (h : Folds p s) {w : Text} (hw : Named w) :
    Named (Text.mapRuns p (fun _ => s) w) := by
  refine hw.map (fun w hw => ?_) (fun u hu q => ?_) h.url
  · exact Text.mapRuns_of_forall_not fun c hc => h.of_not_blank (isBlank_of_mem_tagNames w hw c hc)
  · exact Text.mapRuns_append_of_forall_not
      (fun c hc => h.of_not_blank (isBlank_of_mem_tagFronts u hu c hc)) q

theorem Folds.bare_mapRuns (h : Folds p s) {w : Text} (hw : Bare w) :
    Bare (Text.mapRuns p (fun _ => s) w) :=
  ⟨fun hm => (Text.mem_mapRuns hm).elim hw.1 h.bare.1,
    fun hm => (Text.mem_mapRuns hm).elim hw.2 h.bare.2⟩

/-- white space leads to running text, or leaves the argument that it stands in. -/
theorem Mode.next_of_isBlank {c : Char} (hc : Text.isBlank c = true) (m : Mode) :
    m.next c = .text ∨ m.next c = .fill := by
  have ha := isAlpha_of_isBlank hc
  cases m with
  | text => exact .inl rfl
  | word => simp [Mode.next, ha]
  | arg => cases h : Text.isLineEnd c <;> simp [Mode.next, h]
  | fill => cases h : Text.isLineEnd c <;> simp [Mode.next, h]
  | closed => exact .inl rfl

/-- white space may be left out of running text and of an argument. -/
theorem Flows.of_next {c : Char} (hm : m = .text ∨ m = .fill) (hc : Text.isBlank c = true)
    (h : Flows d (m.next c) t e) : Flows d m t e := by
  rcases hm with rfl | rfl
  · exact h
  · rcases Mode.next_of_isBlank hc .fill with e | e <;> rw [e] at h
    · exact h.raise _
    · exact h

/-- **Runs of white space may be rewritten.** -/
theorem Folds.flows_mapRuns (h : Folds p s) (ht : Flows d m t e) :
    Flows d m (Text.mapRuns p (fun _ => s) t) e := by
  -- behind the first character of a run, the rest of the run is left out
  suffices H : Flows d m (Text.mapRuns p (fun _ => s) t) e ∧
      (m = .text ∨ m = .fill → Flows d m (Text.mapRuns p (fun _ => s) (t.dropWhile p)) e) from H.1
  have outside : ∀ {c : Char} {d e : Nat} {m : Mode} {t : Text}, p c = false →
      Flows d m (c :: Text.mapRuns p (fun _ => s) t) e →
      Flows d m (Text.mapRuns p (fun _ => s) (c :: t)) e ∧ (m = .text ∨ m = .fill →
        Flows d m (Text.mapRuns p (fun _ => s) ((c :: t).dropWhile p)) e) := by
    intro c d e m t hc hf
    rw [List.dropWhile_cons_of_neg (by simp [hc]), Text.mapRuns_cons_of_neg hc]
    exact ⟨hf, fun _ => hf⟩
  have slash := h.of_not_blank (c := '\\') (by decide)
  have bracket := h.of_not_blank (c := '[') (by decide)
  have close := h.of_not_blank (c := ']') (by decide)
  induction ht with
  | nil d m =>
    rw [List.dropWhile_nil, Text.mapRuns_nil]
    exact ⟨.nil d m, fun _ => .nil d m⟩
  | @plain d e m c t hc _ ih =>
    cases hp : p c with
    | false => exact outside hp (.plain hc ih.1)
    | true =>
      have hb := h.blank c hp
      rw [Text.mapRuns_cons_of_pos hp, List.dropWhile_cons_of_pos hp]
      exact ⟨h.flows hp (ih.2 (Mode.next_of_isBlank hb m)),
        fun hm => Flows.of_next hm hb (ih.2 (Mode.next_of_isBlank hb m))⟩
  | letter hc _ ih =>
    refine outside slash ?_
    rw [Text.mapRuns_cons_of_neg (h.of_not_blank (isBlank_of_isAlpha hc))]
    exact .letter hc ih.1
  | sign hc _ ih =>
    refine outside slash ?_
    rw [Text.mapRuns_cons_of_neg (h.of_not_blank (isBlank_of_isSign hc))]
    exact .sign hc ih.1
  | argument hm _ ih => exact outside (h.of_not_blank (by decide)) (.argument hm ih.1)
  | group hc hn _ ih =>
    refine outside (h.of_not_blank (by decide)) ?_
    rw [Text.mapRuns_cons_of_neg slash,
      Text.mapRuns_cons_of_neg (h.of_not_blank (isBlank_of_isAlpha hc))]
    exact .group hc hn ih.1
  | close _ ih => exact outside (h.of_not_blank (by decide)) (.close ih.1)
  | @option d e w t hw _ ih =>
    refine outside bracket ?_
    rw [Text.mapRuns_append_of_forall_not fun c hc =>
      h.of_not_blank (isBlank_of_mem_optionNames w hw c hc), Text.mapRuns_cons_of_neg close]
    exact .option hw ih.1
  | tag bare named inner _ ihw ih =>
    refine outside bracket ?_
    rw [Text.mapRuns_append_cons close]
    exact .tag (h.bare_mapRuns bare) (h.named named) ihw.1 ih.1

end

/-! ## the runs that are rewritten -/

theorem isBlank_of_isLineEnd {c : Char} (h : Text.isLineEnd c = true) : Text.isBlank c = true := by
  simp only [Text.isLineEnd, Bool.or_eq_true, decide_eq_true_eq] at h
  rcases h with rfl | rfl <;> decide

/-- a target is on one line, as it is escaped. -/
theorem isLineEnd_of_mem_escape {t : Text} (ht : ∀ c ∈ t, isTame c = true) {c : Char}
    (hc : c ∈ escape t) : Text.isLineEnd c = false := by
  cases hl : Text.isLineEnd c with
  | false => rfl
  | true =>
    have hb : ∀ x ∈ specials, c ∉ x.2 := fun x hx hm => by
      have := isBlank_of_mem_specials x hx c hm
      rw [isBlank_of_isLineEnd hl] at this
      cases this
    have := ht c (mem_of_mem_escape hb hc).1
    simp [isTame, hl] at this

/-- a line end leads to running text. -/
theorem Mode.next_of_isLineEnd {c : Char} (hc : Text.isLineEnd c = true) (m : Mode) :
    m.next c = .text := by
  have ha := isAlpha_of_isBlank (isBlank_of_isLineEnd hc)
  cases m <;> simp [Mode.next, hc, ha]

theorem folds_lineEnds {s : Text} (bare : Bare s)
    (flows : ∀ {d e : Nat} {t : Text} (m : Mode), Flows d .text t e → Flows d m (s ++ t) e) :
    Folds Text.isLineEnd s where
  blank _ := isBlank_of_isLineEnd
  bare := bare
  flows hc h := flows _ (by rwa [Mode.next_of_isLineEnd hc] at h)
  url t ht := ⟨t, ht, Text.mapRuns_of_forall_not fun _ hc => isLineEnd_of_mem_escape ht hc⟩

/-- line ends in program texts. -/
theorem folds_codeLine : Folds Text.isLineEnd "\n\\\\".toList := by
  rw [String.toList_ofList]
  refine folds_lineEnds (by decide) fun m h => ?_
  exact .plain (by decide) (.sign (by decide) h)

/-- line ends in cells. -/
theorem folds_newline : Folds Text.isLineEnd (group (Tex.control "newline")) := by
  refine folds_lineEnds (by decide_cbv) fun m h => ?_
  rw [group, List.cons_append, List.append_assoc]
  exact Flows.groupControl String.toList_ofList (by decide) (by decide)
    (.close (h.raise .closed)) m

/-- white space in the caption of a link. -/
theorem folds_blanks : Folds Text.isBlank [' '] where
  blank _ h := h
  bare := by decide
  flows {d e m c t} hc h := by
    refine .plain (by decide) ?_
    rcases Mode.next_of_isBlank hc m with hn | hn <;> rw [hn] at h
    · exact h.raise _
    · cases m with
      | text => cases hn
      | word => simp only [Mode.next] at hn; split at hn <;> cases hn
      | arg => exact h
      | fill => exact h
      | closed => cases hn
  url t ht := by
    refine ⟨_, fun c hc => ?_, mapRuns_escape (fun _ h => h) (by decide_cbv) t⟩
    rcases Text.mem_mapRuns hc with hc | hc
    · exact ht c hc
    · rw [List.mem_singleton.1 hc]
      decide

/-! ## line ends -/

/-- `p` may become an empty line wherever it stands. -/
structure Breaks (p : Text) : Prop where
  head : ∃ a q, p = a :: q ∧ (a = '\n' ∨ a = '\\')
  bare : Bare p
  /-- what stands behind `p` does not need it. -/
  behind : ∀ {d e : Nat} {m : Mode} {r : Text}, Flows d m (p ++ r) e → Flows d .text r e
  /-- no `p` begins inside of a sign. -/
  sign : ∀ {d e : Nat} {c : Char} {t : Text}, isSign c = true → Flows d .text t e →
    Text.strip? p (c :: t) = none
  /-- no `p` begins a group. -/
  group : ∀ {c : Char} {t : Text}, c ≠ 't' → Text.strip? p ('\\' :: c :: t) = none
  fixed : ∀ w ∈ tagNames ++ optionNames, Text.replace p paragraph w = w
  url : ∀ t, (∀ c ∈ t, isTame c = true) → Text.replace p paragraph (escape t) = escape t

section
variable {p : Text} {d e : Nat} {m : Mode} {t : Text}

theorem Breaks.ne_nil (h : Breaks p) : p ≠ [] := by
  obtain ⟨a, q, rfl, -⟩ := h.head
  exact List.cons_ne_nil a q

theorem Breaks.strip?_eq_none (h : Breaks p) {c : Char} (hn : c ≠ '\n') (hs : c ≠ '\\') (t : Text) :
    Text.strip? p (c :: t) = none := by
  obtain ⟨a, q, rfl, ha⟩ := h.head
  refine Text.strip?_cons_cons_of_ne ?_ q t
  rintro rfl
  exact ha.elim hn hs

theorem Breaks.replace_cons (h : Breaks p) {c : Char} (hn : c ≠ '\n') (hs : c ≠ '\\') (t : Text) :
    Text.replace p paragraph (c :: t) = c :: Text.replace p paragraph t :=
  Text.replace_cons_of_not h.ne_nil _ (h.strip?_eq_none hn hs t)

theorem Breaks.replace_letter (h : Breaks p) {c : Char} (hc : c.isAlpha = true) (t : Text) :
    Text.replace p paragraph (c :: t) = c :: Text.replace p paragraph t := by
  refine h.replace_cons ?_ ?_ t <;> rintro rfl <;> revert hc <;> decide

theorem Breaks.named (h : Breaks p) {w : Text} (hw : Named w) :
    Named (Text.replace p paragraph w) := by
  refine hw.map (fun w hw => h.fixed w (List.mem_append_left _ hw)) (fun u hu q => ?_)
    fun t ht => ⟨t, ht, h.url t ht⟩
  obtain ⟨a, r, rfl, ha⟩ := h.head
  have hn : ∀ u ∈ tagFronts, '\n' ∉ u ∧ '\\' ∉ u := by decide_cbv
  refine Text.replace_append_of_not_mem _ ?_ q
  rcases ha with rfl | rfl
  · exact (hn u hu).1
  · exact (hn u hu).2

theorem Breaks.bare_replace (h : Breaks p) {w : Text} (hw : Bare w) :
    Bare (Text.replace p paragraph w) :=
  ⟨fun hm => (Text.mem_replace h.ne_nil hm).elim hw.1 (by decide),
    fun hm => (Text.mem_replace h.ne_nil hm).elim hw.2 (by decide)⟩

/-- **Line ends may become empty lines.** -/
theorem Breaks.flows (h : Breaks p) (ht : Flows d m t e) :
    Flows d m (Text.replace p paragraph t) e := by
  induction t using Text.length_induction generalizing d m e with
  | step t ih =>
    cases hs : Text.strip? p t with
    | some r =>
      have hr := Text.strip?_eq_some.1 hs
      have hlen := List.length_pos_iff.2 h.ne_nil
      rw [hr] at ht
      rw [hr, List.length_append] at ih
      rw [hr, Text.replace_append h.ne_nil]
      exact Flows.plains (by decide) (ih r (by omega) (h.behind ht)) m
    | none =>
      cases ht with
      | nil => rw [Text.replace_nil h.ne_nil]; exact .nil d m
      | plain hc ht =>
        rw [Text.replace_cons_of_not h.ne_nil _ hs]
        exact .plain hc (ih _ (by simp) ht)
      | letter hc ht =>
        rw [Text.replace_cons_of_not h.ne_nil _ hs, h.replace_letter hc]
        exact .letter hc (ih _ (by simp) ht)
      | sign hc ht =>
        rw [Text.replace_cons_of_not h.ne_nil _ hs,
          Text.replace_cons_of_not h.ne_nil _ (h.sign hc ht)]
        exact .sign hc (ih _ (by simp) ht)
      | argument hm ht =>
        rw [Text.replace_cons_of_not h.ne_nil _ hs]
        exact .argument hm (ih _ (by simp) ht)
      | group hc hg ht =>
        rw [Text.replace_cons_of_not h.ne_nil _ hs,
          Text.replace_cons_of_not h.ne_nil _ (h.group hg), h.replace_letter hc]
        exact .group hc hg (ih _ (by simp only [List.length_cons]; omega) ht)
      | close ht =>
        rw [Text.replace_cons_of_not h.ne_nil _ hs]
        exact .close (ih _ (by simp) ht)
      | @option _ _ w t hw ht =>
        rw [Text.replace_cons_of_not h.ne_nil _ hs, Text.replace_append_cons h.ne_nil _ h.bare.2,
          h.fixed w (List.mem_append_right _ hw)]
        exact .option hw (ih _ (by simp; omega) ht)
      | tag bare named inner ht =>
        rw [Text.replace_cons_of_not h.ne_nil _ hs, Text.replace_append_cons h.ne_nil _ h.bare.2]
        exact .tag (h.bare_replace bare) (h.named named) (ih _ (by simp) inner)
          (ih _ (by simp; omega) ht)

end

/-! ## what stands behind -/

section
variable {d e : Nat} {m : Mode} {c : Char} {t u : Text}

theorem Flows.of_plain (hc : isPlain c = true) (h : Flows d m (c :: t) e) :
    Flows d (m.next c) t e := by
  cases h with
  | plain _ h => exact h
  | letter _ _ => simp [isPlain] at hc
  | sign _ _ => simp [isPlain] at hc
  | argument _ _ => simp [isPlain] at hc
  | group _ _ _ => simp [isPlain] at hc
  | close _ => simp [isPlain] at hc
  | option _ _ => simp [isPlain] at hc
  | tag _ _ _ _ => simp [isPlain] at hc

theorem Flows.of_letter (hc : c.isAlpha = true) (h : Flows d m ('\\' :: c :: t) e) :
    Flows d .word t e := by
  cases h with
  | plain hp _ => simp [isPlain] at hp
  | letter _ h => exact h
  | sign hs _ => simp [isSign, hc] at hs

theorem Flows.of_letters (hu : ∀ c ∈ u, c.isAlpha = true) (h : Flows d .word (u ++ t) e) :
    Flows d .word t e := by
  induction u with
  | nil => exact h
  | cons c u ih =>
    rw [List.forall_mem_cons] at hu
    have := Flows.of_plain (isPlain_of_isAlpha hu.1) h
    simp only [Mode.next, hu.1, if_true] at this
    exact ih hu.2 this

theorem Flows.of_plains (hu : ∀ c ∈ u, isPlain c = true) (h : Flows d .text (u ++ t) e) :
    Flows d .text t e := by
  induction u with
  | nil => exact h
  | cons c u ih =>
    rw [List.forall_mem_cons] at hu
    exact ih hu.2 (Flows.of_plain hu.1 h)

theorem Flows.of_stop (h : Flows d m ('{' :: '}' :: t) e) :
    (m = .word ∨ m = .closed) ∧ Flows d .text t e := by
  cases h with
  | plain hp _ => simp [isPlain] at hp
  | argument hm h =>
    refine ⟨hm, ?_⟩
    cases h with
    | plain hp _ => simp [isPlain] at hp
    | close h => exact h

end

/-- `<br>` as it is escaped. -/
theorem escape_br : escape "<br>".toList = '\\' :: 't' :: ("extless".toList ++ '{' :: '}' :: 'b' :: 'r'
    :: '\\' :: 't' :: ("extgreater".toList ++ ['{', '}'])) := by decide_cbv

theorem breaks_newline : Breaks ['\n'] where
  head := ⟨_, _, rfl, .inl rfl⟩
  bare := by decide
  behind {d e m r} h := by
    have := Flows.of_plain (by decide) h
    rwa [Mode.next_of_isLineEnd (by decide)] at this
  sign {d e c t} hc _ := by
    refine Text.strip?_cons_cons_of_ne ?_ [] t
    rintro rfl
    revert hc
    decide
  group _ := rfl
  fixed := by
    unfold tagNames optionNames
    repeat rw [String.toList_ofList]
    decide
  url t ht := by
    have hm : '\n' ∉ escape t := fun hm => absurd (isLineEnd_of_mem_escape ht hm) (by decide)
    have := Text.replace_append_of_not_mem (a := '\n') (q := []) paragraph hm []
    rwa [List.append_nil, Text.replace_nil (List.cons_ne_nil _ _), List.append_nil] at this

/-- an empty group stands behind control words only, so no `<br>` begins inside of a sign. -/
theorem not_flows_behind_slash {d e : Nat} {r : Text} :
    ¬ Flows d .text ('t' :: ("extless".toList ++ '{' :: '}' :: r)) e := by
  intro h
  have h₁ := Flows.of_plain (by decide) h
  have h₂ := Flows.of_plains (by rw [String.toList_ofList]; decide) h₁
  rcases (Flows.of_stop h₂).1 with hm | hm <;> cases hm

/-- the reader of `<br>` as it is escaped. -/
def readBr (t : Text) : Option (Unit × Text) :=
  (Text.strip? (escape "<br>".toList) t).map fun r => ((), r)

theorem readBr_of_ne {c : Char} (h : c ≠ '\\') (t : Text) : readBr (c :: t) = none := by
  rw [readBr, escape_br, Text.strip?_cons_cons_of_ne (Ne.symm h)]
  rfl

theorem readBr_slash {c : Char} (hc : c ≠ 't') (t : Text) : readBr ('\\' :: c :: t) = none := by
  rw [readBr, escape_br, Text.strip?_cons_cons, Text.strip?_cons_cons_of_ne (Ne.symm hc)]
  rfl

theorem readBr_tilde (t : Text) : readBr (Tex.control "textasciitilde" ++ stop ++ t) = none := by
  rw [readBr, escape_br, Tex.control, String.toList_ofList, String.toList_ofList]
  rfl

/-- the sequences of the characters of targets. -/
theorem specials_of_isTame : ∀ x ∈ specials, isTame x.1 = true → '\\' ∉ x.2.tail ∧
    (x.2 = Tex.control "textasciitilde" ++ stop
      ∨ x.2.tail.head? ≠ some 't' ∧ x.2.tail ≠ []) := by
  unfold specials Tex.control
  repeat rw [String.toList_ofList]
  decide

/-- no `<br>` begins in the form of a character of a target. -/
theorem misses_br {c : Char} (hc : isTame c = true) : Text.Misses readBr (escapeChar c) := by
  cases hs : isSpecial c with
  | false =>
    rw [escapeChar_of_not_isSpecial hs]
    exact ⟨readBr_of_ne (ne_slash_of_not_isSpecial hs), trivial⟩
  | true =>
    have hm := escapeChar_of_isSpecial hs
    have he : escapeChar c = '\\' :: (escapeChar c).tail := exists_tail_of_mem_specials _ hm
    obtain ⟨htail, hcase⟩ := specials_of_isTame _ hm hc
    have hrest : Text.Misses readBr (escapeChar c).tail :=
      Text.misses_of_forall fun d hd => readBr_of_ne (by rintro rfl; exact htail hd)
    have hfront : ∀ r, readBr (escapeChar c ++ r) = none := by
      intro r
      rcases hcase with e | ⟨hne, hnil⟩
      · have e : escapeChar c = _ := e
        rw [e]
        exact readBr_tilde r
      · obtain ⟨d, u, e⟩ := List.exists_cons_of_ne_nil hnil
        have e : (escapeChar c).tail = d :: u := e
        simp only [e, List.head?_cons] at hne
        rw [he, e]
        exact readBr_slash (fun h => hne (congrArg some h)) _
    rw [he] at hfront ⊢
    exact ⟨hfront, hrest⟩

theorem breaks_br : Breaks (escape "<br>".toList) where
  head := ⟨_, _, escape_br, .inr rfl⟩
  bare := by
    rw [escape_br]
    repeat rw [String.toList_ofList]
    decide
  behind {d e m r} h := by
    rw [escape_br] at h
    simp only [List.cons_append, List.append_assoc, List.nil_append] at h
    have less := Flows.of_letters (by rw [String.toList_ofList]; decide)
      (Flows.of_letter (by decide) h)
    have b := Flows.of_plain (by decide) (Flows.of_stop less).2
    have br := Flows.of_plain (by decide) b
    have greater := Flows.of_letters (by rw [String.toList_ofList]; decide)
      (Flows.of_letter (by decide) br)
    exact (Flows.of_stop greater).2
  sign {d e c t} hc ht := by
    rw [escape_br]
    cases hs : Text.strip? _ (c :: t) with
    | none => rfl
    | some r =>
      have e := Text.strip?_eq_some.1 hs
      simp only [List.cons_append, List.append_assoc, List.cons.injEq] at e
      obtain ⟨-, rfl⟩ := e
      exact absurd ht not_flows_behind_slash
  group {c t} hc := by
    rw [escape_br, Text.strip?_cons_cons]
    exact Text.strip?_cons_cons_of_ne (Ne.symm hc) _ _
  fixed := by
    rw [escape_br]
    unfold tagNames optionNames
    repeat rw [String.toList_ofList]
    decide
  url t ht := by
    have hne : escape "<br>".toList ≠ [] := by rw [escape_br]; exact List.cons_ne_nil _ _
    refine Text.rewrite_of_misses (Text.takes_strip hne) _ (show Text.Misses readBr _ from ?_)
    induction t with
    | nil => trivial
    | cons c t ih =>
      rw [List.forall_mem_cons] at ht
      rw [escape_cons]
      exact (misses_br ht.1).append (ih ht.2)

/-! ## the ends of a text -/

section
variable {d e : Nat} {m : Mode} {t : Text}

theorem Flows.trimStart (h : Flows d .text t e) : Flows d .text (Text.trimStart t) e := by
  unfold Text.trimStart
  induction t with
  | nil => exact h
  | cons c t ih =>
    cases hc : Text.isBlank c with
    | false => rwa [List.dropWhile_cons_of_neg (by simp [hc])]
    | true =>
      rw [List.dropWhile_cons_of_pos hc]
      exact ih (Flows.of_plain (isPlain_of_isBlank hc) h)

theorem Flows.eq_of_nil (h : Flows d m [] e) : d = e := by
  cases h
  rfl

/-- white space stands behind a tag, not at its end. -/
theorem eq_of_concat_eq_tag {c : Char} (hc : Text.isBlank c = true) {w r : Text}
    (h : t ++ [c] = '[' :: (w ++ ']' :: r)) :
    ∃ a, t = '[' :: (w ++ ']' :: a) ∧ a ++ [c] = r := by
  rcases List.eq_nil_or_concat r with rfl | ⟨a, x, rfl⟩
  · have e : t ++ [c] = ('[' :: w) ++ [']'] := by simpa using h
    obtain ⟨-, e⟩ := List.append_inj' e rfl
    obtain ⟨rfl, -⟩ := List.cons.inj e
    cases hc
  · have e : t ++ [c] = ('[' :: (w ++ ']' :: a)) ++ [x] := by simpa using h
    obtain ⟨e, ex⟩ := List.append_inj' e rfl
    exact ⟨a, e, by rw [ex]; simp⟩

/-- white space at the end of a text does not stand in a front without white space. -/
theorem exists_of_concat_eq {c : Char} (hc : Text.isBlank c = true) {p r : Text}
    (hp : ∀ x ∈ p, Text.isBlank x = false) (h : t ++ [c] = p ++ r) :
    ∃ a, t = p ++ a ∧ a ++ [c] = r := by
  refine Text.exists_of_append_cons_eq (fun hm => ?_) h
  rw [hp c hm] at hc
  cases hc

/-- white space at the end of a text may be left out. -/
theorem Flows.of_concat {c : Char} (hc : Text.isBlank c = true) (h : Flows d m (t ++ [c]) e) :
    Flows d m t e := by
  generalize hu : t ++ [c] = u at h
  induction h generalizing t with
  | nil => simp at hu
  | @plain d e m x r hx h ih =>
    cases t with
    | nil =>
      obtain ⟨rfl, rfl⟩ := List.cons.inj hu
      rw [h.eq_of_nil]
      exact .nil _ _
    | cons y t =>
      simp only [List.cons_append, List.cons.injEq] at hu
      obtain ⟨rfl, hu⟩ := hu
      exact .plain hx (ih hu)
  | @letter d e m x r hx h ih =>
    obtain ⟨a, rfl, ha⟩ := exists_of_concat_eq hc (p := ['\\', x])
      (by simp only [List.forall_mem_cons]; exact ⟨rfl, isBlank_of_isAlpha hx, by simp⟩) hu
    exact .letter hx (ih ha)
  | @sign d e m x r hx h ih =>
    obtain ⟨a, rfl, ha⟩ := exists_of_concat_eq hc (p := ['\\', x])
      (by simp only [List.forall_mem_cons]; exact ⟨rfl, isBlank_of_isSign hx, by simp⟩) hu
    exact .sign hx (ih ha)
  | @argument d e m r hm h ih =>
    obtain ⟨a, rfl, ha⟩ := exists_of_concat_eq hc (p := ['{']) (by decide) hu
    exact .argument hm (ih ha)
  | @group d e m x r hx hn h ih =>
    obtain ⟨a, rfl, ha⟩ := exists_of_concat_eq hc (p := ['{', '\\', x])
      (by simp only [List.forall_mem_cons]; exact ⟨rfl, rfl, isBlank_of_isAlpha hx, by simp⟩) hu
    exact .group hx hn (ih ha)
  | @close d e m r h ih =>
    obtain ⟨a, rfl, ha⟩ := exists_of_concat_eq hc (p := ['}']) (by decide) hu
    exact .close (ih ha)
  | @option d e w r hw h ih =>
    obtain ⟨a, rfl, hr⟩ := eq_of_concat_eq_tag hc hu
    exact .option hw (ih hr)
  | @tag d e m w r bare named inner h _ ih =>
    obtain ⟨a, rfl, hr⟩ := eq_of_concat_eq_tag hc hu
    exact .tag bare named inner (ih hr)

theorem Flows.trimEnd (h : Flows d m t e) : Flows d m (Text.trimEnd t) e := by
  suffices H : ∀ u : Text, Flows d m u.reverse e →
      Flows d m (u.dropWhile Text.isBlank).reverse e from
    H t.reverse (by rwa [List.reverse_reverse])
  intro u hu
  induction u with
  | nil => exact hu
  | cons c u ih =>
    cases hc : Text.isBlank c with
    | false => rwa [List.dropWhile_cons_of_neg (by simp [hc])]
    | true =>
      rw [List.dropWhile_cons_of_pos hc]
      rw [List.reverse_cons] at hu
      exact ih (hu.of_concat hc)

/-- **White space may be taken from both ends.** -/
theorem Flows.trim (h : Flows d .text t e) : Flows d .text (Text.trim t) e :=
  h.trimStart.trimEnd

end

end Markup
end Bookpress
