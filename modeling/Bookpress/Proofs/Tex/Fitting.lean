import Bookpress.Proofs.Tex.Breaking

/-!
# Which wrapped lines fit

A wrapped line can be longer than the width even where no word is.  No line is broken before its
first character, so a space is kept on an empty line, and a word as long as the width then ends one
character behind it.

* `fits_iff` : whether all lines fit is the walk along the text that counts columns.
* `fits_wrapFrom_succ` : wrapped lines are longer than the width by one character at most.
* `lines_fit_iff` : they fit exactly if no such word follows a space on an empty line.
-/

namespace Bookpress
namespace Tex

/-- the words of a text, between its spaces and line feeds. -/
def words (t : Text) : List Text := (Text.split '\n' t).flatMap (Text.split ' ')

/-- no line of a text is longer than the width, if its first line stands behind `column`
characters. -/
def Fits (width : Nat) : Nat → Text → Prop
  | column, [] => column ≤ width
  | column, c :: t => column ≤ width ∧ Fits width (if c = '\n' then 0 else column + 1) t

/-! ## words -/

theorem words_feed (t : Text) : words ('\n' :: t) = [] :: words t := by
  simp [words, Text.split]

theorem words_space (t : Text) : words (' ' :: t) = [] :: words t := by
  cases h : Text.split '\n' t with
  | nil => exact absurd h (Text.split_ne_nil _ _)
  | cons l ls => simp [words, Text.split, h]

theorem words_cons {c : Char} (hs : c ≠ ' ') (hf : c ≠ '\n') {t w : Text} {ws : List Text}
    (h : words t = w :: ws) : words (c :: t) = (c :: w) :: ws := by
  unfold words at h ⊢
  cases hl : Text.split '\n' t with
  | nil => exact absurd hl (Text.split_ne_nil _ _)
  | cons l ls =>
    cases hv : Text.split ' ' l with
    | nil => exact absurd hv (Text.split_ne_nil _ _)
    | cons v vs =>
      rw [hl, List.flatMap_cons, hv, List.cons_append, List.cons.injEq] at h
      simp [Text.split, hs, hf, hl, hv, h.1, h.2]

theorem words_eq_cons (t : Text) : ∃ ws, words t = firstWord t :: ws := by
  induction t with
  | nil => exact ⟨[], rfl⟩
  | cons c t ih =>
    obtain ⟨ws, h⟩ := ih
    by_cases hf : c = '\n'
    · exact ⟨words t, by rw [hf, words_feed, firstWord_feed]⟩
    · by_cases hs : c = ' '
      · exact ⟨words t, by rw [hs, words_space, firstWord_space]⟩
      · exact ⟨ws, by rw [words_cons hs hf h, firstWord_cons hs hf]⟩

theorem length_firstWord_le {width : Nat} {t : Text} (h : ∀ w ∈ words t, w.length ≤ width) :
    (firstWord t).length ≤ width := by
  obtain ⟨ws, hws⟩ := words_eq_cons t
  exact h _ (by simp [hws])

theorem words_narrow_of_cons {width : Nat} {c : Char} {t : Text}
    (h : ∀ w ∈ words (c :: t), w.length ≤ width) : ∀ w ∈ words t, w.length ≤ width := by
  by_cases hf : c = '\n'
  · rw [hf, words_feed, List.forall_mem_cons] at h
    exact h.2
  · by_cases hs : c = ' '
    · rw [hs, words_space, List.forall_mem_cons] at h
      exact h.2
    · obtain ⟨ws, hws⟩ := words_eq_cons t
      rw [words_cons hs hf hws, List.forall_mem_cons, List.length_cons] at h
      rw [hws, List.forall_mem_cons]
      exact ⟨by omega, h.2⟩

/-! ## columns -/

section
variable {width column : Nat}

theorem fits_feed {t : Text} :
    Fits width column ('\n' :: t) ↔ column ≤ width ∧ Fits width 0 t := Iff.rfl

theorem fits_cons {c : Char} (hf : c ≠ '\n') {t : Text} :
    Fits width column (c :: t) ↔ column ≤ width ∧ Fits width (column + 1) t := by
  rw [Fits, if_neg hf]

theorem Step.fits_cons {column' n : Nat} {t u : Text} {c d : Char}
    (h : Step width column t c d column') :
    Fits n column (d :: u) ↔ column ≤ n ∧ Fits n column' u := by
  cases h with
  | feed => exact fits_feed
  | breaks => exact fits_feed
  | stays => exact Tex.fits_cons (by decide)
  | plain _ hf => exact Tex.fits_cons hf

theorem Fits.column_le {t : Text} (h : Fits width column t) : column ≤ width := by
  cases t with
  | nil => exact h
  | cons c t => exact h.1

theorem Fits.firstWord_le {t : Text} (h : Fits width column t) :
    column + (firstWord t).length ≤ width := by
  induction t generalizing column with
  | nil => exact h.column_le
  | cons c t ih =>
    by_cases hf : c = '\n'
    · rw [hf, firstWord_feed]
      exact h.column_le
    · by_cases hs : c = ' '
      · rw [hs, firstWord_space]
        exact h.column_le
      · have := ih ((fits_cons hf).1 h).2
        rw [firstWord_cons hs hf, List.length_cons]
        omega

theorem fits_iff {t l : Text} {ls : List Text} (h : Text.split '\n' t = l :: ls) :
    Fits width column t ↔ column + l.length ≤ width ∧ ∀ m ∈ ls, m.length ≤ width := by
  induction t generalizing column l ls with
  | nil =>
    cases h
    simp [Fits]
  | cons c t ih =>
    obtain ⟨m, ms, hm⟩ := List.exists_cons_of_ne_nil (Text.split_ne_nil '\n' t)
    by_cases hf : c = '\n'
    · have e : [] :: m :: ms = l :: ls := by rw [← h, hf, Text.split, if_pos rfl, hm]
      cases e
      rw [hf, fits_feed, ih hm, Nat.zero_add, List.forall_mem_cons]
      rfl
    · have e : (c :: m) :: ms = l :: ls := by rw [← h, Text.split, if_neg hf, hm]
      cases e
      rw [fits_cons hf, ih hm, List.length_cons, ← and_assoc]
      refine and_congr_left fun _ => ?_
      omega

theorem lines_fit_iff_fits {t : Text} :
    (∀ l ∈ Text.split '\n' t, l.length ≤ width) ↔ Fits width 0 t := by
  obtain ⟨l, ls, h⟩ := List.exists_cons_of_ne_nil (Text.split_ne_nil '\n' t)
  rw [fits_iff h, h, List.forall_mem_cons, Nat.zero_add]

/-- a wrapped line goes past the width by one character at most. -/
theorem fits_wrapFrom_succ {t : Text} (hc : column + (firstWord t).length ≤ width + 1)
    (hw : ∀ w ∈ words t, w.length ≤ width) :
    Fits (width + 1) column (wrapFrom width column t) := by
  induction t generalizing column with
  | nil => exact hc
  | cons c t ih =>
    have ht := words_narrow_of_cons hw
    have hnext := length_firstWord_le ht
    obtain ⟨d, column', hstep, he⟩ := wrapFrom_step width column c t
    -- the next word ends one character behind the width at most, on this line or on the next
    have hword : column' + (firstWord t).length ≤ width + 1 := by
      cases hstep with
      | feed => omega
      | breaks => omega
      | stays room => omega
      | plain hs hf =>
        rw [firstWord_cons hs hf, List.length_cons] at hc
        omega
    rw [he, hstep.fits_cons]
    exact ⟨by omega, ih hword ht⟩

/-! ## the words that do not fit -/

theorem forall_eq_cons_iff {c : Char} {t : Text} {P : Text → Text → Prop} :
    (∀ a b, c :: t = a ++ ' ' :: b → P a b)
      ↔ (c = ' ' → P [] t) ∧ ∀ a b, t = a ++ ' ' :: b → P (c :: a) b := by
  constructor
  · intro h
    exact ⟨fun hc => h [] t (by rw [hc, List.nil_append]),
      fun a b ht => h (c :: a) b (by rw [ht, List.cons_append])⟩
  · intro h a b ht
    cases a with
    | nil =>
      rw [List.nil_append, List.cons.injEq] at ht
      rw [← ht.2]
      exact h.1 ht.1
    | cons d a =>
      rw [List.cons_append, List.cons.injEq] at ht
      rw [← ht.1]
      exact h.2 a b ht.2

/-- behind `before`, no word as long as the width follows a space on an empty line of `u`. -/
def Roomy (width : Nat) (before t u : Text) : Prop :=
  ∀ a b, t = a ++ ' ' :: b → (firstWord b).length = width →
    lastLine (before ++ u.take a.length) ≠ []

theorem roomy_cons {c d : Char} {before t u : Text} :
    Roomy width before (c :: t) (d :: u)
      ↔ (c = ' ' → (firstWord t).length = width → lastLine before ≠ [])
        ∧ Roomy width (before ++ [d]) t u := by
  unfold Roomy
  rw [forall_eq_cons_iff]
  simp

theorem fits_wrapFrom_iff (before : Text) {t : Text} (hbefore : (lastLine before).length = column)
    (hc : column + (firstWord t).length ≤ width) (hw : ∀ w ∈ words t, w.length ≤ width) :
    Fits width column (wrapFrom width column t)
      ↔ Roomy width before t (wrapFrom width column t) := by
  induction t generalizing column before with
  | nil =>
    refine ⟨fun _ a b h => absurd h (by simp), fun _ => ?_⟩
    exact hc
  | cons c t ih =>
    have ht := words_narrow_of_cons hw
    have hnext := length_firstWord_le ht
    have hcolumn : column ≤ width := by omega
    obtain ⟨d, column', hstep, he⟩ := wrapFrom_step width column c t
    have hrest := ih (before ++ [d]) (hstep.length_lastLine hbefore)
    rw [he, hstep.fits_cons, roomy_cons]
    cases hstep with
    | feed =>
      rw [hrest (by omega) ht]
      simp [hcolumn]
    | breaks begun long =>
      have hbegun : lastLine before ≠ [] := by
        rw [← List.length_pos_iff, hbefore]
        exact begun
      rw [hrest (by omega) ht]
      simp [hcolumn, hbegun]
    | stays room =>
      by_cases hroom : column + 1 + (firstWord t).length ≤ width
      · -- the next word is shorter than the width
        have hshort : (firstWord t).length ≠ width := by omega
        rw [hrest hroom ht]
        simp [hcolumn, hshort]
      · -- the line is empty, and the next word as long as the width
        have hempty : lastLine before = [] := by
          rw [← List.length_eq_zero_iff]
          omega
        have hlong : (firstWord t).length = width := by omega
        refine iff_of_false ?_ fun h => h.1 rfl hlong hempty
        rintro ⟨-, h⟩
        have := h.firstWord_le
        rw [(wraps_wrapFrom width _ t).firstWord_eq] at this
        exact hroom this
    | plain hs hf =>
      rw [firstWord_cons hs hf, List.length_cons] at hc
      rw [hrest (by omega) ht]
      simp [hcolumn, hs]

end

/-- **Which wrapped lines fit.**  In a text without words longer than the width, wrapped lines are
longer than the width by one character at most, and none is longer exactly if no word as long as
the width follows a space on an empty line. -/
theorem lines_fit_iff {width : Nat} {t : Text} (hw : ∀ w ∈ words t, w.length ≤ width) :
    (∀ l ∈ Text.split '\n' (wrap width t), l.length ≤ width + 1)
      ∧ ((∀ l ∈ Text.split '\n' (wrap width t), l.length ≤ width)
        ↔ ∀ a b, t = a ++ ' ' :: b → (firstWord b).length = width →
            lastLine ((wrap width t).take a.length) ≠ []) := by
  have hfirst := length_firstWord_le hw
  rw [lines_fit_iff_fits, lines_fit_iff_fits, wrap_eq_wrapFrom]
  refine ⟨fits_wrapFrom_succ (by omega) hw, ?_⟩
  exact fits_wrapFrom_iff [] rfl (by omega) hw

/-- a word as long as the width behind two spaces, where the second ends a line. -/
theorem lines_fit_last_space :
    (∀ w ∈ words "aa  bbbb".toList, w.length ≤ 4)
      ∧ ∀ a b, "aa  bbbb".toList = a ++ ' ' :: b → (firstWord b).length = 4 →
        lastLine ((wrap 4 "aa  bbbb".toList).take a.length) ≠ [] := by
  have hw : ∀ w ∈ words "aa  bbbb".toList, w.length ≤ 4 := by
    rw [String.toList_ofList]
    decide
  refine ⟨hw, (lines_fit_iff hw).2.1 ?_⟩
  rw [String.toList_ofList]
  decide

/-- after a break at the first of two spaces, the second stands on an empty line. -/
theorem not_lines_fit_two_spaces :
    ¬ ∀ (width : Nat) (t : Text), 1 ≤ width → (∀ w ∈ words t, w.length ≤ width) →
      ∀ l ∈ Text.split '\n' (wrap width t), l.length ≤ width := by
  intro h
  have hw : ∀ w ∈ words "aaaa  bbbb".toList, w.length ≤ 4 := by
    rw [String.toList_ofList]
    decide
  have := h 4 "aaaa  bbbb".toList (by decide) hw " bbbb".toList
  rw [String.toList_ofList, String.toList_ofList] at this
  exact absurd (this (by decide)) (by decide)

end Tex
end Bookpress
