import Bookpress.Proofs.Text.Rewriting
import Bookpress.Tex.Tidy

/-!
# Squeezed documents

Tidying a document squeezes it and then sets its end.  Squeezing leaves most characters alone: only
line ends are unified, invisible characters dropped and empty lines folded, and what becomes of
them depends on their neighbours of the same kind alone.

* `squeeze_append_cons` : a character that is not loose separates the texts around it.
* `squeeze_cons_of_isLoose` : a loose character changes at most the line feeds in front of what
  follows.
* `prefix_dropInvisible` : what stands at the front of a squeezed text stands at the front once the
  invisible characters are dropped.
* `tidy_append_close` : the end of a document that ends with a brace is set as it is.
-/

namespace Bookpress
namespace Tex

/-- a document in its final form, up to its end. -/
def squeeze (t : Text) : Text := foldBlankLines (dropInvisible (unifyLineEnds t))

/-- the characters that squeezing may drop or write in another way. -/
def isLoose (c : Char) : Bool := Text.isLineEnd c || isInvisible c

theorem tidy_eq (t : Text) : tidy t = endLine (squeeze t) := rfl

section
variable {c : Char} {a b t u : Text}

theorem ne_of_not_isLoose (h : isLoose c = false) :
    c ≠ '\r' ∧ c ≠ '\n' ∧ isInvisible c = false := by
  simpa [isLoose, Text.isLineEnd, and_assoc] using h

/-! ## the three steps -/

theorem unifyLineEnds_append_cons (h : c ≠ '\r' ∧ c ≠ '\n') (a b : Text) :
    unifyLineEnds (a ++ c :: b) = unifyLineEnds a ++ c :: unifyLineEnds b := by
  have hc : c ∉ ['\r', '\n'] := by simp [h]
  unfold unifyLineEnds
  rw [Text.replace_append_cons (by decide) ['\n'] hc, List.map_append, List.map_cons, if_neg h.1]

/-- a line end is unified with at most one that follows it. -/
theorem unifyLineEnds_cons (h : Text.isLineEnd c = true) (t : Text) :
    ∃ r, unifyLineEnds (c :: t) = '\n' :: r := by
  have hc : c = '\r' ∨ c = '\n' := by simpa [Text.isLineEnd] using h
  cases hs : Text.strip? ['\r', '\n'] (c :: t) with
  | some r =>
    refine ⟨unifyLineEnds r, ?_⟩
    unfold unifyLineEnds
    rw [Text.strip?_eq_some.1 hs, Text.replace_append (by decide)]
    rfl
  | none =>
    refine ⟨unifyLineEnds t, ?_⟩
    unfold unifyLineEnds
    rw [Text.replace_cons_of_not (by decide) ['\n'] hs, List.map_cons]
    rcases hc with rfl | rfl <;> rfl

theorem foldBlankLines_append_cons (h : c ≠ '\n') (a b : Text) :
    foldBlankLines (a ++ c :: b) = foldBlankLines a ++ c :: foldBlankLines b :=
  Text.mapRuns_append_cons (by simpa using h) a b

theorem foldBlankLines_eq_nil (h : foldBlankLines t = []) : t = [] := by
  cases t with
  | nil => rfl
  | cons c t =>
    unfold foldBlankLines at h
    by_cases hc : c = '\n'
    · rw [Text.mapRuns_cons_of_pos (by simpa using hc)] at h
      split at h <;> simp at h
    · rw [Text.mapRuns_cons_of_neg (by simpa using hc)] at h
      cases h

/-! ## squeezing along a text -/

@[simp] theorem squeeze_nil : squeeze [] = [] := by
  simp [squeeze, unifyLineEnds, dropInvisible, foldBlankLines, Text.replace_nil]

theorem squeeze_append_cons (h : isLoose c = false) (a b : Text) :
    squeeze (a ++ c :: b) = squeeze a ++ c :: squeeze b := by
  obtain ⟨hr, hn, hi⟩ := ne_of_not_isLoose h
  unfold squeeze dropInvisible
  rw [unifyLineEnds_append_cons ⟨hr, hn⟩, List.filter_append,
    List.filter_cons_of_pos (by simp [hi]), foldBlankLines_append_cons hn]

theorem squeeze_cons (h : isLoose c = false) (t : Text) : squeeze (c :: t) = c :: squeeze t := by
  have := squeeze_append_cons h [] t
  rwa [squeeze_nil] at this

/-- text without loose characters is left alone. -/
theorem squeeze_append (h : ∀ c ∈ u, isLoose c = false) (t : Text) :
    squeeze (u ++ t) = u ++ squeeze t := by
  induction u with
  | nil => rfl
  | cons c u ih =>
    rw [List.forall_mem_cons] at h
    rw [List.cons_append, squeeze_cons h.1, ih h.2, List.cons_append]

theorem mem_unifyLineEnds (h : c ∈ unifyLineEnds t) : c ≠ '\r' ∧ (c ∈ t ∨ c = '\n') := by
  obtain ⟨d, hd, rfl⟩ := List.mem_map.1 h
  by_cases hr : d = '\r'
  · rw [if_pos hr]
    exact ⟨by decide, .inr rfl⟩
  · rw [if_neg hr]
    exact ⟨hr, (Text.mem_replace (by decide) hd).imp_right List.mem_singleton.1⟩

theorem mem_foldBlankLines (h : ∀ x ∈ t, x = '\n') (hc : c ∈ foldBlankLines t) : c = '\n' := by
  cases t with
  | nil => simp [foldBlankLines] at hc
  | cons d t =>
    have hall : ∀ x ∈ d :: t, decide (x = '\n') = true := fun x hx => decide_eq_true (h x hx)
    rw [List.forall_mem_cons] at hall
    have htake : t.takeWhile (fun x => decide (x = '\n')) = t := by
      have := @List.takeWhile_append_of_pos _ _ t [] hall.2
      simpa using this
    have hdrop : t.dropWhile (fun x => decide (x = '\n')) = [] := by
      have := @List.dropWhile_append_of_pos _ _ t [] hall.2
      simpa using this
    unfold foldBlankLines at hc
    rw [Text.mapRuns_cons_of_pos hall.1, htake, hdrop, Text.mapRuns_nil, List.append_nil] at hc
    split at hc
    · simpa using hc
    · exact h c hc

/-- loose characters become line feeds, or nothing. -/
theorem eq_newline_of_mem_squeeze (h : ∀ x ∈ u, isLoose x = true) :
    ∀ c ∈ squeeze u, c = '\n' := by
  refine fun c hc => mem_foldBlankLines (fun x hx => ?_) hc
  obtain ⟨hx, hi⟩ := List.mem_filter.1 hx
  obtain ⟨hr, hx | hx⟩ := mem_unifyLineEnds hx
  · have := h x hx
    simp only [Bool.not_eq_true'] at hi
    simpa [isLoose, Text.isLineEnd, hi, hr] using this
  · exact hx

/-- a line end stays one. -/
theorem newline_mem_unifyLineEnds (hc : c ∈ t) (hl : Text.isLineEnd c = true) :
    '\n' ∈ unifyLineEnds t := by
  induction t with
  | nil => cases hc
  | cons d t ih =>
    cases hd : Text.isLineEnd d with
    | true =>
      obtain ⟨r, hr⟩ := unifyLineEnds_cons hd t
      rw [hr]
      exact List.mem_cons_self
    | false =>
      have hne : d ≠ '\r' ∧ d ≠ '\n' := by simpa [Text.isLineEnd] using hd
      have hcd : c ≠ d := fun e => by rw [e, hd] at hl; cases hl
      have := unifyLineEnds_append_cons hne [] t
      rw [List.nil_append] at this
      rw [this]
      refine List.mem_append_right _ (List.mem_cons_of_mem _ (ih ?_))
      exact (List.mem_cons.1 hc).resolve_left hcd

/-- only invisible characters come to nothing. -/
theorem isInvisible_of_squeeze_eq_nil (h : squeeze u = []) : ∀ c ∈ u, isInvisible c = true := by
  have hdrop : ∀ x ∈ unifyLineEnds u, isInvisible x = true := by
    have := List.filter_eq_nil_iff.1 (foldBlankLines_eq_nil h)
    exact fun x hx => by simpa using this x hx
  intro c hc
  cases hl : Text.isLineEnd c with
  | true => exact absurd (hdrop _ (newline_mem_unifyLineEnds hc hl)) (by decide)
  | false =>
    obtain ⟨v, w, rfl⟩ := List.append_of_mem hc
    have hne : c ≠ '\r' ∧ c ≠ '\n' := by simpa [Text.isLineEnd] using hl
    refine hdrop c ?_
    rw [unifyLineEnds_append_cons hne]
    simp

/-! ## runs of loose characters -/

/-- a run of loose characters up to one that is not is squeezed on its own. -/
theorem squeeze_run (t : Text) :
    squeeze t = squeeze (t.takeWhile isLoose) ++ squeeze (t.dropWhile isLoose) := by
  conv => lhs; rw [← List.takeWhile_append_dropWhile (p := isLoose) (l := t)]
  cases hd : t.dropWhile isLoose with
  | nil => simp
  | cons c r =>
    have hc := List.head?_dropWhile_not isLoose t
    rw [hd] at hc
    have hc : isLoose c = false := by simpa using hc
    rw [squeeze_append_cons hc, squeeze_cons hc]

theorem isLoose_of_mem_takeWhile {t : Text} (h : c ∈ t.takeWhile isLoose) : isLoose c = true :=
  List.all_eq_true.1 List.all_takeWhile c h

/-- **A loose character changes at most the line feeds in front of what follows,** and a line end
leaves one of them. -/
theorem squeeze_cons_of_isLoose (h : isLoose c = true) (t : Text) :
    ∃ v w z, squeeze (c :: t) = v ++ z ∧ squeeze t = w ++ z ∧ (∀ x ∈ v, x = '\n') ∧
      (∀ x ∈ w, x = '\n') ∧ (isInvisible c = false → v ≠ []) := by
  have hrun := squeeze_run (c :: t)
  rw [List.takeWhile_cons_of_pos h, List.dropWhile_cons_of_pos h] at hrun
  refine ⟨_, _, _, hrun, squeeze_run t, eq_newline_of_mem_squeeze (List.forall_mem_cons.2
    ⟨h, fun _ => isLoose_of_mem_takeWhile⟩), eq_newline_of_mem_squeeze fun _ =>
      isLoose_of_mem_takeWhile, fun hi hnil => ?_⟩
  have := isInvisible_of_squeeze_eq_nil hnil c List.mem_cons_self
  rw [hi] at this
  cases this

/-- the first character of a squeezed text is what is left in front once invisible characters are
dropped, unless it is a line feed. -/
theorem dropInvisible_of_squeeze_eq_cons (hc : c ≠ '\n') {y : Text} (h : squeeze t = c :: y) :
    ∃ x, dropInvisible t = c :: dropInvisible x ∧ squeeze x = y := by
  have hrun := squeeze_run t
  have hloose := eq_newline_of_mem_squeeze (u := t.takeWhile isLoose) fun _ =>
    isLoose_of_mem_takeWhile
  cases hw : squeeze (t.takeWhile isLoose) with
  | cons d w =>
    -- a run that leaves something leaves a line feed in front
    rw [h, hw, List.cons_append] at hrun
    obtain ⟨rfl, -⟩ := List.cons.inj hrun
    exact absurd (hloose c (by rw [hw]; exact List.mem_cons_self)) hc
  | nil =>
    rw [h, hw, List.nil_append] at hrun
    have hvanish : dropInvisible t = dropInvisible (t.dropWhile isLoose) := by
      have hinv := isInvisible_of_squeeze_eq_nil hw
      conv => lhs; rw [← List.takeWhile_append_dropWhile (p := isLoose) (l := t)]
      unfold dropInvisible
      rw [List.filter_append, List.filter_eq_nil_iff.2 fun x hx => by simp [hinv x hx],
        List.nil_append]
    cases hd : t.dropWhile isLoose with
    | nil => rw [hd, squeeze_nil] at hrun; cases hrun
    | cons d x =>
      have hd' := List.head?_dropWhile_not isLoose t
      rw [hd] at hd'
      have hd' : isLoose d = false := by simpa using hd'
      rw [hd, squeeze_cons hd'] at hrun
      obtain ⟨rfl, rfl⟩ := List.cons.inj hrun
      refine ⟨x, ?_, rfl⟩
      rw [hvanish, hd]
      exact List.filter_cons_of_pos (by simp [(ne_of_not_isLoose hd').2.2])

/-- **What stands at the front of a squeezed text** stands there once invisible characters are
dropped. -/
theorem prefix_dropInvisible {p y : Text} (hp : '\n' ∉ p) (h : squeeze t = p ++ y) :
    p <+: dropInvisible t := by
  induction p generalizing t with
  | nil => exact List.nil_prefix
  | cons c p ih =>
    rw [List.mem_cons, not_or] at hp
    obtain ⟨x, hx, hy⟩ := dropInvisible_of_squeeze_eq_cons (Ne.symm hp.1) h
    rw [hx, List.cons_prefix_cons]
    exact ⟨rfl, ih hp.2 hy⟩

/-! ## the end of a document -/

theorem squeeze_newline : squeeze ['\n'] = ['\n'] := by
  have hunify : unifyLineEnds ['\n'] = ['\n'] := by
    rw [unifyLineEnds, Text.replace_of_lacks (by decide) _ (by decide)]
    rfl
  rw [squeeze, hunify]
  show foldBlankLines ['\n'] = ['\n']
  rw [foldBlankLines, Text.mapRuns_cons_of_pos (by decide)]
  simp

/-- **A document that ends with a brace and a line feed** keeps its end. -/
theorem tidy_append_close (t : Text) :
    tidy (t ++ ['}', '\n']) = squeeze (t ++ ['}', '\n']) := by
  have hs : squeeze (t ++ '}' :: ['\n']) = (squeeze t ++ ['}']) ++ ['\n'] := by
    rw [squeeze_append_cons (by decide), squeeze_newline]
    simp
  rw [tidy_eq, hs, endLine, Text.trimEnd, Text.dropEndWhile_append_of_pos (by decide),
    Text.dropEndWhile_append_of_neg (by decide)]

end

end Tex
end Bookpress
