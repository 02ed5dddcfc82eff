import Bookpress.Proofs.Tex.Squeezing
import Bookpress.Proofs.Text.Splitting

/-!
# The normal form of a document

A tidy document has line feeds as its only line ends, no invisible characters, at most one empty
line in a row, and one line feed at its end.  The passes feed each other: a line end that is
unified and an invisible character that is dropped can bring line feeds together.  So line feeds
are folded after both, and what becomes of a run of them does not depend on what stands around it.

* `foldBlankLines_run` : a run of line feeds is folded to at most two of them.
* `filter_squeeze` : all other characters are kept in their order.
* `normal_tidy`, `tidy_of_normal` : tidy documents are in normal form, and documents in normal form
  are left alone.
-/

namespace Bookpress

namespace Tex

/-- the form that documents have once they are tidy. -/
structure Normal (t : Text) : Prop where
  feeds : '\r' ∉ t
  visible : ∀ c ∈ t, isInvisible c = false
  /-- no three line feeds stand in a row. -/
  folded : ¬List.replicate 3 '\n' <:+: t
  /-- there is one line feed at the end, and no white space before it. -/
  ended : t = ['\n'] ∨ ∃ u c, t = u ++ [c, '\n'] ∧ Text.isBlank c = false

variable {c : Char} {a b t u : Text}

/-! ## runs of line feeds -/

/-- a text is a run of line feeds up to its end, or up to another character. -/
theorem feeds_induction {motive : Text → Prop} (last : ∀ k, motive (List.replicate k '\n'))
    (more : ∀ k c t, c ≠ '\n' → motive t → motive (List.replicate k '\n' ++ c :: t)) (t : Text) :
    motive t := by
  -- the run in front of the text may have begun before
  suffices H : ∀ k, motive (List.replicate k '\n' ++ t) from H 0
  induction t with
  | nil =>
    intro k
    rw [List.append_nil]
    exact last k
  | cons c t ih =>
    intro k
    by_cases hc : c = '\n'
    · have := ih (k + 1)
      subst hc
      rwa [List.replicate_succ', List.append_assoc, List.singleton_append] at this
    · exact more k c t hc (ih 0)

@[simp] theorem foldBlankLines_nil : foldBlankLines [] = [] := Text.mapRuns_nil

theorem foldBlankLines_replicate (k : Nat) :
    foldBlankLines (List.replicate k '\n') = List.replicate (min k 2) '\n' := by
  cases k with
  | zero => exact foldBlankLines_nil
  | succ k =>
    have htake : (List.replicate k '\n').takeWhile (fun c => decide (c = '\n'))
        = List.replicate k '\n' := by simp
    have hdrop : (List.replicate k '\n').dropWhile (fun c => decide (c = '\n')) = [] := by simp
    unfold foldBlankLines
    rw [List.replicate_succ, Text.mapRuns_cons_of_pos (by decide), htake, hdrop, Text.mapRuns_nil,
      List.append_nil, ← List.replicate_succ, List.length_replicate]
    split
    · rw [Nat.min_eq_right (by omega)]
      rfl
    · rw [Nat.min_eq_left (by omega)]

theorem foldBlankLines_cons (hc : c ≠ '\n') (t : Text) :
    foldBlankLines (c :: t) = c :: foldBlankLines t :=
  Text.mapRuns_cons_of_neg (by simpa using hc) t

/-- a run of line feeds begins where a text ends that does not end with one, -/
theorem foldBlankLines_append_of_getLast? (ha : a.getLast? ≠ some '\n') (t : Text) :
    foldBlankLines (a ++ t) = foldBlankLines a ++ foldBlankLines t := by
  rcases List.eq_nil_or_concat a with rfl | ⟨a, c, rfl⟩
  · rw [foldBlankLines_nil, List.nil_append, List.nil_append]
  · rw [List.concat_eq_append] at ha ⊢
    have hc : c ≠ '\n' := by simpa using ha
    rw [foldBlankLines_append_cons hc, foldBlankLines_nil, List.append_assoc,
      List.singleton_append, foldBlankLines_append_cons hc, List.append_assoc]
    rfl

/-- and it ends where a text begins that does not begin with one. -/
theorem foldBlankLines_append_of_head? (hb : b.head? ≠ some '\n') (t : Text) :
    foldBlankLines (t ++ b) = foldBlankLines t ++ foldBlankLines b := by
  cases b with
  | nil => rw [foldBlankLines_nil, List.append_nil, List.append_nil]
  | cons c b =>
    have hc : c ≠ '\n' := by simpa using hb
    rw [foldBlankLines_append_cons hc, foldBlankLines_cons hc]

/-- **A run of line feeds is folded to at most two of them,** whatever stands around it. -/
theorem foldBlankLines_run (k : Nat) (ha : a.getLast? ≠ some '\n') (hb : b.head? ≠ some '\n') :
    foldBlankLines (a ++ (List.replicate k '\n' ++ b))
      = foldBlankLines a ++ (List.replicate (min k 2) '\n' ++ foldBlankLines b) := by
  rw [foldBlankLines_append_of_getLast? ha, foldBlankLines_append_of_head? hb,
    foldBlankLines_replicate]

/-- a folded text begins and ends as the text does. -/
theorem head?_foldBlankLines (hb : b.head? ≠ some '\n') :
    (foldBlankLines b).head? ≠ some '\n' := by
  cases b with
  | nil => simp
  | cons c b =>
    have hc : c ≠ '\n' := by simpa using hb
    rwa [foldBlankLines_cons hc]

theorem getLast?_foldBlankLines (ha : a.getLast? ≠ some '\n') :
    (foldBlankLines a).getLast? ≠ some '\n' := by
  rcases List.eq_nil_or_concat a with rfl | ⟨a, c, rfl⟩
  · simp
  · rw [List.concat_eq_append] at ha ⊢
    have hc : c ≠ '\n' := by simpa using ha
    rw [foldBlankLines_append_cons hc, foldBlankLines_nil]
    simpa using hc

theorem newline_not_mem_replicate (hc : c ≠ '\n') (k : Nat) : c ∉ List.replicate k '\n' :=
  fun h => hc (List.eq_of_mem_replicate h)

theorem lt_of_not_infix {k : Nat} (h : ¬List.replicate 3 '\n' <:+: List.replicate k '\n') :
    k < 3 := by
  by_contra hk
  obtain ⟨j, rfl⟩ := Nat.exists_eq_add_of_le (Nat.le_of_not_lt hk)
  refine h (List.IsPrefix.isInfix ?_)
  rw [List.replicate_append_replicate.symm]
  exact List.prefix_append _ _

/-- **No three line feeds are left in a row.** -/
theorem not_infix_foldBlankLines (t : Text) :
    ¬List.replicate 3 '\n' <:+: foldBlankLines t := by
  have hshort : ∀ k, ¬List.replicate 3 '\n' <:+: List.replicate (min k 2) '\n' := by
    intro k h
    have := h.length_le
    simp only [List.length_replicate] at this
    omega
  induction t using feeds_induction with
  | last k =>
    rw [foldBlankLines_replicate]
    exact hshort k
  | more k c t hc ih =>
    rw [foldBlankLines_append_cons hc, foldBlankLines_replicate]
    intro h
    rcases Text.infix_append_cons (newline_not_mem_replicate hc 3) h with h | h
    · exact hshort k h
    · exact ih h

/-- a text without three line feeds in a row has nothing to fold. -/
theorem foldBlankLines_of_folded (h : ¬List.replicate 3 '\n' <:+: t) : foldBlankLines t = t := by
  induction t using feeds_induction with
  | last k =>
    have hk := lt_of_not_infix h
    rw [foldBlankLines_replicate, Nat.min_eq_left (by omega)]
  | more k c t hc ih =>
    have hk := lt_of_not_infix fun hk => h (hk.trans (List.prefix_append _ _).isInfix)
    have ht : ¬List.replicate 3 '\n' <:+: t := fun ht =>
      h (ht.trans ((List.suffix_cons c t).trans (List.suffix_append _ _)).isInfix)
    rw [foldBlankLines_append_cons hc, foldBlankLines_replicate, ih ht,
      Nat.min_eq_left (by omega)]

/-! ## the characters that are kept -/

/-- **Squeezing keeps all characters but line ends and invisible ones, in their order.** -/
theorem filter_squeeze (t : Text) :
    (squeeze t).filter (fun c => !isLoose c) = t.filter (fun c => !isLoose c) := by
  have hfeeds : ∀ v : Text, (∀ x ∈ v, x = '\n') → v.filter (fun c => !isLoose c) = [] := by
    intro v hv
    refine List.filter_eq_nil_iff.2 fun x hx => ?_
    rw [hv x hx]
    decide
  induction t with
  | nil => rw [squeeze_nil]
  | cons c t ih =>
    cases hc : isLoose c with
    | false => rw [squeeze_cons hc, List.filter_cons_of_pos (by simp [hc]),
        List.filter_cons_of_pos (by simp [hc]), ih]
    | true =>
      obtain ⟨v, w, z, hcons, hrest, hv, hw, -⟩ := squeeze_cons_of_isLoose hc t
      rw [hrest, List.filter_append, hfeeds w hw, List.nil_append] at ih
      rw [hcons, List.filter_append, hfeeds v hv, List.nil_append, ih,
        List.filter_cons_of_neg (by simp [hc])]

theorem mem_of_mem_foldBlankLines (h : c ∈ foldBlankLines t) : c ∈ t := by
  induction t using feeds_induction with
  | last k =>
    rw [foldBlankLines_replicate] at h
    obtain ⟨hk, rfl⟩ := List.mem_replicate.1 h
    exact List.mem_replicate.2 ⟨by omega, rfl⟩
  | more k d t hd ih =>
    rw [foldBlankLines_append_cons hd, foldBlankLines_replicate, List.mem_append,
      List.mem_cons] at h
    rw [List.mem_append, List.mem_cons]
    rcases h with h | h | h
    · obtain ⟨hk, rfl⟩ := List.mem_replicate.1 h
      exact .inl (List.mem_replicate.2 ⟨by omega, rfl⟩)
    · exact .inr (.inl h)
    · exact .inr (.inr (ih h))

/-- what is left is no carriage return and not invisible. -/
theorem mem_squeeze (h : c ∈ squeeze t) : c ≠ '\r' ∧ isInvisible c = false := by
  obtain ⟨hmem, hvisible⟩ := List.mem_filter.1 (mem_of_mem_foldBlankLines h)
  exact ⟨(mem_unifyLineEnds hmem).1, by simpa using hvisible⟩

/-! ## the end -/

/-- a text has white space behind its last other character, or has no other. -/
theorem trimEnd_cases (t : Text) :
    ((∀ c ∈ t, Text.isBlank c = true) ∧ Text.trimEnd t = []) ∨
      ∃ u c w, t = u ++ c :: w ∧ Text.isBlank c = false ∧ (∀ k ∈ w, Text.isBlank k = true) ∧
        Text.trimEnd t = u ++ [c] := by
  obtain h | ⟨u, c, w, ht, hc, hw, hdrop⟩ := Text.dropEndWhile_cases Text.isBlank t
  · refine .inl ⟨h, ?_⟩
    have hall : ∀ c ∈ t.reverse, Text.isBlank c = true := fun c hc => h c (List.mem_reverse.1 hc)
    have hdrop := @List.dropWhile_append_of_pos _ _ _ [] hall
    rw [List.append_nil, List.dropWhile_nil] at hdrop
    rw [Text.trimEnd, Text.dropEndWhile, hdrop, List.reverse_nil]
  · exact .inr ⟨u, c, w, ht, hc, hw, hdrop⟩

/-- **Tidy documents are in normal form.** -/
theorem normal_tidy (t : Text) : Normal (tidy t) := by
  have hchars : ∀ c ∈ Text.trimEnd (squeeze t), c ≠ '\r' ∧ isInvisible c = false := fun c hc =>
    mem_squeeze (Text.mem_of_mem_dropEndWhile hc)
  have hall : ∀ c ∈ tidy t, c ≠ '\r' ∧ isInvisible c = false := by
    intro c hc
    rw [tidy_eq, endLine, List.mem_append, List.mem_singleton] at hc
    rcases hc with hc | rfl
    · exact hchars c hc
    · decide
  refine ⟨fun h => (hall _ h).1 rfl, fun c hc => (hall c hc).2, ?_, ?_⟩
  · have hsqueeze := not_infix_foldBlankLines (dropInvisible (unifyLineEnds t))
    have hone : ¬List.replicate 3 '\n' <:+: ['\n'] := fun h => absurd h.length_le (by decide)
    rw [tidy_eq, endLine]
    obtain ⟨-, hnil⟩ | ⟨u, c, w, ht, hc, -, hend⟩ := trimEnd_cases (squeeze t)
    · rw [hnil]
      exact hone
    · have hne : c ≠ '\n' := fun e => by rw [e] at hc; exact absurd hc (by decide)
      rw [hend, List.append_assoc]
      intro h
      rcases Text.infix_append_cons (newline_not_mem_replicate hne 3) h with h | h
      · refine hsqueeze (h.trans ?_)
        show u <:+: squeeze t
        rw [ht]
        exact (List.prefix_append _ _).isInfix
      · exact hone h
  · rw [tidy_eq, endLine]
    obtain ⟨-, hnil⟩ | ⟨u, c, w, -, hc, -, hend⟩ := trimEnd_cases (squeeze t)
    · rw [hnil]
      exact .inl rfl
    · rw [hend, List.append_assoc]
      exact .inr ⟨u, c, rfl, hc⟩

theorem unifyLineEnds_of_not_mem (h : '\r' ∉ t) : unifyLineEnds t = t := by
  have hmap : ∀ c ∈ t, (if c = '\r' then '\n' else c) = c := by
    intro c hc
    refine if_neg ?_
    rintro rfl
    exact h hc
  rw [unifyLineEnds, Text.replace_of_lacks (by decide) _ (Text.lacks_of_not_mem h),
    List.map_congr_left hmap, List.map_id']

/-- **Documents in normal form are left alone.** -/
theorem tidy_of_normal (h : Normal t) : tidy t = t := by
  have hdrop : dropInvisible t = t := List.filter_eq_self.2 fun c hc => by simp [h.visible c hc]
  have hsqueeze : squeeze t = t := by
    rw [squeeze, unifyLineEnds_of_not_mem h.feeds, hdrop, foldBlankLines_of_folded h.folded]
  rw [tidy_eq, hsqueeze, endLine]
  obtain rfl | ⟨u, c, rfl, hc⟩ := h.ended
  · rfl
  · have htrim : Text.trimEnd (u ++ [c, '\n']) = u ++ [c] := by
      rw [show u ++ [c, '\n'] = (u ++ [c]) ++ ['\n'] by simp, Text.trimEnd,
        Text.dropEndWhile_append_of_pos (by decide), Text.dropEndWhile_append_of_neg hc]
    rw [htrim, List.append_assoc]
    rfl

/-- **Tidying keeps all characters but line ends and invisible ones**, in their order and up to
white space at the end. -/
theorem filter_tidy (t : Text) : ∃ w, (∀ c ∈ w, Text.isBlank c = true) ∧
    t.filter (fun c => !isLoose c) = (tidy t).filter (fun c => !isLoose c) ++ w := by
  have hnewline : ['\n'].filter (fun c => !isLoose c) = [] := by decide
  rw [← filter_squeeze, tidy_eq, endLine, List.filter_append, hnewline, List.append_nil]
  obtain ⟨hall, hnil⟩ | ⟨u, c, w, ht, -, hw, hend⟩ := trimEnd_cases (squeeze t)
  · rw [hnil]
    exact ⟨_, fun c hc => hall c (List.mem_filter.1 hc).1, rfl⟩
  · refine ⟨w.filter fun c => !isLoose c, fun c hc => hw c (List.mem_filter.1 hc).1, ?_⟩
    rw [hend, ht, ← List.filter_append, List.append_assoc, List.singleton_append]

end Tex
end Bookpress
