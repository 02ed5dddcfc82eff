import Bookpress.Proofs.Text.Rewriting
import Bookpress.Proofs.Text.Splitting
import Bookpress.Text.Blank
import Mathlib.Data.List.TakeWhile

/-!
# Gaps

White space stands in gaps between other characters.  Folding writes a single space for every gap,
and trimming takes away the gaps at the ends.

* `gaps_induction` : a text, from one gap to the next.
* `exists_trim` : trimming takes white space off the ends, and leaves none there.
* `spaced_foldBlanks` : in a folded text all white space is single spaces.
-/

namespace Bookpress
namespace Text

variable {t u : Text} {c : Char}

/-! ## from gap to gap -/

/-- a text is white space up to its end, or up to another character. -/
theorem gaps_induction {motive : Text → Prop} (last : ∀ u, (∀ c ∈ u, isBlank c = true) → motive u)
    (more : ∀ u c t, (∀ c ∈ u, isBlank c = true) → isBlank c = false → motive t →
      motive (u ++ c :: t)) (t : Text) : motive t := by
  -- the gap in front of the text may have begun before
  suffices H : ∀ u, (∀ c ∈ u, isBlank c = true) → motive (u ++ t) from H [] (by simp)
  induction t with
  | nil =>
    intro u hu
    rw [List.append_nil]
    exact last u hu
  | cons c t ih =>
    intro u hu
    cases hc : isBlank c with
    | true =>
      have := ih (u ++ [c]) (List.forall_mem_append.2 ⟨hu, by simpa using hc⟩)
      rwa [List.append_assoc] at this
    | false => exact more u c t hu hc (ih [] (by simp))

theorem mapRuns_gap (f : Text → Text) (hne : u ≠ []) (hu : ∀ c ∈ u, isBlank c = true) :
    mapRuns isBlank f u = f u := by
  obtain ⟨c, v, rfl⟩ := List.exists_cons_of_ne_nil hne
  rw [List.forall_mem_cons] at hu
  rw [mapRuns_cons_of_pos hu.1, List.takeWhile_eq_self_iff.2 hu.2,
    List.dropWhile_eq_nil_iff.2 hu.2, mapRuns_nil, List.append_nil]

theorem foldBlanks_gap (hu : ∀ c ∈ u, isBlank c = true) :
    foldBlanks u = if u = [] then [] else [' '] := by
  split
  · rename_i h
    rw [h]
    exact mapRuns_nil
  · rename_i h
    exact mapRuns_gap _ h hu

theorem foldBlanks_append_cons (hc : isBlank c = false) (u t : Text) :
    foldBlanks (u ++ c :: t) = foldBlanks u ++ c :: foldBlanks t :=
  mapRuns_append_cons hc u t

/-! ## ends -/

/-- no white space stands at the ends of a text. -/
structure Tight (t : Text) : Prop where
  first : ∀ c r, t = c :: r → isBlank c = false
  last : ∀ r c, t = r ++ [c] → isBlank c = false

theorem tight_nil : Tight [] where
  first _ _ h := by cases h
  last r _ h := by cases r <;> cases h

/-- **Trimming takes white space off the ends, and leaves none there.** -/
theorem exists_trim (t : Text) : ∃ u v, t = u ++ (trim t ++ v)
    ∧ (∀ c ∈ u, isBlank c = true) ∧ (∀ c ∈ v, isBlank c = true) ∧ Tight (trim t) := by
  have hstart : t.takeWhile isBlank ++ trimStart t = t := List.takeWhile_append_dropWhile
  have hblank : ∀ c ∈ t.takeWhile isBlank, isBlank c = true := fun _ => List.mem_takeWhile_imp
  have hfirst : ∀ c r, trimStart t = c :: r → isBlank c = false := by
    intro c r h
    have := List.head?_dropWhile_not isBlank t
    rw [show t.dropWhile isBlank = c :: r from h] at this
    simpa using this
  obtain hall | ⟨w, c, v, hw, hc, hv, htrim⟩ := dropEndWhile_cases isBlank (trimStart t)
  · have hnil : trimStart t = [] := by
      cases h : trimStart t with
      | nil => rfl
      | cons c r =>
        have := hall c (by simp [h])
        rw [hfirst c r h] at this
        cases this
    have htrim : trim t = [] := by
      rw [trim, hnil]
      rfl
    rw [htrim]
    refine ⟨t, [], by simp, ?_, by simp, tight_nil⟩
    rwa [← hstart, hnil, List.append_nil]
  · have htrim : trim t = w ++ [c] := htrim
    refine ⟨_, v, ?_, hblank, hv, ?_, ?_⟩
    · rw [htrim, List.append_assoc, List.singleton_append, ← hw, hstart]
    · intro d r h
      refine hfirst d (r ++ v) ?_
      rw [hw, ← List.singleton_append, ← List.append_assoc, ← htrim, h, List.cons_append]
    · intro r d h
      rw [htrim] at h
      have hd : c = d := (List.cons.inj (List.append_inj' h rfl).2).1
      rwa [← hd]

theorem Tight.foldBlanks (h : Tight t) : Tight (foldBlanks t) := by
  rcases List.eq_nil_or_concat t with rfl | ⟨v, d, hlast⟩
  · rw [foldBlanks_gap (by simp)]
    exact tight_nil
  · rw [List.concat_eq_append] at hlast
    obtain ⟨c, r, hfirst⟩ := List.exists_cons_of_ne_nil (l := t) (by simp [hlast])
    have hc := h.first c r hfirst
    have hd := h.last v d hlast
    refine ⟨fun e s he => ?_, fun s e he => ?_⟩
    · have hfold := foldBlanks_append_cons hc [] r
      rw [List.nil_append, ← hfirst, he, foldBlanks_gap (by simp), if_pos rfl] at hfold
      rwa [(List.cons.inj hfold).1]
    · have hfold := foldBlanks_append_cons hd v []
      rw [← hlast, he, foldBlanks_gap (u := []) (by simp), if_pos rfl] at hfold
      have hed : e = d := (List.cons.inj (List.append_inj' hfold rfl).2).1
      rwa [hed]

/-! ## single spaces -/

/-- all white space is single spaces between other characters. -/
structure Spaced (t : Text) : Prop where
  space : ∀ c ∈ t, isBlank c = true → c = ' '
  single : ¬[' ', ' '] <:+: t
  tight : Tight t

theorem eq_space_of_mem_foldBlanks (h : c ∈ foldBlanks t) (hc : isBlank c = true) : c = ' ' := by
  have hgap : ∀ u, (∀ c ∈ u, isBlank c = true) → c ∈ foldBlanks u → c = ' ' := by
    intro u hu h
    rw [foldBlanks_gap hu] at h
    split at h
    · cases h
    · exact List.mem_singleton.1 h
  induction t using gaps_induction with
  | last u hu => exact hgap u hu h
  | more u d t hu hd ih =>
    rw [foldBlanks_append_cons hd, List.mem_append, List.mem_cons] at h
    rcases h with h | rfl | h
    · exact hgap u hu h
    · rw [hc] at hd
      cases hd
    · exact ih h

theorem not_infix_foldBlanks (t : Text) : ¬[' ', ' '] <:+: foldBlanks t := by
  have hgap : ∀ u, (∀ c ∈ u, isBlank c = true) → ¬[' ', ' '] <:+: foldBlanks u := by
    intro u hu h
    rw [foldBlanks_gap hu] at h
    split at h
    · exact absurd h.length_le (by decide)
    · exact absurd h.length_le (by decide)
  induction t using gaps_induction with
  | last u hu => exact hgap u hu
  | more u c t hu hc ih =>
    have hspace : c ∉ [' ', ' '] := by
      intro hm
      have : c = ' ' := by simpa using hm
      rw [this] at hc
      cases hc
    rw [foldBlanks_append_cons hc]
    intro h
    rcases infix_append_cons hspace h with h | h
    · exact hgap u hu h
    · exact ih h

/-- **In a folded text all white space is single spaces.** -/
theorem spaced_foldBlanks (h : Tight t) : Spaced (foldBlanks t) :=
  ⟨fun _ => eq_space_of_mem_foldBlanks, not_infix_foldBlanks t, h.foldBlanks⟩

end Text
end Bookpress
