import Bookpress.Proofs.Tex.Nesting
import Bookpress.Proofs.Text.Rewriting
import Bookpress.Tex.Escape
import Bookpress.Text.Blank

/-!
# Escaped texts

* `unescape_escape_append` : an escaped text is read back as it was, whatever follows it.
* `trim_escape`, `mapRuns_escape` : white space may be cut off or rewritten before or after
  escaping.
* `balanced_escape` : an escaped text is balanced.
-/

namespace Bookpress
namespace Tex

/-- whether a character has a sequence that prints it. -/
def isSpecial (c : Char) : Bool := (specials.map Prod.fst).contains c

theorem escapeChar_of_isSpecial {c : Char} (h : isSpecial c = true) :
    (c, escapeChar c) ∈ specials := by
  have H : ∀ x ∈ specials.map Prod.fst, (x, escapeChar x) ∈ specials := by
    unfold escapeChar specials control stop
    repeat rw [String.toList_ofList]
    decide
  exact H c (by simpa [isSpecial] using h)

theorem escapeChar_of_not_isSpecial {c : Char} (h : isSpecial c = false) :
    escapeChar c = [c] := by
  have hl : specials.lookup c = none := by
    rw [List.lookup_eq_none_iff]
    intro x hx
    have : c ∉ specials.map Prod.fst := by simpa [isSpecial] using h
    simp only [bne_iff_ne, ne_eq]
    rintro rfl
    exact this (List.mem_map_of_mem hx)
  rw [escapeChar, hl]

theorem isSpecial_of_mem {x : Char × Text} (h : x ∈ specials) : isSpecial x.1 = true := by
  simpa [isSpecial] using ⟨x.2, h⟩

/-- every sequence begins with a backslash. -/
theorem exists_tail_of_mem_specials : ∀ x ∈ specials, x.2 = '\\' :: x.2.tail := by
  simp [specials, control, stop]

theorem escapeChar_ne_nil (c : Char) : escapeChar c ≠ [] := by
  cases h : isSpecial c with
  | true =>
    have := exists_tail_of_mem_specials _ (escapeChar_of_isSpecial h)
    intro e
    simp only [e] at this
    cases this
  | false =>
    rw [escapeChar_of_not_isSpecial h]
    exact List.cons_ne_nil _ _

theorem escape_eq_nil_iff {t : Text} : escape t = [] ↔ t = [] := by
  cases t with
  | nil => simp
  | cons c t => simp [escapeChar_ne_nil]

/-! ## reading back -/

theorem readSpecial_of_ne {c : Char} (h : c ≠ '\\') (t : Text) : readSpecial (c :: t) = none := by
  unfold readSpecial
  rw [List.findSome?_eq_none_iff]
  rintro ⟨d, s⟩ hx
  have e : s = '\\' :: s.tail := exists_tail_of_mem_specials _ hx
  show (Text.strip? s (c :: t)).map _ = none
  rw [e, Text.strip?_cons_cons_of_ne (Ne.symm h)]
  rfl

theorem takes_readSpecial : Text.Takes readSpecial := by
  intro t c r h
  obtain ⟨x, hx, h⟩ := List.exists_of_findSome?_eq_some h
  obtain ⟨s, hs, e⟩ := Option.map_eq_some_iff.1 h
  cases e
  rw [Text.strip?_eq_some.1 hs, exists_tail_of_mem_specials x hx, List.length_append,
    List.length_cons]
  omega

theorem ne_slash_of_not_isSpecial {c : Char} (h : isSpecial c = false) : c ≠ '\\' := by
  rintro rfl
  revert h
  decide

theorem unescape_nil : unescape [] = [] := Text.rewrite_search_nil takes_readSpecial _

/-- **An escaped text is read back as it was, whatever follows it.** -/
theorem unescape_escape_append (a t : Text) : unescape (escape a ++ t) = a ++ unescape t := by
  induction a with
  | nil => rfl
  | cons c a ih =>
    rw [escape_cons, List.append_assoc]
    cases h : isSpecial c with
    | true =>
      have hread := readSpecial_append (escapeChar_of_isSpecial h) (escape a ++ t)
      exact (Text.rewrite_search_of_some takes_readSpecial _ hread).trans (congrArg (c :: ·) ih)
    | false =>
      rw [escapeChar_of_not_isSpecial h]
      have hread := readSpecial_of_ne (ne_slash_of_not_isSpecial h) (escape a ++ t)
      exact (Text.rewrite_search_of_none takes_readSpecial _ hread).trans (congrArg (c :: ·) ih)

theorem unescape_escape (t : Text) : unescape (escape t) = t := by
  have h := unescape_escape_append t []
  rwa [List.append_nil, unescape_nil, List.append_nil] at h

/-! ## the characters of an escaped text -/

/-- what is no character of a sequence comes from the text itself. -/
theorem mem_of_mem_escape {c : Char} (hc : ∀ x ∈ specials, c ∉ x.2) {t : Text}
    (h : c ∈ escape t) : c ∈ t ∧ isSpecial c = false := by
  obtain ⟨d, hd, h⟩ := List.mem_flatMap.1 h
  cases hs : isSpecial d with
  | true => exact absurd h (hc _ (escapeChar_of_isSpecial hs))
  | false =>
    rw [escapeChar_of_not_isSpecial hs, List.mem_singleton] at h
    subst h
    exact ⟨hd, hs⟩

theorem isBlank_of_mem_specials : ∀ x ∈ specials, ∀ c ∈ x.2, Text.isBlank c = false := by
  unfold specials control
  repeat rw [String.toList_ofList]
  decide

theorem lt_of_mem_specials : ∀ x ∈ specials, ∀ c ∈ x.2, c.toNat < 128 := by
  unfold specials control stop
  repeat rw [String.toList_ofList]
  decide

theorem not_isSpecial_of_isBlank {c : Char} (h : Text.isBlank c = true) : isSpecial c = false := by
  have H : ∀ x ∈ specials.map Prod.fst, Text.isBlank x = false := by decide
  cases hs : isSpecial c with
  | false => rfl
  | true =>
    have := H c (by simpa [isSpecial] using hs)
    rw [h] at this
    cases this

section
variable {p : Char → Bool} {s : Text}

theorem dropWhile_escape (hp : ∀ c, p c = true → Text.isBlank c = true) (t : Text) :
    (escape t).dropWhile p = escape (t.dropWhile p) := by
  induction t with
  | nil => rfl
  | cons c t ih =>
    cases hc : p c with
    | true =>
      rw [escape_cons, escapeChar_of_not_isSpecial (not_isSpecial_of_isBlank (hp c hc))]
      simp [hc, ih]
    | false =>
      rw [List.dropWhile_cons_of_neg (by simp [hc])]
      cases hs : isSpecial c with
      | false =>
        rw [escape_cons, escapeChar_of_not_isSpecial hs]
        simp [hc]
      | true =>
        have e : escapeChar c = '\\' :: (escapeChar c).tail :=
          exists_tail_of_mem_specials _ (escapeChar_of_isSpecial hs)
        have hn : p '\\' = false := by
          cases h : p '\\' with
          | false => rfl
          | true => have := hp _ h; revert this; decide
        rw [escape_cons, e]
        simp [hn]

theorem not_of_mem_escapeChar (hp : ∀ c, p c = true → Text.isBlank c = true) {c d : Char}
    (hc : p c = false) (hd : d ∈ escapeChar c) : p d = false := by
  cases hs : isSpecial c with
  | false =>
    rw [escapeChar_of_not_isSpecial hs, List.mem_singleton] at hd
    rwa [hd]
  | true =>
    have := isBlank_of_mem_specials _ (escapeChar_of_isSpecial hs) d hd
    cases h : p d with
    | false => rfl
    | true => rw [hp d h] at this; cases this

theorem dropEndWhile_escape (hp : ∀ c, p c = true → Text.isBlank c = true) (t : Text) :
    Text.dropEndWhile p (escape t) = escape (Text.dropEndWhile p t) := by
  suffices H : ∀ r : Text, Text.dropEndWhile p (escape r.reverse)
      = escape (Text.dropEndWhile p r.reverse) by simpa using H t.reverse
  intro r
  induction r with
  | nil => rfl
  | cons c r ih =>
    rw [List.reverse_cons, escape_append, escape_cons, escape_nil, List.append_nil]
    cases hc : p c with
    | true =>
      rw [escapeChar_of_not_isSpecial (not_isSpecial_of_isBlank (hp c hc)),
        Text.dropEndWhile_append_of_pos hc, Text.dropEndWhile_append_of_pos hc, ih]
    | false =>
      have hu := fun d => not_of_mem_escapeChar hp hc (d := d)
      rcases List.eq_nil_or_concat (escapeChar c) with h | ⟨u, d, h⟩
      · exact absurd h (escapeChar_ne_nil c)
      · rw [List.concat_eq_append] at h
        have hd : p d = false := hu d (by simp [h])
        rw [Text.dropEndWhile_append_of_neg hc, h, ← List.append_assoc,
          Text.dropEndWhile_append_of_neg hd, List.append_assoc, ← h, escape_append, escape_cons,
          escape_nil, List.append_nil]

theorem trim_escape (t : Text) : Text.trim (escape t) = escape (Text.trim t) := by
  rw [Text.trim, Text.trimStart, dropWhile_escape fun _ h => h]
  exact dropEndWhile_escape (fun _ h => h) _

/-- **White space is not touched by escaping.** -/
theorem mapRuns_escape (hp : ∀ c, p c = true → Text.isBlank c = true) (hs : escape s = s)
    (t : Text) :
    Text.mapRuns p (fun _ => s) (escape t) = escape (Text.mapRuns p (fun _ => s) t) := by
  induction t using Text.runs_induction (p := p) with
  | nil => simp
  | run c t hc ih =>
    rw [escape_cons, escapeChar_of_not_isSpecial (not_isSpecial_of_isBlank (hp c hc)),
      List.cons_append, List.nil_append, Text.mapRuns_cons_of_pos hc,
      Text.mapRuns_cons_of_pos hc, dropWhile_escape hp, ih, escape_append, hs]
  | char c t hc ih =>
    have hu := fun d => not_of_mem_escapeChar hp hc (d := d)
    rw [escape_cons, Text.mapRuns_append_of_forall_not hu, ih, Text.mapRuns_cons_of_neg hc,
      escape_cons]

theorem foldBlanks_escape (t : Text) :
    Text.foldBlanks (escape t) = escape (Text.foldBlanks t) :=
  mapRuns_escape (fun _ h => h) (by decide) t

end

/-! ## balance -/

theorem balanced_escape (t : Text) : Balanced (escape t) := by
  have H : ∀ x ∈ specials, Balanced x.2 := by
    unfold specials control stop
    repeat rw [String.toList_ofList]
    decide
  induction t with
  | nil => exact .nil
  | cons c t ih =>
    rw [escape_cons]
    refine Balanced.append ?_ ih
    cases hs : isSpecial c with
    | true => exact H _ (escapeChar_of_isSpecial hs)
    | false =>
      rw [escapeChar_of_not_isSpecial hs]
      refine Balanced.nil.plain ?_ ?_ ?_ <;> rintro rfl <;> revert hs <;> decide

end Tex
end Bookpress
