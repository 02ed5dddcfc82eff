import Bookpress.Proofs.Tex.Nesting
import Bookpress.Proofs.Text.Rewriting

/-!
# What typesetting leaves alone

Typesetting writes a few ASCII characters and the Greek letters it has read.  Any other character
stands where it stood, and no symbol stands in a typeset text.

* `count_typeset`, `filter_typeset` : a character that is not written can be counted and left out
  before or after typesetting.
* `forall_of_typeset_filter` : a typeset text that ends in the text it was made from, or in a longer
  one, is that text.
* `typeset_eq_self_iff` : a text stays as it is iff its characters do.
-/

namespace Bookpress
namespace Tex

/-- the characters that typesetting writes. -/
def typesetSigns : Text := command "textgreek" [[]] ++ symbols.flatMap Prod.snd

variable {x c : Char} {t : Text}

theorem mem_typesetChar (h : x ∈ typesetChar c) : x ∈ typesetSigns ∨ x = c := by
  obtain e | ⟨-, e⟩ | ⟨s, hs, e⟩ := typesetChar_cases c <;> rw [e] at h
  · exact .inr (List.mem_singleton.1 h)
  · have hsplit : ∀ a : Char, x ∈ command "textgreek" [[a]] →
        x ∈ command "textgreek" [[]] ∨ x = a := by
      simp only [command_one, group, List.nil_append, List.cons_append, List.mem_append,
        List.mem_cons, List.not_mem_nil, or_false]
      tauto
    exact (hsplit c h).imp_left (List.mem_append_left _)
  · exact .inl (List.mem_append_right _ (List.mem_flatMap.2 ⟨_, hs, h⟩))

theorem lt_of_mem_typesetSigns : ∀ x ∈ typesetSigns, x.toNat < 128 := by
  have hname : ∀ x ∈ command "textgreek" [[]], x.toNat < 128 := by
    unfold command control
    rw [String.toList_ofList]
    decide
  have hsymbols : ∀ s ∈ symbols, ∀ x ∈ s.2, x.toNat < 128 := by
    unfold symbols control stop
    repeat rw [String.toList_ofList]
    decide
  intro x hx
  rcases List.mem_append.1 hx with hx | hx
  · exact hname x hx
  · obtain ⟨s, hs, hx⟩ := List.mem_flatMap.1 hx
    exact hsymbols s hs x hx

theorem mem_typeset (hx : x ∉ typesetSigns) (h : x ∈ typeset t) : x ∈ t ∧ x ∈ typesetChar x := by
  obtain ⟨c, hc, h⟩ := List.mem_flatMap.1 h
  obtain hs | rfl := mem_typesetChar h
  · exact absurd hs hx
  · exact ⟨hc, h⟩

/-- no symbol stands in a typeset text. -/
theorem not_mem_typeset {s : Text} (hs : (x, s) ∈ symbols) (e : typesetChar x = s) (t : Text) :
    x ∉ typeset t := by
  have hx : x ∉ typesetSigns := fun h => by
    have := lt_of_mem_typesetSigns x h
    have : 128 ≤ x.toNat := le_toNat_of_mem_symbols _ hs
    omega
  intro h
  have h := (mem_typeset hx h).2
  rw [e] at h
  exact hx (List.mem_append_right _ (List.mem_flatMap.2 ⟨_, hs, h⟩))

/-! ## characters that are not written -/

section
variable (hx : x ∉ typesetSigns) (hself : typesetChar x = [x])
include hx hself

theorem count_typeset (t : Text) : (typeset t).count x = t.count x := by
  induction t with
  | nil => rfl
  | cons c t ih =>
    rw [typeset_cons, List.count_append, ih, List.count_cons]
    by_cases hc : c = x
    · subst hc
      rw [hself, List.count_singleton_self, if_pos (beq_self_eq_true c), Nat.add_comm]
    · have hnot : x ∉ typesetChar c := fun h => (mem_typesetChar h).elim hx (Ne.symm hc)
      rw [List.count_eq_zero_of_not_mem hnot, if_neg (by simpa using hc), Nat.zero_add,
        Nat.add_zero]

theorem filter_typeset (t : Text) :
    (typeset t).filter (· ≠ x) = typeset (t.filter (· ≠ x)) := by
  induction t with
  | nil => rfl
  | cons c t ih =>
    rw [typeset_cons, List.filter_append, ih]
    by_cases hc : c = x
    · subst hc
      rw [hself, List.filter_cons_of_neg (by simp), List.filter_cons_of_neg (by simp)]
      rfl
    · have hall : (typesetChar c).filter (· ≠ x) = typesetChar c := by
        refine List.filter_eq_self.2 fun k hk => decide_eq_true ?_
        rintro rfl
        exact (mem_typesetChar hk).elim hx (Ne.symm hc)
      rw [hall, List.filter_cons_of_pos (by simpa using hc), typeset_cons]

end

/-! ## texts that stay as they are -/

theorem typeset_of_forall (h : ∀ c ∈ t, typesetChar c = [c]) : typeset t = t := by
  induction t with
  | nil => rfl
  | cons c t ih =>
    rw [List.forall_mem_cons] at h
    rw [typeset_cons, h.1, ih h.2]
    rfl

/-- the last place of a character is the same in equal texts. -/
theorem eq_of_append_cons_eq {u v r s : Text} (h : u ++ c :: r = v ++ c :: s) (hr : c ∉ r)
    (hs : c ∉ s) : r = s := by
  have htail : ∀ {a r s : Text}, c ∉ r → c :: r = a ++ c :: s → r = s := by
    intro a r s hr e
    cases a with
    | nil => exact (List.cons.inj e).2
    | cons d a => exact absurd (by rw [(List.cons.inj e).2]; simp) hr
  obtain ⟨a, -, e⟩ | ⟨a, -, e⟩ := List.append_eq_append_iff.1 h
  · exact htail hr e
  · exact (htail hs e).symm

/-- **A typeset text that ends in what it was made from was made from it alone**, even if characters
were left out before: behind the last letter that is typeset, a brace has been written. -/
theorem forall_of_typeset_filter {p : Char → Bool} (hclose : p '}' = true)
    (hp : ∀ c, typesetChar c ≠ [c] → p c = true) {v : Text} (h : typeset (t.filter p) = v ++ t) :
    ∀ c ∈ t, p c = true ∧ typesetChar c = [c] := by
  obtain hall | ⟨u, c, r, rfl, hc, hr, -⟩ :=
    Text.dropEndWhile_cases (fun c => decide (typesetChar c = [c])) t
  · simp only [decide_eq_true_eq] at hall
    rw [typeset_of_forall fun c hc => hall c (List.mem_filter.1 hc).1] at h
    have hlen : (t.filter p).length = t.length := by
      have hsum := congrArg List.length h
      have hle := List.length_filter_le p t
      rw [List.length_append] at hsum
      omega
    rw [List.length_filter_eq_length_iff] at hlen
    exact fun c hc => ⟨hlen c hc, hall c hc⟩
  · exfalso
    simp only [decide_eq_true_eq, decide_eq_false_iff_not] at hc hr
    have hfixed : typeset (r.filter p) = r.filter p :=
      typeset_of_forall fun k hk => hr k (List.mem_filter.1 hk).1
    have hcr : c ∉ r := fun hm => hc (hr c hm)
    rw [List.filter_append, List.filter_cons_of_pos (hp c hc), typeset_append, typeset_cons, hfixed]
      at h
    obtain e | ⟨-, e⟩ | ⟨s, hs, e⟩ := typesetChar_cases c
    · exact hc e
    · -- behind the letter stands the brace on one side, and what follows the letter on the other
      have hsplit : command "textgreek" [[c]] = (control "textgreek" ++ ['{']) ++ [c, '}'] := by
        simp [command_one, group]
      rw [e, hsplit, List.append_assoc, List.cons_append, List.cons_append, List.nil_append,
        ← List.append_assoc, ← List.append_assoc, ← List.append_assoc v] at h
      have hne : c ≠ '}' := fun e => hc (by rw [e]; exact typesetChar_of_lt (by decide))
      have htail : '}' :: r.filter p = r := eq_of_append_cons_eq h
        (List.not_mem_cons_of_ne_of_not_mem hne fun hm => hcr (List.mem_filter.1 hm).1) hcr
      have hagain := congrArg (List.filter p) htail
      rw [List.filter_cons_of_pos hclose, List.filter_filter] at hagain
      simpa using congrArg List.length hagain
    · have hmem : c ∈ typeset (u.filter p ++ [c] ++ r.filter p) := by
        rw [typeset_append, typeset_append, typeset_cons, hfixed, typeset_nil, List.append_nil,
          List.append_assoc, h]
        simp
      exact not_mem_typeset hs e _ hmem

theorem typeset_eq_self_iff : typeset t = t ↔ ∀ c ∈ t, typesetChar c = [c] := by
  refine ⟨fun h => ?_, typeset_of_forall⟩
  have hfilter : typeset (t.filter fun _ => true) = [] ++ t := by
    rw [List.filter_eq_self.2 fun _ _ => rfl, h]
    rfl
  exact fun c hc => (forall_of_typeset_filter rfl (fun _ _ => rfl) hfilter c hc).2

end Tex
end Bookpress
