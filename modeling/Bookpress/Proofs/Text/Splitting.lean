import Bookpress.Text.Basic

/-!
# Splitting at a character

* `split_append_cons` : the parts of a text end at every occurrence of the character.
* `split_induction` : a property of texts is shown along their parts.
* `prefix_of_prefix_append_cons`, `exists_of_append_cons_eq` : a text without the character stands
  on one side of it.
* `splitLast?_eq_some` : a split at the last occurrence leaves none behind it.
-/

namespace Bookpress
namespace Text

theorem split_append_cons (c : Char) (a b : Text) :
    split c (a ++ c :: b) = split c a ++ split c b := by
  induction a with
  | nil => simp [split]
  | cons d a ih =>
    by_cases hd : d = c
    · simp [split, hd, ih]
    · simp only [List.cons_append, split, hd, if_false, ih]
      cases h : split c a with
      | nil => exact absurd h (split_ne_nil c a)
      | cons l ls => simp

theorem split_of_not_mem {c : Char} {t : Text} (h : c ∉ t) : split c t = [t] := by
  induction t with
  | nil => rfl
  | cons d t ih =>
    have hd : d ≠ c := fun e => h (by simp [e])
    rw [split, if_neg hd, ih fun hc => h (List.mem_cons_of_mem _ hc)]

/-- a text is its first part, or its first part and what follows the character behind it. -/
theorem split_induction {c : Char} {motive : Text → Prop} (last : ∀ l, c ∉ l → motive l)
    (more : ∀ l t, c ∉ l → motive t → motive (l ++ c :: t)) (t : Text) : motive t := by
  induction t using length_induction with
  | step t ih =>
    by_cases hc : c ∈ t
    · obtain ⟨l, r, rfl, hl⟩ := List.eq_append_cons_of_mem hc
      rw [List.length_append, List.length_cons] at ih
      exact more l r hl (ih r (by omega))
    · exact last t hc

theorem length_le_of_mem_split {c : Char} {l t : Text} (h : l ∈ split c t) :
    l.length ≤ t.length := by
  induction t using split_induction (c := c) with
  | last m hm =>
    rw [split_of_not_mem hm, List.mem_singleton] at h
    exact Nat.le_of_eq (congrArg List.length h)
  | more m t hm ih =>
    rw [split_append_cons, split_of_not_mem hm, List.singleton_append, List.mem_cons] at h
    rw [List.length_append, List.length_cons]
    rcases h with rfl | h
    · omega
    · have := ih h
      omega

theorem not_mem_of_mem_split {c d : Char} {t w : Text} (hd : d ∉ t) (hw : w ∈ split c t) :
    c ∉ w ∧ d ∉ w := by
  induction t using split_induction (c := c) with
  | last l hc =>
    rw [split_of_not_mem hc, List.mem_singleton] at hw
    rw [hw]
    exact ⟨hc, hd⟩
  | more l r hc ih =>
    rw [List.mem_append, not_or] at hd
    rw [split_append_cons, split_of_not_mem hc, List.singleton_append, List.mem_cons] at hw
    rcases hw with rfl | hw
    · exact ⟨hc, hd.1⟩
    · exact ih (fun h => hd.2 (List.mem_cons_of_mem _ h)) hw

/-! ## a text without the character -/

/-- a text without `c` stands on one side of it. -/
theorem prefix_of_prefix_append_cons {c : Char} {p u v : Text} (hc : c ∉ p)
    (h : p <+: u ++ c :: v) : p <+: u := by
  rcases List.prefix_or_prefix_of_prefix h (List.prefix_append u (c :: v)) with hp | ⟨r, rfl⟩
  · exact hp
  · cases r with
    | nil => exact ⟨[], by simp⟩
    | cons d r =>
      rw [List.prefix_append_right_inj, List.cons_prefix_cons] at h
      exact absurd (by simp [h.1]) hc

theorem infix_append_cons {c : Char} {p u v : Text} (hc : c ∉ p) (h : p <:+: u ++ c :: v) :
    p <:+: u ∨ p <:+: v := by
  induction u with
  | nil =>
    rcases List.infix_cons_iff.1 h with h | h
    · exact .inl (prefix_of_prefix_append_cons (u := []) hc h).isInfix
    · exact .inr h
  | cons d u ih =>
    rcases List.infix_cons_iff.1 h with h | h
    · exact .inl (prefix_of_prefix_append_cons (u := d :: u) hc h).isInfix
    · exact (ih h).imp_left fun h => h.trans (List.suffix_cons d u).isInfix

/-- a front that what stands behind a text does not go on with is a front of the text. -/
theorem exists_of_append_eq_append {p t u y : Text} (hu : ∀ c ∈ u.head?, c ∉ p)
    (h : t ++ u = p ++ y) : ∃ x, t = p ++ x ∧ x ++ u = y := by
  rcases List.append_eq_append_iff.1 h with ⟨a, rfl, rfl⟩ | ⟨x, rfl, rfl⟩
  · cases a with
    | nil => exact ⟨[], by simp⟩
    | cons c a => exact absurd (by simp) (hu c rfl)
  · exact ⟨x, rfl, rfl⟩

theorem exists_of_append_cons_eq {c : Char} {p t u y : Text} (hc : c ∉ p)
    (h : t ++ c :: u = p ++ y) : ∃ x, t = p ++ x ∧ x ++ c :: u = y :=
  exists_of_append_eq_append (by simpa using hc) h

/-! ## the last part -/

theorem splitLast?_eq_none {c : Char} {t : Text} (h : splitLast? c t = none) : c ∉ t := by
  induction t with
  | nil => exact List.not_mem_nil
  | cons d t ih =>
    unfold splitLast? at h
    split at h
    · cases h
    · rename_i hn
      split at h
      · cases h
      · rename_i hd
        rw [List.mem_cons, not_or]
        exact ⟨Ne.symm hd, ih hn⟩

theorem splitLast?_eq_some {c : Char} {t a b : Text} (h : splitLast? c t = some (a, b)) :
    t = a ++ c :: b ∧ c ∉ b := by
  induction t generalizing a with
  | nil => cases h
  | cons d t ih =>
    unfold splitLast? at h
    split at h
    · rename_i a' b' hs
      cases h
      obtain ⟨rfl, hb⟩ := ih hs
      exact ⟨rfl, hb⟩
    · rename_i hn
      split at h
      · rename_i hd
        cases h
        rw [hd]
        exact ⟨rfl, splitLast?_eq_none hn⟩
      · cases h

theorem splitLast?_of_not_mem {c : Char} {t : Text} (h : c ∉ t) : splitLast? c t = none := by
  cases hs : splitLast? c t with
  | none => rfl
  | some x =>
    have := (splitLast?_eq_some hs).1
    exact absurd (by simp [this]) h

theorem splitLast?_append_cons {c : Char} (a : Text) {b : Text} (h : c ∉ b) :
    splitLast? c (a ++ c :: b) = some (a, b) := by
  induction a with
  | nil =>
    rw [List.nil_append, splitLast?, splitLast?_of_not_mem h]
    exact if_pos rfl
  | cons d a ih => rw [List.cons_append, splitLast?, ih]

end Text
end Bookpress
