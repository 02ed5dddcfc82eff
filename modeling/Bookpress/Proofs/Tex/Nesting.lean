import Bookpress.Tex.Brace
import Bookpress.Tex.Symbol

/-!
# Nesting

Balance, seen from the middle of a text: a text leads from some number of open groups to another
and never closes a group that is not open.  In this form a text may be cut anywhere between two
units, which balance does not allow.

* `nests_zero_iff` : a text is balanced iff it leads from no open group to none.
* `closeBrace_eq_some_iff` : an argument is a text that leads out of all groups opened in it.
* `Balanced.typeset` : symbols may be typeset in a balanced text.
-/

namespace Bookpress
namespace Tex

/-- `t` leads from `d` open groups to `e`. -/
inductive Nests : Nat → Text → Nat → Prop
  | nil (d : Nat) : Nests d [] d
  | pair {d e : Nat} {t : Text} (c : Char) : Nests d t e → Nests d ('\\' :: c :: t) e
  | plain {d e : Nat} {t : Text} {c : Char} (slash : c ≠ '\\') (opens : c ≠ '{')
      (closes : c ≠ '}') : Nests d t e → Nests d (c :: t) e
  | opens {d e : Nat} {t : Text} : Nests (d + 1) t e → Nests d ('{' :: t) e
  | closes {d e : Nat} {t : Text} : Nests d t e → Nests (d + 1) ('}' :: t) e

theorem Nests.append {d m e : Nat} {s t : Text} (hs : Nests d s m) (ht : Nests m t e) :
    Nests d (s ++ t) e := by
  induction hs with
  | nil => exact ht
  | pair c _ ih => exact .pair c (ih ht)
  | plain h₁ h₂ h₃ _ ih => exact .plain h₁ h₂ h₃ (ih ht)
  | opens _ ih => exact .opens (ih ht)
  | closes _ ih => exact .closes (ih ht)

theorem Balanced.nests {t : Text} (h : Balanced t) (d : Nat) : Nests d t d := by
  induction h generalizing d with
  | nil => exact .nil d
  | pair c _ ih => exact .pair c (ih d)
  | plain h₁ h₂ h₃ _ ih => exact .plain h₁ h₂ h₃ (ih d)
  | braces _ _ ihs iht => exact .opens ((ihs (d + 1)).append (.closes (iht d)))

/-- the first brace that leads out of the innermost group ends a balanced text. -/
theorem Nests.exists_close {d e : Nat} {t : Text} (h : Nests (d + 1) t e) (he : e ≤ d) :
    ∃ s r, t = s ++ '}' :: r ∧ Balanced s ∧ Nests d r e := by
  induction t using Text.length_induction generalizing d with
  | step t ih =>
    cases h with
    | nil => omega
    | pair c h =>
      obtain ⟨s, r, rfl, hs, hr⟩ := ih _ (by simp only [List.length_cons]; omega) h he
      exact ⟨_, r, rfl, hs.pair c, hr⟩
    | plain h₁ h₂ h₃ h =>
      obtain ⟨s, r, rfl, hs, hr⟩ := ih _ (by simp) h he
      exact ⟨_, r, rfl, hs.plain h₁ h₂ h₃, hr⟩
    | opens h =>
      -- the group that opens here has to close before the one around it
      obtain ⟨s, r, rfl, hs, hr⟩ := ih _ (by simp) h (by omega)
      obtain ⟨u, v, rfl, hu, hv⟩ := ih r (by simp; omega) hr he
      exact ⟨'{' :: (s ++ '}' :: u), v, by simp, hs.braces hu, hv⟩
    | closes h => exact ⟨[], _, rfl, .nil, h⟩

theorem nests_zero_iff {t : Text} : Nests 0 t 0 ↔ Balanced t := by
  refine ⟨fun h => ?_, fun h => h.nests 0⟩
  induction t using Text.length_induction with
  | step t ih =>
    cases h with
    | nil => exact .nil
    | pair c h => exact (ih _ (by simp only [List.length_cons]; omega) h).pair c
    | plain h₁ h₂ h₃ h => exact (ih _ (by simp) h).plain h₁ h₂ h₃
    | opens h =>
      obtain ⟨s, r, rfl, hs, hr⟩ := h.exists_close (Nat.le_refl 0)
      exact hs.braces (ih r (by simp; omega) hr)

/-! ## arguments -/

theorem closeBrace_of_nests {d : Nat} {a : Text} (h : Nests d a 0) (b : Text) :
    closeBrace d (a ++ '}' :: b) = some (a, b) := by
  generalize he : 0 = e at h
  induction h with
  | nil => subst he; simp
  | pair c _ ih => simp [ih he]
  | plain h₁ h₂ h₃ _ ih => simp [closeBrace_plain _ h₁ h₂ h₃, ih he]
  | opens _ ih => simp [ih he]
  | closes _ ih => simp [ih he]

theorem nests_of_closeBrace {d : Nat} {t a b : Text} (h : closeBrace d t = some (a, b)) :
    Nests d a 0 := by
  fun_induction closeBrace d t generalizing a b with
  | case1 => cases h
  | case2 => cases h
  | case3 d c s ih =>
    obtain ⟨⟨x, y⟩, h, e⟩ := Option.map_eq_some_iff.1 h
    cases e
    exact .pair c (ih h)
  | case4 d r _ ih =>
    obtain ⟨⟨x, y⟩, h, e⟩ := Option.map_eq_some_iff.1 h
    cases e
    exact .opens (ih h)
  | case5 r => cases h; exact .nil 0
  | case6 r _ _ d ih =>
    obtain ⟨⟨x, y⟩, h, e⟩ := Option.map_eq_some_iff.1 h
    cases e
    exact .closes (ih h)
  | case7 d c r h₁ h₂ h₃ ih =>
    obtain ⟨⟨x, y⟩, h, e⟩ := Option.map_eq_some_iff.1 h
    cases e
    exact .plain h₁ h₂ h₃ (ih h)

theorem closeBrace_eq_some_iff {d : Nat} {t a b : Text} :
    closeBrace d t = some (a, b) ↔ t = a ++ '}' :: b ∧ Nests d a 0 := by
  constructor
  · intro h
    exact ⟨closeBrace_eq_some h, nests_of_closeBrace h⟩
  · rintro ⟨rfl, h⟩
    exact closeBrace_of_nests h b

theorem readArgument_eq_some_iff {t a b : Text} :
    readArgument t = some (a, b) ↔ t = group a ++ b ∧ Balanced a := by
  constructor
  · intro h
    refine ⟨readArgument_eq_some h, ?_⟩
    unfold readArgument at h
    split at h
    · exact nests_zero_iff.1 (nests_of_closeBrace h)
    · cases h
  · rintro ⟨rfl, h⟩
    exact readArgument_group h b

instance (t : Text) : Decidable (Balanced t) :=
  decidable_of_iff (closeBrace 0 (t ++ ['}']) = some (t, []))
    (closeBrace_eq_some_iff.trans (by simp [nests_zero_iff]))

/-! ## texts without special characters -/

/-- whether a character is neither a backslash nor a brace. -/
def isOrdinary (c : Char) : Bool := c ≠ '\\' && c ≠ '{' && c ≠ '}'

theorem Balanced.cons {c : Char} {t : Text} (hc : isOrdinary c = true) (h : Balanced t) :
    Balanced (c :: t) := by
  simp only [isOrdinary, Bool.and_eq_true, decide_eq_true_eq] at hc
  exact h.plain hc.1.1 hc.1.2 hc.2

theorem Balanced.ne_cons_close {t : Text} (h : Balanced t) (r : Text) : t ≠ '}' :: r := by
  rintro rfl
  cases h with
  | plain _ _ closes _ => exact closes rfl

theorem balanced_of_isOrdinary {t : Text} (h : ∀ c ∈ t, isOrdinary c = true) : Balanced t := by
  induction t with
  | nil => exact .nil
  | cons c t ih =>
    rw [List.forall_mem_cons] at h
    exact (ih h.2).cons h.1

/-! ## commands with fixed names -/

section
variable {l t : Text}

/-- a literal is balanced if its characters are; it is a text by way of a string. -/
theorem balanced_toList (h : Balanced l) : Balanced (String.ofList l).toList := by
  rwa [String.toList_ofList]

theorem balanced_control (h : Balanced ('\\' :: l)) : Balanced (control (String.ofList l)) := by
  rwa [control, String.toList_ofList]

theorem balanced_line (h : Balanced t) : Balanced (line t) := h.append (by decide)

theorem balanced_openEnv (h : Balanced l) : Balanced (openEnv (String.ofList l)) := by
  rw [openEnv, command_one]
  exact (balanced_control (by decide)).append (balanced_group (balanced_toList h))

theorem balanced_closeEnv (h : Balanced l) : Balanced (closeEnv (String.ofList l)) := by
  rw [closeEnv, command_one]
  exact (balanced_control (by decide)).append (balanced_group (balanced_toList h))

end

/-! ## typesetting -/

/-- a character stands as it is, or is Greek, or is in the table of symbols. -/
theorem typesetChar_cases (c : Char) :
    typesetChar c = [c] ∨ (c ∈ greek ∧ typesetChar c = command "textgreek" [[c]])
      ∨ ∃ s, (c, s) ∈ symbols ∧ typesetChar c = s := by
  unfold typesetChar
  split
  · rename_i h
    exact .inr (.inl ⟨by simpa using h, rfl⟩)
  · split
    · rename_i s h
      refine .inr (.inr ⟨s, ?_, rfl⟩)
      obtain ⟨a, b, h, -⟩ := List.lookup_eq_some_iff.1 h
      rw [h]
      simp
    · exact .inl rfl

theorem le_toNat_of_mem_greek : ∀ c ∈ greek, 128 ≤ c.toNat := by
  unfold greek
  rw [String.toList_ofList]
  decide

theorem le_toNat_of_mem_symbols : ∀ x ∈ symbols, 128 ≤ x.1.toNat := by decide

theorem balanced_symbols : ∀ x ∈ symbols, Balanced x.2 ∧ Balanced ('\\' :: x.2) := by
  unfold symbols math control
  repeat rw [String.toList_ofList]
  decide

theorem typesetChar_of_lt {c : Char} (h : c.toNat < 128) : typesetChar c = [c] := by
  obtain e | ⟨hc, -⟩ | ⟨s, hs, -⟩ := typesetChar_cases c
  · exact e
  · have := le_toNat_of_mem_greek c hc
    omega
  · have := le_toNat_of_mem_symbols _ hs
    simp only at this
    omega

theorem typeset_of_lt {t : Text} (h : ∀ c ∈ t, c.toNat < 128) : typeset t = t := by
  induction t with
  | nil => rfl
  | cons c t ih =>
    rw [List.forall_mem_cons] at h
    rw [typeset_cons, typesetChar_of_lt h.1, ih h.2]
    rfl

theorem typesetChar_ne_nil (c : Char) : typesetChar c ≠ [] := by
  have H : ∀ x ∈ symbols, x.2 ≠ [] := by simp [symbols, math, control]
  obtain e | ⟨-, e⟩ | ⟨s, hs, e⟩ := typesetChar_cases c <;> rw [e]
  · exact List.cons_ne_nil _ _
  · exact List.cons_ne_nil _ _
  · exact H _ hs

theorem typeset_eq_nil_iff {t : Text} : typeset t = [] ↔ t = [] := by
  cases t with
  | nil => simp
  | cons c t => simp [typesetChar_ne_nil]

theorem isOrdinary_of_le {c : Char} (h : 128 ≤ c.toNat) : isOrdinary c = true := by
  simp only [isOrdinary, Bool.and_eq_true, decide_eq_true_eq]
  refine ⟨⟨?_, ?_⟩, ?_⟩ <;> rintro rfl <;> revert h <;> decide

theorem balanced_textgreek {c : Char} (hc : c ∈ greek) : Balanced (group [c]) :=
  balanced_group (Balanced.nil.cons (isOrdinary_of_le (le_toNat_of_mem_greek c hc)))

theorem balanced_typesetChar {c : Char} (h : isOrdinary c = true) : Balanced (typesetChar c) := by
  obtain e | ⟨hc, e⟩ | ⟨s, hs, e⟩ := typesetChar_cases c <;> rw [e]
  · exact Balanced.nil.cons h
  · rw [command_one]
    exact (balanced_control (by decide)).append (balanced_textgreek hc)
  · exact (balanced_symbols _ hs).1

/-- a symbol after a backslash: the backslash takes the first character of its LaTeX. -/
theorem balanced_slash_typesetChar (c : Char) : Balanced ('\\' :: typesetChar c) := by
  obtain e | ⟨hc, e⟩ | ⟨s, hs, e⟩ := typesetChar_cases c <;> rw [e]
  · exact .pair c .nil
  · have hname : Balanced ('\\' :: control "textgreek") := .pair '\\' (balanced_toList (by decide))
    rw [command_one, ← List.cons_append]
    exact hname.append (balanced_textgreek hc)
  · exact (balanced_symbols _ hs).2

theorem Balanced.typeset {t : Text} (h : Balanced t) : Balanced (typeset t) := by
  induction h with
  | nil => exact .nil
  | pair c _ ih =>
    rw [typeset_cons, typeset_cons, typesetChar_of_lt (by decide), List.singleton_append,
      ← List.cons_append]
    exact (balanced_slash_typesetChar c).append ih
  | @plain c t h₁ h₂ h₃ _ ih =>
    rw [typeset_cons]
    exact (balanced_typesetChar (by simp [isOrdinary, h₁, h₂, h₃])).append ih
  | braces _ _ ihs iht =>
    rw [typeset_cons, typeset_append, typeset_cons, typesetChar_of_lt (by decide),
      typesetChar_of_lt (by decide), List.singleton_append, List.singleton_append]
    exact Balanced.braces ihs iht

end Tex
end Bookpress
