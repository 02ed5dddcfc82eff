import Bookpress.Tex.Command

/-!
# Braces

Reading the argument between braces, and texts whose braces balance.  A backslash and the
character after it count as one unit, so `\{` and `\}` are no braces.

* `closeBrace_append` : a balanced text and a closing brace are read as an argument.
* `closeBrace_eq_some` : what is read, the brace and what follows are the text.
* `Balanced.append`, `balanced_group` : balance is kept by concatenation and grouping.
-/

namespace Bookpress
namespace Tex

/-- the text up to the brace that closes the current group, with `depth` groups open inside it,
and the text after that brace. -/
def closeBrace : Nat → Text → Option (Text × Text)
  | _, [] => none
  | depth, c :: r =>
    if c = '\\' then
      match r with
      | [] => none
      | e :: s => (closeBrace depth s).map fun (a, b) => (c :: e :: a, b)
    else if c = '{' then (closeBrace (depth + 1) r).map fun (a, b) => (c :: a, b)
    else if c = '}' then
      match depth with
      | 0 => some ([], r)
      | depth + 1 => (closeBrace depth r).map fun (a, b) => (c :: a, b)
    else (closeBrace depth r).map fun (a, b) => (c :: a, b)

@[simp] theorem closeBrace_nil (depth : Nat) : closeBrace depth [] = none := by
  rw [closeBrace.eq_def]

@[simp] theorem closeBrace_slash (depth : Nat) : closeBrace depth ['\\'] = none := by
  rw [closeBrace.eq_def]; simp

@[simp] theorem closeBrace_pair (depth : Nat) (c : Char) (r : Text) :
    closeBrace depth ('\\' :: c :: r)
      = (closeBrace depth r).map fun (a, b) => ('\\' :: c :: a, b) := by
  rw [closeBrace.eq_def]; simp

@[simp] theorem closeBrace_open (depth : Nat) (r : Text) :
    closeBrace depth ('{' :: r) = (closeBrace (depth + 1) r).map fun (a, b) => ('{' :: a, b) := by
  rw [closeBrace.eq_def]; simp

@[simp] theorem closeBrace_close_zero (r : Text) :
    closeBrace 0 ('}' :: r) = some ([], r) := by
  rw [closeBrace.eq_def]; simp

@[simp] theorem closeBrace_close_succ (depth : Nat) (r : Text) :
    closeBrace (depth + 1) ('}' :: r)
      = (closeBrace depth r).map fun (a, b) => ('}' :: a, b) := by
  rw [closeBrace.eq_def]; simp

theorem closeBrace_plain (depth : Nat) {c : Char} (slash : c ≠ '\\') (opens : c ≠ '{')
    (closes : c ≠ '}') (r : Text) :
    closeBrace depth (c :: r) = (closeBrace depth r).map fun (a, b) => (c :: a, b) := by
  rw [closeBrace.eq_def]; simp [slash, opens, closes]

/-- the argument between braces at the front. -/
def readArgument : Text → Option (Text × Text)
  | '{' :: r => closeBrace 0 r
  | _ => none

/-- the texts in which braces balance, and every backslash has a character after it. -/
inductive Balanced : Text → Prop
  | nil : Balanced []
  | pair (c : Char) {t : Text} : Balanced t → Balanced ('\\' :: c :: t)
  | plain {c : Char} {t : Text} (slash : c ≠ '\\') (opens : c ≠ '{') (closes : c ≠ '}') :
      Balanced t → Balanced (c :: t)
  | braces {s t : Text} : Balanced s → Balanced t → Balanced ('{' :: (s ++ '}' :: t))

theorem Balanced.append {s t : Text} (hs : Balanced s) (ht : Balanced t) : Balanced (s ++ t) := by
  induction hs with
  | nil => exact ht
  | pair c _ ih => exact .pair c ih
  | plain h₁ h₂ h₃ _ ih => exact .plain h₁ h₂ h₃ ih
  | @braces a b ha _ _ ihb =>
    have := Balanced.braces ha ihb
    simpa using this

theorem balanced_group {t : Text} (h : Balanced t) : Balanced (group t) := by
  have := Balanced.braces h .nil
  simpa [group] using this

theorem closeBrace_append {s : Text} (hs : Balanced s) (depth : Nat) (r : Text) :
    closeBrace depth (s ++ r) = (closeBrace depth r).map fun (a, b) => (s ++ a, b) := by
  induction hs generalizing depth r with
  | nil => simp
  | pair c _ ih => simp [ih, Function.comp_def]
  | plain h₁ h₂ h₃ _ ih =>
    rw [List.cons_append, closeBrace_plain _ h₁ h₂ h₃, ih]
    simp [Function.comp_def]
  | braces _ _ iha ihb => simp [iha, ihb, Function.comp_def]

theorem readArgument_group {s : Text} (hs : Balanced s) (r : Text) :
    readArgument (group s ++ r) = some (s, r) := by
  simp only [group, readArgument, List.cons_append, List.append_assoc]
  rw [closeBrace_append hs]
  simp

theorem closeBrace_eq_some {depth : Nat} {t a b : Text} (h : closeBrace depth t = some (a, b)) :
    t = a ++ '}' :: b := by
  fun_induction closeBrace depth t generalizing a b with
  | case1 => cases h
  | case2 => cases h
  | case3 depth e s ih =>
    obtain ⟨⟨x, y⟩, h, e⟩ := Option.map_eq_some_iff.1 h
    cases e
    simp [ih h]
  | case4 depth r _ ih =>
    obtain ⟨⟨x, y⟩, h, e⟩ := Option.map_eq_some_iff.1 h
    cases e
    simp [ih h]
  | case5 r => cases h; rfl
  | case6 r _ _ _ ih =>
    obtain ⟨⟨x, y⟩, h, e⟩ := Option.map_eq_some_iff.1 h
    cases e
    simp [ih h]
  | case7 depth c r _ _ _ ih =>
    obtain ⟨⟨x, y⟩, h, e⟩ := Option.map_eq_some_iff.1 h
    cases e
    simp [ih h]

theorem readArgument_eq_some {t a b : Text} (h : readArgument t = some (a, b)) :
    t = group a ++ b := by
  unfold readArgument at h
  split at h
  · rw [closeBrace_eq_some h]
    simp [group]
  · cases h

end Tex
end Bookpress
