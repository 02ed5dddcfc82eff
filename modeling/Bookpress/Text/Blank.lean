import Bookpress.Text.Search

/-!
# White space

The characters with the Unicode property `White_Space`, and trimming and folding by them.

* `isBlank_of_isWhitespace` : the ASCII white space is white space.
* `trim_eq_self` : a text whose ends are not blank is its own trim.
-/

namespace Bookpress
namespace Text

/-- the characters with the property `White_Space`. -/
def isBlank (c : Char) : Bool :=
  let n := c.toNat
  (9 ≤ n && n ≤ 13) || n = 32 || n = 0x85 || n = 0xA0 || n = 0x1680 || (0x2000 ≤ n && n ≤ 0x200A)
    || n = 0x2028 || n = 0x2029 || n = 0x202F || n = 0x205F || n = 0x3000

theorem isBlank_of_isWhitespace {c : Char} (h : c.isWhitespace = true) : isBlank c = true := by
  simp only [Char.isWhitespace, Bool.or_eq_true, decide_eq_true_eq] at h
  rcases h with ((h | h) | h) | h <;> subst h <;> decide

/-- `t` without white space at its front. -/
def trimStart (t : Text) : Text := t.dropWhile isBlank

/-- `t` without white space at its end. -/
def trimEnd (t : Text) : Text := dropEndWhile isBlank t

/-- `t` without white space at both ends. -/
def trim (t : Text) : Text := trimEnd (trimStart t)

/-- one space in place of every run of white space. -/
def foldBlanks (t : Text) : Text := mapRuns isBlank (fun _ => [' ']) t

/-- one space in place of every run of two or more white-space characters. -/
def foldBlankRuns (t : Text) : Text :=
  mapRuns isBlank (fun r => if 2 ≤ r.length then [' '] else r) t

/-- the characters of a line end. -/
def isLineEnd (c : Char) : Bool := c = '\r' || c = '\n'

theorem trimEnd_append_of_not_blank {t : Text} {c : Char} (h : isBlank c = false) :
    trimEnd (t ++ [c]) = t ++ [c] := by
  simp [trimEnd, dropEndWhile, h]

theorem trim_eq_self {t : Text} (hs : ∀ c r, t = c :: r → isBlank c = false)
    (he : ∀ r c, t = r ++ [c] → isBlank c = false) : trim t = t := by
  have hstart : trimStart t = t := by
    cases t with
    | nil => rfl
    | cons c r => simp [trimStart, hs c r rfl]
  rw [trim, hstart]
  rcases List.eq_nil_or_concat t with rfl | ⟨r, c, rfl⟩
  · rfl
  · rw [List.concat_eq_append] at he ⊢
    exact trimEnd_append_of_not_blank (he r c rfl)

end Text
end Bookpress
