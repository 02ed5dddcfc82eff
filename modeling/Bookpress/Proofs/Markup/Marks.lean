import Bookpress.Markup.Tag
import Bookpress.Proofs.Markup.Finding

/-!
# The tags of emphasis

The tags of bold, underlined and slanted text have no parameter, stay on one line and may be nested.
A text is read as the list of its tags and line ends, and a list of tags as a walk that goes up at
an opening tag and down at a closing one.

* `marks_append` : where a text may be cut, its tags are those of the parts.
* `exists_of_marks` : a tag of the list stands in the text, behind the tags before it.
* `walk_pair` : a pair with nothing but opening tags between does not count.
* `exists_adjacent` : a walk that ends on the ground has two neighbouring tags that make a pair, or
  no tags.
-/

namespace Bookpress
namespace Markup

/-- the kinds of emphasis whose tags may be nested. -/
inductive Emphasis
  | bold
  | underline
  | italic
deriving DecidableEq

namespace Emphasis

/-- the tags of an emphasis. -/
def rule : Emphasis → Rule
  | bold => .bold
  | underline => .underline
  | italic => .italic

def render : Emphasis → Span → Text
  | bold => boldText
  | underline => underlineText
  | italic => italicText

/-- the letter in the tags. -/
def letter : Emphasis → Char
  | bold => 'b'
  | underline => 'u'
  | italic => 'i'

/-- what stands for an opening tag; a brace stands for a closing one. -/
def opener : Emphasis → Text
  | bold => '{' :: (Tex.control "bf" ++ Tex.stop)
  | underline => Tex.control "underline" ++ ['{']
  | italic => '{' :: (Tex.control "em" ++ Tex.stop)

variable {k : Emphasis} {t u v : Text} {d : Char}

/-! ## the tags -/

theorem opening_eq : k.rule.opening = ['[', k.letter, ']'] := by
  cases k <;> decide_cbv

theorem closing_eq : k.rule.closing = ['[', '/', k.letter, ']'] := by
  cases k <;> decide_cbv

theorem takesParam_eq : k.rule.takesParam = false := by
  cases k <;> rfl

theorem oneLine_eq : k.rule.oneLine = true := by
  cases k <;> rfl

theorem head?_opening : k.rule.opening.head? = some '[' := by
  rw [opening_eq]
  rfl

theorem render_eq (s : Span) : k.render s = k.opener ++ (s.inner ++ ['}']) := by
  cases k <;>
    simp [render, opener, boldText, underlineText, italicText, Tex.command, Tex.group]

/-- a character that may stand in a tag as its first one only. -/
def Fronts (k : Emphasis) (d : Char) : Prop := d ∉ ['/', k.letter, ']']

instance (d : Char) : Decidable (k.Fronts d) := inferInstanceAs (Decidable (¬_))

theorem fronts_bracket : k.Fronts '[' := by
  cases k <;> decide

theorem fronts_lineEnd : k.Fronts '\n' := by
  cases k <;> decide

theorem not_mem_opener : '[' ∉ k.opener ∧ '\n' ∉ k.opener := by
  cases k <;> exact ⟨by decide_cbv, by decide_cbv⟩

theorem exists_opener : ∃ d q, k.opener = d :: q ∧ k.Fronts d := by
  cases k with
  | bold => exact ⟨'{', Tex.control "bf" ++ Tex.stop, rfl, by decide⟩
  | underline => exact ⟨'\\', "underline".toList ++ ['{'], rfl, by decide⟩
  | italic => exact ⟨'{', Tex.control "em" ++ Tex.stop, rfl, by decide⟩

theorem fronts_brace : k.Fronts '}' := by
  cases k <;> decide

theorem strip?_opening_append (hd : k.Fronts d) (hu : u ≠ []) (v : Text) :
    (Text.strip? k.rule.opening (u ++ d :: v)).isSome = (Text.strip? k.rule.opening u).isSome := by
  simp only [Fronts, List.mem_cons, not_or] at hd
  rw [opening_eq, Text.strip?_append_front (by simp [hd]) hu, Option.isSome_map]

theorem strip?_closing_append (hd : k.Fronts d) (hu : u ≠ []) (v : Text) :
    (Text.strip? k.rule.closing (u ++ d :: v)).isSome = (Text.strip? k.rule.closing u).isSome := by
  rw [closing_eq, Text.strip?_append_front hd hu, Option.isSome_map]

theorem strip?_opening_closing (v : Text) :
    Text.strip? k.rule.opening (k.rule.closing ++ v) = none := by
  have hne : k.letter ≠ '/' := by cases k <;> decide
  rw [opening_eq, closing_eq, List.cons_append, Text.strip?_cons_cons, List.cons_append,
    Text.strip?_cons_cons_of_ne hne]

/-- a tag, or the end of a line. -/
inductive Mark
  | opening
  | closing
  | lineEnd
deriving DecidableEq

/-- the mark at the front of a text. -/
def mark? (k : Emphasis) (t : Text) : Option Mark :=
  if (Text.strip? k.rule.opening t).isSome then some .opening
  else if (Text.strip? k.rule.closing t).isSome then some .closing
  else if t.head? = some '\n' then some .lineEnd
  else none

/-- the marks of a text from left to right. -/
def marks (k : Emphasis) : Text → List Mark
  | [] => []
  | c :: t => (k.mark? (c :: t)).toList ++ marks k t

theorem marks_cons (c : Char) (t : Text) :
    k.marks (c :: t) = (k.mark? (c :: t)).toList ++ k.marks t := rfl

theorem mark?_append (hd : k.Fronts d) (hu : u ≠ []) (v : Text) :
    k.mark? (u ++ d :: v) = k.mark? u := by
  have hhead : (u ++ d :: v).head? = u.head? := by
    obtain ⟨c, u, rfl⟩ := List.exists_cons_of_ne_nil hu
    rfl
  unfold mark?
  rw [strip?_opening_append hd hu, strip?_closing_append hd hu, hhead]

theorem marks_append (hd : k.Fronts d) (u v : Text) :
    k.marks (u ++ d :: v) = k.marks u ++ k.marks (d :: v) := by
  induction u with
  | nil => rfl
  | cons c u ih =>
    have hfront := mark?_append hd (List.cons_ne_nil c u) v
    rw [List.cons_append] at hfront
    rw [List.cons_append, marks_cons, hfront, ih, marks_cons c u, List.append_assoc]

theorem mark?_of_ne {c : Char} (h : c ≠ '[' ∧ c ≠ '\n') (t : Text) : k.mark? (c :: t) = none := by
  unfold mark?
  rw [opening_eq, closing_eq, Text.strip?_cons_cons_of_ne (Ne.symm h.1),
    Text.strip?_cons_cons_of_ne (Ne.symm h.1)]
  simp [h.2]

theorem marks_append_of_not_mem (hu : '[' ∉ u ∧ '\n' ∉ u) (v : Text) :
    k.marks (u ++ v) = k.marks v := by
  induction u with
  | nil => rfl
  | cons c u ih =>
    simp only [List.mem_cons, not_or] at hu
    rw [List.cons_append, marks, mark?_of_ne ⟨Ne.symm hu.1.1, Ne.symm hu.2.1⟩,
      ih ⟨hu.1.2, hu.2.2⟩]
    rfl

theorem mark?_opening (v : Text) : k.mark? (k.rule.opening ++ v) = some .opening := by
  unfold mark?
  rw [Text.strip?_append]
  rfl

theorem mark?_closing (v : Text) : k.mark? (k.rule.closing ++ v) = some .closing := by
  unfold mark?
  rw [strip?_opening_closing, Text.strip?_append]
  rfl

theorem marks_opening (v : Text) : k.marks (k.rule.opening ++ v) = .opening :: k.marks v := by
  have hrest : '[' ∉ [k.letter, ']'] ∧ '\n' ∉ [k.letter, ']'] := by cases k <;> decide
  have htag := mark?_opening (k := k) v
  rw [opening_eq] at htag ⊢
  rw [List.cons_append] at htag ⊢
  rw [marks, htag, marks_append_of_not_mem hrest]
  rfl

theorem marks_closing (v : Text) : k.marks (k.rule.closing ++ v) = .closing :: k.marks v := by
  have hrest : '[' ∉ ['/', k.letter, ']'] ∧ '\n' ∉ ['/', k.letter, ']'] := by cases k <;> decide
  have htag := mark?_closing (k := k) v
  rw [closing_eq] at htag ⊢
  rw [List.cons_append] at htag ⊢
  rw [marks, htag, marks_append_of_not_mem hrest]
  rfl

/-- a mark begins with a bracket or is a line end. -/
theorem exists_front_of_mark? {m : Mark} (h : k.mark? v = some m) :
    ∃ d w, v = d :: w ∧ k.Fronts d := by
  cases v with
  | nil =>
    rw [mark?, opening_eq, closing_eq] at h
    cases h
  | cons d w =>
    refine ⟨d, w, rfl, ?_⟩
    by_cases hd : d ≠ '[' ∧ d ≠ '\n'
    · rw [mark?_of_ne hd] at h
      cases h
    · by_cases hb : d = '['
      · rw [hb]
        exact fronts_bracket
      · rw [not_and, not_ne_iff] at hd
        rw [hd hb]
        exact fronts_lineEnd

theorem marks_append_of_mark? {m : Mark} (h : k.mark? v = some m) (u : Text) :
    k.marks (u ++ v) = k.marks u ++ k.marks v := by
  obtain ⟨d, w, rfl, hd⟩ := exists_front_of_mark? h
  exact marks_append hd u w

theorem exists_of_suffix_marks {b : List Mark} {m : Mark} (h : m :: b <:+ k.marks t) :
    ∃ u v, t = u ++ v ∧ k.mark? v = some m ∧ k.marks v = m :: b := by
  induction t with
  | nil => exact absurd (List.suffix_nil.1 h) (List.cons_ne_nil m b)
  | cons c t ih =>
    have hbehind : m :: b <:+ k.marks t →
        ∃ u v, c :: t = u ++ v ∧ k.mark? v = some m ∧ k.marks v = m :: b := by
      intro h
      obtain ⟨u, v, rfl, hv, hb⟩ := ih h
      exact ⟨c :: u, v, rfl, hv, hb⟩
    rw [marks_cons] at h
    cases hm : k.mark? (c :: t) with
    | none =>
      rw [hm] at h
      exact hbehind h
    | some n =>
      rw [hm, Option.toList_some, List.singleton_append] at h
      rcases List.suffix_cons_iff.1 h with heq | h
      · obtain ⟨rfl, hb⟩ := List.cons.inj heq
        refine ⟨[], c :: t, rfl, hm, ?_⟩
        rw [marks_cons, hm, hb, Option.toList_some, List.singleton_append]
      · exact hbehind h

/-- where a mark stands in a text. -/
theorem exists_of_marks {a b : List Mark} {m : Mark} (h : k.marks t = a ++ m :: b) :
    ∃ u v, t = u ++ v ∧ k.marks u = a ∧ k.mark? v = some m ∧ k.marks v = m :: b := by
  obtain ⟨u, v, rfl, hv, hb⟩ := exists_of_suffix_marks ⟨a, h.symm⟩
  rw [marks_append_of_mark? hv, hb] at h
  exact ⟨u, v, rfl, List.append_cancel_right h, hv, hb⟩

theorem exists_of_mark?_opening (h : k.mark? v = some .opening) :
    ∃ w, v = k.rule.opening ++ w := by
  unfold mark? at h
  split at h
  · rename_i hs
    obtain ⟨w, hw⟩ := Option.isSome_iff_exists.1 hs
    exact ⟨w, Text.strip?_eq_some.1 hw⟩
  · split at h
    · cases h
    · split at h <;> cases h

theorem exists_of_mark?_closing (h : k.mark? v = some .closing) :
    ∃ w, v = k.rule.closing ++ w := by
  unfold mark? at h
  split at h
  · cases h
  · split at h
    · rename_i hs
      obtain ⟨w, hw⟩ := Option.isSome_iff_exists.1 hs
      exact ⟨w, Text.strip?_eq_some.1 hw⟩
    · split at h <;> cases h

/-- a text with a mark has the mark somewhere. -/
theorem exists_of_mem_marks {m : Mark} (h : m ∈ k.marks t) :
    ∃ u v, t = u ++ v ∧ k.mark? v = some m := by
  obtain ⟨a, b, hab⟩ := List.append_of_mem h
  obtain ⟨u, v, ht, -, hv, -⟩ := exists_of_marks hab
  exact ⟨u, v, ht, hv⟩

theorem lineEnd_mem_marks_iff : .lineEnd ∈ k.marks t ↔ '\n' ∈ t := by
  constructor
  · intro h
    obtain ⟨u, v, rfl, hv⟩ := exists_of_mem_marks h
    unfold mark? at hv
    split at hv
    · cases hv
    · split at hv
      · cases hv
      · split at hv
        · rename_i hhead
          exact List.mem_append_right _ (List.mem_of_mem_head? hhead)
        · cases hv
  · intro h
    obtain ⟨u, v, rfl⟩ := List.append_of_mem h
    rw [marks_append fronts_lineEnd, marks, mark?, opening_eq, closing_eq,
      Text.strip?_cons_cons_of_ne (by decide), Text.strip?_cons_cons_of_ne (by decide)]
    simp

/-! ## the levels of a line -/

/-- the level behind a list of marks.  Closing tags do not lead below the ground, and lines end
on the ground. -/
def walk : Nat → List Mark → Option Nat
  | n, [] => some n
  | n, .opening :: ms => walk (n + 1) ms
  | 0, .closing :: _ => none
  | n + 1, .closing :: ms => walk n ms
  | n, .lineEnd :: ms => if n = 0 then walk 0 ms else none

theorem walk_append (n : Nat) (as bs : List Mark) :
    walk n (as ++ bs) = (walk n as).bind fun m => walk m bs := by
  induction as generalizing n with
  | nil => rfl
  | cons a as ih =>
    cases a with
    | opening => exact ih (n + 1)
    | closing =>
      cases n with
      | zero => rfl
      | succ n => exact ih n
    | lineEnd =>
      rw [List.cons_append, walk, walk]
      split
      · exact ih 0
      · rfl

theorem walk_openings {as : List Mark} (h : ∀ m ∈ as, m = .opening) (n : Nat) (bs : List Mark) :
    walk n (as ++ bs) = walk (n + as.length) bs := by
  induction as generalizing n with
  | nil => rfl
  | cons a as ih =>
    rw [List.forall_mem_cons] at h
    rw [h.1, List.cons_append, walk, ih h.2, List.length_cons]
    congr 1
    omega

/-- a pair of tags with nothing but opening tags between them does not count. -/
theorem walk_pair {bs : List Mark} (h : ∀ m ∈ bs, m = .opening) (n : Nat) (as cs : List Mark) :
    walk n (as ++ .opening :: (bs ++ .closing :: cs)) = walk n (as ++ (bs ++ cs)) := by
  rw [walk_append, walk_append]
  congr 1
  funext m
  have hlevel : m + 1 + bs.length = m + bs.length + 1 := by omega
  rw [walk, walk_openings h, walk_openings h, hlevel, walk]

/-- a walk that ends on the ground has no tags, or begins with a closing tag, or has an opening
tag with a closing one next to it. -/
theorem exists_adjacent {n : Nat} {ms : List Mark} (h : walk n ms = some 0) :
    (n = 0 ∧ ∀ m ∈ ms, m = .lineEnd) ∨ (0 < n ∧ ∃ bs, ms = .closing :: bs) ∨
      ∃ as bs, ms = as ++ .opening :: .closing :: bs := by
  induction ms generalizing n with
  | nil =>
    cases h
    exact .inl ⟨rfl, fun m hm => nomatch hm⟩
  | cons m ms ih =>
    cases m with
    | opening =>
      rcases ih h with ⟨hn, -⟩ | ⟨-, bs, rfl⟩ | ⟨as, bs, rfl⟩
      · omega
      · exact .inr (.inr ⟨[], bs, rfl⟩)
      · exact .inr (.inr ⟨.opening :: as, bs, rfl⟩)
    | closing =>
      cases n with
      | zero => cases h
      | succ n => exact .inr (.inl ⟨Nat.succ_pos n, ms, rfl⟩)
    | lineEnd =>
      rw [walk] at h
      split at h
      · rename_i hn
        rcases ih h with ⟨-, hall⟩ | ⟨hpos, -⟩ | ⟨as, bs, rfl⟩
        · refine .inl ⟨hn, fun m hm => ?_⟩
          rcases List.mem_cons.1 hm with rfl | hm
          · rfl
          · exact hall m hm
        · omega
        · exact .inr (.inr ⟨.lineEnd :: as, bs, rfl⟩)
      · cases h

end Emphasis
end Markup
end Bookpress
