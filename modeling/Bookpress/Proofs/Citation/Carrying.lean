import Bookpress.Proofs.Citation.Marking
import Bookpress.Proofs.Text.Rewriting
import Bookpress.Proofs.Text.Splitting

/-!
# What leaves the links of a text alone

A link is read by its braces.  So a function that goes along a text and keeps its groups, and that
writes neither `\href{` nor a further argument where there was none, makes no links.

* `isSome_readLink_iff` : a link stands at a backslash iff two groups follow it and the second is
  not empty.
* `Carries.readLink_eq_none` : a function that carries groups makes no link at a backslash.
* `Appendix` : what may be added behind a text; `found_append_appendix`, `annotate_append_appendix`.
-/

namespace Bookpress
namespace Citation

open Tex

/-- the opening of a link behind its backslash, and of its target. -/
def hrefOpening : Text := "href\x7b".toList

theorem Link.written_append (l : Link) (r : Text) : l.written ++ r =
    '\\' :: (hrefOpening ++ (l.target ++ '}' :: '{' :: (l.caption ++ '}' :: r))) := by
  simp [Link.written_eq, hrefOpening, group]

theorem isSome_readLink_iff {t : Text} : (readLink ('\\' :: t)).isSome ↔
    ∃ x y r, t = hrefOpening ++ x ∧ afterGroup 0 x = some ('{' :: y) ∧
      afterGroup 0 y = some r ∧ y.head? ≠ some '}' := by
  constructor
  · intro h
    obtain ⟨⟨l, r⟩, hl⟩ := Option.isSome_iff_exists.1 h
    obtain ⟨e, hs⟩ := readLink_eq_some_iff.1 hl
    rw [Link.written_append] at e
    refine ⟨_, _, r, (List.cons.inj e).2, afterGroup_argument hs.target _,
      afterGroup_argument hs.caption r, fun hhead => ?_⟩
    cases hc : l.caption with
    | nil => exact hs.caption_ne hc
    | cons c w =>
      rw [hc, List.cons_append, List.head?_cons, Option.some_inj] at hhead
      rw [hhead] at hc
      exact absurd hc (hs.caption.ne_cons_close w)
  · rintro ⟨x, y, r, rfl, hx, hy, hhead⟩
    obtain ⟨target, rfl, ht⟩ := afterGroup_eq_some_iff.1 hx
    obtain ⟨caption, rfl, hc⟩ := afterGroup_eq_some_iff.1 hy
    have hne : caption ≠ [] := by
      rintro rfl
      exact hhead rfl
    have hs : Link.Sound ⟨target, caption⟩ := ⟨nests_zero_iff.1 ht, nests_zero_iff.1 hc, hne⟩
    have := hs.readLink r
    rw [Link.written_append] at this
    rw [this]
    rfl

/-- `F` goes along a text of the kind `P`, keeps its groups and writes no opening of an argument
where there was none. -/
structure Carries (P : Text → Prop) (F : Text → Text) : Prop where
  suffix : ∀ {u t : Text}, P (u ++ t) → P t
  group : ∀ {t : Text}, P t → afterGroup 0 (F t) = (afterGroup 0 t).map F
  href : ∀ {t y : Text}, P ('\\' :: t) → F t = hrefOpening ++ y →
    ∃ x, t = hrefOpening ++ x ∧ F x = y
  next : ∀ {t y : Text}, P ('}' :: t) → F t = '{' :: y → ∃ x, t = '{' :: x ∧ F x = y
  close : ∀ t : Text, (F ('}' :: t)).head? = some '}'

/-- **A function that carries groups makes no link at a backslash.** -/
theorem Carries.readLink_eq_none {P : Text → Prop} {F : Text → Text} (hF : Carries P F) {t : Text}
    (h : P ('\\' :: t)) (hn : readLink ('\\' :: t) = none) : readLink ('\\' :: F t) = none := by
  rw [← Option.not_isSome_iff_eq_none]
  intro hs
  obtain ⟨x', y', r', hx', hy', hr', hhead⟩ := isSome_readLink_iff.1 hs
  obtain ⟨x, rfl, rfl⟩ := hF.href h hx'
  have hx : P x := hF.suffix (u := '\\' :: hrefOpening) h
  rw [hF.group hx] at hy'
  obtain ⟨z, hz, hzy⟩ := Option.map_eq_some_iff.1 hy'
  obtain ⟨target, rfl, -⟩ := afterGroup_eq_some_iff.1 hz
  obtain ⟨y, rfl, rfl⟩ := hF.next (hF.suffix hx) hzy
  have hy : P y := hF.suffix (u := target ++ ['}', '{']) (by simpa using hx)
  rw [hF.group hy] at hr'
  obtain ⟨r, hr, rfl⟩ := Option.map_eq_some_iff.1 hr'
  -- so a link stands in the text itself
  have hne : y.head? ≠ some '}' := by
    intro hc
    cases y with
    | nil => cases hc
    | cons c w =>
      rw [List.head?_cons, Option.some_inj] at hc
      subst hc
      exact hhead (hF.close w)
  have := isSome_readLink_iff.2 ⟨_, y, r, rfl, hz, hr, hne⟩
  rw [hn] at this
  cases this

/-! ## appendices -/

/-- what may be added behind a text without an effect on its links. -/
structure Appendix (b : Text) : Prop where
  balanced : Balanced b
  /-- a backslash at the end of the text takes the first character. -/
  tail : Balanced b.tail
  head : ∀ c ∈ b.head?, c ∉ hrefOpening
  misses : Text.Misses readLink b

section
variable {b : Text}

theorem afterGroup_of_balanced (h : Balanced b) (d : Nat) : afterGroup d b = none := by
  have := afterGroup_append h d []
  rwa [List.append_nil, afterGroup_nil] at this

theorem afterGroup_append_appendix (hb : Appendix b) (d : Nat) (t : Text) :
    afterGroup d (t ++ b) = (afterGroup d t).map (· ++ b) := by
  induction t using Text.length_induction generalizing d with
  | step t ih =>
    cases t with
    | nil => simp [afterGroup_of_balanced hb.balanced]
    | cons c r =>
      simp only [List.length_cons] at ih
      rw [List.cons_append]
      by_cases slash : c = '\\'
      · subst slash
        cases r with
        | nil =>
          cases b with
          | nil => simp
          | cons e b =>
            have htail : afterGroup d b = none := afterGroup_of_balanced hb.tail d
            simp [htail]
        | cons e r =>
          simp only [List.length_cons] at ih
          rw [List.cons_append, afterGroup_pair, afterGroup_pair]
          exact ih r (by omega) d
      · exact afterGroup_cons (f := (· ++ b)) slash (ih r (by omega)) d

theorem carries_appendix (hb : Appendix b) : Carries (fun _ => True) (· ++ b) where
  suffix _ := trivial
  group _ := afterGroup_append_appendix hb 0 _
  href _ h := Text.exists_of_append_eq_append hb.head h
  next _ h := by
    have hbrace : ∀ c ∈ b.head?, c ∉ ['{'] := fun c hc hm => by
      rw [List.mem_singleton.1 hm] at hc
      exact hb.head _ hc (by decide_cbv)
    exact Text.exists_of_append_eq_append (p := ['{']) hbrace h
  close _ := rfl

theorem readLink_append_appendix (hb : Appendix b) {c : Char} {t : Text}
    (h : readLink (c :: t) = none) : readLink (c :: (t ++ b)) = none := by
  by_cases hc : c = '\\'
  · subst hc
    exact (carries_appendix hb).readLink_eq_none trivial h
  · exact readLink_of_ne hc _

theorem found_append_appendix (hb : Appendix b) (t : Text) : found (t ++ b) = found t := by
  induction t using scan_induction with
  | nil =>
    have := found_append hb.misses []
    rw [List.append_nil] at this
    exact this
  | link l r h ih => rw [List.append_assoc, found_written h, found_written h, ih]
  | char c t h ih =>
    rw [List.cons_append, found_cons (readLink_append_appendix hb h), found_cons h, ih]

theorem annotate_append_appendix (note : Link → Text) (hb : Appendix b) (t : Text) :
    annotate note (t ++ b) = annotate note t ++ b := by
  induction t using scan_induction with
  | nil =>
    rw [annotate_nil, List.nil_append]
    exact Text.rewrite_of_misses takes_readLink _ hb.misses
  | link l r h ih =>
    rw [List.append_assoc, annotate_written note h, annotate_written note h, ih]
    simp
  | char c t h ih =>
    rw [List.cons_append, annotate_of_none note (readLink_append_appendix hb h),
      annotate_of_none note h, ih, List.cons_append]

end

end Citation
end Bookpress
