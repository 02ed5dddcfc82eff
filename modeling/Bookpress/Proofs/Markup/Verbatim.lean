import Bookpress.Markup.Tag
import Bookpress.Proofs.Tex.Escaping
import Bookpress.Proofs.Text.Gaps

/-!
# Verbatim text

Verbatim text has to stand on one line, between two signs that it does not hold.  Its line feeds and
its runs of white space become single spaces, but any other white space that stands alone is left
as it is, and there are only so many signs.

* `foldBlankRuns_feedless_iff` : when folding the runs of white space folds all of it.
* `verbContent_escape_iff` : which texts are put on one line.
* `isVerbatim_iff` : which texts are put verbatim on one line, between signs that they do not hold.
-/

namespace Bookpress
namespace Markup

open Text (isBlank)

/-- a text with a space for each tag of line ends. -/
def unbroken (x : Text) : Text := Text.replace "[br]".toList [' '] x

/-- a text on one line: with a single space for every tag of line ends and every run of white
space, and with none at its ends. -/
def oneLine (x : Text) : Text := Text.foldBlanks (Text.trim (unbroken x))

/-- a verbatim text between two signs. -/
def verb (sign : Char) (t : Text) : Text :=
  ' ' :: (Tex.control "verb" ++ sign :: (t ++ [sign, ' ']))

/-- `out` is `x` on one line, verbatim, between two signs that it does not hold. -/
def IsVerbatim (x out : Text) : Prop := ∃ s, out = verb s (oneLine x) ∧ s ∉ oneLine x

/-- a white-space character that stands alone between two others is a space or a line feed. -/
def LoneSpaces (t : Text) : Prop :=
  ∀ a c b, [a, c, b] <:+: t → isBlank a = false → isBlank c = true → isBlank b = false →
    c = ' ' ∨ c = '\n'

variable {t u : Text} {c d : Char}

theorem spaced_oneLine (x : Text) : Text.Spaced (oneLine x) := by
  obtain ⟨-, -, -, -, -, htight⟩ := Text.exists_trim (unbroken x)
  exact Text.spaced_foldBlanks htight

/-! ## white space that stands alone -/

theorem loneSpaces_of_length_le (h : t.length ≤ 2) : LoneSpaces t := by
  intro a c b hi
  have hle : 3 ≤ t.length := hi.length_le
  omega

theorem loneSpaces_cons_iff : LoneSpaces (d :: t) ↔
    (∀ c b r, t = c :: b :: r → isBlank d = false → isBlank c = true → isBlank b = false →
      c = ' ' ∨ c = '\n') ∧ LoneSpaces t := by
  constructor
  · intro h
    refine ⟨fun c b r ht => ?_, fun a c b hi => h a c b (hi.trans (List.suffix_cons d t).isInfix)⟩
    refine h d c b (List.IsPrefix.isInfix ⟨r, ?_⟩)
    rw [ht]
    rfl
  · rintro ⟨hfirst, hrest⟩ a c b hi ha
    rcases List.infix_cons_iff.1 hi with ⟨r, hr⟩ | hi
    · cases hr
      exact hfirst c b r rfl ha
    · exact hrest a c b hi ha

theorem loneSpaces_append (hu : ∀ c ∈ u, isBlank c = true) :
    LoneSpaces (u ++ t) ↔ LoneSpaces t := by
  induction u with
  | nil => rfl
  | cons c u ih =>
    rw [List.forall_mem_cons] at hu
    rw [List.cons_append, loneSpaces_cons_iff, ih hu.2]
    simp [hu.1]

theorem LoneSpaces.reverse (h : LoneSpaces t) : LoneSpaces t.reverse := by
  intro a c b hi ha hc hb
  have hi : [b, c, a] <:+: t := List.reverse_infix.1 hi
  exact h b c a hi hb hc ha

theorem loneSpaces_reverse : LoneSpaces t.reverse ↔ LoneSpaces t := by
  refine ⟨fun h => ?_, LoneSpaces.reverse⟩
  have := h.reverse
  rwa [List.reverse_reverse] at this

theorem loneSpaces_trim : LoneSpaces (Text.trim t) ↔ LoneSpaces t := by
  obtain ⟨u, v, ht, hu, hv, -⟩ := Text.exists_trim t
  conv => rhs; rw [ht]
  rw [loneSpaces_append hu, ← loneSpaces_reverse (t := Text.trim t ++ v), List.reverse_append,
    loneSpaces_append (by simpa using hv), loneSpaces_reverse]

/-- the white space of a gap stands alone if it is one character. -/
theorem loneSpaces_gap (hd : isBlank d = false) (hu : ∀ c ∈ u, isBlank c = true)
    (hc : isBlank c = false) : LoneSpaces (d :: (u ++ c :: t)) ↔
      (∀ e, u = [e] → e = ' ' ∨ e = '\n') ∧ LoneSpaces (c :: t) := by
  rw [loneSpaces_cons_iff, loneSpaces_append hu]
  refine and_congr_left fun _ => ?_
  rcases u with _ | ⟨e, _ | ⟨e', u⟩⟩
  · refine iff_of_true (fun e b r h _ he => ?_) (fun e h => by cases h)
    cases h
    rw [hc] at he
    cases he
  · refine ⟨fun h => ?_, fun h => ?_⟩
    · rintro _ ⟨⟩
      exact h e c t rfl hd (hu e (by simp)) hc
    · rintro _ _ _ ⟨⟩ - - -
      exact h e rfl
  · refine iff_of_true (fun a b r h _ _ hb => ?_) (fun a h => by cases h)
    cases h
    rw [hu e' (by simp)] at hb
    cases hb

/-! ## line feeds -/

/-- a character, with a space for a line feed. -/
def feedless (c : Char) : Char := if c = '\n' then ' ' else c

theorem replace_feed (t : Text) : Text.replace ['\n'] [' '] t = t.map feedless := by
  induction t with
  | nil => exact Text.replace_nil (by decide) _
  | cons c t ih =>
    by_cases hc : c = '\n'
    · have := Text.replace_append (p := ['\n']) (by decide) [' '] t
      rw [ih] at this
      rw [hc]
      exact this
    · have hnone := Text.strip?_cons_cons_of_ne (Ne.symm hc) [] t
      rw [Text.replace_cons_of_not (by decide) _ hnone, ih, List.map_cons, feedless, if_neg hc]

theorem isBlank_feedless (c : Char) : isBlank (feedless c) = isBlank c := by
  unfold feedless
  split
  · rename_i h
    rw [h]
    rfl
  · rfl

theorem feedless_of_not_blank (h : isBlank c = false) : feedless c = c := by
  refine if_neg ?_
  rintro rfl
  cases h

theorem feedless_eq_space_iff : feedless c = ' ' ↔ c = ' ' ∨ c = '\n' := by
  unfold feedless
  split
  · rename_i h
    simp [h]
  · rename_i h
    simp [h]

theorem trim_map_feedless (t : Text) :
    Text.trim (t.map feedless) = (Text.trim t).map feedless := by
  have hp : isBlank ∘ feedless = isBlank := funext isBlank_feedless
  simp only [Text.trim, Text.trimStart, Text.trimEnd, Text.dropEndWhile, List.dropWhile_map, hp,
    ← List.map_reverse]

/-- a gap is folded, unless it is one character that is no space and no line feed. -/
theorem foldBlankRuns_gap (hu : ∀ c ∈ u, isBlank c = true) :
    (Text.foldBlankRuns (u.map feedless)).length = (Text.foldBlanks u).length
      ∧ (Text.foldBlankRuns (u.map feedless) = Text.foldBlanks u ↔
        ∀ c, u = [c] → c = ' ' ∨ c = '\n') := by
  have hmap : ∀ c ∈ u.map feedless, isBlank c = true := by
    intro c hc
    obtain ⟨d, hd, rfl⟩ := List.mem_map.1 hc
    rw [isBlank_feedless, hu d hd]
  have hgap := Text.mapRuns_gap (fun r => if 2 ≤ r.length then [' '] else r) (u := u.map feedless)
  rw [Text.foldBlanks_gap hu]
  rcases u with _ | ⟨c, _ | ⟨d, u⟩⟩
  · have hnil : Text.foldBlankRuns [] = [] := Text.mapRuns_nil
    exact ⟨congrArg _ hnil, iff_of_true hnil fun c h => by cases h⟩
  · have hone : Text.foldBlankRuns [feedless c] = [feedless c] := hgap (by simp) hmap
    rw [List.map_singleton, hone, if_neg (List.cons_ne_nil _ _), List.singleton_inj,
      feedless_eq_space_iff]
    exact ⟨rfl, fun h e he => by cases he; exact h, fun h => h c rfl⟩
  · have hrun : Text.foldBlankRuns ((c :: d :: u).map feedless) = [' '] :=
      (hgap (by simp) hmap).trans (if_pos (by simp))
    rw [hrun, if_neg (List.cons_ne_nil _ _)]
    exact ⟨rfl, iff_of_true rfl fun e h => by cases h⟩

/-- **When folding the runs of white space folds all of it**, behind a character. -/
theorem foldBlankRuns_eq_iff (hd : isBlank d = false)
    (ht : ∀ r c, t = r ++ [c] → isBlank c = false) :
    Text.foldBlankRuns (t.map feedless) = Text.foldBlanks t ↔ LoneSpaces (d :: t) := by
  induction t using Text.gaps_induction generalizing d with
  | last u hu =>
    -- a gap at the end is empty
    have hnil : u = [] := by
      rcases List.eq_nil_or_concat u with rfl | ⟨r, c, rfl⟩
      · rfl
      · have hc := ht r c (List.concat_eq_append ..)
        rw [hu c (by simp)] at hc
        cases hc
    rw [hnil]
    exact iff_of_true rfl (loneSpaces_of_length_le (by simp))
  | more u c t hu hc ih =>
    have ht' : ∀ r e, t = r ++ [e] → isBlank e = false := by
      intro r e h
      refine ht (u ++ c :: r) e ?_
      rw [h, List.append_assoc, List.cons_append]
    obtain ⟨hlength, hgap⟩ := foldBlankRuns_gap hu
    have hfold : Text.foldBlankRuns ((u ++ c :: t).map feedless)
        = Text.foldBlankRuns (u.map feedless) ++ c :: Text.foldBlankRuns (t.map feedless) := by
      rw [List.map_append, List.map_cons, feedless_of_not_blank hc]
      exact Text.mapRuns_append_cons hc _ _
    rw [hfold, Text.foldBlanks_append_cons hc, loneSpaces_gap hd hu hc, ← ih hc ht', ← hgap]
    refine ⟨fun h => ?_, fun ⟨h, h'⟩ => by rw [h, h']⟩
    obtain ⟨h, h'⟩ := List.append_inj h hlength
    exact ⟨h, (List.cons.inj h').2⟩

/-- **When folding the runs of white space folds all of it.** -/
theorem foldBlankRuns_feedless_iff (ht : Text.Tight t) :
    Text.foldBlankRuns (t.map feedless) = Text.foldBlanks t ↔ LoneSpaces t := by
  cases t with
  | nil => exact iff_of_true rfl (loneSpaces_of_length_le (by simp))
  | cons d t =>
    have hd := ht.first d t rfl
    have hlast : ∀ r c, t = r ++ [c] → isBlank c = false := fun r c h =>
      ht.last (d :: r) c (by rw [h, List.cons_append])
    have hruns : Text.foldBlankRuns ((d :: t).map feedless)
        = d :: Text.foldBlankRuns (t.map feedless) := by
      rw [List.map_cons, feedless_of_not_blank hd]
      exact Text.mapRuns_cons_of_neg hd _
    have hblanks : Text.foldBlanks (d :: t) = d :: Text.foldBlanks t :=
      Text.mapRuns_cons_of_neg hd t
    rw [hruns, hblanks, List.cons_inj_right, foldBlankRuns_eq_iff hd hlast]

/-! ## verbatim text -/

/-- **Which texts are put on one line.** -/
theorem verbContent_escape_iff (x : Text) :
    verbContent (Tex.escape x) = oneLine x ↔ LoneSpaces (unbroken x) := by
  obtain ⟨-, -, -, -, -, htight⟩ := Text.exists_trim (unbroken x)
  rw [verbContent, Tex.unescape_escape, ← unbroken, replace_feed, trim_map_feedless, oneLine,
    foldBlankRuns_feedless_iff htight, loneSpaces_trim]

theorem verb_inj {s s' : Char} {t t' : Text} (h : verb s t = verb s' t') : s = s' ∧ t = t' := by
  have hbody := List.append_cancel_left (List.cons.inj h).2
  obtain ⟨hs, ht⟩ := List.cons.inj hbody
  exact ⟨hs, (List.append_inj' ht rfl).1⟩

theorem verbSign_mem (t : Text) : verbSign t ∈ verbSigns := by
  have hdefault : '§' ∈ verbSigns := by decide_cbv
  unfold verbSign
  cases h : verbSigns.find? fun c => !t.contains c with
  | none => exact hdefault
  | some c => exact List.mem_of_find?_eq_some h

theorem IsVerbatim.verbContent_eq {x : Text} (h : IsVerbatim x (verbatim (Tex.escape x))) :
    verbContent (Tex.escape x) = oneLine x ∧ ∃ s ∈ verbSigns, s ∉ oneLine x := by
  obtain ⟨s, h, hs⟩ := h
  obtain ⟨hsign, hcontent⟩ := verb_inj (s := verbSign (verbContent (Tex.escape x))) h
  exact ⟨hcontent, s, hsign ▸ verbSign_mem _, hs⟩

/-- **Which texts are put verbatim on one line, between signs that they do not hold**: those whose
lone white space is spaces and line feeds, if a sign is left that they do not hold. -/
theorem isVerbatim_iff (x : Text) :
    (IsVerbatim x (verbatim (Tex.escape x))
        ↔ LoneSpaces (unbroken x) ∧ ∃ s ∈ verbSigns, s ∉ oneLine x)
      ∧ Text.Spaced (oneLine x) := by
  have hverb : verbatim (Tex.escape x)
      = verb (verbSign (verbContent (Tex.escape x))) (verbContent (Tex.escape x)) := rfl
  refine ⟨?_, spaced_oneLine x⟩
  rw [← verbContent_escape_iff]
  refine ⟨IsVerbatim.verbContent_eq, fun ⟨hcontent, hfree⟩ => ?_⟩
  rw [hverb, hcontent]
  exact ⟨_, rfl, verbSign_not_mem hfree⟩

/-- **A tab that stands alone is left as it is.** -/
theorem not_isVerbatim_tab : ¬∀ x, IsVerbatim x (verbatim (Tex.escape x)) := by
  intro h
  have hlone := (verbContent_escape_iff ['a', '\t', 'b']).1 (h _).verbContent_eq.1
  have hunbroken : unbroken ['a', '\t', 'b'] = ['a', '\t', 'b'] :=
    Text.replace_of_lacks (by decide) _ (by decide)
  rw [hunbroken] at hlone
  exact absurd (hlone 'a' '\t' 'b' (List.infix_refl _) rfl rfl rfl) (by decide)

end Markup
end Bookpress
