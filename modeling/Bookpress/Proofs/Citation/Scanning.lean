import Bookpress.Citation.Bibliography
import Bookpress.Proofs.Tex.Nesting
import Bookpress.Proofs.Text.Searching

/-!
# The links of a text

What the scanner of links sees: the links from left to right, and the text behind the brace that
closes the current group.

* `readLink_eq_some_iff` : the link at the front is the one that is written there.
* `scan_induction` : induction along a scan.
* `found_append` : text in which no link can begin may stand before a text.
-/

namespace Bookpress
namespace Citation

open Tex

/-- the links of a text, from left to right. -/
def found (t : Text) : List Link := Text.hits (Text.search readLink) t

theorem entries_eq (t : Text) : entries t = entriesOf (found t) := rfl

/-- target and caption are arguments, and there is a caption. -/
structure Link.Sound (l : Link) : Prop where
  target : Balanced l.target
  caption : Balanced l.caption
  caption_ne : l.caption ≠ []

theorem readLink_eq_some_iff {t r : Text} {l : Link} :
    readLink t = some (l, r) ↔ t = l.written ++ r ∧ l.Sound := by
  constructor
  · intro h
    refine ⟨readLink_eq_some h, ?_⟩
    unfold readLink at h
    split at h
    · cases h
    · split at h
      · cases h
      · rename_i target u hu
        split at h
        · cases h
        · rename_i caption v hv
          split at h
          · cases h
          · rename_i hne
            cases h
            exact ⟨(readArgument_eq_some_iff.1 hu).2, (readArgument_eq_some_iff.1 hv).2, hne⟩
  · rintro ⟨rfl, h⟩
    exact readLink_written h.target h.caption h.caption_ne r

theorem Link.Sound.readLink {l : Link} (h : l.Sound) (r : Text) :
    readLink (l.written ++ r) = some (l, r) :=
  readLink_written h.target h.caption h.caption_ne r

theorem Link.written_eq (l : Link) :
    l.written = '\\' :: ("href".toList ++ (group l.target ++ group l.caption)) := by
  simp [Link.written, command_two, Tex.control]

theorem takes_readLink : Text.Takes readLink := by
  intro t l r h
  rw [readLink_eq_some h, Link.written_eq]
  simp only [List.length_append, List.length_cons]
  omega

theorem readLink_of_ne {c : Char} (h : c ≠ '\\') (t : Text) : readLink (c :: t) = none := by
  cases hl : readLink (c :: t) with
  | none => rfl
  | some x =>
    have e := readLink_eq_some hl
    rw [Link.written_eq, List.cons_append] at e
    exact absurd (List.cons.inj e).1 h

theorem readLink_control {c : Char} (h : c ≠ 'h') (t : Text) :
    readLink ('\\' :: c :: t) = none := by
  cases hl : readLink ('\\' :: c :: t) with
  | none => rfl
  | some x =>
    have e := readLink_eq_some hl
    rw [Link.written_eq, String.toList_ofList] at e
    simp only [List.cons_append, List.cons.injEq] at e
    exact absurd e.2.1 h

/-- a text is empty, or begins with a link, or with a character at which no link begins. -/
theorem scan_induction {motive : Text → Prop} (nil : motive [])
    (link : ∀ l r, Link.Sound l → motive r → motive (l.written ++ r))
    (char : ∀ c t, readLink (c :: t) = none → motive t → motive (c :: t)) (t : Text) :
    motive t := by
  induction t using takes_readLink.induction with
  | nil => exact nil
  | front t l r h ih =>
    obtain ⟨e, hl⟩ := readLink_eq_some_iff.1 h
    rw [e]
    exact link l r hl ih
  | char c t h ih => exact char c t h ih

theorem found_written {l : Link} (h : l.Sound) (r : Text) :
    found (l.written ++ r) = l :: found r :=
  Text.hits_search_of_some takes_readLink (h.readLink r)

theorem found_cons {c : Char} {t : Text} (h : readLink (c :: t) = none) :
    found (c :: t) = found t :=
  Text.hits_search_of_none takes_readLink h

/-! ## text without links -/

theorem misses_of_not_mem {u : Text} (h : '\\' ∉ u) : Text.Misses readLink u := by
  refine Text.misses_of_forall fun c hc => readLink_of_ne ?_
  rintro rfl
  exact h hc

theorem misses_control {name : String} {c : Char} {u : Text} (h : name.toList = c :: u)
    (hc : c ≠ 'h') (hu : '\\' ∉ c :: u) : Text.Misses readLink (Tex.control name) := by
  unfold Tex.control
  rw [h]
  exact ⟨fun r => readLink_control hc (u ++ r), misses_of_not_mem hu⟩

theorem found_append {u : Text} (h : Text.Misses readLink u) (t : Text) :
    found (u ++ t) = found t :=
  Text.hits_append_of_misses takes_readLink h t

/-! ## what follows a group -/

/-- the text after the brace that closes the current group, with `d` groups open inside it. -/
def afterGroup (d : Nat) (t : Text) : Option Text := (closeBrace d t).map Prod.snd

theorem afterGroup_eq_some_iff {d : Nat} {t b : Text} :
    afterGroup d t = some b ↔ ∃ a, t = a ++ '}' :: b ∧ Nests d a 0 := by
  simp [afterGroup, closeBrace_eq_some_iff]

@[simp] theorem afterGroup_nil (d : Nat) : afterGroup d [] = none := by simp [afterGroup]

@[simp] theorem afterGroup_slash (d : Nat) : afterGroup d ['\\'] = none := by simp [afterGroup]

@[simp] theorem afterGroup_pair (d : Nat) (c : Char) (t : Text) :
    afterGroup d ('\\' :: c :: t) = afterGroup d t := by
  simp [afterGroup, Function.comp_def]

@[simp] theorem afterGroup_open (d : Nat) (t : Text) :
    afterGroup d ('{' :: t) = afterGroup (d + 1) t := by
  simp [afterGroup, Function.comp_def]

@[simp] theorem afterGroup_close_zero (t : Text) : afterGroup 0 ('}' :: t) = some t := by
  simp [afterGroup]

@[simp] theorem afterGroup_close_succ (d : Nat) (t : Text) :
    afterGroup (d + 1) ('}' :: t) = afterGroup d t := by
  simp [afterGroup, Function.comp_def]

theorem afterGroup_append {s : Text} (hs : Balanced s) (d : Nat) (t : Text) :
    afterGroup d (s ++ t) = afterGroup d t := by
  simp [afterGroup, closeBrace_append hs, Function.comp_def]

theorem afterGroup_plain {c : Char} (slash : c ≠ '\\') (opens : c ≠ '{') (closes : c ≠ '}')
    (d : Nat) (t : Text) : afterGroup d (c :: t) = afterGroup d t :=
  afterGroup_append (Balanced.nil.plain slash opens closes) d t

/-- a function that changes no group of the rest changes none behind a character that it leaves
alone. -/
theorem afterGroup_cons {f : Text → Text} {c : Char} {r : Text} (slash : c ≠ '\\')
    (hr : ∀ d, afterGroup d (f r) = (afterGroup d r).map f) (d : Nat) :
    afterGroup d (c :: f r) = (afterGroup d (c :: r)).map f := by
  by_cases opens : c = '{'
  · subst opens
    rw [afterGroup_open, afterGroup_open]
    exact hr (d + 1)
  · by_cases closes : c = '}'
    · subst closes
      cases d with
      | zero => simp
      | succ d =>
        rw [afterGroup_close_succ, afterGroup_close_succ]
        exact hr d
    · rw [afterGroup_plain slash opens closes, afterGroup_plain slash opens closes]
      exact hr d

end Citation
end Bookpress
