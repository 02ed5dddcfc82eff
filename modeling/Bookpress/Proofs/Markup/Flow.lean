import Bookpress.Proofs.Markup.Spans
import Bookpress.Proofs.Tex.Nesting
import Bookpress.Proofs.Text.Splitting
import Bookpress.Tex.Escape
import Bookpress.Text.Blank
import Mathlib

/-!
# Texts on the way from markup to LaTeX

Between two rules a text is a mixture of characters, commands and tags that no rule has looked at
yet.  `Flows` says that such a text can be read from left to right: every tag is one of those that
are known, every group that is closed is open, and an empty group stands behind a control word or
an argument only.  It says nothing about which tags belong together, so it is kept when a piece is
cut out from one tag to another.

* `Flows.append` : texts that flow can be put behind each other.
* `Flows.lift` : a text flows inside of more groups as well.
* `Flows.cut_tag` : a text that flows can be cut before and behind each tag.
* `Flows.balanced` : braces balance in a text that leads from no open group to none.
-/

namespace Bookpress
namespace Markup

/-! ## places in a text -/

/-- what a place in a text allows to follow. -/
inductive Mode
  /-- running text. -/
  | text
  /-- a control word, which may go on or have an argument. -/
  | word
  /-- the front of an argument. -/
  | arg
  /-- an argument that holds characters of one line so far. -/
  | fill
  /-- the end of such an argument, which another may follow. -/
  | closed
deriving DecidableEq, Repr

/-- the place behind a character. -/
def Mode.next : Mode → Char → Mode
  | .word, c => if c.isAlpha then .word else .text
  | .arg, c => if Text.isLineEnd c then .text else .fill
  | .fill, c => if Text.isLineEnd c then .text else .fill
  | .text, _ => .text
  | .closed, _ => .text

/-- the place behind a closing brace. -/
def Mode.close : Mode → Mode
  | .word => .closed
  | .fill => .closed
  | _ => .text

/-- whether a character stands for itself and begins no tag. -/
def isPlain (c : Char) : Bool :=
  c ≠ '\\' && c ≠ '{' && c ≠ '}' && c ≠ '[' && c.toNat ≠ 0xFEFF

/-- whether a backslash and a character are a command on their own. -/
def isSign (c : Char) : Bool :=
  !c.isAlpha && !Text.isBlank c && c ≠ '[' && c.toNat ≠ 0xFEFF

/-- whether a character may stand in a target. -/
def isTame (c : Char) : Bool :=
  isPlain c && c ≠ ']' && c ≠ '<' && c ≠ '>' && !Text.isLineEnd c

/-! ## tags -/

/-- what stands between the brackets of the tags without a parameter, and of the options of a
list. -/
def tagNames : List Text := [
  "b".toList, "/b".toList, "u".toList, "/u".toList, "i".toList, "/i".toList,
  "sub".toList, "/sub".toList, "sup".toList, "/sup".toList, "button".toList, "/button".toList,
  "button\\_small".toList, "/button\\_small".toList, "code".toList, "/code".toList,
  "quote".toList, "/quote".toList, "center".toList, "/center".toList, "left".toList,
  "/left".toList, "table".toList, "/table".toList, "tr".toList, "/tr".toList, "td".toList,
  "/td".toList, "list".toList, "list=1".toList, "list=a".toList, "/list".toList, "*".toList,
  "/*".toList, "br".toList, "/color".toList, "/size".toList, "/url".toList,
  "label=$\\bullet$".toList, "label=\\arabic*.".toList, "label=(\\alph*)".toList]

/-- the options of commands. -/
def optionNames : List Text := ["c".toList, "HTML".toList]

/-- what may stand between the brackets of a tag. -/
inductive Named : Text → Prop
  | fixed {w : Text} : w ∈ tagNames → Named w
  | color (p : Text) : Named ("color=".toList ++ p)
  | size (p : Text) : Named ("size=".toList ++ p)
  | url {t : Text} : (∀ c ∈ t, isTame c = true) → Named ("url=".toList ++ Tex.escape t)

/-- a text without brackets. -/
def Bare (w : Text) : Prop := '[' ∉ w ∧ ']' ∉ w

instance (w : Text) : Decidable (Bare w) := inferInstanceAs (Decidable (_ ∧ _))

/-- a text that leads from `d` open groups and a mode to `e` open groups. -/
inductive Flows : Nat → Mode → Text → Nat → Prop
  | nil (d : Nat) (m : Mode) : Flows d m [] d
  | plain {d e : Nat} {m : Mode} {c : Char} {t : Text} (hc : isPlain c = true) :
      Flows d (m.next c) t e → Flows d m (c :: t) e
  | letter {d e : Nat} {m : Mode} {c : Char} {t : Text} (hc : c.isAlpha = true) :
      Flows d .word t e → Flows d m ('\\' :: c :: t) e
  | sign {d e : Nat} {m : Mode} {c : Char} {t : Text} (hc : isSign c = true) :
      Flows d .text t e → Flows d m ('\\' :: c :: t) e
  | argument {d e : Nat} {m : Mode} {t : Text} (hm : m = .word ∨ m = .closed) :
      Flows (d + 1) .arg t e → Flows d m ('{' :: t) e
  | group {d e : Nat} {m : Mode} {c : Char} {t : Text} (hc : c.isAlpha = true) (ht : c ≠ 't') :
      Flows (d + 1) .word t e → Flows d m ('{' :: '\\' :: c :: t) e
  | close {d e : Nat} {m : Mode} {t : Text} :
      Flows d m.close t e → Flows (d + 1) m ('}' :: t) e
  | option {d e : Nat} {w t : Text} (hw : w ∈ optionNames) :
      Flows d .closed t e → Flows d .word ('[' :: (w ++ ']' :: t)) e
  | tag {d e : Nat} {m : Mode} {w t : Text} (bare : Bare w) (named : Named w)
      (inner : Flows 0 .text w 0) : Flows d .text t e → Flows d m ('[' :: (w ++ ']' :: t)) e

/-- what a text that flows has between the brackets of a tag. -/
structure IsTag (w : Text) : Prop where
  bare : Bare w
  named : Named w
  flows : Flows 0 .text w 0

/-! ## putting texts together -/

section
variable {d e f : Nat} {m : Mode} {s t : Text}

/-- running text allows the least. -/
theorem Flows.raise (h : Flows d .text t e) (m : Mode) : Flows d m t e := by
  suffices H : ∀ n, Flows d n t e → n = .text → Flows d m t e from H _ h rfl
  clear h
  intro n h
  induction h generalizing m with
  | nil d _ => exact fun _ => .nil d m
  | plain hc _ ih => rintro rfl; exact .plain hc (ih _ rfl)
  | letter hc h _ => exact fun _ => .letter hc h
  | sign hc h _ => exact fun _ => .sign hc h
  | argument hm _ _ => rintro rfl; rcases hm with hm | hm <;> cases hm
  | group hc ht h _ => exact fun _ => .group hc ht h
  | close _ ih => rintro rfl; exact .close (ih _ rfl)
  | option _ _ _ => exact fun hn => by cases hn
  | tag bare named inner h _ _ => exact fun _ => .tag bare named inner h

theorem Flows.append (hs : Flows d m s e) (ht : Flows e .text t f) : Flows d m (s ++ t) f := by
  induction hs with
  | nil d m => exact ht.raise m
  | plain hc _ ih => exact .plain hc (ih ht)
  | letter hc _ ih => exact .letter hc (ih ht)
  | sign hc _ ih => exact .sign hc (ih ht)
  | argument hm _ ih => exact .argument hm (ih ht)
  | group hc hn _ ih => exact .group hc hn (ih ht)
  | close _ ih => exact .close (ih ht)
  | option hw _ ih =>
    rw [List.cons_append, List.append_assoc]
    exact .option hw (ih ht)
  | tag bare named inner _ _ ih =>
    rw [List.cons_append, List.append_assoc]
    exact .tag bare named inner (ih ht)

theorem Flows.lift (h : Flows d m t e) : Flows (d + 1) m t (e + 1) := by
  induction h with
  | nil d m => exact .nil _ m
  | plain hc _ ih => exact .plain hc ih
  | letter hc _ ih => exact .letter hc ih
  | sign hc _ ih => exact .sign hc ih
  | argument hm _ ih => exact .argument hm ih
  | group hc hn _ ih => exact .group hc hn ih
  | close _ ih => exact .close ih
  | option hw _ ih => exact .option hw ih
  | tag bare named inner _ _ ih => exact .tag bare named inner ih

theorem Flows.within (h : Flows 0 .text t 0) (d : Nat) : Flows d .text t d := by
  induction d with
  | zero => exact h
  | succ d ih => exact ih.lift

/-- a text inside a group, however its own groups stand. -/
theorem Flows.enclose (hs : Flows d .text s e) (ht : Flows e .text t f) (m : Mode) :
    Flows (d + 1) m (s ++ '}' :: t) f :=
  (hs.lift.append (.close ht)).raise m

end

/-! ## taking texts apart -/

theorem eq_of_append_close {v w r t : Text} (hv : ']' ∉ v) (hw : ']' ∉ w)
    (h : v ++ ']' :: r = w ++ ']' :: t) : v = w ∧ r = t := by
  obtain ⟨x, rfl, hx⟩ := Text.exists_of_append_cons_eq hw h
  cases x with
  | nil => exact ⟨List.append_nil w, (List.cons.inj hx).2⟩
  | cons c x =>
    obtain ⟨rfl, -⟩ := List.cons.inj hx
    exact absurd (by simp) hv

/-- a tag begins behind another one. -/
theorem exists_of_append_open {v r a t : Text} (hv : '[' ∉ v)
    (h : v ++ ']' :: r = a ++ '[' :: t) : ∃ b, a = v ++ ']' :: b ∧ r = b ++ '[' :: t := by
  have hfront : '[' ∉ v ++ [']'] := by simp [hv]
  rw [List.append_cons] at h
  obtain ⟨b, rfl, hb⟩ := Text.exists_of_append_cons_eq hfront h.symm
  exact ⟨b, (List.append_cons ..).symm, hb.symm⟩

theorem optionNames_eq : optionNames = [['c'], ['H', 'T', 'M', 'L']] := by
  unfold optionNames
  repeat rw [String.toList_ofList]

theorem bare_of_mem_optionNames : ∀ w ∈ optionNames, Bare w := by
  rw [optionNames_eq]
  decide

theorem Flows.cut_tag {d e : Nat} {m : Mode} {a w r : Text} (hw : ']' ∉ w)
    (ho : w ∉ optionNames) (h : Flows d m (a ++ '[' :: (w ++ ']' :: r)) e) :
    ∃ k, Flows d m a k ∧ IsTag w ∧ Flows k .text r e := by
  generalize hu : a ++ '[' :: (w ++ ']' :: r) = u at h
  induction h generalizing a with
  | nil => simp at hu
  | @plain d e m c t hc h ih =>
    have hne : '[' ≠ c := by rintro rfl; simp [isPlain] at hc
    obtain ⟨b, rfl, hb⟩ := Text.exists_of_append_cons_eq (p := [c]) (by simp [hne]) hu
    obtain ⟨k, ha, hk⟩ := ih hb
    exact ⟨k, .plain hc ha, hk⟩
  | @letter d e m c t hc h ih =>
    have hne : '[' ≠ c := by rintro rfl; simp at hc
    obtain ⟨b, rfl, hb⟩ := Text.exists_of_append_cons_eq (p := ['\\', c]) (by simp [hne]) hu
    obtain ⟨k, ha, hk⟩ := ih hb
    exact ⟨k, .letter hc ha, hk⟩
  | @sign d e m c t hc h ih =>
    have hne : '[' ≠ c := by rintro rfl; simp [isSign] at hc
    obtain ⟨b, rfl, hb⟩ := Text.exists_of_append_cons_eq (p := ['\\', c]) (by simp [hne]) hu
    obtain ⟨k, ha, hk⟩ := ih hb
    exact ⟨k, .sign hc ha, hk⟩
  | @argument d e m t hm h ih =>
    obtain ⟨b, rfl, hb⟩ := Text.exists_of_append_cons_eq (p := ['{']) (by decide) hu
    obtain ⟨k, ha, hk⟩ := ih hb
    exact ⟨k, .argument hm ha, hk⟩
  | @group d e m c t hc hn h ih =>
    have hne : '[' ≠ c := by rintro rfl; simp at hc
    obtain ⟨b, rfl, hb⟩ := Text.exists_of_append_cons_eq (p := ['{', '\\', c]) (by simp [hne]) hu
    obtain ⟨k, ha, hk⟩ := ih hb
    exact ⟨k, .group hc hn ha, hk⟩
  | @close d e m t h ih =>
    obtain ⟨b, rfl, hb⟩ := Text.exists_of_append_cons_eq (p := ['}']) (by decide) hu
    obtain ⟨k, ha, hk⟩ := ih hb
    exact ⟨k, .close ha, hk⟩
  -- a tag may also be the one that is cut out
  | @option d e v t hv h ih =>
    cases a with
    | nil =>
      obtain ⟨rfl, -⟩ := eq_of_append_close hw (bare_of_mem_optionNames v hv).2
        (List.cons.inj hu).2
      exact absurd hv ho
    | cons b a =>
      simp only [List.cons_append, List.cons.injEq] at hu
      obtain ⟨rfl, hu⟩ := hu
      obtain ⟨b, rfl, ht⟩ := exists_of_append_open (bare_of_mem_optionNames v hv).1 hu.symm
      obtain ⟨k, ha, hk⟩ := ih ht.symm
      exact ⟨k, .option hv ha, hk⟩
  | @tag d e m v t bare named inner h _ ih =>
    cases a with
    | nil =>
      obtain ⟨rfl, rfl⟩ := eq_of_append_close hw bare.2 (List.cons.inj hu).2
      exact ⟨d, .nil d m, ⟨bare, named, inner⟩, h⟩
    | cons b a =>
      simp only [List.cons_append, List.cons.injEq] at hu
      obtain ⟨rfl, hu⟩ := hu
      obtain ⟨b, rfl, ht⟩ := exists_of_append_open bare.1 hu.symm
      obtain ⟨k, ha, hk⟩ := ih ht.symm
      exact ⟨k, .tag bare named inner ha, hk⟩

/-! ## what flows -/

theorem toNat_of_isAlpha {c : Char} (h : c.isAlpha = true) :
    (65 ≤ c.toNat ∧ c.toNat ≤ 90) ∨ (97 ≤ c.toNat ∧ c.toNat ≤ 122) := by
  simp only [Char.isAlpha, Char.isUpper, Char.isLower, Bool.or_eq_true, Bool.and_eq_true,
    decide_eq_true_eq, ge_iff_le, UInt32.le_iff_toNat_le] at h
  exact h

theorem isPlain_of_isAlpha {c : Char} (h : c.isAlpha = true) : isPlain c = true := by
  have hc := toNat_of_isAlpha h
  simp only [isPlain, Bool.and_eq_true, decide_eq_true_eq]
  refine ⟨⟨⟨⟨?_, ?_⟩, ?_⟩, ?_⟩, by omega⟩ <;> rintro rfl <;> revert h <;> decide

theorem isBlank_of_isAlpha {c : Char} (h : c.isAlpha = true) : Text.isBlank c = false := by
  have hc := toNat_of_isAlpha h
  simp only [Text.isBlank, Bool.or_eq_false_iff, Bool.and_eq_false_iff, decide_eq_false_iff_not]
  omega

theorem isAlpha_of_isBlank {c : Char} (h : Text.isBlank c = true) : c.isAlpha = false := by
  cases ha : c.isAlpha with
  | false => rfl
  | true =>
    rw [isBlank_of_isAlpha ha] at h
    cases h

theorem isBlank_of_isSign {c : Char} (h : isSign c = true) : Text.isBlank c = false := by
  simp only [isSign, Bool.and_eq_true, Bool.not_eq_true', decide_eq_true_eq] at h
  exact h.1.1.2

theorem ne_mark_of_isPlain {c : Char} (h : isPlain c = true) : c.toNat ≠ 0xFEFF := by
  simp only [isPlain, Bool.and_eq_true, decide_eq_true_eq] at h
  exact h.2

theorem isPlain_of_isBlank {c : Char} (h : Text.isBlank c = true) : isPlain c = true := by
  simp only [isPlain, Bool.and_eq_true, decide_eq_true_eq]
  refine ⟨⟨⟨⟨?_, ?_⟩, ?_⟩, ?_⟩, ?_⟩
  · rintro rfl; revert h; decide
  · rintro rfl; revert h; decide
  · rintro rfl; revert h; decide
  · rintro rfl; revert h; decide
  · intro hc
    simp [Text.isBlank, hc] at h

section
variable {d e : Nat} {m : Mode} {t u : Text}

/-- characters that stand for themselves may stand everywhere. -/
theorem Flows.plains (hu : ∀ c ∈ u, isPlain c = true) (h : Flows d .text t e) (m : Mode) :
    Flows d m (u ++ t) e := by
  induction u generalizing m with
  | nil => exact h.raise m
  | cons c u ih =>
    rw [List.forall_mem_cons] at hu
    exact .plain hu.1 (ih hu.2 _)

theorem Flows.letters (hu : ∀ c ∈ u, c.isAlpha = true) (h : Flows d .word t e) :
    Flows d .word (u ++ t) e := by
  induction u with
  | nil => exact h
  | cons c u ih =>
    rw [List.forall_mem_cons] at hu
    refine .plain (isPlain_of_isAlpha hu.1) ?_
    simp only [Mode.next, hu.1, if_true]
    exact ih hu.2

/-- a control word may stand everywhere. -/
theorem Flows.control {name : String} {c : Char} (hn : name.toList = c :: u)
    (hu : ∀ x ∈ c :: u, x.isAlpha = true) (h : Flows d .word t e) (m : Mode) :
    Flows d m (Tex.control name ++ t) e := by
  rw [List.forall_mem_cons] at hu
  rw [Tex.control, hn]
  exact .letter hu.1 (h.letters hu.2)

/-- the front of a group that begins with a control word. -/
theorem Flows.groupControl {name : String} {c : Char} (hn : name.toList = c :: u)
    (hu : ∀ x ∈ c :: u, x.isAlpha = true) (hc : c ≠ 't') (h : Flows (d + 1) .word t e)
    (m : Mode) : Flows d m ('{' :: (Tex.control name ++ t)) e := by
  rw [List.forall_mem_cons] at hu
  rw [Tex.control, hn]
  exact .group hu.1 hc (h.letters hu.2)

/-- whether characters leave the argument that they stand in on its line. -/
def Fills (u : Text) : Prop := ∀ c ∈ u, isPlain c = true ∧ Text.isLineEnd c = false

instance (u : Text) : Decidable (Fills u) := inferInstanceAs (Decidable (∀ c ∈ u, _ ∧ _))

theorem Flows.fill (hu : Fills u) (h : Flows d .fill t e) : Flows d .fill (u ++ t) e := by
  induction u with
  | nil => exact h
  | cons c u ih =>
    have hc := hu c List.mem_cons_self
    refine .plain hc.1 ?_
    simp only [Mode.next, hc.2]
    exact ih fun x hx => hu x (List.mem_cons_of_mem _ hx)

/-- an argument of characters on one line, which another argument may follow. -/
theorem Flows.filled (hu : Fills u) (hne : u ≠ []) (hm : m = .word ∨ m = .closed)
    (h : Flows d .closed t e) : Flows d m (Tex.group u ++ t) e := by
  obtain ⟨c, u, rfl⟩ := List.exists_cons_of_ne_nil hne
  have hc := hu c List.mem_cons_self
  have hu' : Fills u := fun x hx => hu x (List.mem_cons_of_mem _ hx)
  rw [Tex.group, List.cons_append, List.append_assoc, List.cons_append]
  refine .argument hm (.plain hc.1 ?_)
  simp only [Mode.next, hc.2]
  exact Flows.fill hu' (.close h)

theorem Flows.stop (hm : m = .word ∨ m = .closed) (h : Flows d .text t e) :
    Flows d m (Tex.stop ++ t) e :=
  .argument hm (.close h)

/-! ## balance -/

theorem Flows.nests (h : Flows d m t e) : Tex.Nests d t e := by
  induction h with
  | nil d _ => exact .nil d
  | plain hc _ ih =>
    simp only [isPlain, Bool.and_eq_true, decide_eq_true_eq] at hc
    exact .plain hc.1.1.1.1 hc.1.1.1.2 hc.1.1.2 ih
  | letter _ _ ih => exact .pair _ ih
  | sign _ _ ih => exact .pair _ ih
  | argument _ _ ih => exact .opens ih
  | group _ _ _ ih => exact .opens (.pair _ ih)
  | close _ ih => exact .closes ih
  | @option d _ w t hw _ ih =>
    have hb : ∀ w ∈ optionNames, Tex.Balanced w := by
      rw [optionNames_eq]
      decide
    exact .plain (by decide) (by decide) (by decide)
      (((hb w hw).nests d).append (.plain (by decide) (by decide) (by decide) ih))
  | @tag d _ _ w t _ _ _ _ ihw ih =>
    have hb : Tex.Balanced w := Tex.nests_zero_iff.1 ihw
    exact .plain (by decide) (by decide) (by decide)
      ((hb.nests d).append (.plain (by decide) (by decide) (by decide) ih))

theorem Flows.balanced (h : Flows 0 m t 0) : Tex.Balanced t := Tex.nests_zero_iff.1 h.nests

/-- the byte order mark does not flow. -/
theorem Flows.ne_mark (h : Flows d m t e) : ∀ c ∈ t, c.toNat ≠ 0xFEFF := by
  induction h with
  | nil => exact fun c hc => by cases hc
  | plain hc _ ih => exact List.forall_mem_cons.2 ⟨ne_mark_of_isPlain hc, ih⟩
  | letter hc _ ih =>
    exact List.forall_mem_cons.2 ⟨by decide,
      List.forall_mem_cons.2 ⟨ne_mark_of_isPlain (isPlain_of_isAlpha hc), ih⟩⟩
  | sign hc _ ih =>
    simp only [isSign, Bool.and_eq_true, decide_eq_true_eq] at hc
    exact List.forall_mem_cons.2 ⟨by decide, List.forall_mem_cons.2 ⟨hc.2, ih⟩⟩
  | argument _ _ ih => exact List.forall_mem_cons.2 ⟨by decide, ih⟩
  | group hc _ _ ih =>
    exact List.forall_mem_cons.2 ⟨by decide, List.forall_mem_cons.2 ⟨by decide,
      List.forall_mem_cons.2 ⟨ne_mark_of_isPlain (isPlain_of_isAlpha hc), ih⟩⟩⟩
  | close _ ih => exact List.forall_mem_cons.2 ⟨by decide, ih⟩
  | @option _ _ w t hw _ ih =>
    have ho : ∀ w ∈ optionNames, ∀ c ∈ w, c.toNat ≠ 0xFEFF := by
      rw [optionNames_eq]
      decide
    intro c hc
    simp only [List.mem_cons, List.mem_append] at hc
    rcases hc with rfl | hc | rfl | hc
    · decide
    · exact ho w hw c hc
    · decide
    · exact ih c hc
  | tag _ _ _ _ ihw ih =>
    intro c hc
    simp only [List.mem_cons, List.mem_append] at hc
    rcases hc with rfl | hc | rfl | hc
    · decide
    · exact ihw c hc
    · decide
    · exact ih c hc

end

end Markup
end Bookpress
