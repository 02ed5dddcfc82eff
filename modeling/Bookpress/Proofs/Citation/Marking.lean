import Bookpress.Proofs.Citation.Scanning
import Bookpress.Proofs.Text.Numerals

/-!
# Marking

What a scan finds does not change when a note is written after every link.  A note must balance,
no link may begin in it, and then no scan that runs over it (of an outer link that is refused in
the end) loses its place.

* `afterGroup_annotate` : a group closes at the same brace with the notes and without.
* `found_annotate` : the links of the annotated text are those of the text.
* `bare_annotate`, `cited_annotate` : citations can be taken out again, and their numbers be read.
* `references_marked` : citing a cited text again changes neither entries nor bibliography.
-/

namespace Bookpress
namespace Citation

open Tex

section
variable (note : Link → Text)

/-- a text with a note after every link. -/
def annotate (t : Text) : Text :=
  Text.rewrite (Text.search readLink) (fun l => l.written ++ note l) t

@[simp] theorem annotate_nil : annotate note [] = [] :=
  Text.rewrite_search_nil takes_readLink _

theorem annotate_written {l : Link} (h : l.Sound) (r : Text) :
    annotate note (l.written ++ r) = l.written ++ (note l ++ annotate note r) := by
  rw [← List.append_assoc l.written]
  exact Text.rewrite_search_of_some takes_readLink _ (h.readLink r)

theorem annotate_of_none {c : Char} {t : Text} (h : readLink (c :: t) = none) :
    annotate note (c :: t) = c :: annotate note t :=
  Text.rewrite_search_of_none takes_readLink _ h

/-- notes leave the first character alone, and the text in front of the first backslash. -/
theorem annotate_cons_of_ne {c : Char} (h : c ≠ '\\') (t : Text) :
    annotate note (c :: t) = c :: annotate note t :=
  annotate_of_none note (readLink_of_ne h t)

theorem eq_cons_of_annotate_eq_cons {c : Char} (hc : c ≠ '\\') {t y : Text}
    (h : annotate note t = c :: y) : ∃ x, t = c :: x ∧ annotate note x = y := by
  cases t with
  | nil => simp at h
  | cons d x =>
    cases hl : readLink (d :: x) with
    | none =>
      rw [annotate_of_none note hl] at h
      obtain ⟨rfl, rfl⟩ := List.cons.inj h
      exact ⟨x, rfl, rfl⟩
    | some z =>
      obtain ⟨e, hs⟩ := readLink_eq_some_iff.1 hl
      rw [e, annotate_written note hs, Link.written_eq, List.cons_append] at h
      exact absurd (List.cons.inj h).1.symm hc

theorem eq_append_of_annotate_eq_append {p t y : Text} (hp : '\\' ∉ p)
    (h : annotate note t = p ++ y) : ∃ x, t = p ++ x ∧ annotate note x = y := by
  induction p generalizing t with
  | nil => exact ⟨t, rfl, h⟩
  | cons c p ih =>
    simp only [List.mem_cons, not_or] at hp
    obtain ⟨x, rfl, hx⟩ := eq_cons_of_annotate_eq_cons note (Ne.symm hp.1) h
    obtain ⟨z, rfl, hz⟩ := ih hp.2 hx
    exact ⟨z, rfl, hz⟩

/-! ## groups around notes -/

theorem Link.Sound.written {l : Link} (h : l.Sound) :
    Balanced ("href".toList ++ (group l.target ++ group l.caption)) :=
  Balanced.append (by decide_cbv)
    ((balanced_group h.target).append (balanced_group h.caption))

theorem afterGroup_written {l : Link} (h : l.Sound) (d : Nat) (t : Text) :
    afterGroup d (l.written ++ t) = afterGroup d t := by
  refine afterGroup_append ?_ d t
  rw [Link.written_eq, String.toList_ofList]
  have := h.written
  rw [String.toList_ofList] at this
  -- the scan takes the backslash and the first letter of the command as one unit
  cases this with
  | plain _ _ _ h => exact .pair 'h' h

variable {note}

theorem afterGroup_annotate (hb : ∀ l, Balanced (note l)) (d : Nat) (t : Text) :
    afterGroup d (annotate note t) = (afterGroup d t).map (annotate note) := by
  induction t using Text.length_induction generalizing d with
  | step t ih =>
    cases t with
    | nil => simp
    | cons c r =>
      simp only [List.length_cons] at ih
      cases hl : readLink (c :: r) with
      | some x =>
        obtain ⟨l, s⟩ := x
        obtain ⟨e, hs⟩ := readLink_eq_some_iff.1 hl
        have hlen := takes_readLink _ _ _ hl
        simp only [List.length_cons] at hlen
        rw [e, annotate_written note hs, afterGroup_written hs, afterGroup_append (hb l),
          afterGroup_written hs]
        exact ih s (by omega) d
      | none =>
        rw [annotate_of_none note hl]
        by_cases slash : c = '\\'
        · subst slash
          cases r with
          | nil => simp
          | cons c s =>
            simp only [List.length_cons] at ih
            cases hs : readLink (c :: s) with
            | none =>
              rw [annotate_of_none note hs, afterGroup_pair, afterGroup_pair]
              exact ih s (by omega) d
            | some x =>
              -- the backslash of the link belongs to the unit in front of it
              obtain ⟨l, u⟩ := x
              obtain ⟨e, hl⟩ := readLink_eq_some_iff.1 hs
              have hlen := takes_readLink _ _ _ hs
              simp only [List.length_cons] at hlen
              rw [e, annotate_written note hl, Link.written_eq, List.cons_append, List.cons_append,
                afterGroup_pair, afterGroup_pair, afterGroup_append hl.written,
                afterGroup_append (hb l), afterGroup_append hl.written]
              exact ih u (by omega) d
        · exact afterGroup_cons slash (ih r (by omega)) d

/-! ## links among notes -/

theorem afterGroup_argument {a : Text} (h : Balanced a) (b : Text) :
    afterGroup 0 (a ++ '}' :: b) = some b := by
  rw [afterGroup_append h, afterGroup_close_zero]

/-- an argument of the annotated text is one of the text, and is empty only if it was. -/
theorem exists_argument (hb : ∀ l, Balanced (note l)) {t a b : Text} (ha : Balanced a)
    (h : annotate note t = a ++ '}' :: b) :
    ∃ a' b', t = a' ++ '}' :: b' ∧ Balanced a' ∧ annotate note b' = b ∧ (a' = [] → a = []) := by
  have hg := afterGroup_annotate hb 0 t
  rw [h, afterGroup_argument ha] at hg
  obtain ⟨b', hb', rfl⟩ := Option.map_eq_some_iff.1 hg.symm
  obtain ⟨a', rfl, ha'⟩ := afterGroup_eq_some_iff.1 hb'
  refine ⟨a', b', rfl, nests_zero_iff.1 ha', rfl, ?_⟩
  rintro rfl
  rw [List.nil_append, annotate_cons_of_ne note (by decide)] at h
  cases a with
  | nil => rfl
  | cons d w =>
    obtain ⟨rfl, -⟩ := List.cons.inj h
    exact absurd rfl (ha.ne_cons_close w)

/-- a link is not refused because of the notes, nor made by them. -/
theorem readLink_annotate_of_none (hb : ∀ l, Balanced (note l)) {t : Text}
    (h : readLink t = none) : readLink (annotate note t) = none := by
  cases hl : readLink (annotate note t) with
  | none => rfl
  | some z =>
    obtain ⟨l, r⟩ := z
    obtain ⟨e, hs⟩ := readLink_eq_some_iff.1 hl
    cases t with
    | nil => rw [annotate_nil, takes_readLink.read_nil] at hl; cases hl
    | cons c s =>
      rw [annotate_of_none note h, Link.written_eq] at e
      simp only [group, List.cons_append, List.append_assoc, List.nil_append] at e
      obtain ⟨rfl, e'⟩ := List.cons.inj e
      obtain ⟨x, rfl, hx⟩ := eq_append_of_annotate_eq_append note (by decide_cbv) e'
      obtain ⟨y, rfl, hy⟩ := eq_cons_of_annotate_eq_cons note (by decide) hx
      obtain ⟨target, b, rfl, ht, hb', -⟩ := exists_argument hb hs.target hy
      obtain ⟨u, rfl, hu⟩ := eq_cons_of_annotate_eq_cons note (by decide) hb'
      obtain ⟨caption, v, rfl, hc, -, hne⟩ := exists_argument hb hs.caption hu
      -- so a link stands in the text as well
      have sound : Link.Sound ⟨target, caption⟩ := ⟨ht, hc, fun h => hs.caption_ne (hne h)⟩
      have := sound.readLink v
      rw [Link.written_eq] at this
      simp only [group, List.cons_append, List.append_assoc, List.nil_append] at this
      rw [this] at h
      cases h

theorem found_annotate (hb : ∀ l, Balanced (note l)) (hq : ∀ l, Text.Misses readLink (note l))
    (t : Text) : found (annotate note t) = found t := by
  induction t using scan_induction with
  | nil => simp
  | link l r h ih =>
    rw [annotate_written note h, found_written h, found_written h, found_append (hq l), ih]
  | char c t h ih =>
    have hn := readLink_annotate_of_none hb h
    rw [annotate_of_none note h] at hn ⊢
    rw [found_cons hn, found_cons h, ih]

end

/-! ## citations -/

/-- a citation up to its number. -/
def citationOpening : Text :=
  ' ' :: (Tex.control "textnormal" ++ '{' :: (Tex.control "cite" ++ ['{']))

/-- the number of the citation at the front. -/
def readCitation (t : Text) : Option (Nat × Text) :=
  (Text.strip? citationOpening t).bind fun r =>
    (Text.toNat? (r.takeWhile Char.isDigit)).bind fun n =>
      (Text.strip? ['}', '}'] (r.dropWhile Char.isDigit)).map fun r => (n, r)

/-- the link at the front, with the number of the citation directly after it. -/
def readCited (t : Text) : Option ((Link × Option Nat) × Text) :=
  (readLink t).map fun (l, r) =>
    match readCitation r with
    | some (n, r) => ((l, some n), r)
    | none => ((l, none), r)

/-- the links of a text and the numbers that they carry, from left to right. -/
def cited (t : Text) : List (Link × Option Nat) := Text.hits (Text.search readCited) t

/-- a text without the citations that stand directly after its links. -/
def bare (t : Text) : Text := Text.rewrite (Text.search readCited) (fun x => x.1.written) t

theorem citation_eq (n : Nat) :
    citation n = citationOpening ++ (Text.ofNat n ++ ['}', '}']) := by
  simp [citation, citationOpening, group]

theorem balanced_citation (n : Nat) : Balanced (citation n) := by
  have : Balanced (Tex.control "cite" ++ group (Text.ofNat n)) :=
    Balanced.append (by decide_cbv) (balanced_group (Text.balanced_ofNat n))
  simp only [citation, command_one]
  exact Balanced.cons (by decide) (Balanced.append (by decide_cbv) (balanced_group this))

theorem misses_citationOpening : Text.Misses readLink citationOpening := by
  have ht : Text.Misses readLink (Tex.control "textnormal") :=
    misses_control String.toList_ofList (by decide) (by decide)
  have hc : Text.Misses readLink (Tex.control "cite") :=
    misses_control String.toList_ofList (by decide) (by decide)
  have he : Text.Misses readLink ([' '] ++ (Tex.control "textnormal" ++ (['{'] ++
      (Tex.control "cite" ++ ['{'])))) :=
    (misses_of_not_mem (by decide)).append (ht.append
      ((misses_of_not_mem (by decide)).append (hc.append (misses_of_not_mem (by decide)))))
  simpa [citationOpening] using he

theorem misses_citation (n : Nat) : Text.Misses readLink (citation n) := by
  rw [citation_eq]
  refine misses_citationOpening.append (misses_of_not_mem fun h => ?_)
  rcases List.mem_append.1 h with h | h
  · exact Text.slash_not_mem_ofNat n h
  · revert h
    decide

theorem readCitation_citation (n : Nat) (r : Text) :
    readCitation (citation n ++ r) = some (n, r) := by
  unfold readCitation
  rw [citation_eq, List.append_assoc, List.append_assoc, Text.strip?_append, Option.bind_some,
    List.cons_append, Text.takeWhile_ofNat_append n (by decide),
    Text.dropWhile_ofNat_append n (by decide), Text.toNat?_ofNat, Option.bind_some,
    ← List.cons_append, Text.strip?_append]
  rfl

theorem takes_readCitation : Text.Takes readCitation := by
  intro t n r h
  obtain ⟨u, hu, h⟩ := Option.bind_eq_some_iff.1 h
  obtain ⟨m, -, h⟩ := Option.bind_eq_some_iff.1 h
  obtain ⟨v, hv, e⟩ := Option.map_eq_some_iff.1 h
  cases e
  have hd := (List.dropWhile_sublist Char.isDigit (l := u)).length_le
  rw [Text.strip?_eq_some.1 hv] at hd
  rw [Text.strip?_eq_some.1 hu]
  simp only [List.length_append, List.length_cons] at hd ⊢
  omega

theorem takes_readCited : Text.Takes readCited := by
  intro t a r h
  obtain ⟨⟨l, s⟩, hl, e⟩ := Option.map_eq_some_iff.1 h
  have hs := takes_readLink t l s hl
  simp only at e
  split at e
  · rename_i n u hu
    have := takes_readCitation _ _ _ hu
    cases e
    omega
  · cases e
    exact hs

theorem readCited_eq_none {t : Text} (h : readLink t = none) : readCited t = none := by
  simp [readCited, h]

/-! ## reading citations back -/

section
variable (number : Link → Nat)

theorem readCited_annotate {l : Link} (h : l.Sound) (r : Text) :
    readCited (annotate (fun l => citation (number l)) (l.written ++ r))
      = some ((l, some (number l)), annotate (fun l => citation (number l)) r) := by
  rw [annotate_written _ h]
  simp [readCited, h.readLink, readCitation_citation]

theorem readCited_annotate_of_none {t : Text} (h : readLink t = none) :
    readCited (annotate (fun l => citation (number l)) t) = none :=
  readCited_eq_none (readLink_annotate_of_none (fun _ => balanced_citation _) h)

theorem bare_annotate (t : Text) : bare (annotate (fun l => citation (number l)) t) = t := by
  induction t using scan_induction with
  | nil => rw [annotate_nil]; exact Text.rewrite_search_nil takes_readCited _
  | link l r h ih =>
    have := Text.rewrite_search_of_some takes_readCited (fun x => x.1.written)
      (readCited_annotate number h r)
    exact this.trans (congrArg (l.written ++ ·) ih)
  | char c t h ih =>
    have hn := readCited_annotate_of_none number h
    rw [annotate_of_none _ h] at hn ⊢
    exact (Text.rewrite_search_of_none takes_readCited _ hn).trans (congrArg (c :: ·) ih)

theorem cited_annotate (t : Text) :
    cited (annotate (fun l => citation (number l)) t)
      = (found t).map fun l => (l, some (number l)) := by
  induction t using scan_induction with
  | nil => rw [annotate_nil]; exact Text.hits_search_nil takes_readCited
  | link l r h ih =>
    have := Text.hits_search_of_some takes_readCited (readCited_annotate number h r)
    rw [found_written h, List.map_cons, ← ih]
    exact this
  | char c t h ih =>
    have hn := readCited_annotate_of_none number h
    rw [annotate_of_none _ h] at hn ⊢
    rw [found_cons h, ← ih]
    exact Text.hits_search_of_none takes_readCited hn

end

theorem marked_eq (t : Text) :
    marked t = annotate (fun l => citation (numberOf (entries t) l.caption)) t := rfl

theorem found_marked (t : Text) : found (marked t) = found t := by
  rw [marked_eq]
  exact found_annotate (fun _ => balanced_citation _) (fun _ => misses_citation _) t

theorem entries_marked (t : Text) : entries (marked t) = entries t := by
  rw [entries_eq, found_marked, ← entries_eq]

/-- **Marking is stable.**  A citation stands directly after every link and nothing else is
changed; taking the citations out gives the text back; and the marked text has the same links,
so it is cited in the same way. -/
theorem references_marked (t : Text) :
    Text.fill Link.written (links t) = t ∧
    (references t).text =
      Text.fill (fun l => l.written ++ citation (numberOf (references t).entries l.caption))
        (links t) ∧
    bare (references t).text = t ∧
    found (references t).text = found t ∧
    (references (references t).text).entries = (references t).entries ∧
    (references (references t).text).bibliography = (references t).bibliography := by
  refine ⟨fill_written t, rfl, ?_, found_marked t, entries_marked t, ?_⟩
  · show bare (marked t) = t
    rw [marked_eq]
    exact bare_annotate _ t
  · show bibliography (entries (marked t)) = bibliography (entries t)
    rw [entries_marked]

end Citation
end Bookpress
