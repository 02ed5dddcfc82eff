import Bookpress.Proofs.Citation.Ending
import Bookpress.Proofs.Citation.Listing
import Bookpress.Proofs.Tex.Squeezing
import Mathlib.Data.List.Chain
import Mathlib.Data.List.Infix

/-!
# Shared numbers in a tidy document

Links with the same caption get the same number, and then the document is tidied.  Captions that
differ in their line ends or in invisible characters alone are the same in the tidy document, and
their numbers are not.

* `Intact` : dropping the invisible characters makes no link and takes none away.
* `cited_squeeze` : the links of a squeezed document are the squeezed ones, with their numbers.
* `shares_iff` : links with the same caption share their number iff the captions of the references
  stay different.
* `not_shares_of_invisible` : so they do not always.
-/

namespace Bookpress
namespace Citation

open Tex

/-! ## intact documents -/

/-- what must not come together behind a character: the opening of a link, a further argument, and
an empty one. -/
def seams : List (Char × Text) := [('\\', hrefOpening), ('}', ['{']), ('{', ['}'])]

/-- no invisible character belongs to the backslash at the front of a text, and dropping them makes
no seam come together there. -/
def Seamless : Text → Prop
  | [] => True
  | c :: t => (c = '\\' → ∀ d ∈ t.head?, isInvisible d = false) ∧
    ∀ x ∈ seams, x.1 = c → x.2 <+: dropInvisible t → x.2 <+: t

/-- dropping the invisible characters of a text changes no group and no link in it. -/
def Intact (t : Text) : Prop := ∀ u ∈ t.tails, Seamless u

/-- no seam holds the character. -/
def isInert (c : Char) : Bool := seams.all fun x => c != x.1 && !x.2.contains c

section
variable {c : Char} {s t u r : Text} {l : Link}

theorem Intact.of_append (h : Intact (u ++ t)) : Intact t := fun v hv =>
  h v ((List.mem_tails _ _).2 (((List.mem_tails _ _).1 hv).trans (List.suffix_append u t)))

theorem Intact.tail (h : Intact (c :: t)) : Intact t := Intact.of_append (u := [c]) h

theorem Intact.head (h : Intact (c :: t)) : Seamless (c :: t) :=
  h _ ((List.mem_tails _ _).2 List.suffix_rfl)

theorem isInert_of_mem_seams {x : Char × Text} (hx : x ∈ seams) :
    isInert x.1 = false ∧ ∀ c ∈ x.2, isInert c = false := by
  simp only [isInert, List.all_eq_false, Bool.not_eq_true, Bool.and_eq_false_iff, bne_eq_false_iff_eq,
    Bool.not_eq_false', List.contains_iff_mem]
  exact ⟨⟨x, hx, .inl rfl⟩, fun c hc => ⟨x, hx, .inr hc⟩⟩

/-- a seam does not reach across an invisible character behind a character that no seam holds. -/
theorem prefix_of_isChain {p : Text}
    (h : List.IsChain (fun c d => isInvisible d = true → isInert c = true) (c :: t))
    (hc : isInert c = false) (hp : ∀ d ∈ p, isInert d = false) (hpre : p <+: dropInvisible t) :
    p <+: t := by
  induction t generalizing c p with
  | nil => exact hpre
  | cons d t ih =>
    rw [List.isChain_cons_cons] at h
    have hd : isInvisible d = false := by
      by_contra hd
      simp [h.1 (by simpa using hd)] at hc
    cases p with
    | nil => exact List.nil_prefix
    | cons a p =>
      rw [List.forall_mem_cons] at hp
      rw [show dropInvisible (d :: t) = d :: dropInvisible t by simp [dropInvisible, hd],
        List.cons_prefix_cons] at hpre
      obtain ⟨rfl, hpre⟩ := hpre
      exact List.cons_prefix_cons.2 ⟨rfl, ih h.2 hp.1 hp.2 hpre⟩

/-- **A text is intact** when its invisible characters stand behind characters that no seam holds. -/
theorem intact_of_isChain
    (h : List.IsChain (fun c d => isInvisible d = true → isInert c = true) t) : Intact t := by
  intro u hu
  have hchain := h.suffix ((List.mem_tails _ _).1 hu)
  cases u with
  | nil => trivial
  | cons c u =>
    refine ⟨?_, ?_⟩
    · rintro rfl d hd
      obtain ⟨u, rfl⟩ : ∃ v, u = d :: v := List.head?_eq_some_iff.1 hd
      rw [List.isChain_cons_cons] at hchain
      by_contra hinv
      exact absurd (hchain.1 (by simpa using hinv)) (by decide)
    · rintro x hx rfl hpre
      obtain ⟨hhead, hrest⟩ := isInert_of_mem_seams hx
      exact prefix_of_isChain hchain hhead hrest hpre

theorem Intact.seam {p : Text} (h : Intact (c :: t)) (hx : (c, p) ∈ seams) (hp : '\n' ∉ p)
    {y : Text} (hy : squeeze t = p ++ y) : p <+: t :=
  h.head.2 _ hx rfl (prefix_dropInvisible hp hy)

theorem ne_of_isLoose (h : isLoose c = true) : c ≠ '\\' ∧ c ≠ '{' ∧ c ≠ '}' := by
  refine ⟨?_, ?_, ?_⟩ <;> rintro rfl <;> revert h <;> decide

theorem not_isLoose_of_mem_opening : ∀ c ∈ hrefOpening, isLoose c = false := by
  unfold hrefOpening
  rw [String.toList_ofList]
  decide

theorem afterGroup_newlines (h : ∀ x ∈ u, x = '\n') (d : Nat) (t : Text) :
    afterGroup d (u ++ t) = afterGroup d t :=
  afterGroup_append (balanced_of_isOrdinary fun x hx => by rw [h x hx]; decide) d t

/-- **A group of an intact text closes at the same brace when it is squeezed.** -/
theorem afterGroup_squeeze (h : Intact t) (d : Nat) :
    afterGroup d (squeeze t) = (afterGroup d t).map squeeze := by
  induction t using Text.length_induction generalizing d with
  | step t ih =>
    cases t with
    | nil => simp
    | cons c r =>
      simp only [List.length_cons] at ih
      cases hc : isLoose c with
      | true =>
        obtain ⟨slash, opens, closes⟩ := ne_of_isLoose hc
        obtain ⟨v, w, z, hv, hw, hv', hw', -⟩ := squeeze_cons_of_isLoose hc r
        rw [afterGroup_plain slash opens closes, hv, afterGroup_newlines hv',
          ← ih r (by omega) h.tail d, hw, afterGroup_newlines hw']
      | false =>
        rw [squeeze_cons hc]
        by_cases slash : c = '\\'
        · subst slash
          cases r with
          | nil => simp
          | cons e r =>
            simp only [List.length_cons] at ih
            have hr := ih r (by omega) h.tail.tail d
            cases he : isLoose e with
            | false => rw [squeeze_cons he, afterGroup_pair, afterGroup_pair, hr]
            | true =>
              -- the backslash takes a line feed in place of the line end
              obtain ⟨v, w, z, hv, hw, hv', hw', hne⟩ := squeeze_cons_of_isLoose he r
              obtain ⟨x, v, rfl⟩ := List.exists_cons_of_ne_nil (hne (h.head.1 rfl e rfl))
              rw [List.forall_mem_cons] at hv'
              rw [hv, List.cons_append, afterGroup_pair, afterGroup_pair, ← hr, hw,
                afterGroup_newlines hv'.2, afterGroup_newlines hw']
        · exact afterGroup_cons slash (ih r (by omega) h.tail) d

theorem carries_squeeze : Carries Intact squeeze where
  suffix := Intact.of_append
  group h := afterGroup_squeeze h 0
  href h hy := by
    obtain ⟨x, rfl⟩ := h.seam (by simp [seams]) (by decide_cbv) hy
    refine ⟨x, rfl, ?_⟩
    rwa [squeeze_append not_isLoose_of_mem_opening, List.append_cancel_left_eq] at hy
  next h hy := by
    obtain ⟨x, rfl⟩ := h.seam (p := ['{']) (by simp [seams]) (by decide) hy
    refine ⟨x, rfl, ?_⟩
    rw [List.singleton_append, squeeze_cons (by decide)] at hy
    exact (List.cons.inj hy).2
  close t := by rw [squeeze_cons (by decide), List.head?_cons]

/-! ## links -/

/-- a link of a squeezed document. -/
def Link.squeezed (l : Link) : Link := ⟨squeeze l.target, squeeze l.caption⟩

theorem squeeze_written (l : Link) (r : Text) :
    squeeze (l.written ++ r) = l.squeezed.written ++ squeeze r := by
  rw [Link.written_append, Link.written_append, squeeze_cons (by decide),
    squeeze_append not_isLoose_of_mem_opening, squeeze_append_cons (by decide),
    squeeze_cons (by decide), squeeze_append_cons (by decide)]
  rfl

theorem not_isLoose_of_isDigit {c : Char} (h : c.isDigit = true) : isLoose c = false := by
  simp only [Char.isDigit, Bool.and_eq_true, decide_eq_true_eq, ge_iff_le,
    UInt32.le_iff_toNat_le] at h
  change 48 ≤ c.toNat ∧ c.toNat ≤ 57 at h
  have hne : c ≠ '\r' ∧ c ≠ '\n' := by
    constructor <;> rintro rfl <;> revert h <;> decide
  simp only [isLoose, Text.isLineEnd, isInvisible, hne, decide_false, Bool.or_false,
    Bool.or_eq_false_iff, decide_eq_false_iff_not, Bool.false_or]
  omega

theorem squeeze_citation (n : Nat) (r : Text) :
    squeeze (citation n ++ r) = citation n ++ squeeze r := by
  refine squeeze_append (fun c hc => ?_) r
  have hall : citationOpening.all (fun c => !isLoose c) = true := by decide_cbv
  have hopen : ∀ c ∈ citationOpening, isLoose c = false := fun c hc => by
    simpa using List.all_eq_true.1 hall c hc
  have hclose : ∀ c ∈ ['}', '}'], isLoose c = false := by decide
  rw [citation_eq, List.mem_append, List.mem_append] at hc
  rcases hc with hc | hc | hc
  · exact hopen c hc
  · exact not_isLoose_of_isDigit (Text.isDigit_of_mem_ofNat hc)
  · exact hclose c hc

theorem balanced_squeeze (hs : Balanced s) (h : Intact (s ++ '}' :: r)) :
    Balanced (squeeze s) := by
  have hg := afterGroup_squeeze h 0
  rw [squeeze_append_cons (by decide), afterGroup_argument hs, Option.map_some] at hg
  obtain ⟨a, e, ha⟩ := afterGroup_eq_some_iff.1 hg
  rw [List.append_cancel_right_eq] at e
  rw [e]
  exact nests_zero_iff.1 ha

theorem Link.Sound.squeezed (hl : l.Sound) (h : Intact (l.written ++ r)) : l.squeezed.Sound := by
  rw [Link.written_append] at h
  have htarget : Intact (l.target ++ '}' :: '{' :: (l.caption ++ '}' :: r)) :=
    Intact.of_append (u := '\\' :: hrefOpening) h
  have hgroup : Intact ('{' :: (l.caption ++ '}' :: r)) :=
    Intact.of_append (u := l.target ++ ['}']) (by simpa using htarget)
  refine ⟨balanced_squeeze hl.target htarget, balanced_squeeze hl.caption hgroup.tail, ?_⟩
  intro hnil
  -- a caption that comes to nothing leaves two braces together
  have hy : squeeze (l.caption ++ '}' :: r) = ['}'] ++ squeeze r := by
    rw [squeeze_append_cons (by decide)]
    exact congrArg (· ++ '}' :: squeeze r) hnil
  have hseam := hgroup.seam (p := ['}']) (by simp [seams]) (by decide) hy
  cases hc : l.caption with
  | nil => exact hl.caption_ne hc
  | cons c w =>
    rw [hc, List.cons_append, List.cons_prefix_cons] at hseam
    exact hl.caption.ne_cons_close w (by rw [hc, ← hseam.1])

/-! ## citations -/

theorem cited_newlines (h : ∀ x ∈ u, x = '\n') (t : Text) : cited (u ++ t) = cited t := by
  refine Text.hits_append_of_misses takes_readCited (Text.misses_of_forall fun c hc t => ?_) t
  rw [h c hc]
  exact readCited_eq_none (readLink_of_ne (by decide) t)

/-- **The links of a squeezed document** are the squeezed ones, with the numbers that they had. -/
theorem cited_squeeze (number : Link → Nat) (t : Text)
    (h : Intact (annotate (fun l => citation (number l)) t)) :
    cited (squeeze (annotate (fun l => citation (number l)) t))
      = (found t).map fun l => (l.squeezed, some (number l)) := by
  induction t using scan_induction with
  | nil => rw [annotate_nil, squeeze_nil]; exact Text.hits_search_nil takes_readCited
  | link l r hl ih =>
    rw [annotate_written _ hl] at h ⊢
    have hr : Intact (annotate (fun l => citation (number l)) r) := h.of_append.of_append
    have hread : readCited (squeeze (l.written ++ (citation (number l)
        ++ annotate (fun l => citation (number l)) r)))
          = some ((l.squeezed, some (number l)),
              squeeze (annotate (fun l => citation (number l)) r)) := by
      rw [squeeze_written, squeeze_citation]
      simp [readCited, (hl.squeezed h).readLink, readCitation_citation]
    rw [found_written hl, List.map_cons, ← ih hr]
    exact Text.hits_search_of_some takes_readCited hread
  | char c t hc ih =>
    have hn := readLink_annotate_of_none (fun l => balanced_citation (number l)) hc
    rw [annotate_of_none _ hc] at h hn ⊢
    rw [found_cons hc, ← ih h.tail]
    cases hloose : isLoose c with
    | true =>
      obtain ⟨v, w, z, hv, hw, hv', hw', -⟩ := squeeze_cons_of_isLoose hloose
        (annotate (fun l => citation (number l)) t)
      rw [hv, hw, cited_newlines hv', cited_newlines hw']
    | false =>
      rw [squeeze_cons hloose]
      refine Text.hits_search_of_none takes_readCited (readCited_eq_none ?_)
      by_cases slash : c = '\\'
      · subst slash
        exact carries_squeeze.readLink_eq_none h hn
      · exact readLink_of_ne slash _

/-! ## conversions -/

/-- links with the same caption carry the same number. -/
def Shares (t : Text) : Prop :=
  ∀ x ∈ cited t, ∀ y ∈ cited t, x.1.caption = y.1.caption → x.2.isSome = true ∧ x.2 = y.2

/-- **The links of a finished document** are the squeezed ones of its text, with their numbers. -/
theorem cited_finish {o : Settings} (ho : o.references = true)
    (h : Intact ((Conversion.cited o t).1 ++ Document.ending)) :
    cited (Conversion.finish o t)
      = (found t).map fun l => (l.squeezed, some (numberOf (entries t) l.caption)) := by
  have hb := appendix_ending (entries t)
  have htext : (Conversion.cited o t).1 ++ Document.ending
      = annotate (fun l => citation (numberOf (entries t) l.caption))
          (t ++ (bibliography (entries t) ++ Document.ending)) := by
    rw [annotate_append_appendix _ hb, ← marked_eq, ← List.append_assoc]
    simp [Conversion.cited, ho, references]
  have hclose : ∃ u, (Conversion.cited o t).1 ++ Document.ending = u ++ ['}', '\n'] :=
    ⟨(Conversion.cited o t).1 ++ ("\n\\end\x7bdocument".toList), by
      simp [Document.ending, closeEnv, line, group, Tex.control]⟩
  obtain ⟨u, hu⟩ := hclose
  rw [Conversion.finish, hu, tidy_append_close, ← hu]
  rw [htext] at h ⊢
  rw [cited_squeeze _ _ h, found_append_appendix hb]

theorem shares_finish_iff {o : Settings} (ho : o.references = true)
    (h : Intact ((Conversion.cited o t).1 ++ Document.ending)) :
    Shares (Conversion.finish o t) ↔ ((entries t).map fun e => squeeze e.caption).Nodup := by
  have hnum : Numbers (found t) (entries t) := numbers_entriesOf (found t)
  have hinj : ((entries t).map fun e => squeeze e.caption).Nodup ↔
      ∀ l ∈ found t, ∀ m ∈ found t, squeeze l.caption = squeeze m.caption →
        l.caption = m.caption := by
    have hmap : (entries t).map (fun e => squeeze e.caption)
        = ((entries t).map Entry.caption).map squeeze := by simp
    rw [hmap, List.nodup_map_iff_inj_on hnum.nodup]
    simp only [hnum.mem_iff, List.forall_mem_map]
  rw [hinj]
  unfold Shares
  rw [cited_finish ho h]
  simp only [List.forall_mem_map]
  refine forall₂_congr fun l hl => forall₂_congr fun m hm => ?_
  rw [← hnum.numberOf_inj hl hm]
  simp [Link.squeezed]

/-- **Links with the same caption share their number** in a finished document iff the captions of
its references stay different when they are squeezed. -/
theorem shares_iff {o : Settings} (ho : o.references = true) (stamp : Text) (d : Document)
    (r : Report) (k : Counts)
    (h : Intact ((Conversion.cited o (d.toText o stamp)).1 ++ Document.ending)) :
    Shares (Conversion.ofDocument o stamp d r k).latex ↔
      ((Conversion.ofDocument o stamp d r k).references.map fun e => squeeze e.caption).Nodup := by
  have hrefs : (Conversion.ofDocument o stamp d r k).references = entries (d.toText o stamp) := by
    show (Conversion.cited o (d.toText o stamp)).2 = _
    rw [Conversion.cited_entries, ho, if_pos rfl]
  rw [hrefs]
  exact shares_finish_iff ho h

end

/-! ## captions that become the same -/

instance (t : Text) : Decidable (Shares t) :=
  inferInstanceAs (Decidable (∀ x ∈ cited t, ∀ y ∈ cited t, _))

/-- a zero-width space. -/
def zeroWidth : Char := Char.ofNat 0x200B

/-- a document with two links whose captions differ in an invisible character. -/
def nearDocument : Document where
  title := []
  authorName := []
  authorLink := []
  date := []
  summary := Link.written ⟨['a'], ['x']⟩ ++ Link.written ⟨['b'], ['x', zeroWidth]⟩
  layout := .simple
  sections := []

theorem intact_nearDocument :
    Intact ((Conversion.cited .standard (nearDocument.toText .standard [])).1
      ++ Document.ending) :=
  intact_of_isChain (by decide +kernel)

theorem shares_nearDocument :
    Settings.standard.references = true ∧
      Intact ((Conversion.cited .standard (nearDocument.toText .standard [])).1
        ++ Document.ending) ∧
      (Shares (Conversion.ofDocument .standard [] nearDocument ⟨0, 0, 0, 0, 0⟩ .zero).latex ↔
        ((Conversion.ofDocument .standard [] nearDocument ⟨0, 0, 0, 0, 0⟩ .zero).references.map
          fun e => squeeze e.caption).Nodup) :=
  have ho : Settings.standard.references = true := rfl
  ⟨ho, intact_nearDocument, shares_iff ho [] nearDocument _ _ intact_nearDocument⟩

/-- a gallery without pictures. -/
def bareGallery : Gallery := ⟨⟨fun _ _ => .error [], fun _ => []⟩, .standard, .page []⟩

/-- a book with two such links. -/
def nearBook : Book where
  title := []
  author := ⟨[], []⟩
  date := []
  description := []
  worksheets := [[.text ("[url=http://a.org/]x[/url] [url=http://b.org/]x".toList
    ++ zeroWidth :: "[/url]".toList)]]
  menu := [⟨[], [[]]⟩]

/-- what becomes of the book. -/
def nearConversion : Except Conversion.Fault Conversion :=
  ((Conversion.ofBook bareGallery [] nearBook).run (.start .empty)).1

theorem not_shares_nearConversion :
    (nearConversion.toOption.map fun c => decide (Shares c.latex)) = some false := by
  decide +kernel

/-- captions that differ in an invisible character become the same, and their numbers do not. -/
theorem not_shares_of_invisible :
    ¬ ∀ (g : Gallery) (stamp : Text) (b : Book) (s : Session) (c : Conversion),
      g.settings.references = true → g.settings.wordWrap = false →
      ((Conversion.ofBook g stamp b).run s).1 = .ok c → Shares c.latex := by
  intro h
  have hnot := not_shares_nearConversion
  cases hc : nearConversion with
  | error f => rw [hc] at hnot; cases hnot
  | ok c =>
    have hshares : Shares c.latex := h bareGallery [] nearBook (.start .empty) c rfl rfl hc
    rw [hc] at hnot
    simp [Except.toOption, hshares] at hnot

end Citation
end Bookpress
