import Bookpress.Proofs.Citation.Encoding
import Bookpress.Proofs.Citation.Numbering

/-!
# The bibliography

Reading a bibliography back, and what the numbers of links and entries have to do with each other.

* `listed_bibliography` : the items of a bibliography are its entries in their order.
* `hits_bibitem` : no other `\bibitem` stands in a bibliography.
* `references_numbered` : links, citations, entries and items agree.
-/

namespace Bookpress
namespace Citation

open Tex

/-- the control word of an item. -/
def bibitem : Text := Tex.control "bibitem"

/-- the part of an item between its option and its target. -/
def itemMiddle (n : Nat) : Text :=
  ']' :: (group (Text.ofNat n) ++ '{' :: (Tex.control "url" ++ ['{']))

/-- the item at the front: its number and the form of its target. -/
def readItem (t : Text) : Option ((Nat × Text) × Text) :=
  (Text.strip? (bibitem ++ ['[']) t).bind fun r =>
    (Text.toNat? (r.takeWhile Char.isDigit)).bind fun n =>
      (Text.strip? (itemMiddle n) (r.dropWhile Char.isDigit)).bind fun r =>
        (Text.strip? ['}', '}', '\n'] (r.dropWhile isUrlChar)).map fun s =>
          ((n, r.takeWhile isUrlChar), s)

/-- the items of a bibliography, from the first to the last. -/
def listed (t : Text) : List (Nat × Text) := Text.hits (Text.search readItem) t

theorem bibitem_eq : bibitem = '\\' :: 'b' :: 'i' :: "bitem".toList := by
  simp [bibitem, Tex.control]

theorem Entry.item_eq (e : Entry) :
    e.item = (bibitem ++ ['[']) ++ (Text.ofNat e.number ++
      (itemMiddle e.number ++ (encode e.target ++ ['}', '}', '\n']))) := by
  simp [Entry.item, line, bibitem, itemMiddle, group, command_one]

theorem readItem_item (e : Entry) (r : Text) :
    readItem (e.item ++ r) = some ((e.number, encode e.target), r) := by
  have hbrace : ¬ isUrlChar '}' = true := fun h => absurd (isOrdinary_of_isUrlChar h) (by decide)
  have htake : (encode e.target ++ '}' :: '}' :: '\n' :: r).takeWhile isUrlChar
      = encode e.target := by
    rw [List.takeWhile_append_of_pos fun _ h => isUrlChar_of_mem_encode h,
      List.takeWhile_cons_of_neg hbrace, List.append_nil]
  have hdrop : (encode e.target ++ '}' :: '}' :: '\n' :: r).dropWhile isUrlChar
      = '}' :: '}' :: '\n' :: r := by
    rw [List.dropWhile_append_of_pos fun _ h => isUrlChar_of_mem_encode h,
      List.dropWhile_cons_of_neg hbrace]
  have hmid : ∀ s, Text.ofNat e.number ++ (itemMiddle e.number ++ s)
      = Text.ofNat e.number ++ ']' :: ((itemMiddle e.number).tail ++ s) := fun _ => rfl
  unfold readItem
  rw [Entry.item_eq, List.append_assoc, Text.strip?_append, Option.bind_some]
  simp only [List.append_assoc, List.cons_append, List.nil_append]
  rw [hmid, Text.takeWhile_ofNat_append _ (by decide), Text.dropWhile_ofNat_append _ (by decide),
    Text.toNat?_ofNat, Option.bind_some]
  show ((Text.strip? (itemMiddle e.number) (itemMiddle e.number ++ _)).bind _) = _
  rw [Text.strip?_append, Option.bind_some, htake, hdrop]
  show (Text.strip? ['}', '}', '\n'] (['}', '}', '\n'] ++ r)).map _ = _
  rw [Text.strip?_append]
  rfl

/-! ## readers of items -/

section
variable {α : Type} {read : Text → Option (α × Text)}

/-- nothing but `\bibitem` is read at a front. -/
def ReadsItems (read : Text → Option (α × Text)) : Prop :=
  ∀ t, Text.strip? bibitem t = none → read t = none

theorem ReadsItems.misses (h : ReadsItems read) {u : Text} (hu : '\\' ∉ u) :
    Text.Misses read u := by
  refine Text.misses_of_forall fun c hc t => h _ ?_
  rw [bibitem_eq]
  refine Text.strip?_cons_cons_of_ne ?_ _ _
  rintro rfl
  exact hu hc

theorem ReadsItems.misses_control (h : ReadsItems read) {name : String} {a b : Char} {u : Text}
    (hname : name.toList = a :: b :: u) (hab : ¬ (a = 'b' ∧ b = 'i')) (hu : '\\' ∉ a :: b :: u) :
    Text.Misses read (Tex.control name) := by
  unfold Tex.control
  rw [hname]
  refine ⟨fun r => h _ ?_, h.misses hu⟩
  rw [bibitem_eq, List.cons_append, List.cons_append, Text.strip?_cons_cons]
  by_cases ha : 'b' = a
  · subst ha
    rw [Text.strip?_cons_cons]
    exact Text.strip?_cons_cons_of_ne (fun hb => hab ⟨rfl, hb.symm⟩) _ _
  · exact Text.strip?_cons_cons_of_ne ha _ _

theorem ReadsItems.misses_itemTail (h : ReadsItems read) (e : Entry) :
    Text.Misses read ('[' :: (Text.ofNat e.number ++
      (itemMiddle e.number ++ (encode e.target ++ ['}', '}', '\n'])))) := by
  have digits := Text.slash_not_mem_ofNat e.number
  have target := slash_not_mem_encode e.target
  have url : Text.Misses read (Tex.control "url") :=
    h.misses_control String.toList_ofList (by decide) (by decide)
  have front : Text.Misses read
      ('[' :: (Text.ofNat e.number ++ (']' :: '{' :: (Text.ofNat e.number ++ ['}', '{'])))) :=
    h.misses (by simp [digits])
  have back : Text.Misses read ('{' :: (encode e.target ++ ['}', '}', '\n'])) :=
    h.misses (by simp [target])
  simpa [itemMiddle, group] using front.append (url.append back)

theorem ReadsItems.misses_opening (h : ReadsItems read) (n : Nat) :
    Text.Misses read (line (openEnv "thebibliography" ++ group (Text.ofNat n))) := by
  have digits := Text.slash_not_mem_ofNat n
  have opening : Text.Misses read (Tex.control "begin") :=
    h.misses_control String.toList_ofList (by decide) (by decide)
  have rest : Text.Misses read
      (group "thebibliography".toList ++ (group (Text.ofNat n) ++ ['\n'])) :=
    h.misses (by simp only [group, List.mem_append, List.mem_cons]; simp [digits])
  have := opening.append rest
  simpa only [line, openEnv, command_one, List.append_assoc] using this

theorem ReadsItems.misses_closing (h : ReadsItems read) :
    Text.Misses read (line (closeEnv "thebibliography")) := by
  have closing : Text.Misses read (Tex.control "end") :=
    h.misses_control String.toList_ofList (by decide) (by decide)
  have rest : Text.Misses read (group "thebibliography".toList ++ ['\n']) :=
    h.misses (by simp only [group, List.mem_append, List.mem_cons]; simp)
  have := closing.append rest
  simpa only [line, closeEnv, command_one, List.append_assoc] using this

/-- **A reader of items finds every entry of a bibliography once.** -/
theorem ReadsItems.hits_bibliography (h : ReadsItems read) (ht : Text.Takes read) {a : Entry → α}
    (hitem : ∀ e r, Text.hits (Text.search read) (e.item ++ r)
      = a e :: Text.hits (Text.search read) r) (es : List Entry) :
    Text.hits (Text.search read) (bibliography es) = es.map a := by
  have hclose : Text.hits (Text.search read) (line (closeEnv "thebibliography")) = [] := by
    have := Text.hits_append_of_misses ht h.misses_closing []
    rw [List.append_nil] at this
    rw [this, Text.hits_search_nil ht]
  have hitems : ∀ fs : List Entry, Text.hits (Text.search read)
      (fs.flatMap Entry.item ++ line (closeEnv "thebibliography")) = fs.map a := by
    intro fs
    induction fs with
    | nil => exact hclose
    | cons e fs ih =>
      rw [List.flatMap_cons, List.append_assoc, hitem, ih, List.map_cons]
  unfold bibliography
  split
  · rename_i hes
    rw [hes, Text.hits_search_nil ht, List.map_nil]
  · rw [List.append_assoc, Text.hits_append_of_misses ht (h.misses_opening _), hitems]

end

theorem readsItems_readItem : ReadsItems readItem := by
  intro t h
  cases hr : readItem t with
  | none => rfl
  | some x =>
    obtain ⟨r, hs, -⟩ := Option.bind_eq_some_iff.1 hr
    rw [Text.strip?_eq_some.1 hs, List.append_assoc, Text.strip?_append] at h
    cases h

theorem takes_readItem : Text.Takes readItem := by
  intro t x s h
  obtain ⟨r, hr, h⟩ := Option.bind_eq_some_iff.1 h
  obtain ⟨n, -, h⟩ := Option.bind_eq_some_iff.1 h
  obtain ⟨u, hu, h⟩ := Option.bind_eq_some_iff.1 h
  obtain ⟨v, hv, e⟩ := Option.map_eq_some_iff.1 h
  cases e
  have hd := (List.dropWhile_sublist Char.isDigit (l := r)).length_le
  have hd' := (List.dropWhile_sublist isUrlChar (l := u)).length_le
  rw [Text.strip?_eq_some.1 hu] at hd
  rw [Text.strip?_eq_some.1 hv] at hd'
  rw [Text.strip?_eq_some.1 hr]
  simp only [List.length_append, List.length_cons, List.length_nil] at hd hd' ⊢
  omega

/-- **The items of a bibliography are its entries, in their order.** -/
theorem listed_bibliography (es : List Entry) :
    listed (bibliography es) = es.map fun e => (e.number, encode e.target) :=
  readsItems_readItem.hits_bibliography takes_readItem
    (fun e r => Text.hits_search_of_some takes_readItem (readItem_item e r)) es

/-- **A bibliography has one `\bibitem` for every entry.** -/
theorem hits_bibitem (es : List Entry) :
    (Text.hits (Text.cut bibitem) (bibliography es)).length = es.length := by
  have ht := Text.takes_strip (p := bibitem) (by rw [bibitem_eq]; exact List.cons_ne_nil _ _)
  have hr : ReadsItems fun t => (Text.strip? bibitem t).map fun r => ((), r) := by
    intro t h
    simp [h]
  have hitem : ∀ (e : Entry) (r : Text), Text.hits (Text.cut bibitem) (e.item ++ r)
      = () :: Text.hits (Text.cut bibitem) r := by
    intro e r
    rw [Entry.item_eq, List.append_assoc, List.append_assoc]
    refine (Text.hits_search_of_some ht (by rw [Text.strip?_append]; rfl)).trans ?_
    refine congrArg (() :: ·) ?_
    exact Text.hits_append_of_misses ht (hr.misses_itemTail e) r
  have := hr.hits_bibliography ht hitem es
  rw [show Text.hits (Text.cut bibitem) (bibliography es) = _ from this, List.length_map]

theorem bibliography_eq_nil_iff {es : List Entry} : bibliography es = [] ↔ es = [] := by
  unfold bibliography
  split
  · simp [*]
  · simp [line, *]

/-! ## numbers -/

/-- **Numbers.**  The entries number the captions of the links.  Every link carries the number of
the entry with its caption, so links share a number exactly when they share a caption, and every
entry is cited.  The items of the bibliography are the entries in their order, and there is no
bibliography exactly when there is no link. -/
theorem references_numbered (t : Text) :
    Numbers (found t) (references t).entries ∧
    (cited (references t).text).map Prod.fst = found t ∧
    (∀ x ∈ cited (references t).text,
      ∃ e ∈ (references t).entries, e.caption = x.1.caption ∧ x.2 = some e.number) ∧
    (∀ x ∈ cited (references t).text, ∀ y ∈ cited (references t).text,
      x.2 = y.2 ↔ x.1.caption = y.1.caption) ∧
    (∀ e ∈ (references t).entries, ∃ x ∈ cited (references t).text, x.2 = some e.number) ∧
    listed (references t).bibliography
      = (references t).entries.map (fun e => (e.number, encode e.target)) ∧
    (Text.hits (Text.cut bibitem) (references t).bibliography).length
      = (references t).entries.length ∧
    ((references t).bibliography = [] ↔ found t = []) := by
  have hn : Numbers (found t) (references t).entries := numbers_entriesOf (found t)
  have hc : cited (references t).text
      = (found t).map fun l => (l, some (numberOf (references t).entries l.caption)) := by
    show cited (marked t) = _
    rw [marked_eq]
    exact cited_annotate _ t
  refine ⟨hn, ?_, ?_, ?_, ?_, listed_bibliography _, hits_bibitem _, ?_⟩
  · rw [hc, List.map_map]
    exact List.map_id _
  · intro x hx
    rw [hc] at hx
    obtain ⟨l, hl, rfl⟩ := List.mem_map.1 hx
    obtain ⟨e, he, hcap, hnum⟩ := hn.exists_entry hl
    exact ⟨e, he, hcap, congrArg some hnum⟩
  · intro x hx y hy
    rw [hc] at hx hy
    obtain ⟨l, hl, rfl⟩ := List.mem_map.1 hx
    obtain ⟨m, hm, rfl⟩ := List.mem_map.1 hy
    rw [Option.some.injEq]
    exact hn.numberOf_inj hl hm
  · intro e he
    obtain ⟨l, hl, hnum⟩ := hn.exists_link he
    rw [hc]
    exact ⟨_, List.mem_map_of_mem hl, congrArg some hnum⟩
  · exact bibliography_eq_nil_iff.trans hn.eq_nil_iff

end Citation
end Bookpress
