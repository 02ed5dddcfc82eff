import Bookpress.Proofs.Citation.Marking
import Mathlib.Data.List.Nodup

/-!
# Numbering

The entries that a row of links leads to, one for every caption, and the numbers that they give to
the links.

* `Numbers.addLink`, `numbers_entriesOf` : one more link keeps the entries in step with the links.
* `Numbers.numberOf_eq` : a link is cited by the number of the entry with its caption.
* `Numbers.numberOf_inj` : links with different captions have different numbers.
-/

namespace Bookpress
namespace Citation

open Tex

/-- `es` numbers the captions of `ls`. -/
structure Numbers (ls : List Link) (es : List Entry) : Prop where
  /-- the numbers are 1, 2, … without gaps. -/
  number : es.map Entry.number = List.range' 1 es.length
  /-- no caption has two entries. -/
  nodup : (es.map Entry.caption).Nodup
  /-- the captions that have an entry are those of the links. -/
  mem_iff : ∀ c, c ∈ es.map Entry.caption ↔ c ∈ ls.map Link.caption
  /-- entries stand in the order in which their captions first appear. -/
  order : (es.map Entry.caption).Pairwise fun a b =>
    (ls.map Link.caption).idxOf a < (ls.map Link.caption).idxOf b
  /-- the target is that of the first link with the caption. -/
  target : ∀ e ∈ es, (ls.find? fun l => l.caption = e.caption).map Link.target = some e.target

theorem numbers_nil : Numbers [] [] :=
  ⟨rfl, List.nodup_nil, fun _ => Iff.rfl, List.Pairwise.nil, fun e he => by cases he⟩

section
variable {ls : List Link} {es : List Entry}

theorem find?_append_of_isSome {l : Link} {c : Text} {x : Text}
    (h : (ls.find? fun l => l.caption = c).map Link.target = some x) :
    ((ls ++ [l]).find? fun l => l.caption = c).map Link.target = some x := by
  obtain ⟨m, hm, rfl⟩ := Option.map_eq_some_iff.1 h
  rw [List.find?_append, hm]
  rfl

theorem Numbers.idxOf_append (h : Numbers ls es) {c : Text} (hc : c ∈ es.map Entry.caption)
    (l : Link) : ((ls ++ [l]).map Link.caption).idxOf c = (ls.map Link.caption).idxOf c := by
  rw [List.map_append, List.idxOf_append, if_pos ((h.mem_iff c).1 hc)]

theorem addLink_of_mem {l : Link} (h : l.caption ∈ es.map Entry.caption) :
    addLink es l = es := by
  obtain ⟨e, he, hc⟩ := List.mem_map.1 h
  have : (es.any fun e => e.caption = l.caption) = true := by simpa using ⟨e, he, hc⟩
  rw [addLink, if_pos this]

theorem addLink_of_not_mem {l : Link} (h : l.caption ∉ es.map Entry.caption) :
    addLink es l = es ++ [⟨es.length + 1, l.caption, l.target⟩] := by
  have : ¬ (es.any fun e => e.caption = l.caption) = true := by
    simpa using fun e he => fun hc => h (List.mem_map.2 ⟨e, he, hc⟩)
  rw [addLink, if_neg this]

/-- **Step.** -/
theorem Numbers.addLink (h : Numbers ls es) (l : Link) :
    Numbers (ls ++ [l]) (Citation.addLink es l) := by
  have hnum := number_addLink h.number l
  have hold : (es.map Entry.caption).Pairwise fun a b =>
      ((ls ++ [l]).map Link.caption).idxOf a < ((ls ++ [l]).map Link.caption).idxOf b :=
    h.order.imp_of_mem fun ha hb hab => by rwa [h.idxOf_append ha, h.idxOf_append hb]
  by_cases hc : l.caption ∈ es.map Entry.caption
  · rw [addLink_of_mem hc] at hnum ⊢
    refine ⟨hnum, h.nodup, fun c => ?_, hold, fun e he => find?_append_of_isSome (h.target e he)⟩
    rw [h.mem_iff, List.map_append, List.mem_append]
    refine ⟨Or.inl, fun hm => hm.elim id fun hm => ?_⟩
    rw [List.map_cons, List.map_nil, List.mem_singleton] at hm
    rw [hm]
    exact (h.mem_iff _).1 hc
  · rw [addLink_of_not_mem hc] at hnum ⊢
    have hn : l.caption ∉ ls.map Link.caption := fun hm => hc ((h.mem_iff _).2 hm)
    refine ⟨hnum, ?_, fun c => ?_, ?_, fun e he => ?_⟩
    · rw [List.map_append, List.nodup_append]
      refine ⟨h.nodup, by simp, fun a ha b hb => ?_⟩
      rw [List.map_cons, List.map_nil, List.mem_singleton] at hb
      rintro rfl
      rw [hb] at ha
      exact hc ha
    · simp only [List.map_append, List.mem_append, h.mem_iff, List.map_cons, List.map_nil]
    · have e : (es ++ [Entry.mk (es.length + 1) l.caption l.target]).map Entry.caption
          = es.map Entry.caption ++ [l.caption] := by simp
      rw [e, List.pairwise_append]
      refine ⟨hold, by simp, fun a ha b hb => ?_⟩
      rw [List.mem_singleton] at hb
      -- the new caption first appears behind all others
      have ha' := List.idxOf_lt_length_of_mem ((h.mem_iff a).1 ha)
      rw [h.idxOf_append ha, hb, List.map_append, List.idxOf_append, if_neg hn]
      omega
    · rcases List.mem_append.1 he with he | he
      · exact find?_append_of_isSome (h.target e he)
      · rw [List.mem_singleton] at he
        subst he
        have hf : ls.find? (fun m => decide (m.caption = l.caption)) = none := by
          rw [List.find?_eq_none]
          intro m hm e
          refine hn ?_
          rw [← of_decide_eq_true e]
          exact List.mem_map_of_mem hm
        rw [List.find?_append, hf]
        simp

/-- **Run.** -/
theorem Numbers.foldl_addLink (h : Numbers ls es) (ms : List Link) :
    Numbers (ls ++ ms) (ms.foldl Citation.addLink es) := by
  induction ms generalizing ls es with
  | nil => simpa using h
  | cons m ms ih =>
    have := ih (h.addLink m)
    rwa [List.append_assoc] at this

theorem numbers_entriesOf (ls : List Link) : Numbers ls (entriesOf ls) :=
  numbers_nil.foldl_addLink ls

/-! ## the number of a caption -/

theorem Numbers.numberOf_eq (h : Numbers ls es) {e : Entry} (he : e ∈ es) :
    numberOf es e.caption = e.number := by
  unfold numberOf
  cases hf : es.find? fun x => decide (x.caption = e.caption) with
  | none =>
    have := List.find?_eq_none.1 hf e he
    simp at this
  | some x =>
    have hx : x.caption = e.caption := by simpa using List.find?_some hf
    have : x = e := List.inj_on_of_nodup_map h.nodup (List.mem_of_find?_eq_some hf) he hx
    rw [this]

theorem Numbers.exists_entry (h : Numbers ls es) {l : Link} (hl : l ∈ ls) :
    ∃ e ∈ es, e.caption = l.caption ∧ numberOf es l.caption = e.number := by
  have hm := (h.mem_iff l.caption).2 (List.mem_map_of_mem hl)
  obtain ⟨e, he, hc⟩ := List.mem_map.1 hm
  exact ⟨e, he, hc, by rw [← hc]; exact h.numberOf_eq he⟩

theorem Numbers.exists_link (h : Numbers ls es) {e : Entry} (he : e ∈ es) :
    ∃ l ∈ ls, numberOf es l.caption = e.number := by
  have hm := (h.mem_iff e.caption).1 (List.mem_map_of_mem he)
  obtain ⟨l, hl, hc⟩ := List.mem_map.1 hm
  exact ⟨l, hl, by rw [hc]; exact h.numberOf_eq he⟩

theorem Numbers.numberOf_inj (h : Numbers ls es) {l m : Link} (hl : l ∈ ls) (hm : m ∈ ls) :
    numberOf es l.caption = numberOf es m.caption ↔ l.caption = m.caption := by
  refine ⟨fun e => ?_, fun e => by rw [e]⟩
  obtain ⟨x, hx, hxl, hxn⟩ := h.exists_entry hl
  obtain ⟨y, hy, hym, hyn⟩ := h.exists_entry hm
  have hnd : (es.map Entry.number).Nodup := by rw [h.number]; exact List.nodup_range'
  have : x = y := List.inj_on_of_nodup_map hnd hx hy (by rw [← hxn, ← hyn, e])
  rw [← hxl, ← hym, this]

theorem Numbers.eq_nil_iff (h : Numbers ls es) : es = [] ↔ ls = [] := by
  constructor
  · rintro rfl
    cases ls with
    | nil => rfl
    | cons l ls => simpa using (h.mem_iff l.caption).2 (by simp)
  · rintro rfl
    cases es with
    | nil => rfl
    | cons e es => simpa using (h.mem_iff e.caption).1 (by simp)

end

end Citation
end Bookpress
