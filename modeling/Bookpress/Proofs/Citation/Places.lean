import Bookpress.Proofs.Citation.Scanning
import Bookpress.Proofs.Text.Bytes

/-!
# Where the links stand

The links of a text with the places of their first and last bytes.  A link is found where one can
be read, unless it begins inside of a link that was found before it; so the links that are found
say themselves which links are left out, and none is left out beside them.

* `places_cons`, `places_written`, `places_append` : how the places follow from the front of a text.
* `pairwise_places` : the links stand one behind the other.
* `mem_places_iff` : the links that are found are the ones that begin in no link before them.
-/

namespace Bookpress
namespace Citation

open Text (byteSize)

/-- a link, the place of its first byte and the place behind its last one. -/
structure Place where
  start : Nat
  stop : Nat
  link : Link
deriving Repr, DecidableEq

/-- links with the text before each, from a place on. -/
def placesFrom : Nat → List (Text × Link) → List Place
  | _, [] => []
  | i, (gap, l) :: xs =>
    ⟨i + byteSize gap, i + byteSize gap + byteSize l.written, l⟩
      :: placesFrom (i + byteSize gap + byteSize l.written) xs

/-- the links of a text with `i` bytes before it. -/
def places (i : Nat) (t : Text) : List Place := placesFrom i (links t).1

/-- a link can be read at a place of a text with `i` bytes before it. -/
structure Place.Stands (i : Nat) (t : Text) (x : Place) : Prop where
  sound : x.link.Sound
  text : ∃ u v, t = u ++ (x.link.written ++ v) ∧ x.start = i + byteSize u
  stop : x.stop = x.start + byteSize x.link.written

variable {i : Nat} {c : Char} {t r : Text} {l : Link} {x y : Place}

/-! ## along the text -/

@[simp] theorem places_nil (i : Nat) : places i [] = [] := by
  unfold places links
  rw [Text.cuts_eq takes_readLink.shrinks, Text.search, takes_readLink.read_nil]
  rfl

theorem places_cons (h : readLink (c :: t) = none) :
    places i (c :: t) = places (i + c.utf8Size) t := by
  unfold places links
  rw [Text.cuts_eq takes_readLink.shrinks, Text.cuts_eq takes_readLink.shrinks t, Text.search, h]
  cases Text.search readLink t with
  | none => rfl
  | some x =>
    simp only [Option.map_some, Text.Cut.push, placesFrom, byteSize, Nat.add_assoc]

theorem places_written (h : l.Sound) (r : Text) :
    places i (l.written ++ r)
      = ⟨i, i + byteSize l.written, l⟩ :: places (i + byteSize l.written) r := by
  have hread := h.readLink r
  obtain ⟨c, t, ht⟩ : ∃ c t, l.written ++ r = c :: t := by
    rw [Link.written_eq]
    exact ⟨_, _, rfl⟩
  have hfind : Text.search readLink (l.written ++ r) = some ⟨[], l, r⟩ := by
    rw [ht] at hread ⊢
    rw [Text.search, hread]
  unfold places links
  rw [Text.cuts_eq takes_readLink.shrinks, hfind]
  rfl

/-- a text in which no link begins moves the places of what follows it. -/
theorem places_append {g w : Text} (h : ∀ p s, g = p ++ s → s ≠ [] → readLink (s ++ w) = none) :
    places i (g ++ w) = places (i + byteSize g) w := by
  induction g generalizing i with
  | nil => rfl
  | cons c g ih =>
    have hhead : readLink (c :: (g ++ w)) = none := h [] (c :: g) rfl (List.cons_ne_nil c g)
    have htail := ih (i := i + c.utf8Size) fun p s hg => h (c :: p) s (by rw [hg]; rfl)
    rw [List.cons_append, places_cons hhead, htail, byteSize, Nat.add_assoc]

/-! ## the links that can be read -/

theorem byteSize_written_pos (l : Link) : 0 < byteSize l.written := by
  have hlen := Text.length_le_byteSize l.written
  rw [Link.written_eq, List.length_cons] at hlen
  rw [Link.written_eq]
  omega

theorem Place.Stands.le_start (h : x.Stands i t) : i ≤ x.start := by
  obtain ⟨u, v, -, hstart⟩ := h.text
  omega

theorem not_stands_nil : ¬x.Stands i [] := by
  rintro ⟨-, ⟨u, v, ht, -⟩, -⟩
  rw [Link.written_eq] at ht
  simp at ht

theorem stands_cons_iff (h : readLink (c :: t) = none) :
    x.Stands i (c :: t) ↔ x.Stands (i + c.utf8Size) t := by
  constructor
  · rintro ⟨hsound, ⟨u, v, ht, hstart⟩, hstop⟩
    cases u with
    | nil =>
      rw [List.nil_append] at ht
      rw [ht, hsound.readLink v] at h
      cases h
    | cons d u =>
      rw [List.cons_append, List.cons.injEq] at ht
      obtain ⟨rfl, rfl⟩ := ht
      rw [byteSize, ← Nat.add_assoc] at hstart
      exact ⟨hsound, ⟨u, v, rfl, hstart⟩, hstop⟩
  · rintro ⟨hsound, ⟨u, v, rfl, hstart⟩, hstop⟩
    refine ⟨hsound, ⟨c :: u, v, rfl, ?_⟩, hstop⟩
    rw [hstart, byteSize, Nat.add_assoc]

/-- behind a link stand the links of what follows it. -/
theorem stands_written_iff (hx : i + byteSize l.written ≤ x.start) :
    x.Stands i (l.written ++ r) ↔ x.Stands (i + byteSize l.written) r := by
  constructor
  · rintro ⟨hsound, ⟨u, v, ht, hstart⟩, hstop⟩
    obtain ⟨w, rfl⟩ : l.written <+: u := by
      have hl : l.written <+: u ++ (x.link.written ++ v) := ⟨r, ht⟩
      rcases List.prefix_or_prefix_of_prefix hl (List.prefix_append u _) with hp | ⟨w, hw⟩
      · exact hp
      · have hsize := congrArg byteSize hw
        rw [Text.byteSize_append] at hsize
        have hzero : byteSize w = 0 := by omega
        rw [Text.byteSize_eq_zero_iff.1 hzero, List.append_nil] at hw
        exact ⟨[], hw ▸ List.append_nil _⟩
    rw [List.append_assoc, List.append_cancel_left_eq] at ht
    rw [Text.byteSize_append, ← Nat.add_assoc] at hstart
    exact ⟨hsound, ⟨w, v, ht, hstart⟩, hstop⟩
  · rintro ⟨hsound, ⟨u, v, rfl, hstart⟩, hstop⟩
    refine ⟨hsound, ⟨l.written ++ u, v, ?_, ?_⟩, hstop⟩
    · rw [List.append_assoc]
    · rw [Text.byteSize_append, hstart, Nat.add_assoc]

/-- one link can be read at a place. -/
theorem Place.Stands.eq_of_start (h : x.Stands i (l.written ++ r)) (hl : l.Sound)
    (hstart : x.start = i) : x = ⟨i, i + byteSize l.written, l⟩ := by
  obtain ⟨hsound, ⟨u, v, ht, hu⟩, hstop⟩ := h
  obtain rfl : u = [] := Text.byteSize_eq_zero_iff.1 (by omega)
  have hread := hl.readLink r
  rw [ht, List.nil_append, hsound.readLink v] at hread
  obtain ⟨start, stop, link⟩ := x
  dsimp only at hread hstart hstop
  cases hread
  rw [hstop, hstart]

/-! ## the links that are found -/

theorem stands_of_mem_places (h : x ∈ places i t) : x.Stands i t := by
  induction t using scan_induction generalizing i with
  | nil => rw [places_nil] at h; cases h
  | link l r hl ih =>
    rw [places_written hl, List.mem_cons] at h
    rcases h with rfl | h
    · exact ⟨hl, ⟨[], r, rfl, rfl⟩, rfl⟩
    · have hr := ih h
      exact (stands_written_iff hr.le_start).2 hr
  | char c t hc ih =>
    rw [places_cons hc] at h
    exact (stands_cons_iff hc).2 (ih h)

theorem link_places (i : Nat) (t : Text) : (places i t).map Place.link = found t := by
  induction t using scan_induction generalizing i with
  | nil => rw [places_nil, found, Text.hits_search_nil takes_readLink, List.map_nil]
  | link l r hl ih => rw [places_written hl, found_written hl, List.map_cons, ih]
  | char c t hc ih => rw [places_cons hc, found_cons hc, ih]

/-- **The links stand one behind the other.** -/
theorem pairwise_places (i : Nat) (t : Text) :
    (places i t).Pairwise fun x y => x.stop ≤ y.start := by
  induction t using scan_induction generalizing i with
  | nil => rw [places_nil]; exact .nil
  | link l r hl ih =>
    rw [places_written hl]
    exact .cons (fun y hy => (stands_of_mem_places hy).le_start) (ih _)
  | char c t hc ih =>
    rw [places_cons hc]
    exact ih _

/-- **The links that are found are those that begin in no link before them.** -/
theorem mem_places_iff :
    x ∈ places i t ↔ x.Stands i t ∧ ∀ y ∈ places i t, y.start < x.start → y.stop ≤ x.start := by
  induction t using scan_induction generalizing i with
  | nil =>
    rw [places_nil]
    exact ⟨fun h => absurd h List.not_mem_nil, fun h => absurd h.1 not_stands_nil⟩
  | link l r hl ih =>
    rw [places_written hl, List.mem_cons, List.forall_mem_cons]
    have hpos := byteSize_written_pos l
    constructor
    · rintro (rfl | hx)
      · refine ⟨⟨hl, ⟨[], r, rfl, rfl⟩, rfl⟩, fun hlt => absurd hlt (Nat.lt_irrefl _), ?_⟩
        intro y hy hlt
        have hle := (stands_of_mem_places hy).le_start
        dsimp only at hlt
        omega
      · obtain ⟨hstands, hbefore⟩ := ih.1 hx
        have hle := hstands.le_start
        exact ⟨(stands_written_iff hle).2 hstands, fun _ => hle, hbefore⟩
    · rintro ⟨hstands, hfirst, hbefore⟩
      rcases Nat.eq_or_lt_of_le hstands.le_start with heq | hlt
      · exact .inl (hstands.eq_of_start hl heq.symm)
      · exact .inr (ih.2 ⟨(stands_written_iff (hfirst hlt)).1 hstands, hbefore⟩)
  | char c t hc ih => rw [places_cons hc, stands_cons_iff hc, ih]

end Citation
end Bookpress
