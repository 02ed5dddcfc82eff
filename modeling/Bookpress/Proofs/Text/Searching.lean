import Bookpress.Text.Search

/-!
# What a search finds

The hits of a finder on their own, without the text between them, and how they follow from the
front of the text when the finder is the search of a reader.

* `hits_search_cons` : the first hit is at the front, or the hits are those of what follows.
* `hits_append_of_misses` : a text in which no hit can begin may stand in front.
* `cut_eq_some_iff`, `cut_eq_none_iff` : `cut` finds the first occurrence, if there is one.
-/

namespace Bookpress
namespace Text

section
variable {α : Type} {find : Text → Option (Cut α)} {read : Text → Option (α × Text)}

/-- what a finder finds, from left to right. -/
def hits (find : Text → Option (Cut α)) (t : Text) : List α := (cuts find t).1.map Prod.snd

theorem hits_eq (h : Shrinks find) (t : Text) :
    hits find t = match find t with
      | none => []
      | some x => x.hit :: hits find x.after := by
  unfold hits
  rw [cuts_eq h]
  cases find t <;> rfl

theorem hits_search_nil (h : Takes read) : hits (search read) [] = [] := by
  rw [hits_eq h.shrinks]
  simp [search, h.read_nil]

theorem hits_search_cons (h : Takes read) (c : Char) (t : Text) :
    hits (search read) (c :: t) = match read (c :: t) with
      | some (a, r) => a :: hits (search read) r
      | none => hits (search read) t := by
  rw [hits_eq h.shrinks]
  cases hr : read (c :: t) with
  | some x => simp [search, hr]
  | none =>
    rw [hits_eq h.shrinks t]
    cases hx : search read t <;> simp [search, hr, hx, Cut.push]

theorem rewrite_search_of_some (h : Takes read) (f : α → Text) {t r : Text} {a : α}
    (hr : read t = some (a, r)) :
    rewrite (search read) f t = f a ++ rewrite (search read) f r := by
  cases t with
  | nil => rw [h.read_nil] at hr; cases hr
  | cons c t => rw [rewrite_search_cons h, hr]

theorem rewrite_search_of_none (h : Takes read) (f : α → Text) {c : Char} {t : Text}
    (hr : read (c :: t) = none) :
    rewrite (search read) f (c :: t) = c :: rewrite (search read) f t := by
  rw [rewrite_search_cons h, hr]

theorem hits_search_of_some (h : Takes read) {t r : Text} {a : α} (hr : read t = some (a, r)) :
    hits (search read) t = a :: hits (search read) r := by
  cases t with
  | nil => rw [h.read_nil] at hr; cases hr
  | cons c t => rw [hits_search_cons h, hr]

theorem hits_search_of_none (h : Takes read) {c : Char} {t : Text} (hr : read (c :: t) = none) :
    hits (search read) (c :: t) = hits (search read) t := by
  rw [hits_search_cons h, hr]

/-! ## text in which nothing begins -/

/-- no hit of a reader begins in a text, whatever follows it. -/
def Misses (read : Text → Option (α × Text)) : Text → Prop
  | [] => True
  | c :: u => (∀ r, read (c :: (u ++ r)) = none) ∧ Misses read u

theorem Misses.append {u v : Text} (hu : Misses read u) (hv : Misses read v) :
    Misses read (u ++ v) := by
  induction u with
  | nil => exact hv
  | cons c u ih =>
    refine ⟨fun r => ?_, ih hu.2⟩
    have := hu.1 (v ++ r)
    rwa [← List.append_assoc] at this

theorem Misses.or {read' : Text → Option (α × Text)} {u : Text} (h : Misses read u)
    (h' : Misses read' u) : Misses (fun t => (read t).or (read' t)) u := by
  induction u with
  | nil => trivial
  | cons c u ih => exact ⟨fun r => by simp only [h.1 r, h'.1 r, Option.or], ih h.2 h'.2⟩

theorem misses_of_forall {u : Text} (h : ∀ c ∈ u, ∀ t, read (c :: t) = none) : Misses read u := by
  induction u with
  | nil => trivial
  | cons c u ih =>
    rw [List.forall_mem_cons] at h
    exact ⟨fun r => h.1 (u ++ r), ih h.2⟩

theorem hits_append_of_misses (h : Takes read) {u : Text} (hu : Misses read u) (t : Text) :
    hits (search read) (u ++ t) = hits (search read) t := by
  induction u with
  | nil => rfl
  | cons c u ih => exact (hits_search_of_none h (hu.1 t)).trans (ih hu.2)

theorem rewrite_append_of_misses (h : Takes read) (f : α → Text) {u : Text}
    (hu : Misses read u) (t : Text) :
    rewrite (search read) f (u ++ t) = u ++ rewrite (search read) f t := by
  induction u with
  | nil => rfl
  | cons c u ih =>
    rw [List.cons_append, rewrite_search_of_none h f (hu.1 t), ih hu.2, List.cons_append]

theorem search_append_of_first {u t r : Text} {a : α} (hr : read t = some (a, r))
    (hfirst : ∀ v w, u = v ++ w → w ≠ [] → read (w ++ t) = none) :
    search read (u ++ t) = some ⟨u, a, r⟩ := by
  induction u with
  | nil =>
    rw [List.nil_append]
    cases t <;> simp [search, hr]
  | cons c u ih =>
    have hnone : read (c :: (u ++ t)) = none := hfirst [] (c :: u) rfl (by simp)
    have hrest := ih fun v w hu => hfirst (c :: v) w (by rw [hu, List.cons_append])
    rw [List.cons_append, search, hnone, hrest]
    rfl

end

/-! ## fixed texts -/

theorem strip?_cons_cons_of_ne {c d : Char} (h : c ≠ d) (p t : Text) :
    strip? (c :: p) (d :: t) = none := by
  simp [strip?, h]

theorem strip?_cons_cons (c : Char) (p t : Text) : strip? (c :: p) (c :: t) = strip? p t := by
  simp [strip?]

/-! ## first occurrences -/

section
variable {p t u v : Text} {x : Cut Unit}

theorem cut_of_strip? {r : Text} (h : strip? p t = some r) : cut p t = some ⟨[], (), r⟩ := by
  cases t <;> simp [cut, search, h]

theorem cut_cons_of_none {c : Char} (h : strip? p (c :: t) = none) :
    cut p (c :: t) = (cut p t).map (Cut.push c) := by
  simp [cut, search, h]

theorem cut_append_ne_none (p u v : Text) : cut p (u ++ (p ++ v)) ≠ none := by
  induction u with
  | nil =>
    rw [List.nil_append, cut_of_strip? (strip?_append p v)]
    exact Option.some_ne_none _
  | cons c u ih =>
    cases hs : strip? p (c :: (u ++ (p ++ v))) with
    | some r =>
      rw [List.cons_append, cut_of_strip? hs]
      exact Option.some_ne_none _
    | none =>
      rw [List.cons_append, cut_cons_of_none hs]
      intro h
      exact ih (Option.map_eq_none_iff.1 h)

theorem cut_eq_none_iff : cut p t = none ↔ ∀ u v, t ≠ u ++ (p ++ v) := by
  constructor
  · rintro h u v rfl
    exact cut_append_ne_none p u v h
  · intro h
    cases hx : cut p t with
    | none => rfl
    | some x => exact absurd (cut_eq_some hx) (h _ _)

theorem replace_of_lone {s : Text} (hp : p ≠ []) (h : ∀ u v, t ≠ u ++ (p ++ v)) :
    replace p s t = t := by
  have hshrinks : Shrinks (cut p) := (takes_strip hp).shrinks
  rw [replace, rewrite_eq hshrinks, cut_eq_none_iff.2 h]

/-- an occurrence does not begin before the one that is found. -/
theorem length_le_of_cut (h : cut p t = some x) (ht : t = u ++ (p ++ v)) :
    x.before.length ≤ u.length := by
  induction t generalizing x u with
  | nil =>
    have hb := congrArg List.length (cut_eq_some h)
    rw [List.length_nil, List.length_append] at hb
    omega
  | cons c t ih =>
    cases hs : strip? p (c :: t) with
    | some r =>
      rw [cut_of_strip? hs] at h
      cases h
      exact Nat.zero_le _
    | none =>
      rw [cut_cons_of_none hs] at h
      obtain ⟨y, hy, rfl⟩ := Option.map_eq_some_iff.1 h
      cases u with
      | nil =>
        rw [List.nil_append] at ht
        rw [ht, strip?_append] at hs
        cases hs
      | cons d u =>
        rw [List.cons_append, List.cons.injEq] at ht
        exact Nat.succ_le_succ (ih hy ht.2)

/-- what follows an occurrence ends what follows the first. -/
theorem suffix_of_cut (h : cut p t = some x) (ht : t = u ++ (p ++ v)) : v <:+ x.after := by
  have hx := cut_eq_some h
  have hle := length_le_of_cut h ht
  have hlen := congrArg List.length (hx.symm.trans ht)
  simp only [List.length_append] at hlen
  have hv : v <:+ t := ⟨u ++ p, by rw [ht, List.append_assoc]⟩
  have ha : x.after <:+ t := ⟨x.before ++ p, by rw [hx, List.append_assoc]⟩
  exact List.suffix_of_suffix_length_le hv ha (by omega)

theorem cut_eq_some_iff : cut p t = some x ↔
    t = x.before ++ (p ++ x.after) ∧ ∀ u v, t = u ++ (p ++ v) → x.before.length ≤ u.length := by
  constructor
  · intro h
    exact ⟨cut_eq_some h, fun u v ht => length_le_of_cut h ht⟩
  · rintro ⟨ht, hfirst⟩
    cases hy : cut p t with
    | none => exact absurd ht (cut_eq_none_iff.1 hy _ _)
    | some y =>
      have hle := length_le_of_cut hy ht
      have hge := hfirst _ _ (cut_eq_some hy)
      -- both stand at one place, so that the texts around them agree
      have heq : x.before ++ (p ++ x.after) = y.before ++ (p ++ y.after) :=
        ht.symm.trans (cut_eq_some hy)
      obtain ⟨hb, hr⟩ := List.append_inj heq (by omega)
      have ha := List.append_cancel_left hr
      obtain ⟨xb, ⟨⟩, xa⟩ := x
      obtain ⟨yb, ⟨⟩, ya⟩ := y
      cases hb
      cases ha
      rfl

theorem cut_singleton_eq_some_iff {c : Char} :
    cut [c] t = some x ↔ t = x.before ++ c :: x.after ∧ c ∉ x.before := by
  rw [cut_eq_some_iff]
  refine and_congr_right fun ht => ?_
  constructor
  · intro hfirst hc
    obtain ⟨u, v, hu⟩ := List.append_of_mem hc
    have hle := hfirst u (v ++ c :: x.after) (by rw [ht, hu]; simp)
    rw [hu, List.length_append, List.length_cons] at hle
    omega
  · intro hc u v hu
    rcases List.append_eq_append_iff.1 (ht.symm.trans hu) with ⟨w, rfl, -⟩ | ⟨w, hw, hr⟩
    · rw [List.length_append]
      omega
    · cases w with
      | nil => exact Nat.le_of_eq (by rw [hw, List.append_nil])
      | cons d w =>
        rw [List.singleton_append, List.cons_append, List.cons.injEq] at hr
        rw [hw, hr.1] at hc
        exact absurd (by simp) hc

end

end Text
end Bookpress
