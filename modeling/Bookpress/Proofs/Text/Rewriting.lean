import Bookpress.Proofs.Text.Searching
import Mathlib.Data.List.Induction

/-!
# Rewriting piece by piece

How the replacements of runs and of fixed texts go along a text, and at which characters a text
may be cut so that its parts can be rewritten on their own.

* `mapRuns_cons_of_pos`, `mapRuns_cons_of_neg` : runs are rewritten from left to right.
* `mapRuns_append_cons` : a character outside of runs separates them.
* `replace_append_cons` : a character that the pattern does not hold separates its occurrences.
* `misses_of_lacks` : a text that differs from the pattern at each of its characters may stand in
  front.
-/

namespace Bookpress
namespace Text

theorem not_mem_of_cut {c : Char} {t : Text} {x : Cut Unit} (h : cut [c] t = some x) :
    c ∉ x.before := by
  induction t generalizing x with
  | nil => cases h
  | cons d t ih =>
    by_cases hd : c = d
    · subst hd
      have : cut [c] (c :: t) = some ⟨[], (), t⟩ := by simp [cut, search, strip?]
      rw [this] at h
      cases h
      exact List.not_mem_nil
    · have hs : cut [c] (d :: t) = (cut [c] t).map (Cut.push d) := by
        simp [cut, search, strip?_cons_cons_of_ne hd]
      rw [hs] at h
      obtain ⟨y, hy, rfl⟩ := Option.map_eq_some_iff.1 h
      exact List.not_mem_cons_of_ne_of_not_mem hd (ih hy)

/-- the characters of a rewritten text are those of the text and of what is written for hits. -/
theorem mem_rewrite {α : Type} {find : Text → Option (Cut α)} {f : α → Text} (h : Shrinks find)
    (hf : ∀ t x, find t = some x → ∃ u, t = x.before ++ (u ++ x.after)) {c : Char} {t : Text}
    (hc : c ∈ rewrite find f t) : c ∈ t ∨ ∃ a, c ∈ f a := by
  induction t using h.induction with
  | last t hx =>
    rw [rewrite_eq h, hx] at hc
    exact .inl hc
  | more t x hx ih =>
    rw [rewrite_eq h, hx] at hc
    obtain ⟨u, hu⟩ := hf t x hx
    simp only [List.mem_append] at hc
    rcases hc with hc | hc | hc
    · exact .inl (by rw [hu]; simp [hc])
    · exact .inr ⟨_, hc⟩
    · rcases ih hc with hc | hc
      · exact .inl (by rw [hu]; simp [hc])
      · exact .inr hc

theorem run_fillM_cons {σ α : Type} (f : α → StateM σ Text) (gap : Text) (a : α)
    (xs : List (Text × α)) (r : Text) (s : σ) :
    ((fillM f ((gap, a) :: xs, r)).run s).1
      = gap ++ (((f a).run s).1 ++ ((fillM f (xs, r)).run ((f a).run s).2).1) := by
  simp only [fillM, List.mapM_cons, StateT.run_bind, StateT.run_pure, bind_assoc, pure_bind]
  simp [List.flatten_cons]
  rfl

theorem fillM_nil {σ α : Type} (f : α → StateM σ Text) (r : Text) :
    fillM f ([], r) = pure r := rfl

theorem fillM_singleton {σ α : Type} (f : α → StateM σ Text) (a : α) :
    fillM f ([([], a)], []) = f a := by
  simp [fillM]

theorem fillM_congr {σ α : Type} {f g : α → StateM σ Text} {x : List (Text × α) × Text}
    (h : ∀ p ∈ x.1, f p.2 = g p.2) : fillM f x = fillM g x := by
  have hparts : (x.1.mapM fun p => do let s ← f p.2; pure (p.1 ++ s))
      = (x.1.mapM fun p => do let s ← g p.2; pure (p.1 ++ s)) := by
    generalize x.1 = xs at h
    induction xs with
    | nil => rfl
    | cons p xs ih =>
      rw [List.forall_mem_cons] at h
      rw [List.mapM_cons, List.mapM_cons, h.1, ih h.2]
  unfold fillM
  rw [hparts]

/-! ## runs -/

section
variable {p : Char → Bool} {f : Text → Text}

theorem run_eq_some {t : Text} {x : Cut Text} (h : run p t = some x) :
    ∃ c r, t.dropWhile (fun c => !p c) = c :: r ∧ p c = true ∧
      x = ⟨t.takeWhile fun c => !p c, c :: r.takeWhile p, r.dropWhile p⟩ := by
  unfold run at h
  split at h
  · cases h
  · rename_i c r hc
    cases h
    refine ⟨c, r, hc, ?_, rfl⟩
    have := List.head?_dropWhile_not (fun c => !p c) t
    rw [hc] at this
    simpa using this

theorem shrinks_run : Shrinks (run p) := by
  intro t x h
  obtain ⟨c, r, hc, -, rfl⟩ := run_eq_some h
  have h₁ := (List.dropWhile_sublist (fun c => !p c) (l := t)).length_le
  have h₂ := (List.dropWhile_sublist p (l := r)).length_le
  rw [hc, List.length_cons] at h₁
  show (r.dropWhile p).length < t.length
  omega

@[simp] theorem mapRuns_nil : mapRuns p f [] = [] := by
  rw [mapRuns, rewrite_eq shrinks_run]
  rfl

theorem mapRuns_cons_of_pos {c : Char} (hc : p c = true) (t : Text) :
    mapRuns p f (c :: t) = f (c :: t.takeWhile p) ++ mapRuns p f (t.dropWhile p) := by
  have hr : run p (c :: t) = some ⟨[], c :: t.takeWhile p, t.dropWhile p⟩ := by
    simp [run, hc]
  rw [mapRuns, rewrite_eq shrinks_run, hr]
  rfl

theorem mapRuns_cons_of_neg {c : Char} (hc : p c = false) (t : Text) :
    mapRuns p f (c :: t) = c :: mapRuns p f t := by
  have hr : run p (c :: t) = (run p t).map (Cut.push c) := by
    unfold run
    simp only [List.dropWhile_cons, List.takeWhile_cons, hc, Bool.not_false, if_true]
    split <;> rfl
  unfold mapRuns
  rw [rewrite_eq shrinks_run, hr, rewrite_eq shrinks_run f t]
  cases run p t <;> rfl

/-- a text is empty, or begins with a run, or with a character that is in none. -/
theorem runs_induction {motive : Text → Prop} (nil : motive [])
    (run : ∀ c t, p c = true → motive (t.dropWhile p) → motive (c :: t))
    (char : ∀ c t, p c = false → motive t → motive (c :: t)) (t : Text) : motive t := by
  induction t using length_induction with
  | step t ih =>
    cases t with
    | nil => exact nil
    | cons c t =>
      cases hc : p c with
      | true =>
        have hlen := (List.dropWhile_sublist p (l := t)).length_le
        exact run c t hc (ih _ (Nat.lt_succ_of_le hlen))
      | false => exact char c t hc (ih t (Nat.lt_succ_self _))

theorem mapRuns_of_forall_not {t : Text} (h : ∀ c ∈ t, p c = false) : mapRuns p f t = t := by
  induction t with
  | nil => exact mapRuns_nil
  | cons c t ih =>
    rw [List.forall_mem_cons] at h
    rw [mapRuns_cons_of_neg h.1, ih h.2]

theorem mapRuns_append_of_forall_not {u : Text} (h : ∀ c ∈ u, p c = false) (t : Text) :
    mapRuns p f (u ++ t) = u ++ mapRuns p f t := by
  induction u with
  | nil => rfl
  | cons c u ih =>
    rw [List.forall_mem_cons] at h
    rw [List.cons_append, mapRuns_cons_of_neg h.1, ih h.2, List.cons_append]

theorem takeWhile_append_cons {c : Char} (hc : p c = false) (u t : Text) :
    (u ++ c :: t).takeWhile p = u.takeWhile p := by
  induction u with
  | nil => simp [hc]
  | cons d u ih => cases hd : p d <;> simp [hd, ih]

theorem dropWhile_append_cons {c : Char} (hc : p c = false) (u t : Text) :
    (u ++ c :: t).dropWhile p = u.dropWhile p ++ c :: t := by
  induction u with
  | nil => simp [hc]
  | cons d u ih => cases hd : p d <;> simp [hd, ih]

theorem mapRuns_append_cons {c : Char} (hc : p c = false) (u t : Text) :
    mapRuns p f (u ++ c :: t) = mapRuns p f u ++ c :: mapRuns p f t := by
  induction u using runs_induction (p := p) with
  | nil => rw [List.nil_append, mapRuns_cons_of_neg hc, mapRuns_nil, List.nil_append]
  | run d u hd ih =>
    rw [List.cons_append, mapRuns_cons_of_pos hd, mapRuns_cons_of_pos hd,
      takeWhile_append_cons hc, dropWhile_append_cons hc, ih, List.append_assoc]
  | char d u hd ih =>
    rw [List.cons_append, mapRuns_cons_of_neg hd, mapRuns_cons_of_neg hd, ih, List.cons_append]

theorem mem_mapRuns {s : Text} {c : Char} {t : Text}
    (h : c ∈ mapRuns p (fun _ => s) t) : c ∈ t ∨ c ∈ s := by
  refine (mem_rewrite shrinks_run (fun t x hx => ?_) h).imp_right fun ⟨_, hc⟩ => hc
  obtain ⟨d, r, hd, -, rfl⟩ := run_eq_some hx
  refine ⟨d :: r.takeWhile p, ?_⟩
  have := @List.takeWhile_append_dropWhile _ (fun c => !p c) t
  rw [List.cons_append, List.takeWhile_append_dropWhile, ← hd, this]

end

/-! ## ends of a text -/

theorem dropEndWhile_append_of_pos {p : Char → Bool} {c : Char} (hc : p c = true) (t : Text) :
    dropEndWhile p (t ++ [c]) = dropEndWhile p t := by
  simp [dropEndWhile, hc]

theorem dropEndWhile_append_of_neg {p : Char → Bool} {c : Char} (hc : p c = false) (t : Text) :
    dropEndWhile p (t ++ [c]) = t ++ [c] := by
  simp [dropEndWhile, hc]

/-- all characters of a text have a property, or there is a last one that has not. -/
theorem dropEndWhile_cases (p : Char → Bool) (t : Text) :
    (∀ c ∈ t, p c = true) ∨ ∃ u c run, t = u ++ c :: run ∧ p c = false ∧
      (∀ k ∈ run, p k = true) ∧ dropEndWhile p t = u ++ [c] := by
  induction t using List.reverseRecOn with
  | nil => exact .inl (by simp)
  | append_singleton t k ih =>
    cases hk : p k with
    | true =>
      have hlast : ∀ x ∈ [k], p x = true := by simpa using hk
      obtain h | ⟨u, c, run, rfl, hc, hrun, hdrop⟩ := ih
      · exact .inl (List.forall_mem_append.2 ⟨h, hlast⟩)
      · refine .inr ⟨u, c, run ++ [k], by simp, hc, List.forall_mem_append.2 ⟨hrun, hlast⟩, ?_⟩
        rw [dropEndWhile_append_of_pos hk, hdrop]
    | false => exact .inr ⟨t, k, [], rfl, hk, by simp, dropEndWhile_append_of_neg hk t⟩

theorem mem_dropWhile_of_neg {p : Char → Bool} {c : Char} (hc : p c = false) {t : Text}
    (h : c ∈ t) : c ∈ t.dropWhile p := by
  obtain ⟨u, v, rfl⟩ := List.append_of_mem h
  rw [dropWhile_append_cons hc]
  simp

theorem mem_dropEndWhile_of_neg {p : Char → Bool} {c : Char} (hc : p c = false) {t : Text}
    (h : c ∈ t) : c ∈ dropEndWhile p t :=
  List.mem_reverse.2 (mem_dropWhile_of_neg hc (List.mem_reverse.2 h))

theorem mem_of_mem_dropEndWhile {p : Char → Bool} {c : Char} {t : Text}
    (h : c ∈ dropEndWhile p t) : c ∈ t :=
  List.mem_reverse.1 ((List.dropWhile_sublist p).mem (List.mem_reverse.1 h))

theorem mem_mapRuns_of_neg {p : Char → Bool} {f : Text → Text} {c : Char} (hc : p c = false)
    {t : Text} (h : c ∈ t) : c ∈ mapRuns p f t := by
  obtain ⟨u, v, rfl⟩ := List.append_of_mem h
  rw [mapRuns_append_cons hc]
  simp

/-! ## fixed texts -/

section
variable {p : Text}

theorem rewrite_of_misses {α : Type} {read : Text → Option (α × Text)} (h : Takes read)
    (f : α → Text) {u : Text} (hu : Misses read u) : rewrite (search read) f u = u := by
  have := rewrite_append_of_misses h f hu []
  rwa [List.append_nil, rewrite_search_nil h, List.append_nil] at this

theorem strip?_append_cons {c : Char} (hc : c ∉ p) (u t : Text) :
    strip? p (u ++ c :: t) = (strip? p u).map (· ++ c :: t) := by
  induction p generalizing u with
  | nil => simp [strip?]
  | cons d p ih =>
    rw [List.mem_cons, not_or] at hc
    cases u with
    | nil => simp [strip?, Ne.symm hc.1]
    | cons e u =>
      by_cases he : d = e
      · subst he
        rw [List.cons_append, strip?_cons_cons, strip?_cons_cons, ih hc.2]
      · rw [List.cons_append, strip?_cons_cons_of_ne he, strip?_cons_cons_of_ne he]
        rfl

theorem mem_replace (hp : p ≠ []) {s : Text} {c : Char} {t : Text} (h : c ∈ replace p s t) :
    c ∈ t ∨ c ∈ s := by
  refine (mem_rewrite (takes_strip hp).shrinks (fun t x hx => ?_) h).imp_right fun ⟨_, hc⟩ => hc
  exact ⟨p, cut_eq_some hx⟩

theorem replace_append_of_not_mem {a : Char} {q : Text} (s : Text) {u : Text} (hu : a ∉ u)
    (t : Text) : replace (a :: q) s (u ++ t) = u ++ replace (a :: q) s t := by
  refine rewrite_append_of_misses (takes_strip (List.cons_ne_nil a q)) _ ?_ t
  refine misses_of_forall fun c hc t => ?_
  rw [strip?_cons_cons_of_ne]
  · rfl
  · rintro rfl
    exact hu hc

/-- a character that a pattern may begin with, but does not hold otherwise, begins a part of the
text that is searched on its own. -/
theorem strip?_append_front {a d : Char} {q : Text} (hd : d ∉ q) {u : Text} (hu : u ≠ [])
    (v : Text) : strip? (a :: q) (u ++ d :: v) = (strip? (a :: q) u).map (· ++ d :: v) := by
  obtain ⟨e, u, rfl⟩ := List.exists_cons_of_ne_nil hu
  by_cases he : a = e
  · subst he
    rw [List.cons_append, strip?_cons_cons, strip?_cons_cons, strip?_append_cons hd]
  · rw [List.cons_append, strip?_cons_cons_of_ne he, strip?_cons_cons_of_ne he]
    rfl

theorem replace_append_front {a d : Char} {q : Text} (hd : d ∉ q) (s u v : Text) :
    replace (a :: q) s (u ++ d :: v) = replace (a :: q) s u ++ replace (a :: q) s (d :: v) := by
  have hp : a :: q ≠ [] := List.cons_ne_nil a q
  induction u using replace_induction hp with
  | nil => rw [replace_nil hp, List.nil_append, List.nil_append]
  | front u ih =>
    rw [List.append_assoc, replace_append hp, replace_append hp, ih, List.append_assoc]
  | char c u hs ih =>
    have hfront := strip?_append_front hd (a := a) (List.cons_ne_nil c u) v
    rw [hs, List.cons_append] at hfront
    rw [List.cons_append, replace_cons_of_not hp s (t := u ++ d :: v) hfront,
      replace_cons_of_not hp s hs, ih, List.cons_append]

theorem replace_append_cons (hp : p ≠ []) (s : Text) {c : Char} (hc : c ∉ p) (u t : Text) :
    replace p s (u ++ c :: t) = replace p s u ++ c :: replace p s t := by
  obtain ⟨a, q, rfl⟩ := List.exists_cons_of_ne_nil hp
  rw [List.mem_cons, not_or] at hc
  rw [replace_append_front hc.2]
  exact congrArg _ (replace_cons_of_not hp s (strip?_cons_cons_of_ne (Ne.symm hc.1) q t))

end

/-! ## texts that lack a pattern -/

/-- whether two texts differ before one of them ends. -/
def differ : Text → Text → Bool
  | a :: p, b :: u => a ≠ b || differ p u
  | _, _ => false

/-- whether `p` differs from a text at each of its characters, so that nothing that follows the
text makes an occurrence of `p` begin in it. -/
def lacks (p : Text) : Text → Bool
  | [] => true
  | c :: u => differ p (c :: u) && lacks p u

section
variable {p : Text}

theorem differ_append {u : Text} (h : differ p u = true) (t : Text) :
    differ p (u ++ t) = true := by
  induction p generalizing u with
  | nil => cases u <;> cases h
  | cons a p ih =>
    cases u with
    | nil => cases h
    | cons b u =>
      simp only [differ, List.cons_append, Bool.or_eq_true] at h ⊢
      exact h.imp_right ih

theorem strip?_eq_none_of_differ {t : Text} (h : differ p t = true) : strip? p t = none := by
  induction p generalizing t with
  | nil => cases t <;> cases h
  | cons a p ih =>
    cases t with
    | nil => cases h
    | cons b t =>
      by_cases hab : a = b
      · subst hab
        rw [strip?_cons_cons]
        simp only [differ, ne_eq, not_true, decide_false, Bool.false_or] at h
        exact ih h
      · exact strip?_cons_cons_of_ne hab p t

theorem lacks_append {u v : Text} (hu : lacks p u = true) (hv : lacks p v = true) :
    lacks p (u ++ v) = true := by
  induction u with
  | nil => exact hv
  | cons c u ih =>
    simp only [lacks, List.cons_append, Bool.and_eq_true] at hu ⊢
    exact ⟨differ_append hu.1 v, ih hu.2⟩

theorem lacks_of_not_mem {a : Char} {q u : Text} (h : a ∉ u) : lacks (a :: q) u = true := by
  induction u with
  | nil => rfl
  | cons c u ih =>
    rw [List.mem_cons, not_or] at h
    simp [lacks, differ, h.1, ih h.2]

/-- a text in which a pattern does not occur lacks it if a character of another kind follows. -/
theorem lacks_of_not_occursIn {c : Char} (hc : c ∉ p) {u : Text} (h : occursIn p u = false) :
    lacks p (u ++ [c]) = true := by
  have hdiffer : ∀ {q u : Text}, c ∉ q → strip? q (u ++ [c]) = none →
      differ q (u ++ [c]) = true := by
    intro q
    induction q with
    | nil => exact fun _ h => nomatch h
    | cons a q ih =>
      intro u hq h
      rw [List.mem_cons, not_or] at hq
      cases u with
      | nil => simp [differ, Ne.symm hq.1]
      | cons b u =>
        by_cases hab : a = b
        · subst hab
          rw [List.cons_append, strip?_cons_cons] at h
          simp [differ, ih hq.2 h]
        · simp [differ, hab]
  have hstrip : ∀ u : Text, strip? p u = none → strip? p (u ++ [c]) = none := fun u h => by
    rw [strip?_append_cons hc, h]
    rfl
  induction u with
  | nil =>
    cases p with
    | nil => cases h
    | cons a p =>
      rw [List.mem_cons, not_or] at hc
      simp [lacks, differ, Ne.symm hc.1]
  | cons b u ih =>
    have hfront : strip? p (b :: u) = none := by
      cases hs : strip? p (b :: u) with
      | none => rfl
      | some r => simp [occursIn, cut, search, hs] at h
    have hrest : occursIn p u = false := by
      simpa [occursIn, cut, search, hfront] using h
    rw [List.cons_append, lacks, Bool.and_eq_true]
    exact ⟨hdiffer hc (hstrip _ hfront), ih hrest⟩

/-- a pattern may grow at the front if the text ends with another character. -/
theorem lacks_cons {a c : Char} {u : Text} (h : lacks p (u ++ [c]) = true) (hc : a ≠ c) :
    lacks (a :: p) (u ++ [c]) = true := by
  induction u with
  | nil => simp [lacks, differ, hc]
  | cons b u ih =>
    simp only [lacks, List.cons_append, Bool.and_eq_true] at h ⊢
    refine ⟨?_, ih h.2⟩
    have hd : differ p (u ++ [c]) = true := by
      cases u <;> simp only [lacks, List.nil_append, List.cons_append, Bool.and_eq_true] at h ⊢ <;>
        exact h.2.1
    simp [differ, hd]

/-- a reader that needs `p` at the front reads nothing in a text that lacks `p`. -/
theorem misses_of_lacks {α : Type} {read : Text → Option (α × Text)}
    (hr : ∀ t, strip? p t = none → read t = none) {u : Text} (h : lacks p u = true) :
    Misses read u := by
  induction u with
  | nil => trivial
  | cons c u ih =>
    simp only [lacks, Bool.and_eq_true] at h
    exact ⟨fun r => hr _ (strip?_eq_none_of_differ (differ_append h.1 r)), ih h.2⟩

theorem cut_append_of_lacks (hp : p ≠ []) {u : Text} (h : lacks p u = true) (t : Text) :
    cut p (u ++ (p ++ t)) = some ⟨u, (), t⟩ := by
  induction u with
  | nil =>
    obtain ⟨a, q, rfl⟩ := List.exists_cons_of_ne_nil hp
    have hs := strip?_append (a :: q) t
    rw [List.cons_append] at hs
    simp [cut, search, hs]
  | cons c u ih =>
    simp only [lacks, Bool.and_eq_true] at h
    have hs := strip?_eq_none_of_differ (differ_append h.1 (p ++ t))
    rw [List.cons_append] at hs
    have hcut : cut p (c :: (u ++ (p ++ t))) = (cut p (u ++ (p ++ t))).map (Cut.push c) := by
      simp [cut, search, hs]
    rw [List.cons_append, hcut, ih h.2]
    rfl

theorem replace_of_lacks (hp : p ≠ []) (s : Text) {u : Text} (h : lacks p u = true) :
    replace p s u = u :=
  rewrite_of_misses (takes_strip hp) _ (misses_of_lacks (fun t ht => by rw [ht]; rfl) h)

end

end Text
end Bookpress
