import Bookpress.Disk.Path
import Bookpress.Proofs.Text.Rewriting

/-!
# Paths up to repeated slashes

Two paths that differ in repeated slashes alone name the same place.  They have the same characters
but for slashes, in the same order.

* `solid_squeeze` : all characters but slashes are kept.
* `solid_join` : the characters of a path that is joined.
* `squeeze_join_join` : slashes at the end of a folder do not matter.
-/

namespace Bookpress
namespace Path

/-- a path with single slashes. -/
def squeeze (p : Path) : Path := Text.mapRuns (· = '/') (fun _ => ['/']) p

/-- the characters of a path but for its slashes. -/
def solid (p : Path) : Text := p.filter (· ≠ '/')

variable {p q dir name : Path}

@[simp] theorem solid_append (p q : Path) : solid (p ++ q) = solid p ++ solid q :=
  List.filter_append p q

@[simp] theorem solid_slash (p : Path) : solid ('/' :: p) = solid p := by
  simp [solid]

theorem solid_cons_of_ne {c : Char} (hc : c ≠ '/') (p : Path) :
    solid (c :: p) = c :: solid p :=
  List.filter_cons_of_pos (by simpa using hc)

theorem solid_of_not_mem (h : '/' ∉ p) : solid p = p :=
  List.filter_eq_self.2 fun _ hc => decide_eq_true fun e => h (e ▸ hc)

/-- the slashes at the front of a path do not count. -/
theorem solid_dropWhile (p : Path) : solid (p.dropWhile (· = '/')) = solid p := by
  induction p with
  | nil => rfl
  | cons c p ih =>
    by_cases hc : c = '/'
    · rw [hc, List.dropWhile_cons_of_pos (by simp), ih, solid_slash]
    · rw [List.dropWhile_cons_of_neg (by simpa using hc)]

/-- nor do those at its end. -/
theorem solid_dropEndWhile (p : Path) : solid (Text.dropEndWhile (· = '/') p) = solid p := by
  have hreverse : ∀ p : Path, solid p.reverse = (solid p).reverse := fun p =>
    List.filter_reverse ..
  rw [Text.dropEndWhile, hreverse, solid_dropWhile, hreverse, List.reverse_reverse]

/-- a character that becomes a slash is one no more. -/
theorem solid_map (d : Char) (hd : d ≠ '/') (p : Path) :
    solid (p.map fun c => if c = d then '/' else c) = (solid p).filter (· ≠ d) := by
  induction p with
  | nil => rfl
  | cons c p ih =>
    rw [List.map_cons]
    by_cases hc : c = d
    · subst hc
      rw [if_pos rfl, solid_slash, solid_cons_of_ne hd, List.filter_cons_of_neg (by simp), ih]
    · rw [if_neg hc]
      by_cases hs : c = '/'
      · rw [hs, solid_slash, solid_slash, ih]
      · rw [solid_cons_of_ne hs, solid_cons_of_ne hs, List.filter_cons_of_pos (by simpa using hc),
          ih]

theorem solid_squeeze (p : Path) : solid (squeeze p) = solid p := by
  induction p using Text.runs_induction (p := fun c => decide (c = '/')) with
  | nil => simp [squeeze]
  | run c p hc ih =>
    obtain rfl : c = '/' := of_decide_eq_true hc
    rw [squeeze, Text.mapRuns_cons_of_pos (by simp), List.singleton_append, solid_slash,
      solid_slash, ← solid_dropWhile p]
    exact ih
  | char c p hc ih =>
    have hslash : c ≠ '/' := of_decide_eq_false hc
    rw [squeeze, Text.mapRuns_cons_of_neg hc, ← squeeze, solid_cons_of_ne hslash,
      solid_cons_of_ne hslash, ih]

theorem solid_eq_of_squeeze_eq (h : squeeze p = squeeze q) : solid p = solid q := by
  rw [← solid_squeeze p, h, solid_squeeze]

theorem solid_join (p q : Path) :
    solid (join p q) = if isAbsolute q then solid q else solid p ++ solid q := by
  unfold join
  split
  · rfl
  · split <;> simp

/-- what a path that does not start at the root is appended to. -/
def front (p : Path) : Path := if p = [] ∨ p.getLast? = some '/' then p else p ++ ['/']

theorem join_of_relative (p : Path) (h : isAbsolute q = false) : join p q = front p ++ q := by
  unfold join front
  rw [if_neg (by simp [h])]
  split <;> simp

/-- a run of slashes is a slash. -/
theorem squeeze_append_run {c : Char} {run t : Path} (hne : run ≠ []) (hrun : ∀ k ∈ run, k = '/')
    (hc : c ≠ '/') : squeeze (run ++ c :: t) = '/' :: squeeze (c :: t) := by
  obtain ⟨k, run, rfl⟩ := List.exists_cons_of_ne_nil hne
  rw [List.forall_mem_cons] at hrun
  obtain ⟨rfl, hrun⟩ := hrun
  have hdrop : (run ++ c :: t).dropWhile (· = '/') = c :: t := by
    rw [List.dropWhile_append_of_pos (by simpa using hrun),
      List.dropWhile_cons_of_neg (by simpa using hc)]
  rw [squeeze, List.cons_append, Text.mapRuns_cons_of_pos (by simp), hdrop]
  rfl

/-- **Slashes at the end of a folder do not matter.** -/
theorem squeeze_join_join {c : Char} (w : Path) (hdir : isAbsolute dir = false)
    (hne : ∃ k ∈ dir, k ≠ '/') (hc : c ≠ '/') :
    squeeze (join w (Text.dropEndWhile (· = '/') dir ++ '/' :: c :: name)) =
      squeeze (join (join w dir) (c :: name)) := by
  obtain h | ⟨u, e, run, rfl, he, hrun, hdrop⟩ := Text.dropEndWhile_cases (· = '/') dir
  · obtain ⟨k, hk, hk'⟩ := hne
    exact absurd (of_decide_eq_true (h k hk)) hk'
  simp only [decide_eq_true_eq, decide_eq_false_iff_not] at he hrun
  have hrel : isAbsolute (c :: name) = false := by simpa [isAbsolute] using hc
  have harg : isAbsolute (u ++ [e] ++ '/' :: c :: name) = false := by
    cases u <;> simpa [isAbsolute] using hdir
  -- on both sides a run of slashes stands between the folder and the name
  have hjoin : ∃ run', run' ≠ [] ∧ (∀ k ∈ run', k = '/') ∧
      join (join w (u ++ e :: run)) (c :: name) = front w ++ u ++ e :: (run' ++ c :: name) := by
    rw [join_of_relative _ hrel, join_of_relative w hdir, front]
    rcases List.eq_nil_or_concat run with rfl | ⟨run, k, rfl⟩
    · refine ⟨['/'], by simp, by simp, ?_⟩
      rw [if_neg (by simp [he])]
      simp
    · rw [List.concat_eq_append] at hrun ⊢
      obtain rfl : k = '/' := hrun k (by simp)
      have hlast : (front w ++ (u ++ e :: (run ++ ['/']))).getLast? = some '/' := by
        rw [← List.cons_append, ← List.append_assoc, ← List.append_assoc, List.getLast?_concat]
      refine ⟨run ++ ['/'], by simp, hrun, ?_⟩
      rw [if_pos (.inr hlast)]
      simp
  obtain ⟨run', hne', hrun', e'⟩ := hjoin
  have hcut : ∀ run : Path, run ≠ [] → (∀ k ∈ run, k = '/') →
      squeeze (front w ++ u ++ e :: (run ++ c :: name)) =
        squeeze (front w ++ u) ++ e :: '/' :: squeeze (c :: name) := fun run hne hrun => by
    rw [← squeeze_append_run hne hrun hc]
    exact Text.mapRuns_append_cons (c := e) (decide_eq_false he) _ _
  have hsplit : front w ++ (u ++ [e] ++ '/' :: c :: name) =
      front w ++ u ++ e :: (['/'] ++ c :: name) := by simp
  rw [hdrop, join_of_relative w harg, e', hsplit, hcut _ (List.cons_ne_nil '/' []) (by simp),
    hcut _ hne' hrun']

end Path
end Bookpress
