import Bookpress.Markup.Fragment
import Bookpress.Proofs.Markup.Spans

/-!
# Rounds of the rules

A translation is a round of the rules, with rounds for the cells in it, and what finishes it.

* `rewriteWithin_succ` : a round fills the cells before it sets the rows and the pictures.
* `rewriteWithin_of_none` : without cells and pictures a round is its rules.
* `translateRaw_eq`, `run_translateRaw` : a translation is the outcome of the rules, finished.
-/

namespace Bookpress
namespace Markup

variable {g : Gallery} {o : Options} {t : Text}

/-- what is written for a cell. -/
def renderCell (g : Gallery) (o : Options) (depth : Nat) (c : Span) : StateM Session Text :=
  if c.inner = [] then return ['&']
  else do return cellText o.columnWidth (← rewriteWithin g o depth (cellContent c))

theorem rewriteWithin_succ (g : Gallery) (o : Options) (depth : Nat) (t : Text) :
    rewriteWithin g o (depth + 1) t =
      Text.fillM (renderCell g o depth) (Rule.cell.spans (beforeCells o t)) >>= fun t =>
        pictures g o (Rule.row.once rowText t) := by
  rw [rewriteWithin]
  rfl

theorem pictures_of_none (hi : Rule.image.spans t = ([], t)) (hc : Rule.icon.spans t = ([], t)) :
    pictures g o t = pure t := by
  unfold pictures
  rw [hi, Text.fillM_nil, pure_bind, hc, Text.fillM_nil]

theorem rewriteWithin_of_none {depth : Nat} {u : Text} (hu : beforeCells o t = u)
    (hcell : Rule.cell.spans u = ([], u)) (hrow : Rule.row.once rowText u = u)
    (hi : Rule.image.spans u = ([], u)) (hc : Rule.icon.spans u = ([], u)) :
    rewriteWithin g o (depth + 1) t = pure u := by
  rw [rewriteWithin_succ, hu, hcell, Text.fillM_nil, pure_bind, hrow, pictures_of_none hi hc]

/-- a translation is a round of the rules with entries of the journal before and after it. -/
theorem translateRaw_eq (g : Gallery) (o : Options) (t : Text) (s : Session) :
    ∃ es fs, (translateRaw g o t).run s =
      (finish o ((rewrite g o (Tex.escape t)).run (s.record es)).1,
        ((rewrite g o (Tex.escape t)).run (s.record es)).2.record fs) := by
  unfold translateRaw translate
  simp only [StateT.run_bind, StateT.run_modify, pure_bind]
  exact ⟨_, _, rfl⟩

theorem run_translateRaw (g : Gallery) (o : Options) (t : Text) (s : Session) :
    ∃ s', ((translateRaw g o t).run s).1 = finish o ((rewrite g o (Tex.escape t)).run s').1 := by
  obtain ⟨es, fs, h⟩ := translateRaw_eq g o t s
  exact ⟨s.record es, congrArg Prod.fst h⟩

end Markup
end Bookpress
