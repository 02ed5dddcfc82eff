import Bookpress.Picture.Png
import Bookpress.Picture.Gif
import Bookpress.Picture.Jpeg

/-!
# Picture formats

The formats in which pictures come, told apart by their first bytes, and the one form that
pictures are kept in: a PNG file of the first picture.

* `normal?_isSome` : a picture has a form to keep exactly when it can be read.
-/

namespace Bookpress
namespace Picture

/-- the formats of pictures. -/
inductive Format
  | png | jpeg | gif
deriving Repr, DecidableEq

namespace Format

/-- how the files of a format begin. -/
def openings : Format → List (List UInt8)
  | .png => [Png.signature]
  | .jpeg => [[0xFF, 0xD8, 0xFF]]
  | .gif => [[71, 73, 70, 56, 55, 97], [71, 73, 70, 56, 57, 97]]

/-- the format of a file. -/
def of? (b : ByteArray) : Option Format :=
  [png, jpeg, gif].find? fun f => f.openings.any (hasAt b 0)

end Format

/-- the first picture in a file. -/
def decode? (b : ByteArray) : Option Pixmap :=
  match Format.of? b with
  | none => none
  | some .png => Png.decode? b
  | some .jpeg => Jpeg.decode? b
  | some .gif => Gif.decode? b

/-- the file in which a picture is kept, without its uniform border if it is to be trimmed. -/
def normal? (trim : Bool) (b : ByteArray) : Option ByteArray :=
  (decode? b).map fun m => Png.encode (if trim then m.trim else m)

theorem normal?_isSome (trim : Bool) (b : ByteArray) :
    (normal? trim b).isSome = (decode? b).isSome := by
  simp [normal?]

end Picture
end Bookpress
