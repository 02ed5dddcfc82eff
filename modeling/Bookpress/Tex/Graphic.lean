import Bookpress.Tex.Command

/-!
# Graphics

A picture on lines of its own, in the middle of the page, with what stands around it.
-/

namespace Bookpress
namespace Tex

/-- a picture on lines of its own. -/
structure Graphic where
  path : Text
  /-- the printed width in millimetres. -/
  width : Text
  caption? : Option Text
  isFramed : Bool
  /-- where the picture leads. -/
  link? : Option Text
deriving Repr, DecidableEq

namespace Graphic

/-- the picture alone. -/
def picture (g : Graphic) : Text :=
  commandWith "includegraphics" ("width=".toList ++ g.width ++ "mm".toList) [g.path]

/-- the picture with its frame. -/
def framedPicture (g : Graphic) : Text :=
  if g.isFramed then command "fbox" [g.picture] else g.picture

/-- the picture with its frame and link. -/
def linkedPicture (g : Graphic) : Text :=
  match g.link? with
  | some l => command "hrefnoref" [l, g.framedPicture]
  | none => g.framedPicture

/-- the line of a caption. -/
def captionLine (g : Graphic) : Text :=
  match g.caption? with
  | some c => line (command "caption*" [c])
  | none => []

/-- the lines of a graphic. -/
def toText (g : Graphic) : Text :=
  line (openEnv "figure" ++ "[H]".toList) ++ line (openEnv "center") ++ line g.linkedPicture
    ++ g.captionLine ++ line (closeEnv "center") ++ line (closeEnv "figure") ++ ['\n']

end Graphic

/-- a heading without a number; an empty text has none. -/
def heading (t : Text) : Text :=
  if t = [] then [] else command "subsubsection*" [t] ++ ['\n', '\n']

end Tex
end Bookpress
