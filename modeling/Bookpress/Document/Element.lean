import Bookpress.Book.Embed
import Bookpress.Document.Basic
import Bookpress.Markup.Fragment
import Bookpress.Tex.Graphic

/-!
# Elements in LaTeX

The LaTeX of the elements of worksheets.  Texts are translated; pictures, applications and videos
become figures, each with a caption.
-/

namespace Bookpress

open Tex

namespace Element

/-- the address of the material behind an application. -/
def materialUrl (material : Text) : Text := "http://www.geogebra.org/m/".toList ++ material

/-- the address of the picture of a video. -/
def thumbnailUrl (id : Text) : Text :=
  "http://img.youtube.com/vi/".toList ++ id ++ "/maxresdefault.jpg".toList

/-- the address of a video. -/
def videoUrl (id : Text) : Text := "https://www.youtube.com/watch?v=".toList ++ id

/-- a caption that shows an address. -/
def captionFor (label url : Text) : Text := escape label ++ ',' :: ' ' :: command "url" [url]

/-- the millimetres that the logo for applications is wide. -/
def logoWidth : Text := "50".toList

/-- a figure as a graphic. -/
def graphicOf (f : Figure) (caption? : Option Text) : Graphic :=
  ⟨f.path, lengthText f.width, caption?, false, none⟩

/-- an application: its preview, which leads to its material, or a logo. -/
def appletText (g : Gallery) (script : Text) : StateM Session Text := do
  match Preview.of? script with
  | none =>
    modify (·.record (g.detail 2 "Applet without preview image, using placeholder".toList))
    let path ← g.placeholder
    return Graphic.toText ⟨path, logoWidth, none, false, none⟩
  | some p =>
    modify (·.record (g.detail 2 ("figure(".toList ++ p.file ++ [')'])))
    let (source, events) := g.locate p.file
    modify (·.record events)
    let f ← g.figure source
    let url := materialUrl p.material
    return Graphic.toText
      ⟨f.path, lengthText f.width, some (captionFor g.settings.labels.applet url), true, some url⟩

/-- a video: its thumbnail and its address. -/
def videoText (g : Gallery) (id : Text) : StateM Session Text := do
  modify (·.record (g.detail 1 ("Fetching video thumbnail ".toList ++ thumbnailUrl id)))
  let raw ← g.thumbnail (thumbnailUrl id)
  let f ← g.figure (.file raw)
  return (graphicOf f (some (captionFor g.settings.labels.video (videoUrl id)))).toText

/-- a picture with its caption. -/
def imageText (g : Gallery) (o : Markup.Options) (src : Text) (caption? : Option Text) :
    StateM Session Text := do
  let translated? ← caption?.mapM (Markup.translateRaw g o)
  let (source, events) := g.locate src
  modify (·.record events)
  let f ← g.figure source
  return (graphicOf f (translated?.filter (· ≠ []))).toText

/-- the LaTeX of an element. -/
def toText (g : Gallery) (o : Markup.Options) : Element → StateM Session Text
  | .text t => do return (← Markup.translateRaw g o t) ++ ['\n', '\n']
  | .title t | .header t => do return heading (← Markup.translateRaw g o t)
  | .applet script => appletText g script
  | .image src caption? => imageText g o src caption?
  | .video src => do
    match videoId? src with
    | some id => videoText g id
    | none =>
      modify (·.record (g.detail 2 ("Skipping video without embed id: ".toList ++ src)))
      return []
  | .unsupported kind => do
    modify (·.record (g.detail 2 ("Dropping unsupported element ".toList
      ++ apostrophe :: (kind ++ [apostrophe]))))
    return []

/-- whether documents do not show an element. -/
def isUnsupported : Element → Bool
  | .unsupported _ => true
  | _ => false

end Element
end Bookpress
