import Bookpress.Book.Basic
import Bookpress.Html.Builder.Feed
import Bookpress.Html.Select
import Bookpress.Text.Blank

/-!
# Reading books

The book that a page shows.  A page needs a title, a link to the author, a date and a description;
worksheets and a menu may be missing.
-/

namespace Bookpress

open Html

/-- what a page cannot do without. -/
inductive MissingNode
  | title | authorLink | date | description | menuLabel
deriving Repr, DecidableEq

/-- the name of a node in messages. -/
def MissingNode.label : MissingNode → String
  | .title => "title"
  | .authorLink => "author link"
  | .date => "date"
  | .description => "description"
  | .menuLabel => "menu entry label"

/-- the words for a missing node. -/
def MissingNode.message (m : MissingNode) : Text :=
  "Expected node is missing from the input document: ".toList ++ m.label.toList

namespace Book

/-! ## where things stand -/

def titlePath : List Pattern := [.ofName "title"]
def authorPath : List Pattern := [.ofClass "p" "author"]
def linkPath : List Pattern := [.ofClass "p" "author", .ofName "a"]

def descriptionPaths : List (List Pattern) :=
  [[.ofClass "p" "description"], [.ofClass "p" "bbcode-text description"]]

def worksheetPaths : List (List Pattern) :=
  [[.ofClass "div" "worksheet_tbl"], [.ofClass "table" "worksheet_tbl"]]

def menuPath : List Pattern :=
  [.ofName "html", .ofName "body", .ofId "div" "content", .ofId "div" "menu-container",
    .ofId "div" "menu", .ofId "div" "sBook-menulist", .ofName "ul", .ofClass "li" "menu-opened",
    .ofClass "div" "menu-wrapper"]

def labelPath : List Pattern := [.ofClass "div" "menu-item", .ofName "p"]
def itemPath : List Pattern := [.ofClass "div" "submenu-items", .ofName "ol", .ofName "li"]
def captionPath : List Pattern := [.ofClass "div" "image-description bbcode-text"]

/-! ## elements -/

/-- the text of an element without blanks around it. -/
def trimmed (t : Tree) : Text := Text.trim t.content

/-- the caption of a picture; a picture without one may say so. -/
def captionOf (t : Tree) : Option Text :=
  ((t.first? [captionPath]).map trimmed).filter (· ≠ "undefined".toList)

/-- a picture, by its first image. -/
def imageOf (kind : Text) (t : Tree) : Element :=
  match ((t.childrenNamed "img").head?).bind fun i => i.attribute? "src" with
  | some src => .image src (captionOf t)
  | none => .unsupported (kind ++ " without img".toList)

/-- a video, by the first frame that has a source. -/
def videoOf (kind : Text) (t : Tree) : Element :=
  let frames := (t.childrenNamed "div").flatMap fun d => d.childrenNamed "iframe"
  match frames.findSome? fun f => f.attribute? "src" with
  | some src => .video src
  | none => .unsupported (kind ++ " without iframe".toList)

/-- the element of a worksheet that stands in a node, by its class and style. -/
def elementOf (t : Tree) : Element :=
  let kind := (t.attribute? "class").getD []
  let style := (t.attribute? "style").getD []
  if "ws-element-text".toList.isPrefixOf kind || kind == "bbcode-text".toList then .text (trimmed t)
  else if kind = "ws-element-title content-added-title".toList then .title (trimmed t)
  else if kind = "ws-element-applet".toList ∨ kind = "ws-element-exercise".toList
      ∨ style = "padding: 0".toList then .applet (trimmed t)
  else if kind = "ws-element-image".toList then imageOf kind t
  else if kind = "ws-element-video".toList then videoOf kind t
  else if "ws-element-header".toList.isPrefixOf kind then .header (trimmed t)
  else .unsupported kind

/-- the elements of a worksheet, in blocks and in the cells of tables. -/
def worksheetOf (t : Tree) : Worksheet :=
  let blocks := (t.childrenNamed "div").flatMap fun d => d.childrenNamed "div"
  let rows := (t.childrenNamed "tbody").flatMap fun b => b.childrenNamed "tr"
  (blocks ++ rows.flatMap fun r => r.childrenNamed "td").map elementOf

/-- the entry of the menu that stands in a node. -/
def entryOf (t : Tree) : Except MissingNode MenuEntry :=
  match t.first? [labelPath] with
  | some p => .ok ⟨trimmed p, (t.select [itemPath]).map trimmed⟩
  | none => .error .menuLabel

/-- the date in the line of the author: what stands between the first two commas. -/
def dateOf (line : Text) : Option Text :=
  (((Text.split ',' line)[1]?).map Text.trim).filter (· ≠ [])

/-- a part of a page, or its name if it is missing. -/
def need {α : Type} (m : MissingNode) : Option α → Except MissingNode α
  | some a => .ok a
  | none => .error m

/-- the book of a page. -/
def ofPage (page : List Tree) : Except MissingNode Book := do
  let title ← need .title ((Html.first? page [titlePath]).map Tree.content)
  let link ← need .authorLink (Html.first? page [linkPath])
  let date ← need .date ((Html.first? page [authorPath]).bind fun p => dateOf p.content)
  let description ← need .description ((Html.first? page descriptionPaths).map trimmed)
  let menu ← (Html.select page [menuPath]).mapM entryOf
  return {
    title
    author := ⟨trimmed link, (link.attribute? "href").getD []⟩
    date
    description
    worksheets := (Html.select page worksheetPaths).map worksheetOf
    menu }

/-- the book of a page as it is written. -/
def read (html : Text) : Except MissingNode Book := ofPage (Html.parse html)

end Book
end Bookpress
