import Bookpress.Text.Basic

/-!
# Tokens of HTML

What a page is read into: tags, characters, and the places of comments.
-/

namespace Bookpress
namespace Html

/-- a named value in a tag. -/
structure Attribute where
  name : Text
  value : Text
deriving Repr, DecidableEq

/-- an opening tag. -/
structure Tag where
  name : String
  attributes : List Attribute
  /-- whether the tag closes itself. -/
  isClosed : Bool
deriving Repr, DecidableEq

/-- the value of an attribute of a name. -/
def attribute? (attributes : List Attribute) (name : String) : Option Text :=
  (attributes.find? fun a => a.name == name.toList).map Attribute.value

/-- a tag without attributes. -/
def Tag.bare (name : String) : Tag := ⟨name, [], false⟩

/-- a token. -/
inductive Token
  /-- the type of the document, and whether it asks for the manners of old pages. -/
  | doctype (isQuirky : Bool)
  | start (t : Tag)
  | stop (name : String)
  | comment
  | char (c : Char)
  /-- the end of the page. -/
  | finish
deriving Repr, DecidableEq

end Html
end Bookpress
