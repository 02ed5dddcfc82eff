import Bookpress.Html.Dom

/-!
# Finding elements

An element is found by its name, its class or its identifier, and by those of the elements around
it, one step after the other.  Classes are compared as whole values.  Below an element, elements are
found in the order of the page; on the whole page, in the order in which they were made.
-/

namespace Bookpress
namespace Html

/-- what an element has to look like. -/
structure Pattern where
  name : String
  class? : Option String
  id? : Option String
deriving Repr, DecidableEq

/-- an element of a name. -/
def Pattern.ofName (name : String) : Pattern := ⟨name, none, none⟩

/-- an element of a name and a class. -/
def Pattern.ofClass (name value : String) : Pattern := ⟨name, some value, none⟩

/-- an element of a name and an identifier. -/
def Pattern.ofId (name value : String) : Pattern := ⟨name, none, some value⟩

namespace Tree

/-- when an element was made. -/
def order : Tree → Nat
  | .element n _ _ _ _ => n
  | .text _ => 0

/-- the attributes of an element. -/
def attributes : Tree → List Attribute
  | .element _ _ _ attributes _ => attributes
  | .text _ => []

/-- the value of an attribute. -/
def attribute? (t : Tree) (name : String) : Option Text := Html.attribute? t.attributes name

/-- the children of an element. -/
def children : Tree → List Tree
  | .element _ _ _ _ children => children
  | .text _ => []

/-- whether a tree is an element of a name. -/
def isNamed (name : String) : Tree → Bool
  | .element _ _ n _ _ => n == name
  | .text _ => false

/-- the children of a name. -/
def childrenNamed (t : Tree) (name : String) : List Tree := t.children.filter (isNamed name)

mutual

/-- all texts in a tree, in their order. -/
def content : Tree → Text
  | .text t => t
  | .element _ _ _ _ children => contents children

/-- all texts in a row of trees. -/
def contents : List Tree → Text
  | [] => []
  | t :: ts => t.content ++ contents ts

end

mutual

/-- the elements below a tree, each in front of the elements around it, innermost first. -/
def ways (outer : List Tree) : Tree → List (List Tree)
  | .text _ => []
  | .element n space name attributes children =>
    waysAll (.element n space name attributes children :: outer) children

/-- the elements of a row of trees and below, each in front of the elements around it. -/
def waysAll (outer : List Tree) : List Tree → List (List Tree)
  | [] => []
  | .text _ :: ts => waysAll outer ts
  | .element n space name attributes children :: ts =>
    (.element n space name attributes children :: outer)
      :: ways outer (.element n space name attributes children) ++ waysAll outer ts

end

/-- whether an element looks like a pattern. -/
def fits (p : Pattern) (t : Tree) : Bool :=
  t.isNamed p.name && p.class?.all (fun v => t.attribute? "class" == some v.toList)
    && p.id?.all fun v => t.attribute? "id" == some v.toList

/-- whether the elements on a way out look like the patterns of a path, innermost first. -/
def fitsAlong : List Pattern → List Tree → Bool
  | [], _ => true
  | _ :: _, [] => false
  | p :: ps, t :: ts => t.fits p && fitsAlong ps ts

/-- the elements below a tree that end one of some paths, in their order. -/
def select (t : Tree) (paths : List (List Pattern)) : List Tree :=
  ((t.ways []).filter fun way => paths.any fun p => fitsAlong p.reverse way).filterMap
    List.head?

/-- the first element below a tree that ends one of some paths. -/
def first? (t : Tree) (paths : List (List Pattern)) : Option Tree := (t.select paths).head?

end Tree

/-- the elements of a page that end one of some paths, in the order in which they were made. -/
def select (page : List Tree) (paths : List (List Pattern)) : List Tree :=
  (page.flatMap fun t => t.select paths).mergeSort fun a b => a.order ≤ b.order

/-- the first element of a page that ends one of some paths. -/
def first? (page : List Tree) (paths : List (List Pattern)) : Option Tree :=
  (select page paths).head?

end Html
end Bookpress
