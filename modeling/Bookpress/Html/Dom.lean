import Bookpress.Html.Token

/-!
# Pages as trees

While a page is read, its nodes are kept in a row and know their parents, so that they can be
moved.  When it has been read, the nodes become a tree.
-/

namespace Bookpress
namespace Html

/-- the languages that elements belong to. -/
inductive Space
  | html | svg | math
deriving Repr, DecidableEq

/-- what a node is. -/
inductive Kind
  | document
  | element (space : Space) (name : String) (attributes : List Attribute)
  | text (s : String)

/-- a node among others. -/
structure Node where
  kind : Kind
  parent? : Option Nat
  children : Array Nat

/-- the nodes of a page by their numbers; the first one is the document. -/
structure Dom where
  nodes : Array Node

namespace Dom

/-- the page without elements. -/
def empty : Dom := ⟨#[⟨.document, none, #[]⟩]⟩

/-- the page with one node changed. -/
def change (d : Dom) (n : Nat) (f : Node → Node) : Dom := ⟨d.nodes.modify n f⟩

/-- the page with a new node that stands nowhere, and its number. -/
def create (d : Dom) (k : Kind) : Nat × Dom := (d.nodes.size, ⟨d.nodes.push ⟨k, none, #[]⟩⟩)

/-- the parent of a node. -/
def parent? (d : Dom) (n : Nat) : Option Nat := (d.nodes[n]?).bind Node.parent?

/-- the children of a node. -/
def children (d : Dom) (n : Nat) : Array Nat :=
  match d.nodes[n]? with
  | some x => x.children
  | none => #[]

/-- the page with a node taken from its place. -/
def detach (d : Dom) (n : Nat) : Dom :=
  match d.parent? n with
  | none => d
  | some p =>
    (d.change p fun x => { x with children := x.children.filter (· ≠ n) }).change n fun x =>
      { x with parent? := none }

/-- the page with a node as the last child of another. -/
def append (d : Dom) (p n : Nat) : Dom :=
  ((d.detach n).change p fun x => { x with children := x.children.push n }).change n fun x =>
    { x with parent? := some p }

/-- a row with `n` in front of `sibling`. -/
def insertIn (n sibling : Nat) (xs : Array Nat) : Array Nat :=
  xs.foldl (fun ys x => if x = sibling then (ys.push n).push x else ys.push x) #[]

/-- the page with a node in front of another, which has a parent `p`. -/
def insertBefore (d : Dom) (p sibling n : Nat) : Dom :=
  ((d.detach n).change p fun x => { x with children := insertIn n sibling x.children }).change n
    fun x => { x with parent? := some p }

/-- whether a node is a text. -/
def isText (d : Dom) (n : Nat) : Bool :=
  match d.nodes[n]? with
  | some ⟨.text _, _, _⟩ => true
  | _ => false

/-- the page with a character at the end of a text. -/
def extend (d : Dom) (n : Nat) (c : Char) : Dom :=
  d.change n fun x =>
    match x with
    | ⟨.text s, p, cs⟩ => ⟨.text (s.push c), p, cs⟩
    | x => x

/-- the node that stands in front of another in a row. -/
def previousIn? (xs : Array Nat) (n : Nat) : Option Nat :=
  (xs.idxOf? n).bind fun k => if k = 0 then none else xs[k - 1]?

/-- the page with a character at the end of a node. -/
def appendChar (d : Dom) (p : Nat) (c : Char) : Dom :=
  match (d.children p).back?.filter d.isText with
  | some n => d.extend n c
  | none =>
    let (n, d) := d.create (.text (String.singleton c))
    d.append p n

/-- the page with a character in front of a node with the parent `p`. -/
def insertCharBefore (d : Dom) (p sibling : Nat) (c : Char) : Dom :=
  match (previousIn? (d.children p) sibling).filter d.isText with
  | some n => d.extend n c
  | none =>
    let (n, d) := d.create (.text (String.singleton c))
    d.insertBefore p sibling n

/-- the page with the children of one node moved to the end of another. -/
def moveChildren (d : Dom) (source target : Nat) : Dom :=
  (d.children source).foldl (fun d n => d.append target n) d

end Dom

/-- a part of a page that has been read.  Elements know in which order they were made. -/
inductive Tree
  | element (order : Nat) (space : Space) (name : String) (attributes : List Attribute)
    (children : List Tree)
  | text (t : Text)

namespace Dom

/-- the tree below a node, down to a depth. -/
def treeWithin (d : Dom) : Nat → Nat → Option Tree
  | 0, _ => none
  | depth + 1, n =>
    (d.nodes[n]?).bind fun x =>
      match x.kind with
      | .text s => some (.text s.toList)
      | .document =>
        some (.element n .html "" [] (x.children.toList.filterMap (d.treeWithin depth)))
      | .element space name attributes =>
        some (.element n space name attributes
          (x.children.toList.filterMap (d.treeWithin depth)))

/-- the trees of a page: that of the document, and what has been taken from it.  No node stands
deeper than there are nodes. -/
def trees (d : Dom) : List Tree :=
  ((List.range d.nodes.size).filter fun n => (d.parent? n).isNone).filterMap
    (d.treeWithin d.nodes.size)

end Dom
end Html
end Bookpress
