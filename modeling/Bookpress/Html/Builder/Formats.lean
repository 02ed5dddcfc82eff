import Bookpress.Html.Builder.Basic

/-!
# Formats across elements

Elements of formats, such as bold text, may end in other places than they ought to.  A format that
is still open when its surroundings end is opened again, and a format that ends too early is cut
in two.

* `unmark_mark` : taking back a mark gives the formats before it.
* `innerFormats_mark` : no format is inside of a new mark.
-/

namespace Bookpress
namespace Html
namespace Builder

/-! ## the list of formats -/

/-- whether an element is open. -/
def isOpen (b : Builder) (o : Opened) : Bool := b.stack.any fun p => p.node == o.node

/-- the formats inside of the innermost mark, latest first. -/
def innerFormats (b : Builder) : List Opened := (b.formats.takeWhile Option.isSome).filterMap id

/-- ends the search for formats at what comes next. -/
def mark (b : Builder) : Builder := { b with formats := none :: b.formats }

theorem innerFormats_mark (b : Builder) : b.mark.innerFormats = [] := rfl

/-- forgets the formats inside of the innermost mark, and the mark. -/
def unmark (b : Builder) : Builder :=
  { b with formats := (b.formats.dropWhile Option.isSome).drop 1 }

theorem unmark_mark (b : Builder) : b.mark.unmark = b := rfl

/-- forgets a format. -/
def dropFormat (b : Builder) (node : Nat) : Builder :=
  { b with formats := b.formats.filter fun f => !f.any fun o => o.node == node }

/-- whether two formats are written alike. -/
def isAlike (o : Opened) (t : Tag) : Bool :=
  o.name == t.name && o.attributes.length == t.attributes.length
    && o.attributes.all t.attributes.contains

/-- opens a format; of formats that are written alike, three are kept. -/
def enterFormat (b : Builder) (t : Tag) : Builder :=
  let alike := b.innerFormats.filter fun o => isAlike o t
  let b := match alike.drop 2, alike.getLast? with
    | _ :: _, some o => b.dropFormat o.node
    | _, _ => b
  let b := b.enter t
  { b with formats := b.stack.head? :: b.formats }

/-- opens a format again; it takes the place of the old one among the formats. -/
def reopen (b : Builder) (o : Opened) : Builder :=
  let b := b.enter ⟨o.name, o.attributes, false⟩
  { b with formats := b.formats.map fun f =>
      if f.any fun p => p.node == o.node then b.stack.head? else f }

/-- opens the formats again whose elements have been closed around what comes next. -/
def restore (b : Builder) : Builder :=
  let closed := (b.formats.takeWhile fun f => f.any fun o => !b.isOpen o).filterMap id
  closed.reverse.foldl reopen b

/-! ## ends in the wrong place -/

/-- closes an element of a name, unless a special element is open inside of it. -/
def closeNamed (name : String) (b : Builder) : Builder :=
  match b.stack.find? fun o => o.named name || o.isOf specialNames with
  | some o =>
    if o.named name then (b.closeImpliedBut name).popThrough fun p => p.node == o.node else b
  | none => b

/-- the work of cutting a format in two: the elements between it and a block are opened again
around the block. -/
structure Cutting where
  builder : Builder
  /-- the node that the next element takes. -/
  last : Nat
  /-- the elements that stay open, innermost first. -/
  kept : List Opened
  /-- the format behind which the cut one goes. -/
  mark? : Option Nat

/-- deals with one of the elements between; `k` tells how many have been dealt with. -/
def Cutting.step (block : Nat) (c : Cutting) (x : Opened × Nat) : Cutting :=
  let (o, k) := x
  if 3 ≤ k then { c with builder := c.builder.dropFormat o.node }
  else if c.builder.formats.any fun f => f.any fun p => p.node == o.node then
    let (n, b) := c.builder.make .html o.name o.attributes
    let b := { b with
      formats := b.formats.map fun f => if f.any fun p => p.node == o.node then some n else f
      dom := b.dom.append n.node c.last }
    ⟨b, n.node, c.kept ++ [n], if c.last = block then some n.node else c.mark?⟩
  else c

/-- the formats with a new one in place of an old one, or behind a mark. -/
def replaceFormat (formats : List (Option Opened)) (old : Nat) (new : Opened) :
    Option Nat → List (Option Opened)
  | none => formats.map fun f => if f.any fun p => p.node == old then some new else f
  | some mark =>
    (formats.flatMap fun f =>
      if f.any fun p => p.node == mark then [some new, f] else [f]).filter fun f =>
        !f.any fun p => p.node == old

/-- cuts the format `f` in two at the block inside of it. -/
def cutFormat (b : Builder) (f block : Opened) (inner between outer : List Opened) : Builder :=
  let start : Cutting := ⟨b, block.node, [], none⟩
  let c := between.zipIdx.foldl (Cutting.step block.node) start
  let b := c.builder
  let b := { b with dom := b.dom.detach c.last }
  let b := match outer.head? with
    | some ancestor => b.place (b.spotIn ancestor) c.last
    | none => b
  let (n, b) := b.make .html f.name f.attributes
  let dom := (b.dom.moveChildren block.node n.node).append block.node n.node
  { b with
    dom := dom
    formats := replaceFormat b.formats f.node n c.mark?
    stack := inner ++ n :: block :: (c.kept ++ outer) }

/-- ends a format of a name, at most so many times. -/
def endFormatWithin (name : String) : Nat → Builder → Builder
  | 0, b => b
  | fuel + 1, b =>
    match b.innerFormats.find? fun o => o.name == name with
    | none => b.closeNamed name
    | some f =>
      if !b.isOpen f then b.dropFormat f.node
      else if !b.inScope isScope (fun o => o.node == f.node) then b
      else
        let above := b.stack.takeWhile fun o => o.node ≠ f.node
        let outer := b.stack.drop (above.length + 1)
        match above.reverse.find? (·.isOf specialNames) with
        | none => { b with stack := outer }.dropFormat f.node
        | some block =>
          let inner := above.takeWhile fun o => o.node ≠ block.node
          let between := above.drop (inner.length + 1)
          endFormatWithin name fuel (b.cutFormat f block inner between outer)

/-- ends a format of a name. -/
def endFormat (name : String) (b : Builder) : Builder :=
  match b.stack.head? with
  | some o =>
    if o.named name && !b.formats.any fun f => f.any fun p => p.node == o.node then b.pop
    else endFormatWithin name 8 b
  | none => b

/-- ends a link that is open when another one begins. -/
def endLink (b : Builder) : Builder :=
  match b.innerFormats.find? (·.named "a") with
  | none => b
  | some o => ((b.endFormat "a").dropFormat o.node).forget o.node

end Builder
end Html
end Bookpress
