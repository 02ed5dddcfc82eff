import Bookpress.Html.Dom
import Bookpress.Html.Lexer
import Bookpress.Text.Ranges

/-!
# The state of reading a page

Elements are open until their end has been read; the innermost one takes what comes next.  Some
texts in tables go elsewhere, and some elements around a text are opened again after an end.
-/

namespace Bookpress
namespace Html

/-- the names in a row. -/
def names (row : String) : List String := (Text.words row).map String.ofList

/-- an element that is open. -/
structure Opened where
  node : Nat
  space : Space
  name : String
  attributes : List Attribute
deriving DecidableEq

namespace Opened

/-- whether an element has one of some names of HTML. -/
def isOf (o : Opened) (row : List String) : Bool := o.space == .html && row.contains o.name

/-- whether an element has a name of HTML. -/
def named (name : String) (o : Opened) : Bool := o.space == .html && o.name == name

/-- whether an element holds text in the middle of formulas. -/
def isMathText (o : Opened) : Bool :=
  o.space == .math && ["mi", "mo", "mn", "ms", "mtext"].contains o.name

/-- whether an element holds HTML in the middle of drawings. -/
def isSvgHost (o : Opened) : Bool :=
  o.space == .svg && ["foreignobject", "desc", "title"].contains o.name

/-- whether an annotation of a formula holds HTML. -/
def isAnnotationHost (o : Opened) : Bool :=
  o.space == .math && o.name == "annotation-xml" &&
    (attribute? o.attributes "encoding").any fun t =>
      ["text/html".toList, "application/xhtml+xml".toList].contains (t.map Char.toLower)

end Opened

/-! ## kinds of elements -/

/-- the elements that end a search for others. -/
def specialNames : List String := names "
address applet area article aside base basefont bgsound blockquote body br button caption center
col colgroup dd details dir div dl dt embed fieldset figcaption figure footer form frame frameset
h1 h2 h3 h4 h5 h6 head header hgroup hr html iframe img input isindex li link listing main marquee
menu meta nav noembed noframes noscript object ol p param plaintext pre script section select
source style summary table tbody td template textarea tfoot th thead title tr track ul wbr xmp"

/-- the special elements that items of lists are looked for behind. -/
def boundaryNames : List String :=
  specialNames.filter fun n => !(["address", "div", "p"].contains n)

/-- the elements whose end may be left out. -/
def impliedNames : List String := names "dd dt li option optgroup p rb rp rt rtc"

/-- these, and the parts of tables. -/
def thoroughNames : List String :=
  impliedNames ++ names "caption colgroup tbody td tfoot th thead tr"

def headingNames : List String := names "h1 h2 h3 h4 h5 h6"

/-- the elements whose end waits for its beginning only so far. -/
def scopeNames : List String := names "applet caption html table td th marquee object template"

def isScope (o : Opened) : Bool := o.isOf scopeNames || o.isMathText || o.isSvgHost
def isListScope (o : Opened) : Bool := isScope o || o.isOf ["ol", "ul"]
def isButtonScope (o : Opened) : Bool := isScope o || o.named "button"
def isTableScope (o : Opened) : Bool := o.isOf ["html", "table", "template"]
def isSelectScope (o : Opened) : Bool := !o.isOf ["optgroup", "option"]

/-- the elements in which texts do not stand. -/
def fosterNames : List String := names "table tbody tfoot thead tr"

/-! ## the state -/

/-- the parts of a page, which take tokens in their own ways. -/
inductive Phase
  | initial | beforeHtml | beforeHead | inHead | afterHead | inBody | inText | inTable
  | inTableText | inCaption | inColumns | inTableBody | inRow | inCell | inSelect
  | inSelectInTable | inTemplate | afterBody | inFrameset | afterFrameset | afterAfterBody
  | afterAfterFrameset
deriving Repr, DecidableEq

/-- the state of reading a page. -/
structure Builder where
  dom : Dom
  phase : Phase
  /-- the phase to go back to after a text. -/
  returnPhase : Phase
  /-- the phases of open templates, innermost first. -/
  templates : List Phase
  /-- the open elements, innermost first. -/
  stack : List Opened
  /-- the elements that are opened again, latest first; an empty place ends a search. -/
  formats : List (Option Opened)
  head? : Option Opened
  form? : Option Opened
  /-- whether the page may still turn out to be made of frames. -/
  framesAllowed : Bool
  /-- whether the page has the manners of old pages. -/
  isQuirky : Bool
  /-- whether texts in tables go elsewhere. -/
  isFostering : Bool
  /-- the characters read in a table, latest first. -/
  pending : Text
  /-- whether a line feed that comes next is passed over. -/
  skipsLine : Bool
  mode : Mode

namespace Builder

/-- the state before the first token. -/
def start : Builder where
  dom := .empty
  phase := .initial
  returnPhase := .inBody
  templates := []
  stack := []
  formats := []
  head? := none
  form? := none
  framesAllowed := true
  isQuirky := false
  isFostering := false
  pending := []
  skipsLine := false
  mode := .markup

/-- whether the innermost open element satisfies `p`. -/
def currently (p : Opened → Bool) (b : Builder) : Bool := b.stack.head?.any p

/-- whether an open element of HTML has a name. -/
def hasOpen (name : String) (b : Builder) : Bool := b.stack.any (·.named name)

/-- whether an element with `p` is open inside of the innermost scope. -/
def inScope (scope p : Opened → Bool) (b : Builder) : Bool :=
  match b.stack.find? fun o => p o || scope o with
  | some o => p o
  | none => false

def inPhase (p : Phase) (b : Builder) : Builder := { b with phase := p }

def withoutFrames (b : Builder) : Builder := { b with framesAllowed := false }

/-- closes the innermost element. -/
def pop (b : Builder) : Builder := { b with stack := b.stack.drop 1 }

/-- closes elements while they satisfy `p`. -/
def popWhile (p : Opened → Bool) (b : Builder) : Builder := { b with stack := b.stack.dropWhile p }

/-- closes elements up to the first one with `p`. -/
def popThrough (p : Opened → Bool) (b : Builder) : Builder :=
  { b with stack := (b.stack.dropWhile fun o => !p o).drop 1 }

/-- closes the elements whose end may be left out, up to one of a name. -/
def closeImpliedBut (name : String) (b : Builder) : Builder :=
  b.popWhile fun o => o.isOf impliedNames && o.name != name

/-- closes the elements whose end may be left out. -/
def closeImplied (b : Builder) : Builder := b.popWhile (·.isOf impliedNames)

/-- closes a paragraph that is open. -/
def closeParagraph (b : Builder) : Builder :=
  if b.inScope isButtonScope (·.named "p") then
    (b.closeImpliedBut "p").popThrough (·.named "p")
  else b

/-- forgets an open element. -/
def forget (b : Builder) (node : Nat) : Builder :=
  { b with stack := b.stack.filter fun o => o.node ≠ node }

/-! ## places -/

/-- where something is put. -/
inductive Spot
  | inside (node : Nat)
  /-- in front of a table; in an element if the table stands nowhere. -/
  | before (table node : Nat)

/-- the page with a node at a place. -/
def Spot.place (s : Spot) (node : Nat) (d : Dom) : Dom :=
  match s with
  | .inside p => d.append p node
  | .before table p =>
    match d.parent? table with
    | some q => d.insertBefore q table node
    | none => d.append p node

/-- the page with a character at a place. -/
def Spot.putChar (s : Spot) (c : Char) (d : Dom) : Dom :=
  match s with
  | .inside p => d.appendChar p c
  | .before table p =>
    match d.parent? table with
    | some q => d.insertCharBefore q table c
    | none => d.appendChar p c

/-- the place around the innermost table. -/
def fosterSpot : List Opened → Spot
  | [] => .inside 0
  | [o] => .inside o.node
  | o :: p :: rest =>
    if o.named "template" then .inside o.node
    else if o.named "table" then .before o.node p.node
    else fosterSpot (p :: rest)

/-- the place for what goes into an element. -/
def spotIn (b : Builder) (o : Opened) : Spot :=
  if b.isFostering && o.isOf fosterNames then fosterSpot b.stack else .inside o.node

/-- the place for what comes next. -/
def spot (b : Builder) : Spot :=
  match b.stack with
  | [] => .inside 0
  | o :: _ => b.spotIn o

/-- puts a node somewhere. -/
def place (b : Builder) (s : Spot) (node : Nat) : Builder := { b with dom := s.place node b.dom }

/-- puts a character where it belongs. -/
def putChar (b : Builder) (c : Char) : Builder :=
  let s := b.spot
  { b with dom := s.putChar c b.dom }

/-- makes an element that stands nowhere yet. -/
def make (b : Builder) (space : Space) (name : String) (attributes : List Attribute) :
    Opened × Builder :=
  let (node, dom) := b.dom.create (.element space name attributes)
  (⟨node, space, name, attributes⟩, { b with dom := dom })

/-- makes an element where it belongs. -/
def put (b : Builder) (space : Space) (t : Tag) : Opened × Builder :=
  let (o, b') := b.make space t.name t.attributes
  (o, b'.place b.spot o.node)

/-- opens an element. -/
def openIn (b : Builder) (space : Space) (t : Tag) : Builder :=
  let (o, b) := b.put space t
  { b with stack := o :: b.stack }

/-- opens an element of HTML. -/
def enter (b : Builder) (t : Tag) : Builder := b.openIn .html t

/-- puts an element of HTML that stays empty. -/
def putEmpty (b : Builder) (t : Tag) : Builder := (b.put .html t).2

/-- opens an element that holds text in a mode of its own. -/
def enterText (b : Builder) (t : Tag) (m : Mode) : Builder :=
  { b.enter t with mode := m, returnPhase := b.phase, phase := .inText }

end Builder
end Html
end Bookpress
