import Bookpress.Html.Builder.Formats

/-!
# The head of a page

What a page begins with: its outermost element, the head with its title, and templates, which may
stand in most places.
-/

namespace Bookpress
namespace Html

/-- the state after a token, and whether the token is taken once more. -/
structure Outcome where
  builder : Builder
  isAgain : Bool

namespace Builder

/-- the token has been dealt with. -/
def done (b : Builder) : Outcome := ⟨b, false⟩

/-- the token is taken again in another phase. -/
def again (p : Phase) (b : Builder) : Outcome := ⟨b.inPhase p, true⟩

/-! ## phases by open elements -/

/-- the phase of a choice, by the elements around it. -/
def choicePhase (outer : List Opened) : Phase :=
  match outer.find? (·.isOf ["template", "table"]) with
  | some o => if o.name = "table" then .inSelectInTable else .inSelect
  | none => .inSelect

/-- the phase of an element of HTML, by what is open around it. -/
def phaseOf? (b : Builder) (o : Opened) (outer : List Opened) : Option Phase :=
  let isLast := outer.isEmpty
  match o.name with
  | "select" => some (choicePhase outer)
  | "td" => if isLast then none else some .inCell
  | "th" => if isLast then none else some .inCell
  | "tr" => some .inRow
  | "tbody" => some .inTableBody
  | "thead" => some .inTableBody
  | "tfoot" => some .inTableBody
  | "caption" => some .inCaption
  | "colgroup" => some .inColumns
  | "table" => some .inTable
  | "template" => b.templates.head?
  | "head" => if isLast then none else some .inHead
  | "body" => some .inBody
  | "frameset" => some .inFrameset
  | "html" => some (if b.head?.isSome then .afterHead else .beforeHead)
  | _ => none

/-- the phase that open elements ask for. -/
def phaseFrom (b : Builder) : List Opened → Phase
  | [] => .inBody
  | o :: outer =>
    match if o.space = .html then b.phaseOf? o outer else none with
    | some p => p
    | none => phaseFrom b outer

/-- goes to the phase that the open elements ask for. -/
def resume (b : Builder) : Builder := b.inPhase (b.phaseFrom b.stack)

/-! ## templates -/

/-- opens a template. -/
def enterTemplate (b : Builder) (t : Tag) : Builder :=
  let b := b.mark.withoutFrames
  ({ b with phase := .inTemplate, templates := .inTemplate :: b.templates }).enter t

/-- closes a template that is open. -/
def leaveTemplate (b : Builder) : Builder :=
  if b.hasOpen "template" then
    let b := ((b.popWhile (·.isOf thoroughNames)).popThrough (·.named "template")).unmark
    { b with templates := b.templates.drop 1 }.resume
  else b

/-! ## the head -/

/-- the empty elements of the head. -/
def metaNames : List String := ["base", "basefont", "bgsound", "link", "meta"]

/-- the elements of the head that hold text. -/
def headTextNames : List String := ["noframes", "style", "noscript"]

/-- the opening tags that belong to the head. -/
def headNames : List String := metaNames ++ headTextNames ++ ["script", "template", "title"]

/-- an opening tag that belongs to the head. -/
def startHeadPart (b : Builder) (t : Tag) : Builder :=
  if metaNames.contains t.name then b.putEmpty t
  else if t.name = "title" then b.enterText t (.referenced t.name)
  else if t.name = "script" then b.enterText t (.script .plain)
  else if t.name = "template" then b.enterTemplate t
  else b.enterText t (.verbatim t.name)

/-- the end tags that may stand for what is missing. -/
def outerStops : List String := ["body", "html", "br"]

/-- opens the outermost element. -/
def enterHtml (b : Builder) (t : Tag) : Builder := (b.enter t).inPhase .beforeHead

/-- opens the head. -/
def enterHead (b : Builder) (t : Tag) : Builder :=
  let b := b.enter t
  { b with head? := b.stack.head?, phase := .inHead }

def inInitial (k : Token) (b : Builder) : Outcome :=
  match k with
  | .comment => b.done
  | .doctype isQuirky => { b with isQuirky := isQuirky, phase := .beforeHtml }.done
  | .char c => if isSpace c then b.done else { b with isQuirky := true }.again .beforeHtml
  | _ => { b with isQuirky := true }.again .beforeHtml

def inBeforeHtml (k : Token) (b : Builder) : Outcome :=
  let create := (b.enterHtml (.bare "html")).again .beforeHead
  match k with
  | .comment | .doctype _ => b.done
  | .char c => if isSpace c then b.done else create
  | .start t => if t.name = "html" then (b.enterHtml t).done else create
  | .stop n => if outerStops.contains n || n = "head" then create else b.done
  | .finish => create

def inBeforeHead (k : Token) (b : Builder) : Outcome :=
  let create := (b.enterHead (.bare "head")).again .inHead
  match k with
  | .comment | .doctype _ => b.done
  | .char c => if isSpace c then b.done else create
  | .start t =>
    if t.name = "html" then b.done
    else if t.name = "head" then (b.enterHead t).done
    else create
  | .stop n => if outerStops.contains n || n = "head" then create else b.done
  | .finish => create

def inHead (k : Token) (b : Builder) : Outcome :=
  let leave := b.pop.again .afterHead
  match k with
  | .comment | .doctype _ => b.done
  | .char c => if isSpace c then (b.putChar c).done else leave
  | .start t =>
    if headNames.contains t.name then (b.startHeadPart t).done
    else if t.name = "html" || t.name = "head" then b.done
    else leave
  | .stop n =>
    if n = "head" then (b.pop.inPhase .afterHead).done
    else if n = "template" then b.leaveTemplate.done
    else if outerStops.contains n then leave
    else b.done
  | .finish => leave

/-- puts a part of the head that comes too late into the head. -/
def startLateHeadPart (b : Builder) (t : Tag) : Builder :=
  match b.head? with
  | some h => ({ b with stack := h :: b.stack }.startHeadPart t).forget h.node
  | none => b

def inAfterHead (k : Token) (b : Builder) : Outcome :=
  let create := (b.enter (.bare "body")).again .inBody
  match k with
  | .comment | .doctype _ => b.done
  | .char c => if isSpace c then (b.putChar c).done else create
  | .start t =>
    if t.name = "html" || t.name = "head" then b.done
    else if t.name = "body" then ((b.enter t).withoutFrames.inPhase .inBody).done
    else if t.name = "frameset" then ((b.enter t).inPhase .inFrameset).done
    else if headNames.contains t.name && t.name != "noscript" then (b.startLateHeadPart t).done
    else create
  | .stop n =>
    if n = "template" then b.leaveTemplate.done
    else if outerStops.contains n then create
    else b.done
  | .finish => create

end Builder
end Html
end Bookpress
