import Bookpress.Html.Builder.Body

/-!
# Tables and choices

The tokens of tables, whose parts open and close each other, and of choices.  A text that does not
stand in a cell goes in front of the table.
-/

namespace Bookpress
namespace Html
namespace Builder

/-- takes a token in the body, in front of the table. -/
def foster (k : Token) (b : Builder) : Outcome :=
  let x := { b with isFostering := true }.inBody k
  { x with builder := { x.builder with isFostering := false } }

/-- closes elements up to one that holds the parts of a table. -/
def clearTo (row : List String) (b : Builder) : Builder :=
  b.popWhile fun o => !o.isOf (row ++ ["template", "html"])

/-- whether a part of a table is in scope. -/
def hasPart (row : List String) (b : Builder) : Bool := b.inScope isTableScope (·.isOf row)

/-- the groups of rows. -/
def bodyNames : List String := ["tbody", "tfoot", "thead"]

/-- a token in a table. -/
def inTable (k : Token) (b : Builder) : Outcome :=
  match k with
  | .char _ =>
    if b.currently (·.isOf fosterNames) then
      { b with returnPhase := b.phase, pending := [] }.again .inTableText
    else b.foster k
  | .comment | .doctype _ => b.done
  | .finish => b.inBody k
  | .start t =>
    let cleared := b.clearTo ["table"]
    match t.name with
    | "caption" => ((cleared.mark.enter t).inPhase .inCaption).done
    | "colgroup" => ((cleared.enter t).inPhase .inColumns).done
    | "col" => (cleared.enter (.bare "colgroup")).again .inColumns
    | "table" =>
      if b.hasPart ["table"] then
        let b := b.popThrough (·.named "table")
        b.again (b.phaseFrom b.stack)
      else b.done
    | "style" => (b.startHeadPart t).done
    | "script" => (b.startHeadPart t).done
    | "template" => (b.startHeadPart t).done
    | "input" => if hidesInput t then (b.putEmpty t).done else b.foster k
    | "form" =>
      if b.hasOpen "template" || b.form?.isSome then b.done
      else
        let (o, b) := b.put .html t
        { b with form? := some o }.done
    | n =>
      if bodyNames.contains n then ((cleared.enter t).inPhase .inTableBody).done
      else if ["td", "th", "tr"].contains n then
        (cleared.enter (.bare "tbody")).again .inTableBody
      else b.foster k
  | .stop n =>
    if n = "table" then
      (if b.hasPart ["table"] then (b.popThrough (·.named "table")).resume else b).done
    else if n = "template" then b.leaveTemplate.done
    else if n = "body" || n = "html" || (tablePartNames.contains n && n != "frame" && n != "head")
    then b.done
    else b.foster k

/-- puts the characters that were read in a table: all in front of it if one of them is no
blank. -/
def putPending (b : Builder) : Builder :=
  let cs := b.pending.reverse
  let b := { b with pending := [] }
  if cs.all isSpace then cs.foldl putChar b
  else cs.foldl (fun b c => (b.foster (.char c)).builder) b

def inTableText (k : Token) (b : Builder) : Outcome :=
  match k with
  | .char c => (if c.toNat = 0 then b else { b with pending := c :: b.pending }).done
  | _ => b.putPending.again b.returnPhase

/-- the opening tags that end a caption or a cell. -/
def partStarts : List String :=
  ["caption", "col", "colgroup", "tbody", "td", "tfoot", "th", "thead", "tr"]

def inCaption (k : Token) (b : Builder) : Outcome :=
  let isOpen := b.hasPart ["caption"]
  let left := (b.closeImplied.popThrough (·.named "caption")).unmark
  match k with
  | .start t =>
    if partStarts.contains t.name then (if isOpen then left.again .inTable else b.done)
    else b.inBody k
  | .stop n =>
    if n = "caption" then (if isOpen then (left.inPhase .inTable).done else b.done)
    else if n = "table" then (if isOpen then left.again .inTable else b.done)
    else if n = "body" || n = "html" || partStarts.contains n then b.done
    else b.inBody k
  | _ => b.inBody k

def inColumns (k : Token) (b : Builder) : Outcome :=
  let isOpen := b.currently (·.named "colgroup")
  let leave := if isOpen then b.pop.again .inTable else b.done
  match k with
  | .comment | .doctype _ => b.done
  | .char c => if isSpace c then (b.putChar c).done else leave
  | .start t =>
    if t.name = "html" then b.done
    else if t.name = "col" then (b.putEmpty t).done
    else if t.name = "template" then (b.startHeadPart t).done
    else leave
  | .stop n =>
    if n = "colgroup" then (if isOpen then (b.pop.inPhase .inTable).done else b.done)
    else if n = "col" then b.done
    else if n = "template" then b.leaveTemplate.done
    else leave
  | .finish => b.inBody k

def inTableBody (k : Token) (b : Builder) : Outcome :=
  let cleared := b.clearTo bodyNames
  match k with
  | .start t =>
    if t.name = "tr" then ((cleared.enter t).inPhase .inRow).done
    else if t.name = "th" || t.name = "td" then (cleared.enter (.bare "tr")).again .inRow
    else if ["caption", "col", "colgroup"].contains t.name || bodyNames.contains t.name then
      if b.hasPart bodyNames then cleared.pop.again .inTable else b.done
    else b.inTable k
  | .stop n =>
    if bodyNames.contains n then
      (if b.hasPart [n] then cleared.pop.inPhase .inTable else b).done
    else if n = "table" then
      if b.hasPart bodyNames then cleared.pop.again .inTable else b.done
    else if ["body", "caption", "col", "colgroup", "html", "td", "th", "tr"].contains n then b.done
    else b.inTable k
  | _ => b.inTable k

def inRow (k : Token) (b : Builder) : Outcome :=
  let cleared := b.clearTo ["tr"]
  let leave := if b.hasPart ["tr"] then cleared.pop.again .inTableBody else b.done
  match k with
  | .start t =>
    if t.name = "th" || t.name = "td" then ((cleared.enter t).inPhase .inCell).mark.done
    else if ["caption", "col", "colgroup", "tr"].contains t.name || bodyNames.contains t.name then
      leave
    else b.inTable k
  | .stop n =>
    if n = "tr" then (if b.hasPart ["tr"] then cleared.pop.inPhase .inTableBody else b).done
    else if n = "table" then leave
    else if bodyNames.contains n then (if b.hasPart [n] then leave else b.done)
    else if ["body", "caption", "col", "colgroup", "html", "td", "th"].contains n then b.done
    else b.inTable k
  | _ => b.inTable k

/-- closes the cell that is open. -/
def leaveCell (b : Builder) : Builder := (b.closeImplied.popThrough (·.isOf ["td", "th"])).unmark

def inCell (k : Token) (b : Builder) : Outcome :=
  match k with
  | .start t =>
    if partStarts.contains t.name then
      if b.hasPart ["td", "th"] then b.leaveCell.again .inRow else b.done
    else b.inBody k
  | .stop n =>
    if n = "td" || n = "th" then
      (if b.hasPart [n] then ((b.closeImplied.popThrough (·.named n)).unmark).inPhase .inRow
        else b).done
    else if ["body", "caption", "col", "colgroup", "html"].contains n then b.done
    else if n = "table" || n = "tr" || bodyNames.contains n then
      if b.hasPart [n] then b.leaveCell.again .inRow else b.done
    else b.inBody k
  | _ => b.inBody k

/-! ## choices -/

/-- closes an option. -/
def leaveOption (b : Builder) : Builder := if b.currently (·.named "option") then b.pop else b

/-- closes a group of options. -/
def leaveGroup (b : Builder) : Builder := if b.currently (·.named "optgroup") then b.pop else b

/-- closes the choice that is open. -/
def leaveChoice (b : Builder) : Builder := b.popThrough (·.named "select")

def inSelect (k : Token) (b : Builder) : Outcome :=
  let isOpen := b.inScope isSelectScope (·.named "select")
  match k with
  | .comment | .doctype _ => b.done
  | .char c => (if c.toNat = 0 then b else b.putChar c).done
  | .start t =>
    match t.name with
    | "option" => (b.leaveOption.enter t).done
    | "optgroup" => (b.leaveOption.leaveGroup.enter t).done
    | "select" => (if isOpen then b.leaveChoice.resume else b).done
    | "script" => (b.startHeadPart t).done
    | "template" => (b.startHeadPart t).done
    | n =>
      if ["input", "keygen", "textarea"].contains n && isOpen then
        let b := b.leaveChoice
        b.again (b.phaseFrom b.stack)
      else b.done
  | .stop n =>
    match n with
    | "optgroup" =>
      let b := if b.pop.currently (·.named "optgroup") then b.leaveOption else b
      b.leaveGroup.done
    | "option" => b.leaveOption.done
    | "select" => (if isOpen then b.leaveChoice.resume else b).done
    | "template" => b.leaveTemplate.done
    | _ => b.done
  | .finish => b.inBody k

/-- the parts of tables that end a choice in a table. -/
def choiceEnds : List String :=
  ["caption", "table", "tbody", "tfoot", "thead", "tr", "td", "th"]

def inSelectInTable (k : Token) (b : Builder) : Outcome :=
  let leave :=
    let b := b.leaveChoice
    b.again (b.phaseFrom b.stack)
  match k with
  | .start t => if choiceEnds.contains t.name then leave else b.inSelect k
  | .stop n =>
    if choiceEnds.contains n then (if b.hasPart [n] then leave else b.done) else b.inSelect k
  | _ => b.inSelect k

/-! ## templates -/

/-- goes to the phase of what a template turns out to hold. -/
def asTemplateOf (p : Phase) (b : Builder) : Outcome :=
  { b with templates := p :: b.templates.drop 1 }.again p

def inTemplate (k : Token) (b : Builder) : Outcome :=
  match k with
  | .start t =>
    if headNames.contains t.name && t.name != "noscript" then (b.startHeadPart t).done
    else
      match t.name with
      | "caption" => b.asTemplateOf .inTable
      | "colgroup" => b.asTemplateOf .inTable
      | "tbody" => b.asTemplateOf .inTable
      | "tfoot" => b.asTemplateOf .inTable
      | "thead" => b.asTemplateOf .inTable
      | "col" => b.asTemplateOf .inColumns
      | "tr" => b.asTemplateOf .inTableBody
      | "td" => b.asTemplateOf .inRow
      | "th" => b.asTemplateOf .inRow
      | _ => b.asTemplateOf .inBody
  | .stop n => if n = "template" then b.leaveTemplate.done else b.done
  | .finish => b.finishTemplate
  | _ => b.inBody k

/-! ## after the body, and frames -/

def inAfterBody (k : Token) (b : Builder) : Outcome :=
  match k with
  | .comment | .doctype _ | .finish => b.done
  | .char c => if isSpace c then b.inBody k else b.again .inBody
  | .start t => if t.name = "html" then b.done else b.again .inBody
  | .stop n => if n = "html" then (b.inPhase .afterAfterBody).done else b.again .inBody

def inAfterAfterBody (k : Token) (b : Builder) : Outcome :=
  match k with
  | .comment | .doctype _ | .finish => b.done
  | .char c => if isSpace c then b.inBody k else b.again .inBody
  | .start t => if t.name = "html" then b.done else b.again .inBody
  | .stop _ => b.again .inBody

def inFrameset (k : Token) (b : Builder) : Outcome :=
  match k with
  | .char c => (if isSpace c then b.putChar c else b).done
  | .start t =>
    match t.name with
    | "frameset" => (b.enter t).done
    | "frame" => (b.putEmpty t).done
    | "noframes" => (b.startHeadPart t).done
    | _ => b.done
  | .stop n =>
    if n = "frameset" && 1 < b.stack.length then
      let b := b.pop
      (if b.currently (·.named "frameset") then b else b.inPhase .afterFrameset).done
    else b.done
  | _ => b.done

def inAfterFrameset (k : Token) (b : Builder) : Outcome :=
  match k with
  | .char c => (if isSpace c then b.putChar c else b).done
  | .start t => (if t.name = "noframes" then b.startHeadPart t else b).done
  | .stop n => (if n = "html" then b.inPhase .afterAfterFrameset else b).done
  | _ => b.done

def inAfterAfterFrameset (k : Token) (b : Builder) : Outcome :=
  match k with
  | .char c => if isSpace c then b.inBody k else b.done
  | .start t => (if t.name = "noframes" then b.startHeadPart t else b).done
  | _ => b.done

end Builder
end Html
end Bookpress
