import Bookpress.Html.Builder.Head

/-!
# The body of a page

The tokens of the body: paragraphs and blocks, lists and headings, formats, forms, choices and
texts of their own.  An end tag closes what it finds open in its scope.
-/

namespace Bookpress
namespace Html
namespace Builder

/-! ## names -/

/-- the blocks that close a paragraph. -/
def blockNames : List String := names "
address article aside blockquote center details dialog dir div dl fieldset figcaption figure footer
header hgroup main menu nav ol p section summary ul"

/-- the end tags that close a block in scope. -/
def blockStops : List String :=
  (blockNames.filter (· ≠ "p")) ++ ["button", "listing", "pre"]

/-- the formats. -/
def formatNames : List String := names "b big code em font i s small strike strong tt u"

/-- the elements with formats of their own. -/
def objectNames : List String := ["applet", "marquee", "object"]

/-- the empty elements in lines. -/
def emptyNames : List String := names "area br embed img keygen wbr input"

/-- the parts of tables, which do not stand alone. -/
def tablePartNames : List String :=
  names "caption col colgroup frame head tbody td tfoot th thead tr"

/-! ## steps -/

/-- the body, if it is open. -/
def body? (b : Builder) : Option Opened :=
  match b.stack.reverse with
  | _ :: o :: _ => if o.named "body" then some o else none
  | _ => none

/-- opens a block after the paragraph that it closes. -/
def enterBlock (b : Builder) (t : Tag) : Builder := b.closeParagraph.enter t

/-- opens an element of a line. -/
def enterLine (b : Builder) (t : Tag) : Builder := b.restore.enter t

/-- puts an empty element into a line. -/
def putInLine (b : Builder) (t : Tag) : Builder := b.restore.putEmpty t

/-- closes elements up to one of a name, with those whose end may be left out. -/
def closeTo (name : String) (b : Builder) : Builder :=
  (b.closeImpliedBut name).popThrough (·.named name)

/-- closes a block that is in scope. -/
def closeBlock (name : String) (b : Builder) : Builder :=
  if b.inScope isScope (·.named name) then b.closeImplied.popThrough (·.named name) else b

/-- whether a tag hides its input. -/
def hidesInput (t : Tag) : Bool :=
  (attribute? t.attributes "type").any fun v => v.map Char.toLower == "hidden".toList

/-- opens an item; an item that is open in the same list is closed. -/
def enterItem (b : Builder) (t : Tag) (row : List String) : Builder :=
  let b := b.withoutFrames
  let b := match b.stack.find? fun o => o.isOf row || o.isOf boundaryNames with
    | some o => if o.isOf row then b.closeTo o.name else b
    | none => b
  b.enterBlock t

/-- opens a form, unless one is open. -/
def enterForm (b : Builder) (t : Tag) : Builder :=
  if b.form?.isSome && !b.hasOpen "template" then b
  else
    let b := b.enterBlock t
    if b.hasOpen "template" then b else { b with form? := b.stack.head? }

/-- closes a form; elements that are open in it stay open. -/
def leaveForm (b : Builder) : Builder :=
  if b.hasOpen "template" then b.closeBlock "form"
  else
    match b.form? with
    | none => b
    | some o =>
      let b := { b with form? := none }
      if b.inScope isScope (fun p => p.node == o.node) then b.closeImplied.forget o.node else b

/-- opens an element of another language. -/
def enterForeign (b : Builder) (space : Space) (t : Tag) : Builder :=
  let b := b.restore
  if t.isClosed then (b.put space t).2 else b.openIn space t

/-- whether the page is in a table. -/
def isInTable (b : Builder) : Bool :=
  [Phase.inTable, .inCaption, .inTableBody, .inRow, .inCell].contains b.phase

/-- gives the page frames in place of a body. -/
def enterFrames (b : Builder) (t : Tag) : Builder :=
  match b.framesAllowed, b.body? with
  | true, some o =>
    let b := { b with dom := b.dom.detach o.node, stack := b.stack.drop (b.stack.length - 1) }
    (b.enter t).inPhase .inFrameset
  | _, _ => b

/-! ## tokens -/

/-- an opening tag of a text with a mode of its own. -/
def startText? (b : Builder) (t : Tag) : Option Builder :=
  match t.name with
  | "textarea" => some { b.withoutFrames.enterText t (.referenced t.name) with skipsLine := true }
  | "xmp" => some (b.closeParagraph.restore.withoutFrames.enterText t (.verbatim t.name))
  | "iframe" => some (b.withoutFrames.enterText t (.verbatim t.name))
  | "noembed" => some (b.enterText t (.verbatim t.name))
  | "noscript" => some (b.enterText t (.verbatim t.name))
  | "plaintext" => some { b.enterBlock t with mode := .plain }
  | _ => none

/-- an opening tag of a list, a heading or a block with rules of its own. -/
def startBlock? (b : Builder) (t : Tag) : Option Builder :=
  if blockNames.contains t.name then some (b.enterBlock t)
  else if headingNames.contains t.name then
    let b := b.closeParagraph
    some ((if b.currently (·.isOf headingNames) then b.pop else b).enter t)
  else
    match t.name with
    | "pre" => some { (b.enterBlock t).withoutFrames with skipsLine := true }
    | "listing" => some { (b.enterBlock t).withoutFrames with skipsLine := true }
    | "form" => some (b.enterForm t)
    | "li" => some (b.enterItem t ["li"])
    | "dd" => some (b.enterItem t ["dd", "dt"])
    | "dt" => some (b.enterItem t ["dd", "dt"])
    | "hr" => some (b.closeParagraph.putEmpty t).withoutFrames
    | "table" =>
      let b := if b.isQuirky then b else b.closeParagraph
      some ((b.enter t).withoutFrames.inPhase .inTable)
    | _ => none

/-- an opening tag of a format. -/
def startFormat? (b : Builder) (t : Tag) : Option Builder :=
  if t.name = "a" then some (b.endLink.restore.enterFormat t)
  else if formatNames.contains t.name then some (b.restore.enterFormat t)
  else if t.name = "nobr" then
    let b := b.restore
    let b := if b.inScope isScope (·.named "nobr") then (b.endFormat "nobr").restore else b
    some (b.enterFormat t)
  else none

/-- an opening tag of an element in a line with rules of its own. -/
def startLine? (b : Builder) (t : Tag) : Option Builder :=
  if objectNames.contains t.name then some (b.enterLine t).mark.withoutFrames
  else if emptyNames.contains t.name then
    let b := b.putInLine t
    some (if t.name = "input" && hidesInput t then b else b.withoutFrames)
  else
    match t.name with
    | "param" => some (b.putEmpty t)
    | "source" => some (b.putEmpty t)
    | "track" => some (b.putEmpty t)
    | "button" => some ((b.closeBlock "button").enterLine t).withoutFrames
    | "select" =>
      some ((b.enterLine t).withoutFrames.inPhase
        (if b.isInTable then .inSelectInTable else .inSelect))
    | "optgroup" => some ((if b.currently (·.named "option") then b.pop else b).enterLine t)
    | "option" => some ((if b.currently (·.named "option") then b.pop else b).enterLine t)
    | "rb" => some ((if b.inScope isScope (·.named "ruby") then b.closeImplied else b).enter t)
    | "rtc" => some ((if b.inScope isScope (·.named "ruby") then b.closeImplied else b).enter t)
    | "rp" =>
      some ((if b.inScope isScope (·.named "ruby") then b.closeImpliedBut "rtc" else b).enter t)
    | "rt" =>
      some ((if b.inScope isScope (·.named "ruby") then b.closeImpliedBut "rtc" else b).enter t)
    | "math" => some (b.enterForeign .math t)
    | "svg" => some (b.enterForeign .svg t)
    | _ => none

/-- an opening tag in the body.  A page and its body begin once; later beginnings would only add
attributes, which no path asks for. -/
def startInBody (b : Builder) (t : Tag) : Builder :=
  let t := if t.name = "image" then { t with name := "img" } else t
  if t.name = "html" then b
  else if t.name != "noscript" && headNames.contains t.name then b.startHeadPart t
  else if t.name = "body" then
    if b.body?.isSome && !b.hasOpen "template" then b.withoutFrames else b
  else if t.name = "frameset" then b.enterFrames t
  else if tablePartNames.contains t.name then b
  else
    match ((b.startBlock? t).or (b.startFormat? t)).or ((b.startText? t).or (b.startLine? t)) with
    | some b => b
    | none => b.enterLine t

/-- an end tag in the body. -/
def stopInBody (b : Builder) (n : String) : Outcome :=
  if n = "template" then b.leaveTemplate.done
  else if n = "body" then
    (if b.inScope isScope (·.named "body") then b.inPhase .afterBody else b).done
  else if n = "html" then
    if b.inScope isScope (·.named "body") then b.again .afterBody else b.done
  else if blockStops.contains n then (b.closeBlock n).done
  else if n = "form" then b.leaveForm.done
  else if n = "p" then
    let b := if b.inScope isButtonScope (·.named "p") then b else b.enter (.bare "p")
    b.closeParagraph.done
  else if n = "li" then
    (if b.inScope isListScope (·.named n) then b.closeTo n else b).done
  else if n = "dd" || n = "dt" then
    (if b.inScope isScope (·.named n) then b.closeTo n else b).done
  else if headingNames.contains n then
    (if b.inScope isScope (·.isOf headingNames) then
      b.closeImplied.popThrough (·.isOf headingNames)
    else b).done
  else if n = "a" || n = "nobr" || formatNames.contains n then (b.endFormat n).done
  else if objectNames.contains n then
    (if b.inScope isScope (·.named n) then (b.closeBlock n).unmark else b).done
  else if n = "br" then ((b.putInLine (.bare "br")).withoutFrames).done
  else (b.closeNamed n).done

/-- the end of the page while a template is open. -/
def finishTemplate (b : Builder) : Outcome :=
  if b.hasOpen "template" then
    let b := (b.popThrough (·.named "template")).unmark
    let b := { b with templates := b.templates.drop 1 }
    b.again (b.phaseFrom b.stack)
  else b.done

def inBody (k : Token) (b : Builder) : Outcome :=
  match k with
  | .comment | .doctype _ => b.done
  | .char c =>
    if c.toNat = 0 then b.done
    else
      let b := b.restore.putChar c
      (if isSpace c then b else b.withoutFrames).done
  | .start t => (b.startInBody t).done
  | .stop n => b.stopInBody n
  | .finish => if b.templates.isEmpty then b.done else b.finishTemplate

/-- a token in a text of its own. -/
def inText (k : Token) (b : Builder) : Outcome :=
  match k with
  | .char c => (b.putChar c).done
  | .stop _ => (b.pop.inPhase b.returnPhase).done
  | .finish => b.pop.again b.returnPhase
  | _ => b.done

end Builder
end Html
end Bookpress
