import Bookpress.Html.Reference
import Bookpress.Html.Token
import Bookpress.Text.Search

/-!
# Reading tokens

The next tokens at the front of a text.  How a text is read depends on the element around it: a
title ends at its own end tag only, and scripts have comments of their own.

* `next` : the next tokens, the text after them, and how to go on.
-/

namespace Bookpress
namespace Html

/-- where in a script a text stands. -/
inductive ScriptPart
  | plain
  /-- in a comment, after this many dashes. -/
  | hidden (dashes : Nat)
  /-- in a script inside of a comment, after this many dashes. -/
  | nested (dashes : Nat)
deriving Repr, DecidableEq

/-- how a text is read. -/
inductive Mode
  | markup
  /-- characters and references, up to the end tag of a name. -/
  | referenced (name : String)
  /-- characters, up to the end tag of a name. -/
  | verbatim (name : String)
  | script (p : ScriptPart)
  /-- characters, up to the end. -/
  | plain
deriving Repr, DecidableEq

/-- the blanks of markup. -/
def isSpace (c : Char) : Bool := c == ' ' || c == '\n' || c == '\t' || c.toNat == 12

/-- a character of a text that is not markup. -/
def shownChar (c : Char) : Char := if c.toNat = 0 then unknownChar else c

/-- a name in a tag, in lower case. -/
def tagName (t : Text) : Text := t.map fun c => shownChar c.toLower

/-- whether a character ends the name of a tag. -/
def endsName (c : Char) : Bool := isSpace c || c == '/' || c == '>'

/-- the tokens of characters. -/
def chars (t : Text) : List Token := t.map .char

/-! ## tags -/

/-- the value of an attribute after its `=`, and what follows it. -/
def readValue (t : Text) : Option (Text × Text) :=
  let quotedBy (q : Char) (r : Text) : Option (Text × Text) :=
    match r.dropWhile (· ≠ q) with
    | [] => none
    | _ :: rest => some (attributeValue (r.takeWhile (· ≠ q)), rest)
  match t.dropWhile isSpace with
  | [] => none
  | c :: r =>
    if c = '"' ∨ c = apostrophe then quotedBy c r
    else
      let raw := (c :: r).takeWhile fun d => !isSpace d && d != '>'
      some (attributeValue raw, (c :: r).drop raw.length)

/-- the attributes up to the end of a tag, whether the tag closes itself, and what follows it; none
if the text ends in the tag.  There are no more steps than characters in the first text. -/
def readAttributes : Text → Text → List Attribute → Option (List Attribute × Bool × Text)
  | [], _, _ => none
  | _ :: fuel, t, found =>
    match t.dropWhile isSpace with
    | [] => none
    | '>' :: r => some (found.reverse, false, r)
    | '/' :: '>' :: r => some (found.reverse, true, r)
    | '/' :: r => readAttributes fuel r found
    | c :: r =>
      let more := r.takeWhile fun d => !endsName d && d != '='
      let name := tagName (c :: more)
      let rest := r.drop more.length
      let add (value : Text) : List Attribute :=
        if found.any fun a => a.name == name then found else ⟨name, value⟩ :: found
      match rest.dropWhile isSpace with
      | '=' :: v =>
        match readValue v with
        | none => none
        | some (value, rest) => readAttributes fuel rest (add value)
      | _ => readAttributes fuel rest (add [])

/-- the tag whose name starts at the front of a text. -/
def readTag (t : Text) : Option (Tag × Text) :=
  let name := t.takeWhile fun c => !endsName c
  let rest := t.drop name.length
  (readAttributes (' ' :: rest) rest []).map fun (attributes, isClosed, rest) =>
    (⟨String.ofList (tagName name), attributes, isClosed⟩, rest)

/-- the end tag whose name starts at the front of a text. -/
def readStop (t : Text) : List Token × Text :=
  match readTag t with
  | some (tag, rest) => ([.stop tag.name], rest)
  | none => ([], [])

/-- what follows the end tag of a name, if one stands after `</`. -/
def stopOf? (name : String) (t : Text) : Option (List Token × Text) :=
  let n := name.length
  if (t.take n).map Char.toLower == name.toList && (t.drop n).head?.any endsName then
    some (readStop t)
  else none

/-! ## declarations and comments -/

/-- what follows the first `p` in a text; nothing if there is none. -/
def past (p : Text) (t : Text) : Text :=
  match Text.around? p t with
  | some (_, rest) => rest
  | none => []

/-- what follows the end of a comment that has been opened. -/
def pastComment : Text → Text
  | [] => []
  | '-' :: '-' :: '>' :: r => r
  | '-' :: '-' :: '!' :: '>' :: r => r
  | _ :: r => pastComment r

/-- what follows a comment that has been opened; it may be closed at once. -/
def pastOpened : Text → Text
  | '>' :: r => r
  | '-' :: '>' :: r => r
  | t => pastComment t

/-- the beginnings of public names that ask for the manners of old pages. -/
def quirkyNames : List Text := (["+//silmaril//dtd html pro v0r11 19970101//",
  "-//as//dtd html 3.0 aswedit + extensions//",
  "-//advasoft ltd//dtd html 3.0 aswedit + extensions//", "-//ietf//dtd html 2.0 level 1//",
  "-//ietf//dtd html 2.0 level 2//", "-//ietf//dtd html 2.0 strict level 1//",
  "-//ietf//dtd html 2.0 strict level 2//", "-//ietf//dtd html 2.0 strict//",
  "-//ietf//dtd html 2.0//", "-//ietf//dtd html 2.1e//", "-//ietf//dtd html 3.0//",
  "-//ietf//dtd html 3.2 final//", "-//ietf//dtd html 3.2//", "-//ietf//dtd html 3//",
  "-//ietf//dtd html level 0//", "-//ietf//dtd html level 1//", "-//ietf//dtd html level 2//",
  "-//ietf//dtd html level 3//", "-//ietf//dtd html strict level 0//",
  "-//ietf//dtd html strict level 1//", "-//ietf//dtd html strict level 2//",
  "-//ietf//dtd html strict level 3//", "-//ietf//dtd html strict//", "-//ietf//dtd html//",
  "-//metrius//dtd metrius presentational//",
  "-//microsoft//dtd internet explorer 2.0 html strict//",
  "-//microsoft//dtd internet explorer 2.0 html//",
  "-//microsoft//dtd internet explorer 2.0 tables//",
  "-//microsoft//dtd internet explorer 3.0 html strict//",
  "-//microsoft//dtd internet explorer 3.0 html//",
  "-//microsoft//dtd internet explorer 3.0 tables//", "-//netscape comm. corp.//dtd html//",
  "-//netscape comm. corp.//dtd strict html//", "-//o'reilly and associates//dtd html 2.0//",
  "-//o'reilly and associates//dtd html extended 1.0//",
  "-//o'reilly and associates//dtd html extended relaxed 1.0//",
  "-//sq//dtd html 2.0 hotmetal + extensions//",
  "-//softquad software//dtd hotmetal pro 6.0::19990601::extensions to html 4.0//",
  "-//softquad//dtd hotmetal pro 4.0::19971010::extensions to html 4.0//",
  "-//spyglass//dtd html 2.0 extended//", "-//sun microsystems corp.//dtd hotjava html//",
  "-//sun microsystems corp.//dtd hotjava strict html//", "-//w3c//dtd html 3 1995-03-24//",
  "-//w3c//dtd html 3.2 draft//", "-//w3c//dtd html 3.2 final//", "-//w3c//dtd html 3.2//",
  "-//w3c//dtd html 3.2s draft//", "-//w3c//dtd html 4.0 frameset//",
  "-//w3c//dtd html 4.0 transitional//", "-//w3c//dtd html experimental 19960712//",
  "-//w3c//dtd html experimental 970421//", "-//w3c//dtd w3 html//", "-//w3o//dtd w3 html 3.0//",
  "-//webtechs//dtd mozilla html 2.0//", "-//webtechs//dtd mozilla html//"] : List String).map
    String.toList

/-- the public names that ask for the manners of old pages. -/
def quirkyWholeNames : List Text :=
  ["-//w3o//dtd w3 html strict 3.0//en//".toList, "-/w3c/dtd html 4.0 transitional/en".toList,
    "html".toList]

/-- the beginnings of public names that do so if there is no system name. -/
def quirkyAloneNames : List Text :=
  ["-//w3c//dtd html 4.01 frameset//".toList, "-//w3c//dtd html 4.01 transitional//".toList]

/-- the system name that asks for the manners of old pages. -/
def quirkySystem : Text := "http://www.ibm.com/data/dtd/v11/ibmxhtml1-transitional.dtd".toList

/-- whether a document type asks for the manners of old pages. -/
def isQuirky (name : Text) (public? system? : Option Text) : Bool :=
  let lower? := public?.map fun t => t.map Char.toLower
  name != "html".toList
    || lower?.any (fun t => quirkyWholeNames.contains t || quirkyNames.any (·.isPrefixOf t)
      || (system?.isNone && quirkyAloneNames.any (·.isPrefixOf t)))
    || system?.any fun t => t.map Char.toLower == quirkySystem

/-- a quoted name at the front of a text, whether it is closed, and what follows it. -/
def readDoctypeName (t : Text) : Option (Text × Bool × Text) :=
  match t.dropWhile isSpace with
  | q :: r =>
    if q = '"' ∨ q = apostrophe then
      let name := r.takeWhile fun c => c ≠ q ∧ c ≠ '>'
      let rest := r.drop name.length
      some (name, rest.head? = some q, rest.drop 1)
    else none
  | [] => none

/-- the rest of a document type after its system name. -/
def finishDoctype (name : Text) (public? : Option Text) (x : Text × Bool × Text) :
    List Token × Text :=
  let (system, isWhole, rest) := x
  if isWhole then
    ([.doctype (isQuirky name public? (some system) || !rest.contains '>')], past ['>'] rest)
  else ([.doctype true], rest)

/-- the document type whose name starts after blanks. -/
def readDoctype (t : Text) : List Token × Text :=
  let t := t.dropWhile isSpace
  let name := t.takeWhile fun c => !isSpace c && c != '>'
  let lower := name.map Char.toLower
  let rest := (t.drop name.length).dropWhile isSpace
  let keyword := (rest.take 6).map Char.toLower
  match rest with
  | [] => ([.doctype true], [])
  | '>' :: r => ([.doctype (isQuirky lower none none)], r)
  | _ =>
    if keyword = "public".toList then
      match readDoctypeName (rest.drop 6) with
      | some (p, true, r) =>
        match r.dropWhile isSpace with
        | '>' :: r => ([.doctype (isQuirky lower (some p) none)], r)
        | r =>
          match readDoctypeName r with
          | some x => finishDoctype lower (some p) x
          | none => ([.doctype true], past ['>'] r)
      | some (_, false, r) => ([.doctype true], r)
      | none => ([.doctype true], past ['>'] rest)
    else if keyword = "system".toList then
      match readDoctypeName (rest.drop 6) with
      | some x => finishDoctype lower none x
      | none => ([.doctype true], past ['>'] rest)
    else ([.doctype true], past ['>'] rest)

/-- the declaration, comment or section after `<!`. -/
def readDeclaration (isForeign : Bool) (t : Text) : List Token × Text :=
  if "--".toList.isPrefixOf t then ([.comment], pastOpened (t.drop 2))
  else if (t.take 7).map Char.toLower = "doctype".toList then readDoctype (t.drop 7)
  else if isForeign && "[CDATA[".toList.isPrefixOf t then
    let t := t.drop 7
    match Text.around? "]]>".toList t with
    | some (a, rest) => (chars a, rest)
    | none => (chars t, [])
  else ([.comment], past ['>'] t)

/-! ## markup -/

/-- the tokens of what stands after `<`. -/
def readAngle (isForeign : Bool) (t : Text) : List Token × Text :=
  match t with
  | [] => (chars ['<'], [])
  | '!' :: r => readDeclaration isForeign r
  | '?' :: r => ([.comment], past ['>'] r)
  | ['/'] => (chars ['<', '/'], [])
  | '/' :: '>' :: r => ([], r)
  | '/' :: c :: r => if c.isAlpha then readStop (c :: r) else ([.comment], past ['>'] (c :: r))
  | c :: r =>
    if c.isAlpha then
      match readTag (c :: r) with
      | some (tag, rest) => ([.start tag], rest)
      | none => ([], [])
    else (chars ['<'], c :: r)

/-- whether a word that ends there stands at the front of a text, in any case. -/
def hasWord (word : String) (t : Text) : Bool :=
  (t.take word.length).map Char.toLower == word.toList
    && (t.drop word.length).head?.any endsName

/-- the next tokens in a script. -/
def nextInScript (p : ScriptPart) (c : Char) (r : Text) : List Token × Text × Mode :=
  let stop? := if c = '<' ∧ r.head? = some '/' then stopOf? "script" (r.drop 1) else none
  match p with
  | .plain =>
    match stop? with
    | some (ts, rest) => (ts, rest, .markup)
    | none =>
      if c = '<' then
        if "!--".toList.isPrefixOf r then (chars "<!--".toList, r.drop 3, .script (.hidden 2))
        else (chars ['<'], r, .script .plain)
      else
        let run := r.takeWhile (· ≠ '<')
        (chars ((c :: run).map shownChar), r.drop run.length, .script .plain)
  | .hidden dashes =>
    match stop? with
    | some (ts, rest) => (ts, rest, .markup)
    | none =>
      let p := if c = '-' then .hidden (dashes + 1)
        else if c = '>' ∧ 2 ≤ dashes then .plain
        else if c = '<' ∧ hasWord "script" r then .nested 0
        else .hidden 0
      (chars [shownChar c], r, .script p)
  | .nested dashes =>
    let p := if c = '-' then .nested (dashes + 1)
      else if c = '>' ∧ 2 ≤ dashes then .plain
      else if c = '<' ∧ hasWord "/script" r then .hidden 0
      else .nested 0
    (chars [shownChar c], r, .script p)

/-- the tokens of a reference whose sign has been read. -/
def nextReference (r : Text) : List Token × Text :=
  match readReference false r with
  | some (cs, rest) => (chars cs, rest)
  | none => (chars ['&'], r)

/-- the next tokens of a text, the text after them, and how it is read; in elements that are not
of HTML, sections of characters are known. -/
def next (isForeign : Bool) (mode : Mode) (t : Text) : List Token × Text × Mode :=
  match t with
  | [] => ([], [], mode)
  | c :: r =>
    match mode with
    | .plain => (chars (t.map shownChar), [], mode)
    | .script p => nextInScript p c r
    | .markup =>
      if c = '<' then
        let (ts, rest) := readAngle isForeign r
        (ts, rest, mode)
      else if c = '&' then
        let (ts, rest) := nextReference r
        (ts, rest, mode)
      else
        let run := r.takeWhile fun d => d ≠ '<' ∧ d ≠ '&'
        (chars (c :: run), r.drop run.length, mode)
    | .referenced name | .verbatim name =>
      let stop? := if c = '<' ∧ r.head? = some '/' then stopOf? name (r.drop 1) else none
      match stop? with
      | some (ts, rest) => (ts, rest, .markup)
      | none =>
        if c = '&' ∧ mode = .referenced name then
          let (ts, rest) := nextReference r
          (ts, rest, mode)
        else
          let run := r.takeWhile fun d => d ≠ '<' ∧ d ≠ '&'
          (chars ((c :: run).map shownChar), r.drop run.length, mode)

/-- a page with every line end as a line feed, and without a mark at its front. -/
def evenLines : Text → Text
  | [] => []
  | '\r' :: '\n' :: r => '\n' :: evenLines r
  | '\r' :: r => '\n' :: evenLines r
  | c :: r => c :: evenLines r

/-- a page without a byte order mark. -/
def withoutMark : Text → Text
  | c :: r => if c.toNat = 0xFEFF then r else c :: r
  | [] => []

end Html
end Bookpress
