import Bookpress.Html.Builder.Table

/-!
# Reading pages

The tokens of a page, one after the other, are taken in the phase that the page is in, or by the
rules of another language.

* `parse` : the trees of a page.
-/

namespace Bookpress
namespace Html
namespace Builder

/-! ## other languages -/

/-- the opening tags that end an element of another language. -/
def breakoutNames : List String := names "
b big blockquote body br center code dd div dl dt em embed h1 h2 h3 h4 h5 h6 head hr i img li
listing menu meta nobr ol p pre ruby s small span strong strike sub sup table tt u ul var"

/-- whether an opening tag ends an element of another language. -/
def breaksOut (t : Tag) : Bool :=
  breakoutNames.contains t.name || (t.name = "font"
    && ["color", "face", "size"].any fun n => (attribute? t.attributes n).isSome)

/-- whether a token is taken by the rules of another language. -/
def isForeign (b : Builder) (k : Token) : Bool :=
  match b.stack.head?, k with
  | _, .finish => false
  | none, _ => false
  | some o, k =>
    if o.space = .html then false
    else match k with
      | .char _ => !(o.isMathText || o.isSvgHost || o.isAnnotationHost)
      | .start t =>
        !((o.isMathText && t.name != "mglyph" && t.name != "malignmark") || o.isSvgHost
          || (o.space = .math && o.name = "annotation-xml" && t.name = "svg")
          || o.isAnnotationHost)
      | _ => true

/-- where HTML goes on inside of elements of other languages. -/
def hostsHtml (o : Opened) : Bool := o.space = .html || o.isMathText || o.isSvgHost

/-- the elements that an end tag in another language closes: those up to the one of its name, or
none if an element of HTML comes first. -/
def foreignStop (n : String) : List Opened → Option (List Opened)
  | [] => none
  | [_] => none
  | o :: rest =>
    if o.name = n then some rest
    else match rest with
      | p :: _ => if p.space = .html then none else foreignStop n rest
      | [] => none

/-- whether an end tag in another language comes to an element of HTML. -/
def reachesHtml (n : String) (stack : List Opened) : Bool :=
  (foreignStop n stack).isNone && 1 < (stack.dropWhile fun o => o.space ≠ .html).length

/-- the rules of HTML for the phase of a page. -/
def inPhaseOf (k : Token) (b : Builder) : Outcome :=
  match b.phase with
  | .initial => b.inInitial k
  | .beforeHtml => b.inBeforeHtml k
  | .beforeHead => b.inBeforeHead k
  | .inHead => b.inHead k
  | .afterHead => b.inAfterHead k
  | .inBody => b.inBody k
  | .inText => b.inText k
  | .inTable => b.inTable k
  | .inTableText => b.inTableText k
  | .inCaption => b.inCaption k
  | .inColumns => b.inColumns k
  | .inTableBody => b.inTableBody k
  | .inRow => b.inRow k
  | .inCell => b.inCell k
  | .inSelect => b.inSelect k
  | .inSelectInTable => b.inSelectInTable k
  | .inTemplate => b.inTemplate k
  | .afterBody => b.inAfterBody k
  | .inFrameset => b.inFrameset k
  | .afterFrameset => b.inAfterFrameset k
  | .afterAfterBody => b.inAfterAfterBody k
  | .afterAfterFrameset => b.inAfterAfterFrameset k

/-- a token in an element of another language. -/
def inForeign (k : Token) (b : Builder) : Outcome :=
  match k with
  | .char c =>
    if c.toNat = 0 then (b.putChar unknownChar).done
    else (if isSpace c then b.putChar c else (b.putChar c).withoutFrames).done
  | .start t =>
    if breaksOut t then ⟨b.pop.popWhile fun o => !hostsHtml o, true⟩
    else
      let space := match b.stack.head? with
        | some o => o.space
        | none => .html
      if t.isClosed then (b.put space t).2.done else (b.openIn space t).done
  | .stop n =>
    match foreignStop n b.stack with
    | some rest => { b with stack := rest }.done
    | none => if reachesHtml n b.stack then b.inPhaseOf k else b.done
  | _ => b.done

/-! ## tokens in a row -/

/-- takes a token, at most so many times. -/
def feedWithin (k : Token) : Nat → Builder → Builder
  | 0, b => b
  | fuel + 1, b =>
    let x := if b.isForeign k then b.inForeign k else b.inPhaseOf k
    if x.isAgain then feedWithin k fuel x.builder else x.builder

/-- whether a token does nothing where it stands: a document type that comes too late, or the line
feed at the front of a text. -/
def isPassed (b : Builder) : Token → Bool
  | .doctype _ => b.phase ≠ .initial
  | .char c => b.skipsLine && c == '\n'
  | _ => false

/-- takes a token: it goes through no more phases than there are, and as often again as elements
are open. -/
def feed (b : Builder) (k : Token) : Builder :=
  if b.isPassed k then { b with skipsLine := false }
  else feedWithin k (2 * b.stack.length + 32) { b with skipsLine := false }

/-- whether sections of characters are known where the page is. -/
def knowsSections (b : Builder) : Bool := b.currently fun o => o.space ≠ .html

/-- takes the tokens of a text, at most so many times. -/
def readWithin : Nat → Text → Builder → Builder
  | 0, _, b => b
  | _, [], b => b
  | fuel + 1, t, b =>
    let (ks, rest, m) := next b.knowsSections b.mode t
    readWithin fuel rest (ks.foldl feed { b with mode := m })

/-- takes a whole page. -/
def read (t : Text) : Builder := (readWithin t.length t .start).feed .finish

end Builder

/-- the trees of a page. -/
def parse (t : Text) : List Tree :=
  (Builder.read (evenLines (withoutMark t))).dom.trees

end Html
end Bookpress
