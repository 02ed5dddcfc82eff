import Bookpress.Length.Sizing
import Bookpress.Markup.Span
import Bookpress.Settings.Basic
import Bookpress.Tex.Command
import Bookpress.Tex.Escape
import Bookpress.Text.Blank
import Bookpress.Text.Upper
import Bookpress.Text.Word

/-!
# Tags

The tags of worksheet texts and the LaTeX that stands for them.  A text is escaped before its tags
are looked at, so a tag may hold escaped characters.  Tags are replaced kind by kind; what is no
pair of tags stays as it is.

* `verbSign_not_mem` : the sign around verbatim text does not occur in the text, if any of the
  signs does not.
-/

namespace Bookpress
namespace Markup

/-- what a translation depends on. -/
structure Options where
  textColor : Bool
  wordWrap : Bool
  columnWidth : Float
  iconSize : Float

/-- the options that settings ask for. -/
def Options.of (s : Settings) : Options :=
  ⟨s.textColor, s.wordWrap, s.sizing.columnWidth, s.sizing.iconSize⟩

/-! ## pairs of tags -/

namespace Rule

def math : Rule := plain "[math]" "[/math]"
def bold : Rule := (plain "[b]" "[/b]").inLine
def underline : Rule := (plain "[u]" "[/u]").inLine
def italic : Rule := (plain "[i]" "[/i]").inLine
def lowered : Rule := (plain "[sub]" "[/sub]").inLine
def raised : Rule := (plain "[sup]" "[/sup]").inLine
def smallButton : Rule := (plain "[button\\_small]" "[/button\\_small]").inLine
def button : Rule := (plain "[button]" "[/button]").inLine
def code : Rule := plain "[code]" "[/code]"
def courier : Rule := plain "[font=Courier New]" "[/font]"
def url : Rule := withParam "[url=" "[/url]"
def quote : Rule := plain "[quote]" "[/quote]"
def center : Rule := plain "[center]" "[/center]"
def left : Rule := plain "[left]" "[/left]"
def font : Rule := withParam "[font=" "[/font]"
def table : Rule := plain "[table]" "[/table]"
def cell : Rule := plain "[td]" "[/td]"
def row : Rule := plain "[tr]" "[/tr]"
def image : Rule := plain "[img]" "[/img]"
def icon : Rule := plain "[icon]" "[/icon]"

end Rule

/-! ## emphasis -/

/-- a formula has its characters as they were before escaping. -/
def mathText (s : Span) : Text := '$' :: (Tex.unescape s.inner ++ ['$'])

def boldText (s : Span) : Text := Tex.group (Tex.control "bf" ++ Tex.stop ++ s.inner)

def underlineText (s : Span) : Text := Tex.command "underline" [s.inner]

def italicText (s : Span) : Text := Tex.group (Tex.control "em" ++ Tex.stop ++ s.inner)

def loweredText (s : Span) : Text := Tex.command "textsubscript" [s.inner]

def raisedText (s : Span) : Text := Tex.command "textsuperscript" [s.inner]

/-- the command that sets the distance of a frame. -/
def frameDistance (points : String) : Text :=
  Tex.command "setlength" [Tex.control "fboxsep", points.toList]

/-- a label in a frame with round corners. -/
def framed (points : String) (s : Span) : Text :=
  frameDistance points ++ Tex.command "ovalbox" [s.inner] ++ frameDistance "0pt"

/-! ## lines -/

/-- an empty line. -/
def paragraph : Text := ['\n', '\n']

/-- the tags of line ends; the second is `<br>` as it is escaped. -/
def breakTags : List Text := ["[br]".toList, Tex.escape "<br>".toList]

/-- every line end, as a character or as a tag, as an empty line. -/
def breakLines (t : Text) : Text :=
  breakTags.foldl (fun t tag => Text.replace tag paragraph t) (Text.replace ['\n'] paragraph t)

/-! ## verbatim text -/

/-- a program text keeps its line ends. -/
def codeText (s : Span) : Text :=
  Tex.command "texttt" [Text.mapRuns Text.isLineEnd (fun _ => "\n\\\\".toList) s.inner]

/-- the signs that may stand around verbatim text. -/
def verbSigns : Text := "§|!+@=".toList

/-- the first sign that does not occur in a text. -/
def verbSign (t : Text) : Char := (verbSigns.find? fun c => !t.contains c).getD '§'

theorem verbSign_not_mem {t : Text} (h : ∃ c ∈ verbSigns, c ∉ t) : verbSign t ∉ t := by
  unfold verbSign
  cases hf : verbSigns.find? fun c => !t.contains c with
  | none =>
    obtain ⟨c, hc, hn⟩ := h
    have := List.find?_eq_none.1 hf c hc
    simp [hn] at this
  | some c => simpa using List.find?_some hf

/-- the verbatim text of an escaped one: on one line, without runs of white space. -/
def verbContent (t : Text) : Text :=
  Text.foldBlankRuns (Text.trim
    (Text.replace ['\n'] [' '] (Text.replace "[br]".toList [' '] (Tex.unescape t))))

/-- verbatim text between two signs. -/
def verbatim (t : Text) : Text :=
  let content := verbContent t
  let sign := verbSign content
  ' ' :: (Tex.control "verb" ++ sign :: (content ++ [sign, ' ']))

/-! ## colours -/

/-- a colour at the front of a text that is named by word characters after `opening`, and what
follows its tag. -/
def readColor (opening : Text) (t : Text) : Option (Text × Text) :=
  (Text.strip? opening t).bind fun r =>
    let name := r.takeWhile Text.isWord
    match r.drop name.length with
    | ']' :: rest => if name = [] then none else some (name, rest)
    | _ => none

/-- the opening of a colour by its name, and by its digits. -/
def colorOpening : Text := "[color=".toList
def digitsOpening : Text := "[color=#".toList

/-- a text with colours set, or with slanted text in their place. -/
def colors (isSet : Bool) (t : Text) : Text :=
  let opened :=
    if isSet then
      Text.rewrite (Text.search (readColor colorOpening))
        (fun name => Tex.command "color" [name] ++ Tex.stop)
        (Text.rewrite (Text.search (readColor digitsOpening))
          (fun digits => Tex.commandWith "color" "HTML".toList [Text.upper digits] ++ Tex.stop) t)
    else
      Text.rewrite
        (Text.search fun t => (readColor digitsOpening t).or (readColor colorOpening t))
        (fun _ => Tex.control "it" ++ Tex.stop) t
  Text.replace "[/color]".toList (Tex.command "color" ["black".toList] ++ Tex.stop) opened

/-! ## links, quotations and lists -/

/-- a link shows its address if it has no caption. -/
def linkText (s : Span) : Text :=
  Tex.command "href" [Tex.unescape s.param,
    Text.foldBlanks (Text.trim (if s.inner = [] then s.param else s.inner))]

def quoteText (s : Span) : Text := Tex.openEnv "quote" ++ s.inner ++ Tex.closeEnv "quote"

/-- the opening of a list whose items have a label. -/
def listOpening (label : Text) : Text :=
  Tex.openEnv "enumerate" ++ '[' :: ("label=".toList ++ label ++ [']'])

/-- the tags of lists. -/
def listTags : List (Text × Text) := [
  ("[list]".toList, listOpening "$\\bullet$".toList),
  ("[list=1]".toList, listOpening "\\arabic*.".toList),
  ("[list=a]".toList, listOpening "(\\alph*)".toList),
  ("[/list]".toList, Tex.closeEnv "enumerate"),
  ("[*]".toList, "\\item ".toList),
  ("[/*]".toList, [])]

/-- a text with its lists. -/
def lists (t : Text) : Text := listTags.foldl (fun t x => Text.replace x.1 x.2 t) t

/-! ## what is left out -/

/-- the opening of a size at the front of a text, and what follows it. -/
def readSize (t : Text) : Option (Unit × Text) :=
  (Text.strip? "[size=".toList t).bind fun r =>
    match r.dropWhile (· ≠ ']') with
    | _ :: rest => if r.head? = some ']' then none else some ((), rest)
    | [] => none

/-- a text without the tags of places, fonts and sizes. -/
def unplaced (t : Text) : Text :=
  let t := Rule.center.once Span.inner t
  let t := Rule.left.once Span.inner t
  let t := Rule.font.once Span.inner t
  Text.replace "[/size]".toList [] (Text.rewrite (Text.search readSize) (fun _ => []) t)

/-! ## tables -/

/-- a part of the text width. -/
def textWidth (part : Float) : Text := lengthText part ++ Tex.control "textwidth"

/-- the line between two rows. -/
def rowRule : Text := Tex.command "specialrule" ["0em".toList, "0.3em".toList, "0.3em".toList]

def tableText (width : Float) (s : Span) : Text :=
  if s.inner = [] then []
  else Tex.group (Tex.control "small" ++ Tex.command "begin"
      ["tabulary".toList, textWidth width, "LLLLLLLLLLLLLL".toList] ++ Tex.line []
    ++ Tex.line rowRule ++ s.inner ++ Tex.line (Tex.closeEnv "tabulary")) ++ paragraph

def rowText (s : Span) : Text := s.inner ++ "\\\\".toList ++ Tex.line rowRule

/-- what a cell holds, with its line ends as commands. -/
def cellContent (s : Span) : Text :=
  Text.trim (Text.mapRuns Text.isLineEnd (fun _ => Tex.group (Tex.control "newline"))
    (Text.trim s.inner))

/-- a cell with its translated content. -/
def cellText (width : Float) (content : Text) : Text :=
  Tex.commandWith "pbox" ['c'] [textWidth width, content] ++ ['&']

/-! ## pictures -/

/-- the source that a tag names. -/
def sourceOf (s : Span) : Text := Text.trim (Tex.unescape s.inner)

/-- a picture whose height or width is given. -/
def pictureText (dimension : String) (size : Float) (unit : String) (path : Text) : Text :=
  Tex.commandWith "includegraphics"
    (dimension.toList ++ '=' :: (lengthText size ++ unit.toList)) [path]

end Markup
end Bookpress
