import Bookpress.Text.Blank

/-!
# Tidy documents

The last pass over a document: one kind of line end, no invisible characters, at most one blank
line between paragraphs and one line feed at the end.
-/

namespace Bookpress
namespace Tex

/-- every line end as a line feed. -/
def unifyLineEnds (t : Text) : Text :=
  (Text.replace ['\r', '\n'] ['\n'] t).map fun c => if c = '\r' then '\n' else c

/-- the byte order mark, the zero-width space and the two join controls. -/
def isInvisible (c : Char) : Bool :=
  c.toNat = 0xFEFF || c.toNat = 0x200B || c.toNat = 0x200C || c.toNat = 0x200D

/-- a text without its invisible characters. -/
def dropInvisible (t : Text) : Text := t.filter fun c => !isInvisible c

/-- two line feeds in place of three or more. -/
def foldBlankLines (t : Text) : Text :=
  Text.mapRuns (· = '\n') (fun r => if 3 ≤ r.length then ['\n', '\n'] else r) t

/-- a text with one line feed in place of the white space at its end. -/
def endLine (t : Text) : Text := Text.trimEnd t ++ ['\n']

/-- a document in its final form. -/
def tidy (t : Text) : Text := endLine (foldBlankLines (dropInvisible (unifyLineEnds t)))

end Tex
end Bookpress
