import Bookpress.Gallery.Serve
import Bookpress.Markup.Tag
import Bookpress.Tex.Symbol
import Bookpress.Tex.Wrap

/-!
# Fragments

The translation of a worksheet text.  The rules are applied one after the other, and a later rule
sees what the earlier ones wrote.  The cells of tables are translated like fragments of their own,
and pictures are served by the gallery in the order of the text.

* `cells` : the texts that are translated on their own on the way.
-/

namespace Bookpress
namespace Markup

/-- the rules for characters and lines, up to verbatim text. -/
def inlineRules (t : Text) : Text :=
  let t := t.filter fun c => c.toNat ≠ 0xFEFF
  let t := Rule.math.once mathText t
  let t := Rule.bold.exhaust boldText t
  let t := Rule.underline.exhaust underlineText t
  let t := Rule.italic.exhaust italicText t
  let t := Rule.lowered.once loweredText t
  let t := Rule.raised.once raisedText t
  let t := Rule.smallButton.once (framed "2pt") t
  let t := Rule.button.once (framed "3pt") t
  let t := breakLines t
  let t := Rule.code.once codeText t
  Rule.courier.once (fun s => verbatim s.inner) t

/-- the rules for colours, links and blocks, up to the frame of tables. -/
def blockRules (o : Options) (t : Text) : Text :=
  let t := colors o.textColor t
  let t := Rule.url.once linkText t
  let t := Rule.quote.once quoteText t
  let t := lists t
  let t := unplaced t
  Rule.table.once (tableText o.columnWidth) t

/-- the text in which the cells of tables are looked for. -/
def beforeCells (o : Options) (t : Text) : Text := blockRules o (inlineRules t)

/-- the texts of the cells that are translated on their own. -/
def cells (o : Options) (t : Text) : List Text :=
  ((Rule.cell.spans (beforeCells o t)).1.filter fun x => x.2.inner ≠ []).map fun x =>
    cellContent x.2

/-- a text with its pictures. -/
def pictures (g : Gallery) (o : Options) (t : Text) : StateM Session Text := do
  let t ← Text.fillM (fun s => do
    let p ← g.inline (sourceOf s)
    return pictureText "height" p.height "mm" p.path) (Rule.image.spans t)
  Text.fillM (fun s => do
    let path ← g.icon (sourceOf s)
    return pictureText "width" o.iconSize "cm" path) (Rule.icon.spans t)

/-- a text with its tags replaced, and its cells down to a depth. -/
def rewriteWithin (g : Gallery) (o : Options) : Nat → Text → StateM Session Text
  | 0, t => return t
  | depth + 1, t => do
    let t ← Text.fillM (fun s =>
      if s.inner = [] then return ['&']
      else do return cellText o.columnWidth (← rewriteWithin g o depth (cellContent s)))
      (Rule.cell.spans (beforeCells o t))
    pictures g o (Rule.row.once rowText t)

/-- how deep cells can stand in each other: the tags of a cell have two brackets. -/
def cellDepth (t : Text) : Nat := t.count ']' / 2 + 1

/-- a text with its tags replaced. -/
def rewrite (g : Gallery) (o : Options) (t : Text) : StateM Session Text :=
  rewriteWithin g o (cellDepth t) t

/-- the last rules: symbols and wrapping. -/
def finish (o : Options) (t : Text) : Text :=
  let t := Tex.typeset t
  if o.wordWrap then Tex.wrap Tex.wrapColumn t else t

/-- the translation of an escaped text. -/
def translate (g : Gallery) (o : Options) (t : Text) : StateM Session Text := do
  modify (·.record (g.detail 2
    ("Translating ".toList ++ Text.ofNat (Text.byteSize t) ++ " bytes of markup".toList)))
  let t := finish o (← rewrite g o t)
  modify (·.record (g.detail 2
    ("Markup produced ".toList ++ Text.ofNat (Text.byteSize t) ++ " bytes".toList)))
  return t

/-- the translation of a text as it stands on the page. -/
def translateRaw (g : Gallery) (o : Options) (t : Text) : StateM Session Text :=
  translate g o (Tex.escape t)

end Markup
end Bookpress
