import Bookpress.Citation.Link
import Bookpress.Citation.Percent

/-!
# Citations and the bibliography

Every link of a document is followed by a citation, and the bibliography lists one target for
every caption.  Links with the same caption share a number: captions are numbered in the order
in which they first appear, and the first link with a caption gives the target.

* `number_entriesOf` : entries are numbered in their order, from one on.
-/

namespace Bookpress
namespace Citation

/-- a line of the bibliography. -/
structure Entry where
  number : Nat
  caption : Text
  target : Text
deriving Repr, DecidableEq

/-- the entries with one for the caption of `l`. -/
def addLink (es : List Entry) (l : Link) : List Entry :=
  if es.any fun e => e.caption = l.caption then es
  else es ++ [⟨es.length + 1, l.caption, l.target⟩]

/-- one entry for every caption, in the order of their first appearance. -/
def entriesOf (ls : List Link) : List Entry := ls.foldl addLink []

theorem number_addLink {es : List Entry} (h : es.map Entry.number = List.range' 1 es.length)
    (l : Link) : (addLink es l).map Entry.number = List.range' 1 (addLink es l).length := by
  unfold addLink
  split
  · exact h
  · rw [List.map_append, h, List.length_append, List.length_singleton, List.range'_concat]
    simp [Nat.add_comm]

theorem number_entriesOf (ls : List Link) :
    (entriesOf ls).map Entry.number = List.range' 1 (entriesOf ls).length := by
  suffices H : ∀ es : List Entry, es.map Entry.number = List.range' 1 es.length →
      (ls.foldl addLink es).map Entry.number = List.range' 1 (ls.foldl addLink es).length from
    H [] rfl
  induction ls with
  | nil => exact fun _ h => h
  | cons l ls ih => exact fun es h => ih _ (number_addLink h l)

/-- the number of a caption. -/
def numberOf (es : List Entry) (caption : Text) : Nat :=
  match es.find? fun e => e.caption = caption with
  | some e => e.number
  | none => 0

/-- the citation of an entry. -/
def citation (n : Nat) : Text :=
  ' ' :: Tex.command "textnormal" [Tex.command "cite" [Text.ofNat n]]

/-- the line of an entry. -/
def Entry.item (e : Entry) : Text :=
  Tex.line (Tex.control "bibitem" ++ ('[' :: (Text.ofNat e.number ++ [']']))
    ++ Tex.group (Text.ofNat e.number) ++ Tex.group (Tex.command "url" [encode e.target]))

/-- the bibliography; without entries there is none. -/
def bibliography (es : List Entry) : Text :=
  if es = [] then []
  else Tex.line (Tex.openEnv "thebibliography" ++ Tex.group (Text.ofNat es.length))
    ++ es.flatMap Entry.item ++ Tex.line (Tex.closeEnv "thebibliography")

/-- a text with its citations, and what they cite. -/
structure References where
  text : Text
  entries : List Entry
  bibliography : Text
deriving Repr, DecidableEq

/-- the entries of a text. -/
def entries (t : Text) : List Entry := entriesOf ((links t).1.map Prod.snd)

/-- a text with a citation after each link. -/
def marked (t : Text) : Text :=
  let es := entries t
  Text.fill (fun l => l.written ++ citation (numberOf es l.caption)) (links t)

/-- the citations and the bibliography of a text. -/
def references (t : Text) : References :=
  let es := entries t
  ⟨marked t, es, bibliography es⟩

end Citation
end Bookpress
