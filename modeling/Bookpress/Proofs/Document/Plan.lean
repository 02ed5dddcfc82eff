import Bookpress.Document.Compose
import Bookpress.Proofs.Markup.Rounds

/-!
# Plans

What a document asks of a gallery, and when.  A plan is the tree of its orders: what is asked next
may depend on the replies so far, but on nothing else of the session.  The composition of a
document is the run of a plan, so what holds along every plan holds of documents.

* `Plan.run_bind`, `Plan.trace_bind` : plans one after the other.
* `Planned` : work that is the run of a plan.
* `Document.run_plan` : the composition of a document runs its plan.
-/

namespace Bookpress

/-- what a document asks of a gallery. -/
inductive Order
  /-- a picture in running text. -/
  | inline (t : Text)
  | icon (t : Text)
  | figure (source : Source)
  /-- the figure of a video: it is made from the thumbnail, which is asked for first. -/
  | video (id : Text)
  | logo
deriving Repr, DecidableEq

namespace Order

/-- what comes back for an order. -/
def Reply : Order → Type
  | .inline _ => Inline
  | .icon _ => Text
  | .figure _ => Figure
  | .video _ => Figure
  | .logo => Text

/-- what a gallery does for an order. -/
def serve (g : Gallery) : (o : Order) → StateM Session o.Reply
  | .inline t => g.inline t
  | .icon t => g.icon t
  | .figure source => g.figure source
  | .video id => do
    let raw ← g.thumbnail (Element.thumbnailUrl id)
    g.figure (.file raw)
  | .logo => g.placeholder

end Order

/-- orders to a gallery, each of which may depend on the replies to those before it. -/
inductive Plan (α : Type)
  | done (a : α)
  | note (es : List Event) (next : Plan α)
  | ask (o : Order) (next : o.Reply → Plan α)

namespace Plan

variable {α β : Type} (g : Gallery)

/-- the work of a plan. -/
def run : Plan α → StateM Session α
  | .done a => pure a
  | .note es next => do
    modify (·.record es)
    next.run
  | .ask o next => do (next (← o.serve g)).run

/-- the orders that are made in the run of a plan, each with the session that it finds. -/
def trace : Plan α → Session → List (Order × Session)
  | .done _, _ => []
  | .note es next, s => next.trace (s.record es)
  | .ask o next, s => (o, s) :: (next ((o.serve g).run s).1).trace ((o.serve g).run s).2

/-- a plan that goes on with what another one gives. -/
def bind : Plan α → (α → Plan β) → Plan β
  | .done a, f => f a
  | .note es next, f => .note es (next.bind f)
  | .ask o next, f => .ask o fun r => (next r).bind f

theorem run_done (a : α) (s : Session) : ((done a).run g).run s = (a, s) := rfl

theorem run_note (es : List Event) (next : Plan α) (s : Session) :
    ((note es next).run g).run s = (next.run g).run (s.record es) := rfl

theorem run_ask (o : Order) (next : o.Reply → Plan α) (s : Session) :
    ((ask o next).run g).run s =
      ((next ((o.serve g).run s).1).run g).run ((o.serve g).run s).2 := rfl

/-- **Plans one after the other do their work one after the other.** -/
theorem run_bind (p : Plan α) (f : α → Plan β) :
    (p.bind f).run g = p.run g >>= fun a => (f a).run g := by
  induction p with
  | done a => simp [bind, run]
  | note es next ih => simp [bind, run, ih]
  | ask o next ih => simp [bind, run, ih]

theorem trace_bind (p : Plan α) (f : α → Plan β) (s : Session) :
    (p.bind f).trace g s =
      p.trace g s ++ (f ((p.run g).run s).1).trace g ((p.run g).run s).2 := by
  induction p generalizing s with
  | done a => rfl
  | note es next ih => exact ih _
  | ask o next ih => exact congrArg ((o, s) :: ·) (ih _ _)

end Plan

/-- a plan for the work `m`. -/
structure Planned (g : Gallery) {α : Type} (m : StateM Session α) where
  plan : Plan α
  run_plan : plan.run g = m

namespace Planned

variable {g : Gallery} {α β : Type} {m n : StateM Session α}

def cast (h : m = n) (x : Planned g m) : Planned g n := ⟨x.plan, x.run_plan.trans h⟩

def pure (a : α) : Planned g (Pure.pure a) := ⟨.done a, rfl⟩

def bind {k : α → StateM Session β} (x : Planned g m) (f : ∀ a, Planned g (k a)) :
    Planned g (m >>= k) :=
  ⟨x.plan.bind fun a => (f a).plan, by simp only [Plan.run_bind, x.run_plan, (f _).run_plan]⟩

def note (es : List Event) : Planned g (modify (·.record es)) := ⟨.note es (.done ()), rfl⟩

def ask (o : Order) : Planned g (o.serve g) := ⟨.ask o .done, by simp [Plan.run]⟩

def ite (c : Prop) [Decidable c] (x : Planned g m) (y : Planned g n) :
    Planned g (if c then m else n) :=
  ⟨if c then x.plan else y.plan, by split <;> simp [x.run_plan, y.run_plan]⟩

/-- the plans of a row of works, one after the other. -/
def mapM {k : α → StateM Session β} (f : ∀ a, Planned g (k a)) :
    (xs : List α) → Planned g (xs.mapM k)
  | [] => cast (by rw [List.mapM_nil]) (pure [])
  | x :: xs => cast (by rw [List.mapM_cons])
      (bind (f x) fun b => bind (mapM f xs) fun bs => pure (b :: bs))

/-- the plans for the hits in a text, in their order. -/
def fillM {k : α → StateM Session Text} (f : ∀ a, Planned g (k a)) (x : List (Text × α) × Text) :
    Planned g (Text.fillM k x) :=
  bind (mapM (fun (_, a) => bind (f a) fun _ => pure _) x.1) fun _ => pure _

end Planned

/-! ## the plans of texts -/

namespace Markup

variable (g : Gallery) (o : Options)

def planPictures (t : Text) : Planned g (pictures g o t) :=
  .bind (.fillM (fun s => .bind (.ask (.inline (sourceOf s))) fun _ => .pure _) _) fun _ =>
    .fillM (fun s => .bind (.ask (.icon (sourceOf s))) fun _ => .pure _) _

def planCell {depth : Nat} (f : ∀ t, Planned g (rewriteWithin g o depth t)) (c : Span) :
    Planned g (renderCell g o depth c) :=
  .ite _ (.pure _) (.bind (f (cellContent c)) fun _ => .pure _)

def planRewriteWithin : (depth : Nat) → (t : Text) → Planned g (rewriteWithin g o depth t)
  | 0, t => .pure t
  | depth + 1, t => .cast (rewriteWithin_succ g o depth t).symm
      (.bind (.fillM (planCell g o (planRewriteWithin depth)) _) fun _ => planPictures g o _)

def planTranslateRaw (t : Text) : Planned g (translateRaw g o t) :=
  .bind (.note _) fun _ => .bind (planRewriteWithin g o _ _) fun _ => .bind (.note _) fun _ =>
    .pure _

end Markup

/-! ## the plans of elements -/

namespace Element

open Tex

variable (g : Gallery) (o : Markup.Options)

def planApplet (script : Text) : Planned g (appletText g script) :=
  match h : Preview.of? script with
  | none => .cast (by simp only [appletText, h]; rfl)
      (.bind (.note (g.detail 2 "Applet without preview image, using placeholder".toList)) fun _ =>
        .bind (.ask .logo) fun path => .pure (Graphic.toText ⟨path, logoWidth, none, false, none⟩))
  | some p => .cast (by simp only [appletText, h]; rfl)
      (.bind (.note (g.detail 2 ("figure(".toList ++ p.file ++ [')']))) fun _ =>
        .bind (.note (g.locate p.file).2) fun _ => .bind (.ask (.figure (g.locate p.file).1)) fun f =>
          .pure (Graphic.toText ⟨f.path, lengthText f.width,
            some (captionFor g.settings.labels.applet (materialUrl p.material)), true,
            some (materialUrl p.material)⟩))

def planVideo (id : Text) : Planned g (videoText g id) :=
  .cast (by simp only [videoText, Order.serve]; rfl)
    (.bind (.note (g.detail 1 ("Fetching video thumbnail ".toList ++ thumbnailUrl id))) fun _ =>
      .bind (.ask (.video id)) fun f =>
        .pure (graphicOf f (some (captionFor g.settings.labels.video (videoUrl id)))).toText)

def planCaption : (caption? : Option Text) → Planned g (caption?.mapM (Markup.translateRaw g o))
  | none => .cast (Option.mapM_none _).symm (.pure none)
  | some t => .cast (by rw [Option.mapM_some, map_eq_pure_bind])
      (.bind (Markup.planTranslateRaw g o t) fun t => .pure (some t))

def planImage (src : Text) (caption? : Option Text) : Planned g (imageText g o src caption?) :=
  .bind (planCaption g o caption?) fun translated? => .bind (.note (g.locate src).2) fun _ =>
    .bind (.ask (.figure (g.locate src).1)) fun f =>
      .pure (graphicOf f (translated?.filter (· ≠ []))).toText

def planOf : (e : Element) → Planned g (e.toText g o)
  | .text t => .bind (Markup.planTranslateRaw g o t) fun _ => .pure _
  | .title t | .header t => .bind (Markup.planTranslateRaw g o t) fun _ => .pure _
  | .applet script => planApplet g script
  | .image src caption? => planImage g o src caption?
  | .video src =>
    match h : videoId? src with
    | some id => .cast (by simp only [toText, h]) (planVideo g id)
    | none => .cast (by simp only [toText, h])
        (.bind (.note (g.detail 2 ("Skipping video without embed id: ".toList ++ src))) fun _ =>
          .pure [])
  | .unsupported _ => .bind (.note _) fun _ => .pure _

end Element

/-! ## the plan of a document -/

namespace Document

variable (g : Gallery)

def planBlock (o : Markup.Options) (w : Worksheet) : Planned g (blockOf g o w) :=
  .bind (.mapM (Element.planOf g o) w) fun _ => .pure _

def planBlocks (o : Markup.Options) (ws : List Worksheet) : Planned g (blocksOf g o ws) :=
  .mapM (fun (w, _) => .bind (.note _) fun _ => planBlock g o w) ws.zipIdx

def planCompose (b : Book) : Planned g (compose g b) :=
  .bind (Markup.planTranslateRaw g _ b.description) fun _ => .bind (.note _) fun _ =>
    .bind (planBlocks g _ b.worksheets) fun _ => .bind (.note _) fun _ => .bind (.note _) fun _ =>
      .pure _

/-- what the document of a book asks of a gallery. -/
def plan (b : Book) : Plan (Document × Report) := (planCompose g b).plan

/-- **The composition of a document runs its plan.** -/
theorem run_plan (b : Book) : (plan g b).run g = compose g b := (planCompose g b).run_plan

end Document
end Bookpress
