import Bookpress.Proofs.Document.Plan
import Bookpress.Proofs.Gallery.Serving

/-!
# Orders and the stock

What an order leaves in the picture folder, and what comes back for it.  An order sees to the
picture of one slot; the one for a video sees to its thumbnail before.

* `Order.serve_reply` : a reply is settled by the picture that is there in the end.
* `Order.figures_serve` : which orders take a number.
* `Order.serve_served` : what an order does to the stock, in general.
-/

namespace Bookpress

namespace Order

open Gallery

/-- the slot whose picture an order asks for. -/
def slot (s : Session) : Order → Slot
  | .inline t => .keyed t
  | .icon t => .keyed t
  | .figure _ => .numbered (s.counts.figures + 1)
  | .video _ => .numbered (s.counts.figures + 1)
  | .logo => .logo

/-- the file that saves an order its download: its picture, or the thumbnail of a video. -/
def wanted (s : Session) : Order → Text
  | .inline t => (Slot.keyed t).png
  | .icon t => (Slot.keyed t).png
  | .figure _ => (Slot.numbered (s.counts.figures + 1)).png
  | .video id => (Slot.keyed (Element.thumbnailUrl id)).raw
  | .logo => Slot.logo.png

/-- whether an order takes a number. -/
def isNumbered : Order → Bool
  | .figure _ => true
  | .video _ => true
  | _ => false

/-- what comes back for an order, if the next number is `n` and the picture of its slot is `x`. -/
def answer (g : Gallery) (n : Nat) (x : Option ByteArray) : (o : Order) → o.Reply
  | .inline t =>
    (⟨g.shownPlace (Slot.keyed t).png, g.settings.sizing.length .inline (dimensions x).2⟩ : Inline)
  | .icon t => g.shownPlace (Slot.keyed t).png
  | .figure _ =>
    (⟨n, g.shownPlace (Slot.numbered n).png, g.settings.sizing.length .figure (dimensions x).1⟩ :
      Figure)
  | .video _ =>
    (⟨n, g.shownPlace (Slot.numbered n).png, g.settings.sizing.length .figure (dimensions x).1⟩ :
      Figure)
  | .logo => g.shownPlace Slot.logo.png

variable {g : Gallery} {q : Place} {d₀ : Disk} {s : Session}

theorem reply_figure (g : Gallery) (source : Source) (s : Session) :
    (g.figure source s).1 =
      ⟨s.counts.figures + 1, g.shownPlace (Slot.numbered (s.counts.figures + 1)).png,
        g.settings.sizing.length .figure (dimensions (g.held (g.figure source s).2.disk
          (Slot.numbered (s.counts.figures + 1)).png)).1⟩ := by
  rw [← sizeAt_place]
  rfl

/-- **A reply is settled by the number and the picture that is there in the end.** -/
theorem serve_reply (g : Gallery) (o : Order) (s : Session) :
    ((o.serve g).run s).1 =
      o.answer g (s.counts.figures + 1) (g.held ((o.serve g).run s).2.disk (o.slot s).png) := by
  cases o with
  | inline t => exact reply_inline g t s
  | icon t => rfl
  | figure source => exact reply_figure g source s
  | video id =>
    have hn := figures_thumbnail g (Element.thumbnailUrl id) s
    have hf := reply_figure g (.file (g.thumbnail (Element.thumbnailUrl id) s).1)
      (g.thumbnail (Element.thumbnailUrl id) s).2
    rw [hn] at hf
    exact hf
  | logo => rfl

/-- **Figures and videos take the next number, and nothing else does.** -/
theorem figures_serve (g : Gallery) (o : Order) (s : Session) :
    ((o.serve g).run s).2.counts.figures = s.counts.figures + o.isNumbered.toNat := by
  cases o with
  | inline t => exact figures_ensure ..
  | icon t => exact figures_ensure ..
  | figure source => exact figures_ensure ..
  | video id =>
    have hn := figures_thumbnail g (Element.thumbnailUrl id) s
    show (g.figure _ (g.thumbnail (Element.thumbnailUrl id) s).2).2.counts.figures = _
    refine (figures_ensure ..).trans ?_
    show (g.thumbnail (Element.thumbnailUrl id) s).2.counts.figures + 1 = _
    rw [hn]
    rfl
  | logo => exact figures_ensure ..

/-- what an order does to the stock. -/
structure Served (g : Gallery) (q : Place) (d₀ : Disk) (o : Order) (s s' : Session) : Prop where
  kept : g.Kept q d₀ s'.disk
  /-- no other picture is touched. -/
  other : ∀ τ : Slot, τ.Fits → τ.png ≠ (o.slot s).png →
    g.held s'.disk τ.png = g.held s.disk τ.png
  /-- nothing that is there goes away. -/
  grows : ∀ m, IsName m → (g.held s.disk m).isSome → (g.held s'.disk m).isSome
  /-- what is there is not asked for again. -/
  quiet : (g.held s.disk (o.wanted s)).isSome → s'.requests = s.requests

/-- an order that sees to one slot, in a session with the stock that the order finds. -/
theorem served_of_stocks {o : Order} {σ : Slot} {source : Source} {trim : Bool} {s₁ s' : Session}
    (h : g.Stocks q d₀ σ source trim s₁ s') (hdisk : s₁.disk = s.disk)
    (hrequests : s₁.requests = s.requests) (hslot : o.slot s = σ) (hwanted : o.wanted s = σ.png) :
    Served g q d₀ o s s' where
  kept := h.kept
  other _ hτ hne :=
    hdisk ▸ h.other _ (Slot.isName_png hτ) (fun e => Slot.raw_ne_png e.symm) (hslot ▸ hne)
  grows _ hm hs := h.grows hm (hdisk ▸ hs)
  quiet hs := hrequests ▸ h.quiet (hdisk ▸ hwanted ▸ hs)

/-- **What an order does to the stock.** -/
theorem serve_served (o : Order) (hcache : g.settings.imageCache = true)
    (h : g.Kept q d₀ s.disk) (hfits : (o.slot s).Fits) :
    Served g q d₀ o s ((o.serve g).run s).2 := by
  cases o with
  | inline t => exact served_of_stocks (inline_stocks hcache h t) rfl rfl rfl rfl
  | icon t => exact served_of_stocks (icon_stocks hcache h t) rfl rfl rfl rfl
  | figure source => exact served_of_stocks (figure_stocks hcache h source hfits) rfl rfl rfl rfl
  | video id =>
    -- the thumbnail leaves all pictures alone, and the figure asks for no download
    have hn := figures_thumbnail g (Element.thumbnailUrl id) s
    obtain ⟨hk, hm, hq⟩ := thumbnail_puts (s := s) (Element.thumbnailUrl id) hcache h
    have hs := figure_stocks hcache hk (.file (g.thumbnail (Element.thumbnailUrl id) s).1)
      (hn ▸ hfits)
    rw [hn] at hs
    refine ⟨hs.kept, fun τ hτ hne => ?_, fun m hname hh => ?_, fun hh => ?_⟩
    · have hpng := Slot.isName_png hτ
      refine (hs.other _ hpng (fun e => Slot.raw_ne_png e.symm) hne).trans ?_
      refine (hm _ hpng).trans (if_neg fun e => Slot.raw_ne_png e.symm)
    · refine hs.grows hname ?_
      show (g.held (g.thumbnail (Element.thumbnailUrl id) s).2.disk m).isSome
      rw [hm m hname]
      split <;> simp [hh]
    · exact (requests_ensure_file ..).trans (hq hh)
  | logo => exact served_of_stocks (placeholder_stocks hcache h) rfl rfl rfl rfl

end Order
end Bookpress
