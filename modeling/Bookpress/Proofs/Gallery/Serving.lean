import Bookpress.Proofs.Gallery.Stock

/-!
# Serving and the stock

What each service of a gallery leaves in the picture folder.  Pictures in running text and icons
are kept in one slot, a figure takes its number first, and the logo has a slot of its own.

* `sizeAt_place` : the size of a picture is the one of the file that is held.
* `Stocks.grows` : nothing that is there goes away.
* `inline_stocks`, `icon_stocks`, `figure_stocks`, `placeholder_stocks` : one service each.
-/

namespace Bookpress

namespace Gallery

variable {g : Gallery} {q : Place} {d₀ : Disk} {s s' : Session} {σ : Slot} {source : Source}
  {trim : Bool} {name : Text}

/-- the width and height of a picture; zero if there is none. -/
def dimensions : Option ByteArray → Nat × Nat
  | some bytes => (Picture.Png.size? bytes).getD (0, 0)
  | none => (0, 0)

theorem sizeAt_place (g : Gallery) (s : Session) (name : Text) :
    sizeAt s (g.place name) = dimensions (g.held s.disk name) := by
  unfold sizeAt held dimensions
  cases s.disk.read (g.place name) <;> rfl

/-- what is said of a picture in running text is settled by the picture that is there in the end. -/
theorem reply_inline (g : Gallery) (t : Text) (s : Session) :
    (g.inline t s).1 = ⟨g.shownPlace (Slot.keyed t).png, g.settings.sizing.length .inline
      (dimensions (g.held (g.inline t s).2.disk (Slot.keyed t).png)).2⟩ := by
  rw [← sizeAt_place]
  rfl

namespace Stocks

/-- what goes to the journal does not touch the stock. -/
theorem record {es : List Event} (h : g.Stocks q d₀ σ source trim s s') :
    g.Stocks q d₀ σ source trim s (s'.record es) :=
  ⟨h.kept, h.figures, h.png, h.raw, h.other, h.quiet⟩

theorem of_record {es : List Event} (h : g.Stocks q d₀ σ source trim (s.record es) s') :
    g.Stocks q d₀ σ source trim s s' :=
  ⟨h.kept, h.figures, h.png, h.raw, h.other, h.quiet⟩

/-- **Nothing that is there goes away.** -/
theorem grows (h : g.Stocks q d₀ σ source trim s s') {m : Text} (hm : IsName m)
    (hs : (g.held s.disk m).isSome) : (g.held s'.disk m).isSome := by
  by_cases hp : m = σ.png
  · subst hp
    rw [h.png]
    simp [hs]
  · by_cases hr : m = σ.raw
    · subst hr
      rw [h.raw]
      split <;> simp [hs]
    · rwa [h.other m hm hr hp]

end Stocks

/-- a session in which the next number has been taken. -/
def numbering (s : Session) : Session := s.tally fun c => { c with figures := c.figures + 1 }

section
variable (hcache : g.settings.imageCache = true) (h : g.Kept q d₀ s.disk)
include hcache h

theorem keep_stocks (t : Text) :
    g.Stocks q d₀ (.keyed t) (g.locate t).1 false s (g.keep t s) :=
  have hk : g.Kept q d₀ (s.record (g.locate t).2).disk := h
  (ensure_stocks (.keyed t) _ _ hcache hk trivial).of_record

theorem inline_stocks (t : Text) :
    g.Stocks q d₀ (.keyed t) (g.locate t).1 false s (g.inline t s).2 := by
  have hk : g.Kept q d₀ (s.record (g.detail 1 ("Inline image ".toList ++ t ++ " -> ".toList
    ++ g.place (Slot.keyed t).png))).disk := h
  exact (keep_stocks hcache hk t).of_record.record

theorem icon_stocks (t : Text) :
    g.Stocks q d₀ (.keyed t) (g.locate t).1 false s (g.icon t s).2 :=
  keep_stocks hcache h t

/-- a figure takes its number before its picture is seen to. -/
theorem figure_stocks (source : Source) (hn : s.counts.figures + 1 < 10 ^ 31) :
    g.Stocks q d₀ (.numbered (s.counts.figures + 1)) source true (numbering s)
      (g.figure source s).2 := by
  have hk : g.Kept q d₀ ((numbering s).record (g.detail 1 ("Figure ".toList
    ++ Text.ofNat (s.counts.figures + 1) ++ ": ".toList ++ source.shown ++ " -> ".toList
      ++ g.place (Slot.numbered (s.counts.figures + 1)).png))).disk := h
  exact (ensure_stocks (.numbered _) _ _ hcache hk hn).of_record

theorem placeholder_stocks :
    g.Stocks q d₀ .logo (.remote placeholderUrl) false s (g.placeholder s).2 :=
  ensure_stocks .logo _ _ hcache h trivial

end

end Gallery

end Bookpress
