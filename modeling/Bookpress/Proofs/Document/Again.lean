import Bookpress.Conversion.Basic
import Bookpress.Proofs.Document.Orders
import Bookpress.Proofs.Gallery.Opening

/-!
# Composing a document again

A document that is composed again over the picture folder that its first composition has left is
the same document, and nothing that is there is downloaded again.  Every file under a digest is
what its text stands for, whichever order has put it there, and every numbered picture is the one
of the first run; so both runs see the same pictures, and their plans take the same turns.

* `Sound.serve` : no order puts a wrong file under a digest.
* `Plan.held_run` : a plan leaves the pictures alone that have their numbers already.
* `Plan.run_again` : a plan has the same result over the stock of its first run.
* `Document.compose_again` : a document that is composed again.
-/

namespace Bookpress

namespace Gallery

theorem isPrefixOf_of_eq {a p b : Text} (h : a = p ++ b) (c e : Text) :
    p.isPrefixOf (a ++ c ++ e) = true := by
  subst h
  rw [List.isPrefixOf_iff_prefix, List.append_assoc, List.append_assoc]
  exact List.prefix_append _ _

/-- the pictures of videos are links. -/
theorem isLink_thumbnailUrl (id : Text) : isLink (Element.thumbnailUrl id) = true := by
  have hfront : "http://img.youtube.com/vi/".toList
      = "http://".toList ++ "img.youtube.com/vi/".toList := by
    rw [← String.toList_append]
    exact congrArg String.toList rfl
  have hhttp : "http://".toList.isPrefixOf (Element.thumbnailUrl id) = true :=
    isPrefixOf_of_eq hfront id _
  unfold isLink
  rw [hhttp, Bool.true_or, Bool.true_or]

theorem locate_thumbnailUrl (g : Gallery) (id : Text) :
    (g.locate (Element.thumbnailUrl id)).1 = .remote (Element.thumbnailUrl id) := by
  rw [locate_of_isLink g (isLink_thumbnailUrl id)]

/-! ## what is under a digest -/

/-- every file under the digest of one of the texts `K` is what the text stands for. -/
structure Sound (g : Gallery) (q : Place) (s₀ : Session) (K : Text → Prop) (s : Session) :
    Prop where
  kept : g.Kept q s₀.disk s.disk
  raw : ∀ t, K t → ∀ b, g.held s.disk (Slot.keyed t).raw = some b →
    g.rawOf s₀ (.keyed t) (g.locate t).1 = some b
  png : ∀ t, K t → ∀ b, g.held s.disk (Slot.keyed t).png = some b →
    g.pngOf s₀ (.keyed t) (g.locate t).1 false = some b

end Gallery

namespace Order

open Gallery

/-- the text whose digest an order goes by. -/
def text? : Order → Option Text
  | .inline t => some t
  | .icon t => some t
  | .figure _ => none
  | .video id => some (Element.thumbnailUrl id)
  | .logo => none

/-- the file that an order is to be served from, if the page names one. -/
def file? (g : Gallery) : Order → Option Path
  | .inline t => (g.locate t).1.file?
  | .icon t => (g.locate t).1.file?
  | .figure source => source.file?
  | .video _ => none
  | .logo => none

/-- the picture that is made for an order, if the next number is `n`. -/
def made (g : Gallery) (s₀ : Session) (n : Nat) : Order → Option ByteArray
  | .inline t => g.pngOf s₀ (.keyed t) (g.locate t).1 false
  | .icon t => g.pngOf s₀ (.keyed t) (g.locate t).1 false
  | .figure source => g.pngOf s₀ (.numbered n) source true
  | .video id =>
    g.storable (Slot.numbered n).png
      ((g.rawOf s₀ (.keyed (Element.thumbnailUrl id)) (.remote (Element.thumbnailUrl id))).bind
        (Picture.normal? true))
  | .logo => g.pngOf s₀ .logo (.remote placeholderUrl) false

/-- an order goes by one of the texts `K`, and is not served from the picture folder. -/
structure Allowed (g : Gallery) (s₀ : Session) (K : Text → Prop) (o : Order) : Prop where
  text : ∀ t ∈ o.text?, K t
  file : ∀ p ∈ o.file? g, g.Outside s₀.disk p

end Order

namespace Gallery.Sound

variable {g : Gallery} {q : Place} {s₀ s s' : Session} {K : Text → Prop} {σ : Slot}
  {source : Source} {trim : Bool}

theorem numbering (hS : g.Sound q s₀ K s) : g.Sound q s₀ K (numbering s) :=
  ⟨hS.kept, hS.raw, hS.png⟩

/-- **Seeing to a picture puts no wrong file under a digest.** -/
theorem of_stocks (hT : Terms g K) (hS : g.Sound q s₀ K s)
    (h : g.Stocks q s₀.disk σ source trim s s') (hσ : σ.Fits)
    (hkey : ∀ t, σ = .keyed t →
      K t ∧ source = (g.locate t).1 ∧ trim = false ∧ ∀ p ∈ source.file?, g.Outside s₀.disk p) :
    g.Sound q s₀ K s' where
  kept := h.kept
  raw t ht b hb := by
    by_cases he : (Slot.keyed t).raw = σ.raw
    · obtain rfl := hT.keyed_of_raw_eq hσ (fun u hu => (hkey u hu).1) ht he
      obtain ⟨-, rfl, -, -⟩ := hkey t rfl
      rw [h.raw] at hb
      split at hb
      · exact hS.raw t ht b hb
      · obtain hb | ⟨-, hb⟩ := Option.or_eq_some_iff.1 hb
        · rwa [rawOf_steady hT.steady s₀ s]
        · exact hS.raw t ht b hb
    · rw [h.other _ (Slot.isName_keyed _) he Slot.raw_ne_png] at hb
      exact hS.raw t ht b hb
  png t ht b hb := by
    by_cases he : (Slot.keyed t).raw = σ.raw
    · obtain rfl := hT.keyed_of_raw_eq hσ (fun u hu => (hkey u hu).1) ht he
      obtain ⟨-, rfl, rfl, ho⟩ := hkey t rfl
      rw [h.png] at hb
      obtain hb | ⟨-, hb⟩ := Option.or_eq_some_iff.1 hb
      · exact hS.png t ht b hb
      · rwa [pngOf_steady hT.steady hS.kept ho] at hb
    · rw [h.other _ (Slot.isName_keyed_png _) (fun e => Slot.raw_ne_png e.symm)
        (fun e => he (Slot.png_inj.1 e))] at hb
      exact hS.png t ht b hb

/-- **Nor does a thumbnail**, and it is there in the end if it can be had. -/
theorem thumbnail (hT : Terms g K) (hS : g.Sound q s₀ K s) {url : Text} (hK : K url)
    (hurl : (g.locate url).1 = .remote url) :
    g.Sound q s₀ K (g.thumbnail url s).2 ∧
      g.held (g.thumbnail url s).2.disk (Slot.keyed url).raw
        = g.rawOf s₀ (.keyed url) (.remote url) := by
  obtain ⟨hk, hm, -⟩ := thumbnail_puts (s := s) url hT.cache hS.kept
  have hraw := hm _ (Slot.isName_keyed url)
  rw [if_pos rfl, rawOf_steady hT.steady s s₀] at hraw
  have hthere : g.held (g.thumbnail url s).2.disk (Slot.keyed url).raw
      = g.rawOf s₀ (.keyed url) (.remote url) := by
    rw [hraw]
    cases hx : g.held s.disk (Slot.keyed url).raw with
    | none => rw [Option.none_or]
    | some b => rw [Option.some_or, ← hurl, hS.raw url hK b hx]
  refine ⟨⟨hk, fun t ht b hb => ?_, fun t ht b hb => ?_⟩, hthere⟩
  · by_cases he : (Slot.keyed t).raw = (Slot.keyed url).raw
    · obtain rfl := hT.distinct t url ht hK he
      rwa [hthere, ← hurl] at hb
    · rw [hm _ (Slot.isName_keyed _), if_neg he] at hb
      exact hS.raw t ht b hb
  · rw [hm _ (Slot.isName_keyed_png _), if_neg fun e => Slot.raw_ne_png e.symm] at hb
    exact hS.png t ht b hb

end Gallery.Sound

/-! ## one order -/

namespace Order

open Gallery

variable {g : Gallery} {q : Place} {s₀ s : Session} {K : Text → Prop} {o : Order}

/-- **No order puts a wrong file under a digest.** -/
theorem sound_serve (hT : Terms g K) (hS : g.Sound q s₀ K s) (ha : o.Allowed g s₀ K)
    (hfits : (o.slot s).Fits) : g.Sound q s₀ K ((o.serve g).run s).2 := by
  cases o with
  | inline t =>
    exact hS.of_stocks hT (inline_stocks hT.cache hS.kept t) trivial fun u hu => by
      cases hu
      exact ⟨ha.text t rfl, rfl, rfl, ha.file⟩
  | icon t =>
    exact hS.of_stocks hT (icon_stocks hT.cache hS.kept t) trivial fun u hu => by
      cases hu
      exact ⟨ha.text t rfl, rfl, rfl, ha.file⟩
  | figure source =>
    have hs := figure_stocks hT.cache hS.kept source hfits
    exact hS.numbering.of_stocks hT hs hfits fun u hu => Slot.noConfusion hu
  | video id =>
    have hn := figures_thumbnail g (Element.thumbnailUrl id) s
    obtain ⟨hS', -⟩ := hS.thumbnail hT (ha.text _ rfl) (locate_thumbnailUrl g id)
    have hs := figure_stocks hT.cache hS'.kept
      (.file (g.thumbnail (Element.thumbnailUrl id) s).1) (by rwa [hn])
    exact hS'.numbering.of_stocks hT hs (by rwa [hn]) fun u hu => Slot.noConfusion hu
  | logo =>
    exact hS.of_stocks hT (placeholder_stocks hT.cache hS.kept) trivial
      fun u hu => Slot.noConfusion hu

/-- **What is in the slot of an order in the end**: what was there, or what is made for it. -/
theorem held_serve (hT : Terms g K) (hS : g.Sound q s₀ K s) (ha : o.Allowed g s₀ K)
    (hfits : (o.slot s).Fits) :
    g.held ((o.serve g).run s).2.disk (o.slot s).png =
      (g.held s.disk (o.slot s).png).or (o.made g s₀ (s.counts.figures + 1)) := by
  cases o with
  | inline t =>
    refine (inline_stocks hT.cache hS.kept t).png.trans ?_
    rw [pngOf_steady hT.steady hS.kept ha.file]
    rfl
  | icon t =>
    refine (icon_stocks hT.cache hS.kept t).png.trans ?_
    rw [pngOf_steady hT.steady hS.kept ha.file]
    rfl
  | figure source =>
    refine (figure_stocks hT.cache hS.kept source hfits).png.trans ?_
    rw [pngOf_steady hT.steady hS.numbering.kept ha.file]
    rfl
  | video id =>
    have hn := figures_thumbnail g (Element.thumbnailUrl id) s
    obtain ⟨hS', hthere⟩ := hS.thumbnail hT (ha.text _ rfl) (locate_thumbnailUrl g id)
    have hs := figure_stocks hT.cache hS'.kept
      (.file (g.thumbnail (Element.thumbnailUrl id) s).1) (by rwa [hn])
    -- the figure is made from the thumbnail, which has left all pictures alone
    have hbytes : g.bytesOf (numbering (g.thumbnail (Element.thumbnailUrl id) s).2)
        (.numbered (s.counts.figures + 1)) (.file (g.thumbnail (Element.thumbnailUrl id) s).1)
        = g.rawOf s₀ (.keyed (Element.thumbnailUrl id)) (.remote (Element.thumbnailUrl id)) := by
      rw [← hthere, path_thumbnail]
      rfl
    obtain ⟨-, hm, -⟩ := thumbnail_puts (s := s) (Element.thumbnailUrl id) hT.cache hS.kept
    have hpng := hm _ (Slot.isName_png hfits)
    rw [if_neg fun e => Slot.raw_ne_png e.symm] at hpng
    rw [hn] at hs
    refine hs.png.trans ?_
    rw [pngOf, hbytes]
    exact congrArg (Option.or · _) hpng
  | logo =>
    refine (placeholder_stocks hT.cache hS.kept).png.trans ?_
    have hlink : ∀ p ∈ (Source.remote placeholderUrl).file?, g.Outside s₀.disk p :=
      fun p hp => absurd hp (Option.not_mem_none p)
    rw [pngOf_steady hT.steady hS.kept hlink]
    rfl

theorem slot_congr {u : Session} (h : u.counts.figures = s.counts.figures) :
    o.slot u = o.slot s := by
  cases o <;> simp only [slot, h]

theorem fits_slot (h : s.counts.figures + o.isNumbered.toNat < 10 ^ 31) : (o.slot s).Fits := by
  cases o with
  | figure source => exact h
  | video id => exact h
  | _ => exact trivial

theorem isName_wanted (h : (o.slot s).Fits) : IsName (o.wanted s) := by
  cases o with
  | video id => exact Slot.isName_keyed _
  | _ => exact Slot.isName_png h

/-- an order leaves the picture of a number alone that is not the next one. -/
theorem numbered_ne_slot {n : Nat} (hn : n < 10 ^ 31)
    (h : o.isNumbered = true → n ≠ s.counts.figures + 1) :
    (Slot.numbered n).png ≠ (o.slot s).png := fun e => by
  have e := Slot.png_inj.1 e
  cases o with
  | inline t => exact Slot.keyed_ne_numbered t hn e.symm
  | icon t => exact Slot.keyed_ne_numbered t hn e.symm
  | figure source => exact h rfl (Text.ofNat_injective e)
  | video id => exact h rfl (Text.ofNat_injective e)
  | logo => exact Slot.numbered_ne_logo n e

end Order

/-! ## two runs -/

/-- a session `u` of the second run that has come as far as the session `s` of the first, which
leaves the disk `d` in the end. -/
structure Follows (g : Gallery) (q : Place) (s₀ : Session) (K : Text → Prop) (d : Disk)
    (s u : Session) : Prop where
  first : g.Sound q s₀ K s
  second : g.Sound q s₀ K u
  last : g.Kept q s₀.disk d
  figures : u.counts.figures = s.counts.figures
  /-- the first run has no pictures ahead of its numbers. -/
  fresh : ∀ n, s.counts.figures < n → n < 10 ^ 31 → g.held s.disk (Slot.numbered n).png = none
  /-- the second run has those that the first one leaves. -/
  ahead : ∀ n, s.counts.figures < n → n < 10 ^ 31 →
    g.held u.disk (Slot.numbered n).png = g.held d (Slot.numbered n).png
  there : ∀ m, IsName m → (g.held d m).isSome → (g.held u.disk m).isSome

namespace Follows

variable {g : Gallery} {q : Place} {s₀ s u : Session} {K : Text → Prop} {d : Disk} {o : Order}

/-- a picture that is there already is the one that is made. -/
theorem or_eq_of_sound {x y : Option ByteArray} (h : ∀ b, x = some b → y = some b) :
    x.or y = y := by
  cases x with
  | none => rfl
  | some b => rw [Option.some_or, h b rfl]

/-- **Both runs get the same reply to an order.** -/
theorem reply (h : Follows g q s₀ K d s u) (hT : Terms g K) (ha : o.Allowed g s₀ K)
    (hfits : (o.slot s).Fits)
    (hlast : o.isNumbered = true →
      g.held d (o.slot s).png = g.held ((o.serve g).run s).2.disk (o.slot s).png) :
    ((o.serve g).run u).1 = ((o.serve g).run s).1 := by
  have hslot := Order.slot_congr (o := o) h.figures
  have hs := Order.held_serve hT h.first ha hfits
  have hu := Order.held_serve hT h.second ha (hslot ▸ hfits)
  rw [hslot, h.figures] at hu
  rw [Order.serve_reply, Order.serve_reply, hslot, h.figures]
  -- a numbered picture is fresh in the first run, and there from it in the second
  have hnumbered : o.isNumbered = true → s.counts.figures + 1 < 10 ^ 31 →
      o.slot s = .numbered (s.counts.figures + 1) →
      g.held ((o.serve g).run u).2.disk (o.slot s).png
        = g.held ((o.serve g).run s).2.disk (o.slot s).png := by
    intro ho hn hnum
    have hmade : g.held ((o.serve g).run s).2.disk (o.slot s).png
        = o.made g s₀ (s.counts.figures + 1) := by
      rw [hs, hnum, h.fresh _ (Nat.lt_succ_self _) hn, Option.none_or]
    have hthere : g.held u.disk (o.slot s).png = o.made g s₀ (s.counts.figures + 1) := by
      rw [← hmade, ← hlast ho, hnum]
      exact h.ahead _ (Nat.lt_succ_self _) hn
    rw [hu, hmade, hthere, Option.or_self]
  cases o with
  | inline t =>
    have hfirst := or_eq_of_sound (h.first.png t (ha.text t rfl))
    have hsecond := or_eq_of_sound (h.second.png t (ha.text t rfl))
    rw [hs.trans hfirst, hu.trans hsecond]
  | icon t => rfl
  | figure source => rw [hnumbered rfl hfits rfl]
  | video id => rw [hnumbered rfl hfits rfl]
  | logo => rfl

/-- **The second run keeps up with the first one.** -/
theorem serve (h : Follows g q s₀ K d s u) (hT : Terms g K) (ha : o.Allowed g s₀ K)
    (hfits : (o.slot s).Fits) :
    Follows g q s₀ K d ((o.serve g).run s).2 ((o.serve g).run u).2 := by
  have hslot := Order.slot_congr (o := o) h.figures
  have hs := Order.serve_served o hT.cache h.first.kept hfits
  have hu := Order.serve_served o hT.cache h.second.kept (hslot ▸ hfits)
  have hnext : ∀ n, ((o.serve g).run s).2.counts.figures < n → s.counts.figures < n
      ∧ (o.isNumbered = true → n ≠ s.counts.figures + 1) := by
    intro n hn
    rw [Order.figures_serve] at hn
    refine ⟨by omega, fun ho => ?_⟩
    rw [ho, Bool.toNat_true] at hn
    omega
  refine ⟨Order.sound_serve hT h.first ha hfits,
    Order.sound_serve hT h.second ha (hslot ▸ hfits), h.last, ?_, fun n hn hmax => ?_,
    fun n hn hmax => ?_, fun m hm hd => hu.grows m hm (h.there m hm hd)⟩
  · rw [Order.figures_serve, Order.figures_serve, h.figures]
  · obtain ⟨hlt, hne⟩ := hnext n hn
    rw [hs.other (.numbered n) hmax (Order.numbered_ne_slot hmax hne)]
    exact h.fresh n hlt hmax
  · obtain ⟨hlt, hne⟩ := hnext n hn
    rw [hu.other (.numbered n) hmax (hslot ▸ Order.numbered_ne_slot hmax hne)]
    exact h.ahead n hlt hmax

/-- **The second run does not ask for what the first one leaves.** -/
theorem quiet (h : Follows g q s₀ K d s u) (hT : Terms g K) (hfits : (o.slot s).Fits)
    (hd : d.exists? (g.place (o.wanted u)) = true) :
    ((o.serve g).run u).2.requests = u.requests := by
  have hslot := Order.slot_congr (o := o) h.figures
  have hname := Order.isName_wanted (o := o) (s := u) (hslot ▸ hfits)
  rw [h.last.exists?_place hname] at hd
  exact (Order.serve_served o hT.cache h.second.kept (hslot ▸ hfits)).quiet (h.there _ hname hd)

end Follows

namespace Plan

variable {α : Type} {g : Gallery} {q : Place} {s₀ s u : Session} {K : Text → Prop} {d : Disk}

theorem figures_le_run (g : Gallery) (p : Plan α) (s : Session) :
    s.counts.figures ≤ ((p.run g).run s).2.counts.figures := by
  induction p generalizing s with
  | done a => exact Nat.le_refl _
  | note es next ih => exact ih (s.record es)
  | ask o next ih =>
    rw [run_ask]
    refine Nat.le_trans ?_ (ih _ _)
    rw [Order.figures_serve]
    omega

/-- the numbers that a plan gives out are short, if the last one is. -/
theorem fits_of_run {o : Order} {next : o.Reply → Plan α}
    (h : (((ask o next).run g).run s).2.counts.figures < 10 ^ 31) : (o.slot s).Fits := by
  rw [run_ask] at h
  have := figures_le_run g (next ((o.serve g).run s).1) ((o.serve g).run s).2
  rw [Order.figures_serve] at this
  exact Order.fits_slot (by omega)

/-- **A plan puts no wrong file under a digest.** -/
theorem sound_run (hT : Terms g K) (p : Plan α) (hS : g.Sound q s₀ K s)
    (ha : ∀ x ∈ p.trace g s, x.1.Allowed g s₀ K)
    (hmax : ((p.run g).run s).2.counts.figures < 10 ^ 31) :
    g.Sound q s₀ K ((p.run g).run s).2 := by
  induction p generalizing s with
  | done a => exact hS
  | note es next ih => exact ih (s := s.record es) ⟨hS.kept, hS.raw, hS.png⟩ ha hmax
  | ask o next ih =>
    have hfits := fits_of_run hmax
    obtain ⟨ho, ha⟩ := List.forall_mem_cons.1 ha
    exact ih _ (Order.sound_serve hT hS ho hfits) ha hmax

/-- **A plan leaves the pictures alone that have their numbers already.** -/
theorem held_run (hcache : g.settings.imageCache = true) (p : Plan α)
    (hk : g.Kept q s₀.disk s.disk) (hmax : ((p.run g).run s).2.counts.figures < 10 ^ 31) {n : Nat}
    (hn : n ≤ s.counts.figures) :
    g.held ((p.run g).run s).2.disk (Slot.numbered n).png
      = g.held s.disk (Slot.numbered n).png := by
  induction p generalizing s with
  | done a => rfl
  | note es next ih => exact ih (s := s.record es) hk hmax hn
  | ask o next ih =>
    have hserved := Order.serve_served o hcache hk (fits_of_run hmax)
    have hshort : n < 10 ^ 31 :=
      Nat.lt_of_le_of_lt (Nat.le_trans hn (figures_le_run g (ask o next) s)) hmax
    have hmore := Order.figures_serve g o s
    have hrest := ih ((o.serve g).run s).1 hserved.kept hmax (by omega)
    rw [run_ask, hrest]
    exact hserved.other (.numbered n) hshort
      (Order.numbered_ne_slot hshort fun _ => by omega)

/-- **A plan has the same result over the stock of its first run**, and asks for nothing that the
first run leaves. -/
theorem run_again (hT : Terms g K) (p : Plan α)
    (h : Follows g q s₀ K ((p.run g).run s).2.disk s u)
    (ha : ∀ x ∈ p.trace g s, x.1.Allowed g s₀ K)
    (hmax : ((p.run g).run s).2.counts.figures < 10 ^ 31) :
    ((p.run g).run u).1 = ((p.run g).run s).1 ∧
      ∀ x ∈ p.trace g u,
        ((p.run g).run s).2.disk.exists? (g.place (x.1.wanted x.2)) = true →
          ((x.1.serve g).run x.2).2.requests = x.2.requests := by
  induction p generalizing s u with
  | done a => exact ⟨rfl, fun x hx => absurd hx List.not_mem_nil⟩
  | note es next ih =>
    exact ih (s := s.record es) (u := u.record es)
      ⟨⟨h.first.kept, h.first.raw, h.first.png⟩, ⟨h.second.kept, h.second.raw, h.second.png⟩,
        h.last, h.figures, h.fresh, h.ahead, h.there⟩ ha hmax
  | ask o next ih =>
    have hfits := fits_of_run hmax
    obtain ⟨ho, ha⟩ := List.forall_mem_cons.1 ha
    have hserved := Order.serve_served o hT.cache h.first.kept hfits
    -- the picture of a number that has been taken is not touched again
    have hlast : o.isNumbered = true →
        g.held (((ask o next).run g).run s).2.disk (o.slot s).png
          = g.held ((o.serve g).run s).2.disk (o.slot s).png := by
      intro hnum
      have hslot : o.slot s = .numbered (s.counts.figures + 1) := by
        cases o <;> first | rfl | cases hnum
      have hmore := Order.figures_serve g o s
      rw [hnum, Bool.toNat_true] at hmore
      rw [hslot]
      exact held_run hT.cache _ hserved.kept hmax (by omega)
    have hreply := h.reply hT ho hfits hlast
    obtain ⟨hresult, hquiet⟩ := ih ((o.serve g).run s).1 (h.serve hT ho hfits) ha hmax
    refine ⟨?_, List.forall_mem_cons.2 ⟨h.quiet hT hfits, ?_⟩⟩
    · rw [run_ask, run_ask, hreply]
      exact hresult
    · rw [hreply]
      exact hquiet

end Plan

/-! ## the folder at the start of a run -/

/-- **Nothing is held in an empty folder**, so nothing wrong is. -/
theorem Gallery.Vacant.exists_kept {g : Gallery} {s : Session} {K : Text → Prop}
    (h : g.Vacant s.disk) :
    ∃ q, g.Kept q s.disk s.disk ∧ (∀ m, IsName m → g.held s.disk m = none) ∧
      g.Sound q s K s := by
  obtain ⟨q, hk, hnone⟩ := h.exists_held
  refine ⟨q, hk, hnone, hk, fun t _ b hb => ?_, fun t _ b hb => ?_⟩
  · rw [hnone _ (Slot.isName_keyed t)] at hb
    cases hb
  · rw [hnone _ (Slot.isName_keyed_png t)] at hb
    cases hb

/-! ## composing a document again -/

namespace Plan

variable {α : Type} (g : Gallery) (p : Plan α) (s : Session)

/-- the orders that a plan makes. -/
def orders : List Order := (p.trace g s).map Prod.fst

/-- the texts whose digests the orders of a plan go by. -/
def texts : List Text := (p.orders g s).filterMap Order.text?

/-- the files on the page's side that the orders of a plan are to be served from. -/
def files : List Path := (p.orders g s).filterMap (Order.file? g)

/-- **The last number is the number of orders that take one.** -/
theorem figures_run :
    ((p.run g).run s).2.counts.figures =
      s.counts.figures + (p.orders g s).countP Order.isNumbered := by
  induction p generalizing s with
  | done a => rfl
  | note es next ih => exact ih (s.record es)
  | ask o next ih =>
    have horders : (ask o next).orders g s =
        o :: (next ((o.serve g).run s).1).orders g ((o.serve g).run s).2 := rfl
    rw [run_ask, ih, Order.figures_serve, horders, List.countP_cons]
    cases o.isNumbered with
    | false => simp
    | true => simp; omega

variable {g p s}

/-- **A plan that is run again over the folder that its first run leaves**, which was empty
before. -/
theorem run_twice {d : Disk} (hopen : Session.open g d = .ok s) (hvacant : g.Vacant s.disk)
    (hcache : g.settings.imageCache = true) (hsteady : g.world.Steady)
    (houtside : ∀ path ∈ p.files g s, g.Outside s.disk path)
    (hdigests : ∀ t ∈ p.texts g s, ∀ u ∈ p.texts g s, cacheKey t = cacheKey u → t = u)
    (hfigures : ((p.run g).run s).2.counts.figures < 10 ^ 31) :
    ∃ u, Session.open g ((p.run g).run s).2.disk = .ok u ∧
      ((p.run g).run u).1 = ((p.run g).run s).1 ∧
      ∀ x ∈ p.trace g u,
        ((p.run g).run s).2.disk.exists? (g.place (x.1.wanted x.2)) = true →
          ((x.1.serve g).run x.2).2.requests = x.2.requests := by
  have hT : Terms g (· ∈ p.texts g s) := ⟨hcache, hsteady, fun t u ht hu => hdigests t ht u hu⟩
  have ha : ∀ x ∈ p.trace g s, x.1.Allowed g s (· ∈ p.texts g s) :=
    fun x hx => ⟨fun t ht => List.mem_filterMap.2 ⟨x.1, List.mem_map_of_mem hx, ht⟩,
      fun path hp => houtside path (List.mem_filterMap.2 ⟨x.1, List.mem_map_of_mem hx, hp⟩)⟩
  obtain ⟨q, hk, hnone, hS⟩ := hvacant.exists_kept (K := (· ∈ p.texts g s))
  have hlast := sound_run hT p hS ha hfigures
  have hstart : s.counts.figures = 0 := by
    rw [Gallery.start_of_open hopen]
    rfl
  have hF : Follows g q s (· ∈ p.texts g s) ((p.run g).run s).2.disk s
      (.start ((p.run g).run s).2.disk) :=
    ⟨hS, ⟨hlast.kept, hlast.raw, hlast.png⟩, hlast.kept, hstart.symm,
      fun n _ hn => hnone _ (Slot.isName_png hn), fun _ _ _ => rfl, fun _ _ h => h⟩
  exact ⟨_, hlast.kept.open, run_again hT p hF ha hfigures⟩

end Plan

namespace Document

/-- the LaTeX of a document has nothing to do with the counts of its pictures. -/
theorem latex_ofDocument (settings : Settings) (stamp : Text) (d : Document) (r : Report)
    (c : Counts) :
    (Conversion.ofDocument settings stamp d r c).latex
      = Conversion.finish settings (d.toText settings stamp) :=
  rfl

/-- what is the same when the document of a book is composed in the session `s`, and in the
session `u` with the picture folder that this leaves. -/
structure Again (g : Gallery) (b : Book) (s u : Session) : Prop where
  result : ((compose g b).run u).1 = ((compose g b).run s).1
  latex : ∀ stamp,
    (Conversion.ofDocument g.settings stamp ((compose g b).run u).1.1 ((compose g b).run u).1.2
        ((compose g b).run u).2.counts).latex =
      (Conversion.ofDocument g.settings stamp ((compose g b).run s).1.1 ((compose g b).run s).1.2
        ((compose g b).run s).2.counts).latex
  /-- an order whose file has been left asks for no download. -/
  spared : ∀ x ∈ (plan g b).trace g u,
    ((compose g b).run s).2.disk.exists? (g.place (x.1.wanted x.2)) = true →
      ((x.1.serve g).run x.2).2.requests = x.2.requests

/-- **A document that is composed again is the same document**, and nothing that is there is
downloaded again: if pictures are taken again, the folder was empty before, no source on the page
lies in it, downloads are answered in the same way at all times, and the texts on the page have
digests of their own.  Numbers of figures are shorter than digests. -/
theorem compose_again {g : Gallery} {b : Book} {d : Disk} {s : Session}
    (hopen : Session.open g d = .ok s) (hvacant : g.Vacant s.disk)
    (hcache : g.settings.imageCache = true) (hsteady : g.world.Steady)
    (houtside : ∀ p ∈ (plan g b).files g s, g.Outside s.disk p)
    (hdigests : ∀ t ∈ (plan g b).texts g s, ∀ u ∈ (plan g b).texts g s,
      cacheKey t = cacheKey u → t = u)
    (hfigures : ((compose g b).run s).2.counts.figures < 10 ^ 31) :
    ∃ u, Session.open g ((compose g b).run s).2.disk = .ok u ∧ Again g b s u := by
  have hrun := run_plan g b
  obtain ⟨u, hu, hresult, hspared⟩ := Plan.run_twice hopen hvacant hcache hsteady houtside hdigests
    (hrun ▸ hfigures)
  rw [hrun] at hu hresult hspared
  refine ⟨u, hu, hresult, fun stamp => ?_, hspared⟩
  rw [latex_ofDocument, latex_ofDocument, hresult]

/-! ### a book with videos -/

/-- the addresses of two thumbnails. -/
def thumbnails : List Text := ["abc".toList, "def".toList].map Element.thumbnailUrl

/-- a gallery to which thumbnails are sent, which are no pictures, and nothing else. -/
def thumbnailGallery : Gallery where
  world := ⟨fun _ url => if url ∈ thumbnails then .ok ⟨#[1, 2, 3]⟩ else .error [], fun _ => []⟩
  settings := .standard
  base := .folder "page".toList

/-- a book with a picture, an application without a preview and two videos. -/
def videoBook : Book where
  title := []
  author := ⟨[], []⟩
  date := []
  description := []
  worksheets := [[.image "pic.png".toList none, .applet []],
    [.video "https://x.org/embed/abc".toList, .video "https://x.org/embed/def".toList]]
  menu := []

/-- a disk with the picture of the page, and an empty folder for the pictures of the book. -/
def pageDisk : Disk where
  nodes := [(["images".toList], .folder), (["page".toList], .folder),
    (["page".toList, "pic.png".toList], .file ⟨#[1]⟩)]
  here := []

theorem orders_videoBook :
    (plan thumbnailGallery videoBook).orders thumbnailGallery (.start pageDisk) =
      [.figure (.file "page/pic.png".toList), .logo, .video "abc".toList, .video "def".toList] := by
  decide +kernel

theorem locate_pageDisk : pageDisk.locate thumbnailGallery.folder = .ok ["images".toList] := rfl

theorem images_ne_page : "images".toList ≠ "page".toList := by decide_cbv

theorem vacant_pageDisk : thumbnailGallery.Vacant pageDisk := by
  refine ⟨["images".toList], locate_pageDisk, rfl, fun name rest => ?_⟩
  simp [Disk.get?, pageDisk, List.lookup_cons]

theorem outside_pageDisk : thumbnailGallery.Outside pageDisk "page/pic.png".toList := by
  intro q r hq hr name rest e
  have hpic : pageDisk.locate "page/pic.png".toList = .ok ["page".toList, "pic.png".toList] := rfl
  rw [locate_pageDisk] at hq
  rw [hpic] at hr
  cases hq
  cases hr
  exact images_ne_page (List.cons.inj e).1.symm

/-- **The book with the videos is composed again.** -/
theorem compose_again_videoBook :
    ∃ u, Session.open thumbnailGallery
        ((compose thumbnailGallery videoBook).run (.start pageDisk)).2.disk = .ok u ∧
      Again thumbnailGallery videoBook (.start pageDisk) u := by
  have horders := orders_videoBook
  refine compose_again (Gallery.open_of_folder rfl) vacant_pageDisk rfl (fun _ _ _ => rfl) ?_ ?_ ?_
  · have hfiles : (plan thumbnailGallery videoBook).files thumbnailGallery (.start pageDisk)
        = ["page/pic.png".toList] := by
      rw [Plan.files, horders]
      rfl
    rw [hfiles]
    exact List.forall_mem_singleton.2 outside_pageDisk
  · have htexts : (plan thumbnailGallery videoBook).texts thumbnailGallery (.start pageDisk)
        = thumbnails := by
      rw [Plan.texts, horders]
      rfl
    rw [htexts]
    decide +kernel
  · rw [← run_plan, Plan.figures_run, horders]
    decide

end Document
end Bookpress
