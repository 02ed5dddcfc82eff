import Bookpress.Proofs.Gallery.Stock

/-!
# Opening a picture folder

What work with a picture folder starts from: a folder that is there, with nothing in it, and
sources that are somewhere else.

* `World.Steady` : downloads are answered in the same way at all times.
* `Outside.readable` : a file outside of the folder is read as it was at the start.
* `pngOf_steady` : so the picture that is made from a source is the same at all times.
* `open_of_folder` : a folder that is there is opened as it is.
* `Terms.keyed_of_raw_eq` : a name under a digest tells the text.
-/

namespace Bookpress

/-- a world in which downloads are answered in the same way at all times. -/
def World.Steady (w : World) : Prop := ∀ m n url, w.answer m url = w.answer n url

/-- the path of a source on the disk. -/
def Source.file? : Source → Option Path
  | .remote _ => none
  | .file p => some p

/-- what the runs over a picture folder go by. -/
structure Terms (g : Gallery) (K : Text → Prop) : Prop where
  cache : g.settings.imageCache = true
  steady : g.world.Steady
  /-- the texts have digests of their own. -/
  distinct : ∀ t u, K t → K u → cacheKey t = cacheKey u → t = u

/-- names under a digest differ from those of other slots. -/
theorem Terms.keyed_of_raw_eq {g : Gallery} {K : Text → Prop} (hT : Terms g K) {σ : Slot}
    (hσ : σ.Fits) (hK : ∀ u, σ = .keyed u → K u) {t : Text} (ht : K t)
    (h : (Slot.keyed t).raw = σ.raw) : σ = .keyed t := by
  obtain h | ⟨u, v, hu, hv, huv⟩ := Slot.eq_or_collide (σ := .keyed t) trivial hσ h
  · exact h.symm
  · cases hu
    rw [hv, hT.distinct t v ht (hK v hv) huv]

namespace Gallery

/-- the picture folder is there, and nothing is in it. -/
def Vacant (g : Gallery) (d : Disk) : Prop :=
  ∃ q, d.locate g.folder = .ok q ∧ d.get? q = some .folder ∧
    ∀ name rest, d.get? (q ++ name :: rest) = none

/-- a path does not lead into the picture folder. -/
def Outside (g : Gallery) (d : Disk) (p : Path) : Prop :=
  ∀ q r, d.locate g.folder = .ok q → d.locate p = .ok r → ∀ name rest, r ≠ q ++ name :: rest

/-! ## sources -/

section
variable {g : Gallery} {q : Place} {d₀ d : Disk} {p : Path} {s s₀ : Session} {σ : Slot}
  {source : Source} {trim : Bool}

theorem Outside.readable (h : g.Outside d₀ p) (hk : g.Kept q d₀ d) :
    (d.read p).toOption = (d₀.read p).toOption :=
  hk.alike.readable fun name hp => h q _ hk.located hp name [] rfl

theorem rawOf_steady (h : g.world.Steady) (s s₀ : Session) (σ : Slot) (source : Source) :
    g.rawOf s σ source = g.rawOf s₀ σ source := by
  cases source with
  | remote url => rw [rawOf, rawOf, answered, answered, h s.requests s₀.requests]
  | file p => rfl

theorem pngOf_steady (h : g.world.Steady) (hk : g.Kept q s₀.disk s.disk)
    (ho : ∀ p ∈ source.file?, g.Outside s₀.disk p) :
    g.pngOf s σ source trim = g.pngOf s₀ σ source trim := by
  have hb : g.bytesOf s σ source = g.bytesOf s₀ σ source := by
    cases source with
    | remote url => exact rawOf_steady h s s₀ σ (.remote url)
    | file p => exact (ho p rfl).readable hk
  rw [pngOf, pngOf, hb]

end

/-! ## the folder at the start -/

section
variable {g : Gallery} {q : Place} {d₀ d : Disk} {s : Session}

/-- opening a folder that is there starts with the disk as it is. -/
theorem open_of_folder (h : d.look? g.folder = some .folder) :
    Session.open g d = .ok (.start d) := by
  rw [Session.open, Disk.makeFolders_of_folder h]
  rfl

theorem start_of_open (h : Session.open g d = .ok s) : s = .start s.disk := by
  unfold Session.open at h
  cases hd : d.makeFolders g.folder with
  | error e => simp [hd, Except.map] at h
  | ok d' =>
    simp only [hd, Except.map, Except.ok.injEq] at h
    rw [← h]
    rfl

theorem Kept.open (h : g.Kept q d₀ d) : Session.open g d = .ok (.start d) := by
  refine open_of_folder ?_
  unfold Disk.look?
  simp only [h.again.located, h.again.folder]

/-- **Nothing is held in an empty folder.** -/
theorem Vacant.exists_held (h : g.Vacant d) :
    ∃ q, g.Kept q d d ∧ ∀ m, IsName m → g.held d m = none := by
  obtain ⟨q, hq, hf, hempty⟩ := h
  have hk : g.Kept q d d := ⟨hq, hf, .refl fun name => by simp [hempty name []]⟩
  refine ⟨q, hk, fun m hm => Option.eq_none_iff_forall_ne_some.2 fun b hb => ?_⟩
  have := ((hk.held_eq_some hm).1 hb).2
  rw [hempty m []] at this
  cases this

end

end Gallery
end Bookpress
