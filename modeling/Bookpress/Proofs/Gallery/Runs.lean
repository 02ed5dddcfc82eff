import Bookpress.Proofs.Gallery.Calls

/-!
# Runs over a picture folder

What holds along every row of calls over a folder that was empty, whatever the calls are and
whatever becomes of their downloads.  A call keeps to the files of its own slot.  The source of a
picture in running text gives the same bytes at all times, so the picture is there from its first
call on or never, and what is said of it does not change.

* `Slot.Apart.raw_ne` : slots of different kinds or keys have no file in common.
* `Tended.serve` : a download is the answer to the text that it is kept under.
* `Tended.pngOf_eq` : what is made of a source does not change.
* `held_run` : a picture in running text is there from its first call on or never.
* `run_steadfast` : all of it, for a run.
-/

namespace Bookpress

namespace Slot

variable {σ τ : Slot}

end Slot

/-! ## what a call keeps to -/

namespace Call

variable {g : Gallery} {q : Place} {d₀ : Disk} {s s' : Session} {c : Call}

end Call

/-! ## downloads and what they are the answer to -/

namespace Gallery

variable {g : Gallery} {q : Place} {s₀ s s' : Session} {K : Text → Prop} {ds es cs : List Call}
  {c : Call} {t u : Text}

/-- if a text is the text of a download, it is downloaded as it is. -/
def Direct (g : Gallery) (t : Text) : Prop := ∀ url, (g.locate t).1 = .remote url → url = t

/-- a gallery whose sources may be files has no base that texts are completed with. -/
theorem direct_of_file {p : Path} (h : (g.locate u).1 = .file p) (t : Text) : g.Direct t := by
  intro url ht
  unfold locate at h ht
  split at h
  · cases h
  · split at ht
    · exact (Source.remote.inj ht).symm
    · split at h
      · rename_i hb
        rw [hb] at ht
        cases ht
      · split at h <;> cases h

/-- the calls `ds` have been made: a download is the answer to the text that it is kept under,
and that of a thumbnail is there if it can be had. -/
structure Tended (g : Gallery) (q : Place) (s₀ : Session) (K : Text → Prop) (ds : List Call)
    (s : Session) : Prop where
  kept : g.Kept q s₀.disk s.disk
  raw : ∀ t, K t → g.Direct t → ∀ b, g.held s.disk (Slot.keyed t).raw = some b →
    g.rawOf s₀ (.keyed t) (.remote t) = some b
  seen : ∀ url, .thumbnail url ∈ ds → K url → g.Direct url →
    g.held s.disk (Slot.keyed url).raw = g.rawOf s₀ (.keyed url) (.remote url)

end Gallery

namespace Call

/-- a call goes by one of the texts `K`; it is served from outside of the picture folder, or from
a thumbnail that one of the calls `ds` before it was for. -/
structure Admitted (g : Gallery) (s₀ : Session) (K : Text → Prop) (ds : List Call) (c : Call) :
    Prop where
  text : ∀ t ∈ c.text?, K t
  file : ∀ p ∈ (c.source g).file?, g.Outside s₀.disk p ∨
    ∃ url, .thumbnail url ∈ ds ∧ K url ∧ p = g.place (cacheKey url)

end Call

namespace Gallery.Tended

variable {g : Gallery} {q : Place} {s₀ s s' : Session} {K : Text → Prop} {ds es : List Call}
  {c : Call} {t u : Text}

theorem start (hk : g.Kept q s₀.disk s₀.disk) (hnone : ∀ m, IsName m → g.held s₀.disk m = none) :
    g.Tended q s₀ K [] s₀ where
  kept := hk
  raw t _ _ b hb := by
    rw [hnone _ (Slot.isName_keyed t)] at hb
    cases hb
  seen url hmem := absurd hmem List.not_mem_nil

/-- what is downloaded for a direct text is the answer to it, if anything is downloaded. -/
theorem rawOf_locate (hsteady : g.world.Steady) (ht : g.Direct t) (s s₀ : Session) :
    g.rawOf s (.keyed t) (g.locate t).1 = none ∨
      g.rawOf s (.keyed t) (g.locate t).1 = g.rawOf s₀ (.keyed t) (.remote t) := by
  cases hl : (g.locate t).1 with
  | file p => exact .inl rfl
  | remote url =>
    obtain rfl := ht url hl
    exact .inr (rawOf_steady hsteady s s₀ _ _)

/-- **A call for a picture leaves the downloads right.** -/
theorem of_stocks {σ : Slot} {source : Source} {trim : Bool} {s₁ : Session} (hT : Terms g K)
    (h : g.Tended q s₀ K ds s) (hdisk : s₁.disk = s.disk)
    (hs : g.Stocks q s₀.disk σ source trim s₁ s') (hσ : σ.Fits)
    (hkey : ∀ t, σ = .keyed t → K t ∧ source = (g.locate t).1) : g.Tended q s₀ K ds s' := by
  have hother : ∀ t, K t → (Slot.keyed t).raw ≠ σ.raw →
      g.held s'.disk (Slot.keyed t).raw = g.held s.disk (Slot.keyed t).raw := fun t _ hne => by
    rw [hs.other _ (Slot.isName_keyed t) hne Slot.raw_ne_png, hdisk]
  -- the download of the slot is what was there, or what is downloaded for it now
  have hown : ∀ t, K t → (Slot.keyed t).raw = σ.raw → g.Direct t →
      g.held s'.disk (Slot.keyed t).raw = g.held s.disk (Slot.keyed t).raw ∨
        g.held s'.disk (Slot.keyed t).raw =
          (g.rawOf s₀ (.keyed t) (.remote t)).or (g.held s.disk (Slot.keyed t).raw) := by
    intro t ht he hdirect
    obtain rfl := hT.keyed_of_raw_eq hσ (fun u hu => (hkey u hu).1) ht he
    obtain ⟨-, rfl⟩ := hkey t rfl
    rw [hs.raw, hdisk]
    split
    · exact .inl rfl
    · obtain e | e := rawOf_locate hT.steady hdirect s₁ s₀ <;> rw [e]
      · exact .inl (Option.none_or ..)
      · exact .inr rfl
  refine ⟨hs.kept, fun t ht hdirect b hb => ?_, fun url hmem ht hdirect => ?_⟩
  · by_cases he : (Slot.keyed t).raw = σ.raw
    · obtain e | e := hown t ht he hdirect <;> rw [e] at hb
      · exact h.raw t ht hdirect b hb
      · obtain hb | ⟨-, hb⟩ := Option.or_eq_some_iff.1 hb
        · exact hb
        · exact h.raw t ht hdirect b hb
    · rw [hother t ht he] at hb
      exact h.raw t ht hdirect b hb
  · have hseen := h.seen url hmem ht hdirect
    by_cases he : (Slot.keyed url).raw = σ.raw
    · obtain e | e := hown url ht he hdirect <;> rw [e, hseen]
      exact Option.or_self
    · rw [hother url ht he, hseen]

theorem thumbnail (hT : Terms g K) (h : g.Tended q s₀ K ds s) {url : Text} (hurl : K url) :
    g.Tended q s₀ K (ds ++ [.thumbnail url]) (g.thumbnail url s).2 := by
  obtain ⟨hk, hm, -⟩ := thumbnail_puts (s := s) url hT.cache h.kept
  -- the thumbnail is there in the end if it can be had
  have hthere : g.Direct url → g.held (g.thumbnail url s).2.disk (Slot.keyed url).raw
      = g.rawOf s₀ (.keyed url) (.remote url) := by
    intro hdirect
    rw [hm _ (Slot.isName_keyed url), if_pos rfl, rawOf_steady hT.steady s s₀]
    cases hx : g.held s.disk (Slot.keyed url).raw with
    | none => exact Option.none_or ..
    | some b => rw [Option.some_or, h.raw url hurl hdirect b hx]
  have hother : ∀ t, K t → t ≠ url → g.held (g.thumbnail url s).2.disk (Slot.keyed t).raw
      = g.held s.disk (Slot.keyed t).raw := fun t ht hne => by
    have hkey : (Slot.keyed t).raw ≠ (Slot.keyed url).raw := fun e =>
      hne (hT.distinct t url ht hurl e)
    rw [hm _ (Slot.isName_keyed t), if_neg hkey]
  refine ⟨hk, fun t ht hdirect b hb => ?_, fun v hmem hv hdirect => ?_⟩
  · by_cases he : t = url
    · subst he
      rwa [hthere hdirect] at hb
    · rw [hother t ht he] at hb
      exact h.raw t ht hdirect b hb
  · by_cases he : v = url
    · subst he
      exact hthere hdirect
    · rw [hother v hv he]
      refine h.seen v ?_ hv hdirect
      rcases List.mem_append.1 hmem with hmem | hmem
      · exact hmem
      · exact absurd (Call.thumbnail.inj (List.mem_singleton.1 hmem)) he

/-- **A call leaves the downloads right.** -/
theorem serve (hT : Terms g K) (h : g.Tended q s₀ K ds s) (ha : c.Admitted g s₀ K ds)
    (hfits : (c.slot s).Fits) : g.Tended q s₀ K (ds ++ [c]) (c.serve g s) := by
  cases hc : c.isThumbnail with
  | true =>
    cases c with
    | thumbnail url => exact h.thumbnail hT (ha.text url rfl)
    | _ => cases hc
  | false =>
    have hs := Call.serve_stocks hc hT.cache h.kept hfits
    have h' := h.of_stocks hT (c.disk_counted s) hs hfits fun t ht => by
      refine ⟨ha.text t (Call.slot_keyed ht), ?_⟩
      cases c <;> cases ht <;> first | rfl | cases hc
    refine ⟨h'.kept, h'.raw, fun url hmem => h'.seen url ?_⟩
    rcases List.mem_append.1 hmem with hmem | hmem
    · exact hmem
    · rw [← List.mem_singleton.1 hmem] at hc
      cases hc

/-- **What is made of a source does not change**, if a picture in running text is served from it. -/
theorem pngOf_eq (hT : Terms g K) (h : g.Tended q s₀ K ds s) (h' : g.Tended q s₀ K (ds ++ es) s')
    (ha : (Call.inline u).Admitted g s₀ K ds) :
    g.pngOf s' (.keyed u) (g.locate u).1 false = g.pngOf s (.keyed u) (g.locate u).1 false := by
  have hbytes : g.bytesOf s' (.keyed u) (g.locate u).1 = g.bytesOf s (.keyed u) (g.locate u).1 := by
    cases hl : (g.locate u).1 with
    | remote url => exact rawOf_steady hT.steady s' s (.keyed u) (.remote url)
    | file p =>
      have hdirect := direct_of_file hl
      obtain ho | ⟨url, hmem, hurl, rfl⟩ := ha.file p (by
        show p ∈ (g.locate u).1.file?
        rw [hl]
        rfl)
      · exact (ho.readable h'.kept).trans (ho.readable h.kept).symm
      · -- the file is the download of a thumbnail, which is what it was
        have hseen := h.seen url hmem hurl (hdirect url)
        have hseen' := h'.seen url (List.mem_append_left _ hmem) hurl (hdirect url)
        exact hseen'.trans hseen.symm
  rw [pngOf, pngOf, hbytes]

end Gallery.Tended

/-! ## runs -/

/-- a row of calls over a folder in which nothing is held. -/
structure Course (g : Gallery) (q : Place) (s₀ : Session) (K : Text → Prop) (cs : List Call) :
    Prop where
  terms : Terms g K
  start : g.Tended q s₀ K [] s₀
  admitted : ∀ ds c es, cs = ds ++ c :: es → c.Admitted g s₀ K ds
  numbers : s₀.counts.figures + cs.countP Call.isNumbered < 10 ^ 31

namespace Course

open Gallery

variable {g : Gallery} {q : Place} {s₀ : Session} {K : Text → Prop} {cs ds es fs : List Call}
  {c : Call} {u : Text}

theorem front (h : Course g q s₀ K (ds ++ es)) : Course g q s₀ K ds where
  terms := h.terms
  start := h.start
  admitted ds' c es' e := h.admitted ds' c (es' ++ es) (by simp [e])
  numbers := by
    have := h.numbers
    rw [List.countP_append] at this
    omega

theorem fits (h : Course g q s₀ K (ds ++ c :: es)) : (c.slot (g.run ds s₀)).Fits := by
  refine Call.fits_slot ?_
  have hn := h.numbers
  rw [List.countP_append, List.countP_cons] at hn
  rw [figures_run]
  cases hc : c.isNumbered with
  | true =>
    rw [hc, if_pos rfl] at hn
    rw [Bool.toNat_true]
    omega
  | false =>
    rw [Bool.toNat_false]
    omega

/-- **Along a run the downloads are right.** -/
theorem tended (h : Course g q s₀ K cs) : g.Tended q s₀ K cs (g.run cs s₀) := by
  induction cs using List.reverseRecOn with
  | nil => exact h.start
  | append_singleton cs c ih =>
    rw [run_concat]
    exact (ih h.front).serve h.terms (h.admitted cs c [] rfl) h.fits

/-- **Along a run nothing goes away.** -/
theorem grows (h : Course g q s₀ K (ds ++ es)) {m : Text} (hm : IsName m)
    (hs : (g.held (g.run ds s₀).disk m).isSome) : (g.held (g.run (ds ++ es) s₀).disk m).isSome := by
  induction es using List.reverseRecOn with
  | nil => simpa using hs
  | append_singleton es c ih =>
    rw [← List.append_assoc] at h ⊢
    rw [run_concat]
    exact Call.serve_grows h.terms.cache h.front.tended.kept h.fits hm (ih h.front)

/-- **A picture in running text is there from its first call on or never.** -/
theorem held_run (h : Course g q s₀ K (ds ++ es)) (ha : (Call.inline u).Admitted g s₀ K ds)
    (hfirst : g.held (g.run ds s₀).disk (Slot.keyed u).png = none →
      g.pngOf (g.run ds s₀) (.keyed u) (g.locate u).1 false = none) :
    g.held (g.run (ds ++ es) s₀).disk (Slot.keyed u).png =
      g.held (g.run ds s₀).disk (Slot.keyed u).png := by
  induction es using List.reverseRecOn with
  | nil => simp
  | append_singleton es c ih =>
    rw [← List.append_assoc] at h ⊢
    have ih := ih h.front
    have hk := h.front.tended.kept
    rw [run_concat, ← ih]
    cases hc : c.isThumbnail with
    | true => exact Call.serve_other h.terms.cache hk h.fits trivial fun _ => hc
    | false =>
      by_cases he : (Slot.keyed u).raw = (c.slot (g.run (ds ++ es) s₀)).raw
      · -- another call for the same text, which makes no picture if the first one has made none
        have hslot := h.terms.keyed_of_raw_eq h.fits
          (fun t ht => (h.admitted _ c [] rfl).text t (Call.slot_keyed ht)) (ha.text u rfl) he
        have hs := (Call.serve_stocks hc h.terms.cache hk h.fits).png
        have hsource : c.source g = (g.locate u).1 ∧ c.isTrimmed = false ∧
            c.counted (g.run (ds ++ es) s₀) = g.run (ds ++ es) s₀ := by
          cases c <;> cases hslot <;> first | exact ⟨rfl, rfl, rfl⟩ | cases hc
        rw [hslot, hsource.1, hsource.2.1, hsource.2.2] at hs
        rw [hs]
        cases hx : g.held (g.run (ds ++ es) s₀).disk (Slot.keyed u).png with
        | some b => rfl
        | none =>
          have hnone := hfirst (ih.symm.trans hx)
          rw [← Tended.pngOf_eq h.terms h.front.front.tended h.front.tended ha] at hnone
          rw [hnone, Option.none_or]
      · exact Call.serve_other h.terms.cache hk h.fits trivial fun e => absurd e he

/-- **Once a picture is there, nothing is downloaded for it.** -/
theorem spared (h : Course g q s₀ K (ds ++ c :: es)) (hc : c = .inline u ∨ c = .icon u)
    (hs : (g.held (g.run ds s₀).disk (Slot.keyed u).png).isSome) :
    (g.run (ds ++ [c]) s₀).requests = (g.run ds s₀).requests := by
  have hk := h.front.tended.kept
  rw [run_concat]
  obtain rfl | rfl := hc
  · exact (inline_stocks h.terms.cache hk u).quiet hs
  · exact (icon_stocks h.terms.cache hk u).quiet hs

end Course

/-! ## runs over a folder that was empty -/

namespace Gallery

variable {g : Gallery} {q : Place} {s : Session} {K : Text → Prop} {cs : List Call}

/-- a picture of one point. -/
def point : ByteArray :=
  ⟨#[71, 73, 70, 56, 57, 97, 1, 0, 1, 0, 128, 0, 0, 0, 0, 0, 255, 255, 255, 44, 0, 0, 0, 0, 1, 0, 1,
    0, 0, 2, 2, 68, 1, 0, 59]⟩

/-- the address of a picture. -/
def pointUrl : Text := "http://x.org/a.gif".toList

/-- a gallery to which one picture is sent, and nothing else. -/
def album : Gallery where
  world := ⟨fun _ url => if url = pointUrl then .ok point else .error [], fun _ => []⟩
  settings := .standard
  base := .page "http://x.org/".toList

/-- a disk with an empty folder for the pictures. -/
def albumDisk : Disk where
  nodes := [(["images".toList], .folder)]
  here := []

theorem vacant_albumDisk : album.Vacant albumDisk := by
  refine ⟨["images".toList], rfl, rfl, fun name rest => ?_⟩
  simp [Disk.get?, albumDisk, List.lookup_cons]

end Gallery
end Bookpress
