import Bookpress.Proofs.Gallery.Runs

/-!
# Visits to one picture folder

Several sessions may share a picture folder, and the page of each has a base of its own.  Pictures
are kept under the digest of the text on the page, whatever source this text designates there.  So
the picture under a digest is the one of the first source that had one, among all the sources that
the text has designated so far.

* `pngOf_eq_likeness` : what is made of a source is its likeness, if it can be stored.
* `Filed.serve`, `Filed.run` : what a call and a row of calls leave under the digests.
* `visits_filed` : what visits leave there.
* `faithful_of_isLink` : a text that is a link has the picture of that link.
* `faithful_iff` : when a text has the picture of the source that it designates now.
-/

namespace Bookpress

/-- the work of one session: where the sources on its page start from, and what its gallery is
called for. -/
structure Visit where
  base : Base
  calls : List Call

namespace Call

/-- whether a call is for a picture that is kept under a digest. -/
def isKept : Call → Bool
  | .inline _ | .icon _ => true
  | _ => false

/-- the source that a text designates in a call, if the call goes by this text. -/
def designated (g : Gallery) (t : Text) (c : Call) : List Source :=
  if c.text? = some t then [(g.locate t).1] else []

end Call

namespace Gallery

/-- a gallery for a page with another base. -/
def based (g : Gallery) (b : Base) : Gallery := { g with base := b }

/-- the session of a visit. -/
def visit (g : Gallery) (d : Disk) (v : Visit) : Except (Refusal × Disk) Session :=
  (Session.open (g.based v.base) d).map ((g.based v.base).run v.calls)

/-- the disk after visits, one after the other. -/
def visits (g : Gallery) (vs : List Visit) (d : Disk) : Except (Refusal × Disk) Disk :=
  vs.foldlM (fun d v => (g.visit d v).map Session.disk) d

/-- the sources that a text has designated in visits, one for every call. -/
def designated (g : Gallery) (vs : List Visit) (t : Text) : List Source :=
  vs.flatMap fun v => v.calls.flatMap (Call.designated (g.based v.base) t)

/-- the picture of a source, if files are as they are on the disk `d`. -/
def likeness (g : Gallery) (d : Disk) : Source → Option ByteArray
  | .remote url => (g.world.answer 0 url).toOption.bind (Picture.normal? false)
  | .file p => (d.read p).toOption.bind (Picture.normal? false)

/-- the picture that is kept for a text, if there is one, is that of the source which the text
designates. -/
def Faithful (g : Gallery) (d₀ : Disk) (t : Text) (d : Disk) : Prop :=
  ∀ png, d.read (g.place (cacheKey t ++ pngEnding)) = .ok png →
    g.likeness d₀ (g.locate t).1 = some png

/-! ## pictures of sources -/

section
variable {g : Gallery} {q : Place} {d₀ : Disk} {s : Session} {source : Source} {σ : Slot}

/-- a download can be stored if the picture of its slot can. -/
theorem illegal?_raw (h : Disk.illegal? (g.place σ.png) = none) :
    Disk.illegal? (g.place σ.raw) = none := by
  have hplace : g.place σ.png = g.place σ.raw ++ pngEnding :=
    Path.join_append _ Slot.raw_ne_nil _
  rw [hplace] at h
  exact Disk.illegal?_of_append h (Path.join_ne_nil Slot.raw_ne_nil)

theorem pngOf_eq_likeness (hsteady : g.world.Steady) (hk : g.Kept q d₀ s.disk)
    (ho : ∀ p ∈ source.file?, g.Outside d₀ p) :
    g.pngOf s σ source false = g.storable σ.png (g.likeness d₀ source) := by
  unfold pngOf
  by_cases hlegal : Disk.illegal? (g.place σ.png) = none
  · cases source with
    | remote url =>
      rw [bytesOf, likeness, answered, hsteady s.requests 0,
        storable_of_legal (illegal?_raw hlegal)]
    | file p =>
      rw [bytesOf, likeness, (ho p rfl).readable hk]
  · rw [storable_of_illegal hlegal, storable_of_illegal hlegal]

end

/-! ## what is left under the digests -/

/-- under the digest of a text is the picture of the first source that had one, among those that
the text has designated in the past. -/
structure Filed (g : Gallery) (q : Place) (d₀ : Disk) (K : Text → Prop)
    (past : Text → List Source) (d : Disk) : Prop where
  kept : g.Kept q d₀ d
  png : ∀ t, K t → g.held d (Slot.keyed t).png =
    g.storable (Slot.keyed t).png ((past t).findSome? (g.likeness d₀))

/-- what the calls of a visit are for: pictures under the digests of the texts `K`, from sources
outside of the folder. -/
structure Entitled (g : Gallery) (d₀ : Disk) (K : Text → Prop) (cs : List Call) : Prop where
  isKept : ∀ c ∈ cs, c.isKept = true
  text : ∀ c ∈ cs, ∀ t ∈ c.text?, K t
  outside : ∀ c ∈ cs, ∀ p ∈ (c.source g).file?, g.Outside d₀ p

namespace Filed

variable {g : Gallery} {q : Place} {d₀ d : Disk} {K : Text → Prop} {past : Text → List Source}
  {s : Session} {c : Call} {cs : List Call} {b : Base}

/-- **A call leaves the picture of the source that its text designates**, if there was none. -/
theorem serve (hT : Terms g K) (h : g.Filed q d₀ K past s.disk) (hc : g.Entitled d₀ K [c]) :
    g.Filed q d₀ K (fun t => past t ++ c.designated g t) (c.serve g s).disk := by
  have hthumbnail : c.isThumbnail = false := by
    have := hc.isKept c (List.mem_singleton_self c)
    cases c <;> first | rfl | cases this
  obtain ⟨u, htext, hslot, hsource, htrim, hcount⟩ : ∃ u, c.text? = some u ∧
      c.slot s = .keyed u ∧ c.source g = (g.locate u).1 ∧ c.isTrimmed = false ∧
      c.counted s = s := by
    have := hc.isKept c (List.mem_singleton_self c)
    cases c <;> first | exact ⟨_, rfl, rfl, rfl, rfl, rfl⟩ | cases this
  have hs := Call.serve_stocks hthumbnail hT.cache h.kept (c := c) (hslot ▸ trivial)
  have ho := hc.outside c (List.mem_singleton_self c)
  rw [hslot, hsource, htrim, hcount] at hs
  rw [hsource] at ho
  refine ⟨hs.kept, fun t ht => ?_⟩
  unfold Call.designated
  by_cases he : t = u
  · subst he
    rw [hs.png, h.png t ht, pngOf_eq_likeness hT.steady h.kept ho, storable_or, if_pos htext,
      List.findSome?_append, List.findSome?_singleton]
  · have hne : (Slot.keyed t).raw ≠ (Slot.keyed u).raw := fun e =>
      he (hT.distinct t u ht (hc.text c (List.mem_singleton_self c) u htext) e)
    have hother := hs.other _ (Slot.isName_keyed_png t) (fun e => Slot.raw_ne_png e.symm)
      (fun e => hne (Slot.png_inj.1 e))
    rw [hother, h.png t ht, htext, if_neg fun e => he (Option.some.inj e).symm, List.append_nil]

/-- **A row of calls leaves the pictures of the first sources that have any.** -/
theorem run (hT : Terms g K) (h : g.Filed q d₀ K past s.disk) (hc : g.Entitled d₀ K cs) :
    g.Filed q d₀ K (fun t => past t ++ cs.flatMap (Call.designated g t)) (g.run cs s).disk := by
  induction cs generalizing s past with
  | nil => simpa using h
  | cons c cs ih =>
    have hone : g.Entitled d₀ K [c] :=
      ⟨by simp [hc.isKept], by simpa using hc.text c List.mem_cons_self,
        by simpa using hc.outside c List.mem_cons_self⟩
    have hrest : g.Entitled d₀ K cs :=
      ⟨fun x hx => hc.isKept x (List.mem_cons_of_mem _ hx),
        fun x hx => hc.text x (List.mem_cons_of_mem _ hx),
        fun x hx => hc.outside x (List.mem_cons_of_mem _ hx)⟩
    have hrun := ih (h.serve hT hone) hrest
    simp only [List.append_assoc, ← List.flatMap_cons] at hrun
    exact hrun

/-- the base of a page does not matter for what is held. -/
theorem based (h : g.Filed q d₀ K past d) (b : Base) : (g.based b).Filed q d₀ K past d :=
  ⟨⟨h.kept.located, h.kept.folder, h.kept.alike⟩, h.png⟩

theorem of_based (h : (g.based b).Filed q d₀ K past d) : g.Filed q d₀ K past d :=
  ⟨⟨h.kept.located, h.kept.folder, h.kept.alike⟩, h.png⟩

end Filed

section
variable {g : Gallery} {q : Place} {d₀ d : Disk} {K : Text → Prop} {past : Text → List Source}
  {v : Visit} {vs : List Visit}

theorem Terms.based (hT : Terms g K) (b : Base) : Terms (g.based b) K :=
  ⟨hT.cache, hT.steady, hT.distinct⟩

/-- **A visit goes well, and leaves the pictures of the first sources that have any.** -/
theorem visit_filed (hT : Terms g K) (h : g.Filed q d₀ K past d)
    (hv : (g.based v.base).Entitled d₀ K v.calls) :
    ∃ s, g.visit d v = .ok s ∧
      g.Filed q d₀ K (fun t => past t ++ g.designated [v] t) s.disk := by
  have hopen : Session.open (g.based v.base) d = .ok (.start d) := (h.based v.base).kept.open
  refine ⟨(g.based v.base).run v.calls (.start d), ?_, ?_⟩
  · rw [visit, hopen]
    rfl
  · have hrun := Filed.run (s := .start d) (Terms.based hT v.base) (h.based v.base) hv
    simpa [designated] using hrun.of_based

theorem visits_filed (hT : Terms g K) (h : g.Filed q d₀ K past d)
    (hvs : ∀ v ∈ vs, (g.based v.base).Entitled d₀ K v.calls) :
    ∃ d', g.visits vs d = .ok d' ∧ g.Filed q d₀ K (fun t => past t ++ g.designated vs t) d' := by
  induction vs generalizing d past with
  | nil => exact ⟨d, rfl, by simpa [designated] using h⟩
  | cons v vs ih =>
    obtain ⟨hv, hvs⟩ := List.forall_mem_cons.1 hvs
    obtain ⟨s, hs, hfiled⟩ := visit_filed hT h hv
    obtain ⟨d', hd, hfiled⟩ := ih hfiled hvs
    refine ⟨d', ?_, by simpa [designated] using hfiled⟩
    rw [visits, List.foldlM_cons, hs]
    exact hd

end

/-! ## visits to a folder that was empty -/

section
variable {g : Gallery} {d : Disk} {s : Session} {vs : List Visit} {b : Base}
  {cs : List Call} {c : Call} {t : Text}

/-- the texts by which the calls of visits go. -/
def texts (vs : List Visit) : List Text := vs.flatMap fun v => v.calls.filterMap Call.text?

/-- the first visit makes the folder, if it is not there. -/
theorem visits_of_open (hopen : Session.open g d = .ok s)
    (hagain : Session.open g s.disk = .ok (.start s.disk)) (hvs : vs ≠ []) :
    g.visits vs d = g.visits vs s.disk := by
  obtain ⟨v, vs, rfl⟩ := List.exists_cons_of_ne_nil hvs
  have hd : Session.open (g.based v.base) d = .ok s := hopen
  have hs : Session.open (g.based v.base) s.disk = .ok (.start s.disk) := hagain
  rw [visits, visits, List.foldlM_cons, List.foldlM_cons, visit, visit, hd, hs,
    ← start_of_open hopen]

/-- what holds of visits to a folder that was empty: pictures are taken again, downloads are
answered in the same way at all times, nothing is asked for but pictures under digests from sources
outside of the folder, and the texts on the pages have digests of their own. -/
structure Tour (g : Gallery) (d₀ : Disk) (vs : List Visit) : Prop where
  vacant : g.Vacant d₀
  cache : g.settings.imageCache = true
  steady : g.world.Steady
  isKept : ∀ v ∈ vs, ∀ c ∈ v.calls, c.isKept = true
  outside : ∀ v ∈ vs, ∀ c ∈ v.calls, ∀ p ∈ (c.source (g.based v.base)).file?, g.Outside d₀ p
  distinct : ∀ t ∈ texts vs, ∀ u ∈ texts vs, cacheKey t = cacheKey u → t = u

/-- **Visits go well, and leave the pictures of the first sources that have any.** -/
theorem Tour.held (htour : g.Tour s.disk vs) (hopen : Session.open g d = .ok s) (hvs : vs ≠ []) :
    ∃ d', g.visits vs d = .ok d' ∧ ∀ t ∈ texts vs, g.held d' (Slot.keyed t).png =
      g.storable (Slot.keyed t).png ((g.designated vs t).findSome? (g.likeness s.disk)) := by
  obtain ⟨q, hk, hnone⟩ := htour.vacant.exists_held
  have hT : Terms g (· ∈ texts vs) :=
    ⟨htour.cache, htour.steady, fun t u ht hu => htour.distinct t ht u hu⟩
  have hstart : g.Filed q s.disk (· ∈ texts vs) (fun _ => []) s.disk :=
    ⟨hk, fun t _ => by rw [hnone _ (Slot.isName_keyed_png t), List.findSome?_nil, storable_none]⟩
  obtain ⟨d', hd, hfiled⟩ := visits_filed hT hstart fun v hv => ⟨htour.isKept v hv,
    fun c hc t ht => List.mem_flatMap.2 ⟨v, hv, List.mem_filterMap.2 ⟨c, hc, ht⟩⟩,
    htour.outside v hv⟩
  exact ⟨d', (visits_of_open hopen hk.open hvs).trans hd, hfiled.png⟩

theorem mem_texts (hc : c.text? = some t) : t ∈ texts (vs ++ [⟨b, cs ++ [c]⟩]) := by
  simp [texts, hc]

/-- a picture is that of the source of its text iff the first source that has one has the same. -/
theorem faithful_of_held {x : Option ByteArray} {d' : Disk}
    (h : g.held d' (Slot.keyed t).png = g.storable (Slot.keyed t).png x) :
    (g.based b).Faithful d t d' ↔ (Disk.illegal? (g.place (Slot.keyed t).png) = none →
      ∀ png ∈ x, g.likeness d ((g.based b).locate t).1 = some png) := by
  have hread : ∀ png, d'.read (g.place (Slot.keyed t).png) = .ok png ↔
      Disk.illegal? (g.place (Slot.keyed t).png) = none ∧ x = some png := by
    intro png
    have : d'.read (g.place (Slot.keyed t).png) = .ok png ↔
        g.held d' (Slot.keyed t).png = some png := by
      unfold held
      cases d'.read (g.place (Slot.keyed t).png) <;> simp [Except.toOption]
    rw [this, h]
    unfold storable
    split <;> simp_all
  exact ⟨fun hf hlegal png hx => hf png ((hread png).2 ⟨hlegal, hx⟩),
    fun hf png hr => hf ((hread png).1 hr).1 png ((hread png).1 hr).2⟩

/-- **A text that is a link has the picture of that link**, whatever the bases of the pages are. -/
theorem faithful_of_isLink (ht : isLink t = true) (htour : g.Tour s.disk vs)
    (hopen : Session.open g d = .ok s) (hvs : vs ≠ []) (hmem : t ∈ texts vs) (b : Base) :
    ∃ d', g.visits vs d = .ok d' ∧ (g.based b).Faithful s.disk t d' := by
  obtain ⟨d', hd, hheld⟩ := htour.held hopen hvs
  refine ⟨d', hd, (faithful_of_held (hheld t hmem)).2 fun _ png hpng => ?_⟩
  obtain ⟨source, hsource, hlike⟩ := List.exists_of_findSome?_eq_some hpng
  -- every source that the link has designated is the link itself
  have hlink : source = .remote t := by
    obtain ⟨v, -, hsource⟩ := List.mem_flatMap.1 hsource
    obtain ⟨c, -, hsource⟩ := List.mem_flatMap.1 hsource
    unfold Call.designated at hsource
    split at hsource
    · rw [List.mem_singleton.1 hsource, locate_of_isLink _ ht]
    · cases hsource
  rw [locate_of_isLink _ ht, ← hlink, ← hlike]

/-- **The picture that a call leaves for a text is the one of the source that the text designates
there iff the first source that had a picture, among all that the text has designated in the visits
to the folder, has the same.** -/
theorem faithful_iff (hopen : Session.open g d = .ok s)
    (htour : g.Tour s.disk (vs ++ [⟨b, cs ++ [c]⟩])) (hc : c = .inline t ∨ c = .icon t) :
    ∃ d', g.visits (vs ++ [⟨b, cs ++ [c]⟩]) d = .ok d' ∧
      ((g.based b).Faithful s.disk t d' ↔
        (Disk.illegal? (g.place (cacheKey t ++ pngEnding)) = none →
          ∀ png ∈ (g.designated (vs ++ [⟨b, cs ++ [c]⟩]) t).findSome? (g.likeness s.disk),
            g.likeness s.disk ((g.based b).locate t).1 = some png)) := by
  have htext : c.text? = some t := by obtain rfl | rfl := hc <;> rfl
  obtain ⟨d', hd, hheld⟩ := htour.held hopen (by simp)
  exact ⟨d', hd, faithful_of_held (hheld t (mem_texts htext))⟩

/-! ### two pages -/

/-- a picture of two points, one above the other. -/
def column : ByteArray :=
  ⟨#[71, 73, 70, 56, 57, 97, 1, 0, 2, 0, 128, 0, 0, 0, 0, 0, 255, 255, 255, 44, 0, 0, 0, 0, 1, 0, 2,
    0, 0, 2, 2, 4, 10, 0, 59]⟩

/-- the addresses of two pages. -/
def firstPage : Text := "http://a.org/".toList

def secondPage : Text := "http://b.org/".toList

/-- the text by which each of the pages refers to a picture of its own. -/
def pictureName : Text := "p.gif".toList

/-- a gallery to which the pictures of the two pages are sent. -/
def crossing : Gallery where
  world := ⟨fun _ url => if url = firstPage ++ pictureName then .ok point
    else if url = secondPage ++ pictureName then .ok column else .error [], fun _ => []⟩
  settings := .standard
  base := .page firstPage

/-- visits to pages, each of them for the same text. -/
def pageVisits (pages : List Text) : List Visit :=
  pages.map fun p => ⟨.page p, [.inline pictureName]⟩

theorem locate_page {p : Text} (h : p = firstPage ∨ p = secondPage) :
    ((crossing.based (.page p)).locate pictureName).1 = .remote (p ++ pictureName) := by
  have hlink : isLink pictureName = false := by decide_cbv
  have hresolve : Web.resolve p pictureName = .ok (p ++ pictureName) := by
    unfold firstPage secondPage at h
    unfold pictureName
    rw [String.toList_ofList] at h ⊢
    obtain rfl | rfl := h <;> rfl
  have hpage : (crossing.based (.page p)).base = .page p := rfl
  rw [locate, hlink, if_neg Bool.false_ne_true, hpage]
  simp only [hresolve]

theorem tour_pageVisits {pages : List Text} (h : ∀ p ∈ pages, p = firstPage ∨ p = secondPage) :
    crossing.Tour albumDisk (pageVisits pages) where
  vacant := vacant_albumDisk
  cache := rfl
  steady _ _ _ := rfl
  isKept v hv c hc := by
    obtain ⟨p, -, rfl⟩ := List.mem_map.1 hv
    rw [List.mem_singleton.1 hc]
    rfl
  outside v hv c hc path hpath := by
    obtain ⟨p, hp, rfl⟩ := List.mem_map.1 hv
    rw [List.mem_singleton.1 hc, Call.source, locate_page (h p hp)] at hpath
    cases hpath
  distinct t ht u hu _ := by
    have hall : ∀ x ∈ texts (pageVisits pages), x = pictureName := by
      intro x hx
      obtain ⟨v, hv, hx⟩ := List.mem_flatMap.1 hx
      obtain ⟨p, -, rfl⟩ := List.mem_map.1 hv
      exact List.mem_singleton.1 hx
    rw [hall t ht, hall u hu]

theorem designated_pageVisits {p p' : Text} (h : p = firstPage ∨ p = secondPage)
    (h' : p' = firstPage ∨ p' = secondPage) :
    crossing.designated (pageVisits [p, p']) pictureName =
      [.remote (p ++ pictureName), .remote (p' ++ pictureName)] := by
  rw [← locate_page h, ← locate_page h']
  rfl

theorem open_albumDisk : Session.open crossing albumDisk = .ok (.start albumDisk) :=
  open_of_folder rfl

/-- **A page that is visited twice has its own picture.** -/
theorem faithful_iff_page :
    ∃ d', crossing.visits (pageVisits [firstPage, firstPage]) albumDisk = .ok d' ∧
      (crossing.based (.page firstPage)).Faithful albumDisk pictureName d' := by
  have htour : crossing.Tour albumDisk (pageVisits [firstPage] ++
      [⟨.page firstPage, [] ++ [.inline pictureName]⟩]) :=
    tour_pageVisits (show ∀ p ∈ [firstPage, firstPage], _ by simp)
  obtain ⟨d', hd, hiff⟩ := faithful_iff open_albumDisk htour (.inl rfl)
  refine ⟨d', hd, hiff.2 fun _ png hpng => ?_⟩
  obtain ⟨source, hsource, hlike⟩ := List.exists_of_findSome?_eq_some hpng
  have hown : source = .remote (firstPage ++ pictureName) := by
    have hdesignated := designated_pageVisits (.inl rfl) (.inl rfl)
    rw [show pageVisits [firstPage] ++ [⟨.page firstPage, [] ++ [.inline pictureName]⟩]
      = pageVisits [firstPage, firstPage] from rfl, hdesignated] at hsource
    simpa using hsource
  rw [locate_page (.inl rfl), ← hown, hlike]

/-- the two pages have pictures, which can be kept and are not the same. -/
theorem likeness_crossing : Disk.illegal? (crossing.place (Slot.keyed pictureName).png) = none ∧
    ∃ png, crossing.likeness albumDisk (.remote (firstPage ++ pictureName)) = some png ∧
      crossing.likeness albumDisk (.remote (secondPage ++ pictureName)) ≠ some png := by
  have hplace : Disk.illegal? (crossing.place (Slot.keyed pictureName).png) = none := by
    decide +kernel
  have hsome :
      (crossing.likeness albumDisk (.remote (firstPage ++ pictureName))).isSome = true := by
    decide +kernel
  have hne : crossing.likeness albumDisk (.remote (secondPage ++ pictureName)) ≠
      crossing.likeness albumDisk (.remote (firstPage ++ pictureName)) := by decide +kernel
  obtain ⟨png, hpng⟩ := Option.isSome_iff_exists.1 hsome
  exact ⟨hplace, png, hpng, hpng ▸ hne⟩

/-- **A page that is visited after another one, with the same text for another picture, is given the
picture of the first page.** -/
theorem not_faithful_page :
    crossing.Tour albumDisk (pageVisits [firstPage, secondPage]) ∧
      ∃ d', crossing.visits (pageVisits [firstPage, secondPage]) albumDisk = .ok d' ∧
        ¬ (crossing.based (.page secondPage)).Faithful albumDisk pictureName d' := by
  have htour : crossing.Tour albumDisk (pageVisits [firstPage, secondPage]) :=
    tour_pageVisits (by simp)
  obtain ⟨d', hd, hheld⟩ := htour.held open_albumDisk (by simp [pageVisits])
  obtain ⟨hplace, png, hfirst, hown⟩ := likeness_crossing
  have hmem : pictureName ∈ texts (pageVisits [firstPage, secondPage]) := List.mem_cons_self
  refine ⟨htour, d', hd, fun hf => hown ?_⟩
  rw [← locate_page (.inr rfl)]
  refine (faithful_of_held (hheld _ hmem)).1 hf hplace png ?_
  rw [designated_pageVisits (.inl rfl) (.inr rfl), List.findSome?_cons,
    show (Session.start albumDisk).disk = albumDisk from rfl, hfirst]
  rfl

end

end Gallery
end Bookpress
