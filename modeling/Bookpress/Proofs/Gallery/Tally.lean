import Bookpress.Proofs.Gallery.Calls
import Bookpress.Proofs.Gallery.Darkroom

/-!
# The counts add up

A call ends in one of several ways: it finds what it asks for, it has nothing to download, or it
asks for a download, which is stored or not.  On each way it leaves its mark on other counts.  What
they have in common is kept by every call, so that it holds of rows of calls, whatever becomes of
the files and pictures.

* `Adds` : what is added to the counts, given how many calls found or had what they needed.
* `Call.adds_serveIn` : what one call adds.
* `Call.adds_row` : what a row of calls adds.
* `Gallery.counts_add_up` : the counts after a row of calls.
-/

namespace Bookpress

/-- there are `n` calls from one session to the other: `found` of them find what they ask for,
`files` others make their pictures of files, and `figures` take a number. -/
structure Adds (n found files figures : Nat) (s s' : Session) : Prop where
  requests : s'.requests + found + files = s.requests + n
  reused : s'.counts.reused = s.counts.reused + found
  /-- what is stored has been asked for. -/
  stored : s'.counts.fetched + s.requests ≤ s.counts.fetched + s'.requests
  /-- what has been asked for is stored, or else it is a failure. -/
  settled : s'.requests + s.counts.fetched + s.counts.failed
    ≤ s.requests + s'.counts.fetched + s'.counts.failed
  failed : s'.counts.failed + found ≤ s.counts.failed + n
  figures : s'.counts.figures = s.counts.figures + figures

namespace Adds

variable {n n' found found' files files' figures figures' : Nat} {s s' s'' : Session}

theorem refl (s : Session) : Adds 0 0 0 0 s s := by
  constructor <;> omega

theorem trans (h : Adds n found files figures s s')
    (h' : Adds n' found' files' figures' s' s'') :
    Adds (n' + n) (found' + found) (files' + files) (figures' + figures) s s'' := by
  obtain ⟨hq, hr, hs, ht, hf, hn⟩ := h
  obtain ⟨hq', hr', hs', ht', hf', hn'⟩ := h'
  constructor <;> omega

/-- what goes to the journal is not counted. -/
theorem record {es : List Event} (h : Adds n found files figures s s') :
    Adds n found files figures s (s'.record es) :=
  ⟨h.requests, h.reused, h.stored, h.settled, h.failed, h.figures⟩

theorem of_record {es : List Event} (h : Adds n found files figures (s.record es) s') :
    Adds n found files figures s s' :=
  ⟨h.requests, h.reused, h.stored, h.settled, h.failed, h.figures⟩

/-- a number is taken apart from what else a call does. -/
theorem numbering (s : Session) : Adds 0 0 0 1 s (Gallery.numbering s) := by
  constructor <;> simp [Gallery.numbering]

end Adds

/-! ## making pictures -/

/-- an attempt to have a picture, which ends with a fault or without: there is one request, unless
the source is a file, and what has been asked for is stored or else there is a fault. -/
structure Attempts (files : Nat) (s s' : Session) (fault? : Option PictureFault) : Prop where
  requests : s'.requests + files = s.requests + 1
  reused : s'.counts.reused = s.counts.reused
  stored : s'.counts.fetched + s.requests ≤ s.counts.fetched + s'.requests
  settled : s'.requests + s.counts.fetched
    ≤ s.requests + s'.counts.fetched + fault?.isSome.toNat
  failed : s'.counts.failed = s.counts.failed
  figures : s'.counts.figures = s.counts.figures

namespace Attempts

variable {files : Nat} {s s' : Session} {f : PictureFault}

/-- an attempt without a fault is all that there is to a call. -/
theorem adds (h : Attempts files s s' none) : Adds 1 0 files 0 s s' := by
  obtain ⟨hq, hr, hs, ht, hf, hn⟩ := h
  rw [Option.isSome_none, Bool.toNat_false] at ht
  constructor <;> omega

/-- a fault is counted, once. -/
theorem adds_fail (h : Attempts files s s' (some f)) :
    Adds 1 0 files 0 s (Gallery.fail s' f) := by
  obtain ⟨hq, hr, hs, ht, hf, hn⟩ := h
  rw [Option.isSome_some, Bool.toNat_true] at ht
  unfold Gallery.fail
  constructor <;> simp only [Session.requests_record, Session.requests_tally,
    Session.counts_record, Session.counts_tally] <;> omega

/-- an attempt may end with another fault after all has been stored. -/
theorem settle (h : Attempts files s s' none) {s'' : Session} {fault? : Option PictureFault}
    (hrequests : s''.requests = s'.requests) (hcounts : s''.counts = s'.counts) :
    Attempts files s s'' fault? := by
  obtain ⟨hq, hr, hs, ht, hf, hn⟩ := h
  rw [Option.isSome_none, Bool.toNat_false] at ht
  constructor <;> simp only [hrequests, hcounts] <;> omega

end Attempts

namespace Darkroom

variable (r : Darkroom) (g : Gallery)

/-- **A download is asked for once, and counted if it is stored.** -/
theorem attempts_download (url : Text) (dest : Path) (s : Session) :
    Attempts 0 s (r.download g url dest s).1 (r.download g url dest s).2 := by
  unfold download
  dsimp only
  split
  · constructor <;> simp
    omega
  · split <;> constructor <;> simp <;> omega

theorem attempts_make (source : Source) (raw png : Path) (trim : Bool) (s : Session) :
    Attempts (if source.file?.isSome then 1 else 0) s (r.make g source raw png trim s).1
      (r.make g source raw png trim s).2 := by
  unfold make
  cases source with
  | file p => constructor <;> simp [normalize, Source.file?]
  | remote url =>
    have h := r.attempts_download g url raw s
    dsimp only
    generalize r.download g url raw s = x at h ⊢
    obtain ⟨s', _ | f⟩ := x
    · -- what becomes of the picture is not counted
      exact h.settle rfl rfl
    · exact h

/-- **A picture that is there is taken, and else there is an attempt to make it.** -/
theorem adds_ensure (source : Source) (raw png : Path) (trim : Bool) (s : Session) :
    Adds 1 (if g.settings.imageCache && s.disk.exists? png then 1 else 0)
      (if source.file?.isSome && !(g.settings.imageCache && s.disk.exists? png) then 1 else 0) 0
      s (r.ensure g source raw png trim s) := by
  have h := r.attempts_make g source raw png trim s
  unfold ensure
  cases hthere : g.settings.imageCache && s.disk.exists? png with
  | true => constructor <;> simp
  | false =>
    generalize r.make g source raw png trim s = x at h ⊢
    obtain ⟨s', _ | f⟩ := x
    · simpa using h.adds
    · simpa using h.adds_fail

theorem adds_keep (t : Text) (s : Session) :
    Adds 1 (if g.settings.imageCache && s.disk.exists? (g.place (Slot.keyed t).png) then 1 else 0)
      (if (g.locate t).1.file?.isSome
        && !(g.settings.imageCache && s.disk.exists? (g.place (Slot.keyed t).png)) then 1 else 0) 0
      s (r.keep g t s) :=
  (r.adds_ensure g _ _ _ false (s.record _)).of_record

/-- a thumbnail is a download, and nothing is made of it. -/
theorem adds_thumbnail (url : Text) (s : Session) :
    Adds 1 (if g.settings.imageCache && s.disk.exists? (g.place (cacheKey url)) then 1 else 0) 0 0
      s (r.thumbnail g url s).2 := by
  have h := r.attempts_download g url (g.place (cacheKey url)) s
  unfold thumbnail
  dsimp only
  cases hthere : g.settings.imageCache && s.disk.exists? (g.place (cacheKey url)) with
  | true => constructor <;> simp
  | false =>
    generalize r.download g url (g.place (cacheKey url)) s = x at h ⊢
    obtain ⟨s', _ | f⟩ := x
    · exact h.adds
    · exact h.adds_fail

end Darkroom

/-! ## calls -/

namespace Call

/-- the session that a call leaves with a darkroom. -/
def serveIn (r : Darkroom) (g : Gallery) : Call → Session → Session
  | .inline t, s => (r.inline g t s).2
  | .icon t, s => (r.icon g t s).2
  | .thumbnail url, s => (r.thumbnail g url s).2
  | .figure source, s => (r.figure g source s).2
  | .placeholder, s => (r.placeholder g s).2

theorem serveIn_darkroom (g : Gallery) (c : Call) (s : Session) :
    c.serveIn g.darkroom g s = c.serve g s := by
  cases c with
  | inline t => exact congrArg Prod.snd (Gallery.inline_darkroom g t s)
  | icon t => exact congrArg Prod.snd (Gallery.icon_darkroom g t s)
  | thumbnail url => exact congrArg Prod.snd (Gallery.thumbnail_darkroom g url s)
  | figure source => exact congrArg Prod.snd (Gallery.figure_darkroom g source s)
  | placeholder => exact congrArg Prod.snd (Gallery.placeholder_darkroom g s)

/-- the file that a call asks for. -/
def wanted (g : Gallery) (s : Session) (c : Call) : Path :=
  g.place (if c.isThumbnail then (c.slot s).raw else (c.slot s).png)

/-- whether a call is answered from the disk. -/
def isAnswered (g : Gallery) (s : Session) (c : Call) : Bool :=
  g.settings.imageCache && s.disk.exists? (c.wanted g s)

/-- whether a call makes its picture of a file. -/
def isOfFile (g : Gallery) (s : Session) (c : Call) : Bool :=
  (c.source g).file?.isSome && !c.isAnswered g s

/-- **What one call adds to the counts**, whatever becomes of its picture. -/
theorem adds_serveIn (r : Darkroom) (g : Gallery) (c : Call) (s : Session) :
    Adds 1 (if c.isAnswered g s then 1 else 0) (if c.isOfFile g s then 1 else 0)
      (if c.isNumbered then 1 else 0) s (c.serveIn r g s) := by
  cases c with
  | inline t => exact (r.adds_keep g t (s.record _)).of_record.record
  | icon t => exact r.adds_keep g t s
  | thumbnail url => exact r.adds_thumbnail g url s
  | figure source =>
    refine (Adds.numbering s).trans ?_
    exact (r.adds_ensure g source _ _ true ((Gallery.numbering s).record _)).of_record
  | placeholder => exact r.adds_ensure g (.remote placeholderUrl) _ _ false s

/-! ## rows of calls -/

/-- the session that a row of calls leaves, if they are served in some way. -/
def row (serve : Call → Session → Session) (cs : List Call) (s : Session) : Session :=
  cs.foldl (fun s c => serve c s) s

/-- the calls of a row, each with the session that it finds. -/
def turns (serve : Call → Session → Session) : List Call → Session → List (Call × Session)
  | [], _ => []
  | c :: cs, s => (c, s) :: turns serve cs (serve c s)

/-- how many calls of a row are answered from the disk. -/
def answered (g : Gallery) (ts : List (Call × Session)) : Nat :=
  ts.countP fun (c, s) => c.isAnswered g s

/-- how many calls of a row make their pictures of files. -/
def ofFiles (g : Gallery) (ts : List (Call × Session)) : Nat :=
  ts.countP fun (c, s) => c.isOfFile g s

/-- **What a row of calls adds to the counts.** -/
theorem adds_row (r : Darkroom) (g : Gallery) (cs : List Call) (s : Session) :
    Adds cs.length (answered g (turns (serveIn r g) cs s))
      (ofFiles g (turns (serveIn r g) cs s)) (cs.countP Call.isNumbered)
      s (row (serveIn r g) cs s) := by
  induction cs generalizing s with
  | nil => exact .refl s
  | cons c cs ih =>
    have h := (c.adds_serveIn r g s).trans (ih (c.serveIn r g s))
    unfold answered ofFiles at h ⊢
    rw [turns, List.countP_cons, List.countP_cons, List.countP_cons]
    exact h

theorem answered_of_no_cache {g : Gallery} (h : g.settings.imageCache = false)
    (ts : List (Call × Session)) : answered g ts = 0 := by
  simp [answered, isAnswered, h]

end Call

/-- the counts in the session after the calls `cs`, which had the turns `ts`, with nothing counted
before. -/
structure AddsUp (g : Gallery) (cs : List Call) (ts : List (Call × Session)) (s : Session) :
    Prop where
  /-- a call asks for one download, or is answered from the disk, or makes its picture of a file. -/
  conserved : s.requests + s.counts.reused + Call.ofFiles g ts = cs.length
  fetched_le : s.counts.fetched ≤ s.requests
  requests_le : s.requests ≤ s.counts.fetched + s.counts.failed
  failed_le : s.counts.failed ≤ cs.length - s.counts.reused
  figures : s.counts.figures = cs.countP Call.isNumbered
  reused : s.counts.reused = Call.answered g ts
  /-- nothing is taken again without the cache. -/
  fresh : g.settings.imageCache = false → s.counts.reused = 0

theorem Adds.addsUp {g : Gallery} {d : Disk} {cs : List Call} {ts : List (Call × Session)}
    {s : Session} (h : Adds cs.length (Call.answered g ts) (Call.ofFiles g ts)
      (cs.countP Call.isNumbered) (.start d) s) : AddsUp g cs ts s := by
  obtain ⟨hrequests, hreused, hstored, hsettled, hfailed, hfigures⟩ := h
  simp only [Session.start, Counts.zero, Nat.zero_add, Nat.add_zero]
    at hrequests hreused hstored hsettled hfailed hfigures
  refine ⟨?_, hstored, hsettled, ?_, hfigures, hreused, fun hcache => ?_⟩
  · rw [hreused, hrequests]
  · omega
  · rw [hreused, Call.answered_of_no_cache hcache]

/-- **The counts add up**, with the darkroom of the gallery and with all others. -/
theorem Gallery.counts_add_up (g : Gallery) (d : Disk) (cs : List Call) :
    AddsUp g cs (Call.turns (Call.serve g) cs (.start d)) (g.run cs (.start d)) ∧
    ∀ r : Darkroom, AddsUp g cs (Call.turns (Call.serveIn r g) cs (.start d))
      (Call.row (Call.serveIn r g) cs (.start d)) := by
  refine ⟨?_, fun r => (Call.adds_row r g cs (.start d)).addsUp⟩
  have hserve : Call.serveIn g.darkroom g = Call.serve g :=
    funext fun c => funext (Call.serveIn_darkroom g c)
  have hrun : g.run cs (.start d) = Call.row (Call.serve g) cs (.start d) := rfl
  rw [hrun, ← hserve]
  exact (Call.adds_row g.darkroom g cs (.start d)).addsUp

end Bookpress
