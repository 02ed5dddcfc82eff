import Bookpress.Proofs.Citation.Places

/-!
# The scan of the links, byte by byte

Links are looked for in the bytes of a text, with a counter for the open braces and with slices
between places.  A counter that would fall below zero, a slice that is not one of the text and a
scan without an end are faults.  None of them occurs: the counter starts at an opening brace, every
place that is sliced at stands next to an ASCII character, and every turn goes on behind the
opening of a link.

* `closeFrom_bytes` : the counter finds the brace that closes the group.
* `readAt_bytes` : what is read behind an opening is the link that stands there.
* `scanFrom_bytes` : the scan goes without a fault through the links of the text.
* `finds_links` : which links these are, and which brace the counter finds.
-/

namespace Bookpress
namespace Citation

open Text (byteSize bytes seek slice? isTrailing)
open Tex (closeBrace readArgument Balanced group)

/-- what may go wrong in a scan. -/
inductive Fault
  /-- a brace is closed and none is open. -/
  | underflow
  /-- a slice runs out of the text, or parts a character. -/
  | outside
  /-- the scan has not come to its end. -/
  | endless
deriving Repr, DecidableEq

/-- a link as the scan finds it: the place behind it, and its bytes. -/
structure Hit where
  stop : Nat
  target : List UInt8
  caption : List UInt8
deriving Repr, DecidableEq

/-- a link of a text, as the scan finds it. -/
def Place.hit (x : Place) : Hit := ⟨x.stop, bytes x.link.target, bytes x.link.caption⟩

/-- the opening of a link. -/
def opening : Text := "\\href\x7b".toList

/-- the bytes between two places. -/
def slice (bs : List UInt8) (i j : Nat) : Except Fault (List UInt8) :=
  match slice? bs i j with
  | some part => .ok part
  | none => .error .outside

/-- the place of the brace that brings the counter down to zero, in bytes from a place on.  The byte
after a backslash is passed over. -/
def closeFrom : Nat → Nat → List UInt8 → Except Fault (Option Nat)
  | _, _, [] => .ok none
  | depth, i, b :: bs =>
    if b = 92 then
      match bs with
      | [] => .ok none
      | _ :: bs => closeFrom depth (i + 2) bs
    else if b = 123 then closeFrom (depth + 1) (i + 1) bs
    else if b = 125 then
      match depth with
      | 0 => .error .underflow
      | depth + 1 => if depth = 0 then .ok (some i) else closeFrom depth (i + 1) bs
    else closeFrom depth (i + 1) bs

/-- the place of the brace that closes the one at `i`. -/
def closingBrace (bs : List UInt8) (i : Nat) : Except Fault (Option Nat) :=
  closeFrom 0 i (bs.drop i)

/-- the link whose opening stands at `i`. -/
def readAt (bs : List UInt8) (i : Nat) : Except Fault (Option Hit) := do
  let first := i + opening.length - 1
  let some middle ← closingBrace bs first | return none
  if bs[middle + 1]? ≠ some 123 then return none
  let some last ← closingBrace bs (middle + 1) | return none
  let caption ← slice bs (middle + 2) last
  if caption = [] then return none
  let target ← slice bs (first + 1) middle
  return some ⟨last + 1, target, caption⟩

/-- the links behind a place, found in at most `fuel` turns. -/
def scanFrom (bs : List UInt8) : Nat → Nat → Except Fault (List Hit)
  | 0, _ => .error .endless
  | fuel + 1, i => do
    let rest ← slice bs i bs.length
    match seek (bytes opening) rest with
    | none => return []
    | some gap =>
      match ← readAt bs (i + gap) with
      | none => scanFrom bs fuel (i + gap + opening.length)
      | some hit => return hit :: (← scanFrom bs fuel hit.stop)

/-- the links of a text, from left to right. -/
def scan (bs : List UInt8) : Except Fault (List Hit) := scanFrom bs (bs.length + 1) 0

variable {i depth : Nat} {c : Char} {t u v w a b r : Text} {bs us : List UInt8}

/-! ## the counter -/

theorem closeFrom_slash (x : UInt8) :
    closeFrom depth i (92 :: x :: bs) = closeFrom depth (i + 2) bs := by
  rw [closeFrom.eq_def]
  rfl

theorem closeFrom_open : closeFrom depth i (123 :: bs) = closeFrom (depth + 1) (i + 1) bs := by
  rw [closeFrom.eq_def]
  rfl

theorem closeFrom_close : closeFrom (depth + 1) i (125 :: bs)
    = if depth = 0 then .ok (some i) else closeFrom depth (i + 1) bs := by
  rw [closeFrom.eq_def]
  rfl

theorem closeFrom_other {x : UInt8} (slash : x ≠ 92) (opens : x ≠ 123) (closes : x ≠ 125) :
    closeFrom depth i (x :: bs) = closeFrom depth (i + 1) bs := by
  rw [closeFrom.eq_def]
  simp only [slash, opens, closes, if_false]

theorem bytes_slash (t : Text) : bytes ('\\' :: t) = 92 :: bytes t :=
  Text.bytes_cons_of_lt (by decide) t

theorem bytes_open (t : Text) : bytes ('{' :: t) = 123 :: bytes t :=
  Text.bytes_cons_of_lt (by decide) t

theorem bytes_close (t : Text) : bytes ('}' :: t) = 125 :: bytes t :=
  Text.bytes_cons_of_lt (by decide) t

theorem closeFrom_trailing (hu : ∀ x ∈ us, isTrailing x = true) :
    closeFrom depth i (us ++ bs) = closeFrom depth (i + us.length) bs := by
  induction us generalizing i with
  | nil => rfl
  | cons x us ih =>
    rw [List.forall_mem_cons] at hu
    have hne : ∀ y : UInt8, isTrailing y = false → x ≠ y := by
      rintro y hy rfl
      rw [hu.1] at hy
      cases hy
    rw [List.cons_append, closeFrom_other (hne _ rfl) (hne _ rfl) (hne _ rfl), ih hu.2,
      List.length_cons, Nat.add_assoc, Nat.add_comm 1]

theorem closeFrom_plain (slash : c ≠ '\\') (opens : c ≠ '{') (closes : c ≠ '}') :
    closeFrom depth i (bytes (c :: t)) = closeFrom depth (i + c.utf8Size) (bytes t) := by
  have hsize := String.length_utf8EncodeChar c
  rw [Text.bytes_cons]
  rcases Text.utf8EncodeChar_cases c with ⟨hlt, hc⟩ | ⟨-, x, us, hc, hx, hus⟩
  · have hne : ∀ d : Char, d.toNat < 128 → c ≠ d → UInt8.ofNat c.toNat ≠ UInt8.ofNat d.toNat := by
      intro d hd hcd h
      have hnat := congrArg UInt8.toNat h
      simp only [UInt8.toNat_ofNat'] at hnat
      exact hcd (Char.toNat_inj.1 (by omega))
    rw [hc] at hsize ⊢
    rw [List.singleton_append, closeFrom_other (hne _ (by decide) slash) (hne _ (by decide) opens)
      (hne _ (by decide) closes), ← hsize]
    rfl
  · have hne : ∀ y : UInt8, y.toNat < 192 → x ≠ y := by
      rintro y hy rfl
      omega
    rw [hc] at hsize ⊢
    rw [List.cons_append, closeFrom_other (hne _ (by decide)) (hne _ (by decide))
      (hne _ (by decide)), closeFrom_trailing hus, ← hsize, List.length_cons, Nat.add_assoc,
      Nat.add_comm 1]

theorem closeFrom_pair :
    closeFrom depth i (bytes ('\\' :: c :: t))
      = closeFrom depth (i + 1 + c.utf8Size) (bytes t) := by
  obtain ⟨x, us, hc, hus, hsize⟩ := Text.exists_utf8EncodeChar c
  rw [bytes_slash, Text.bytes_cons, hc, List.cons_append, closeFrom_slash, closeFrom_trailing hus,
    ← hsize]
  congr 1
  omega

/-- **The counter finds the brace that closes the group**, and never falls below zero. -/
theorem closeFrom_bytes (depth i : Nat) (t : Text) :
    closeFrom (depth + 1) i (bytes t)
      = .ok ((closeBrace depth t).map fun x => i + byteSize x.1) := by
  fun_induction closeBrace depth t generalizing i with
  | case1 => rfl
  | case2 => rfl
  | case3 depth c s ih =>
    rw [closeFrom_pair, ih, Option.map_map]
    congr 2
    funext x
    show _ = i + (1 + (c.utf8Size + byteSize x.1))
    simp only [Nat.add_assoc]
  | case4 depth r _ ih =>
    rw [bytes_open, closeFrom_open, ih, Option.map_map]
    congr 2
    funext x
    exact Nat.add_assoc i 1 _
  | case5 r =>
    rw [bytes_close, closeFrom_close, if_pos rfl]
    rfl
  | case6 r depth _ _ ih =>
    rw [bytes_close, closeFrom_close, if_neg (Nat.succ_ne_zero _), ih, Option.map_map]
    congr 2
    funext x
    exact Nat.add_assoc i 1 _
  | case7 depth c r slash opens closes ih =>
    rw [closeFrom_plain slash opens closes, ih, Option.map_map]
    congr 2
    funext x
    exact Nat.add_assoc i c.utf8Size _

theorem drop_bytes (u v : Text) : (bytes (u ++ v)).drop (byteSize u) = bytes v := by
  rw [Text.bytes_append, ← Text.length_bytes, List.drop_left' rfl]

theorem closingBrace_bytes (u t : Text) :
    closingBrace (bytes (u ++ '{' :: t)) (byteSize u)
      = .ok ((closeBrace 0 t).map fun x => byteSize u + 1 + byteSize x.1) := by
  rw [closingBrace, drop_bytes, bytes_open, closeFrom_open, closeFrom_bytes]

/-! ## one link -/

theorem opening_eq : opening = Tex.control "href" ++ ['{'] := by decide_cbv

theorem getElem?_bytes (u v : Text) : (bytes (u ++ v))[byteSize u]? = (bytes v).head? := by
  rw [List.head?_eq_getElem?, ← drop_bytes u v, List.getElem?_drop, Nat.add_zero]

theorem head?_bytes_eq_open_iff : (bytes t).head? = some 123 ↔ ∃ w, t = '{' :: w := by
  constructor
  · intro h
    cases t with
    | nil => cases h
    | cons c t =>
      rw [Text.bytes_cons] at h
      rcases Text.utf8EncodeChar_cases c with ⟨hlt, hc⟩ | ⟨-, x, us, hc, hx, -⟩
      · rw [hc, List.singleton_append, List.head?_cons, Option.some.injEq] at h
        have hnat := congrArg UInt8.toNat h
        simp only [UInt8.toNat_ofNat'] at hnat
        have hopen : c.toNat = '{'.toNat := by
          show c.toNat = 123
          rw [← Nat.mod_eq_of_lt (a := c.toNat) (b := 256) (by omega)]
          exact hnat
        exact ⟨t, by rw [Char.toNat_inj.1 hopen]⟩
      · rw [hc, List.cons_append, List.head?_cons, Option.some.injEq] at h
        rw [h] at hx
        exact absurd hx (by decide)
  · rintro ⟨w, rfl⟩
    rw [bytes_open, List.head?_cons]

theorem slice_bytes {i j : Nat} (ht : t = u ++ (v ++ w)) (hi : i = byteSize u)
    (hj : j = i + byteSize v) : slice (bytes t) i j = .ok (bytes v) := by
  rw [slice, ht, hj, hi, Text.slice?_bytes]

theorem byteSize_group (a : Text) : byteSize (group a) = 1 + byteSize a + 1 := by
  rw [group, ← List.singleton_append, Text.byteSize_append, Text.byteSize_append, ← Nat.add_assoc]
  rfl

theorem slice_group (u a v : Text) :
    slice (bytes (u ++ (group a ++ v))) (byteSize u + 1) (byteSize u + 1 + byteSize a)
      = .ok (bytes a) := by
  refine slice_bytes (u := u ++ ['{']) (w := '}' :: v) (by simp [group]) ?_ rfl
  rw [Text.byteSize_append]
  rfl

theorem readArgument_of_not_open (h : ¬∃ w, t = '{' :: w) : readArgument t = none := by
  unfold readArgument
  split
  · exact absurd ⟨_, rfl⟩ h
  · rfl

theorem readLink_opening (r : Text) : readLink (opening ++ r)
    = (closeBrace 0 r).bind fun x => (readArgument x.2).bind fun y =>
        if y.1 = [] then none else some (⟨x.1, y.1⟩, y.2) := by
  rw [opening_eq, List.append_assoc, readLink, Text.strip?_append]
  simp only [List.singleton_append, readArgument]
  cases closeBrace 0 r with
  | none => rfl
  | some x =>
    dsimp only [Option.bind_some]
    split <;> simp [*]

/-- a link begins with its opening. -/
theorem readLink_of_no_opening (h : ∀ r, t ≠ opening ++ r) : readLink t = none := by
  cases hl : readLink t with
  | none => rfl
  | some x =>
    obtain ⟨l, r⟩ := x
    refine absurd ?_ (h (l.target ++ '}' :: (group l.caption ++ r)))
    rw [readLink_eq_some hl, opening_eq, Link.written, Tex.command_two]
    simp [group]

/-- **What is read behind an opening is the link that stands there.** -/
theorem readAt_bytes (u r : Text) :
    readAt (bytes (u ++ (opening ++ r))) (byteSize u)
      = .ok ((readLink (opening ++ r)).map fun x =>
          ⟨byteSize u + byteSize x.1.written, bytes x.1.target, bytes x.1.caption⟩) := by
  have hfirst : byteSize u + opening.length - 1 = byteSize (u ++ Tex.control "href") := by
    rw [Text.byteSize_append]
    rfl
  have htext : u ++ (opening ++ r) = (u ++ Tex.control "href") ++ '{' :: r := by
    rw [opening_eq]
    simp
  -- the front of the text that ends behind the control word
  obtain ⟨f, hf⟩ : ∃ f, f = u ++ Tex.control "href" := ⟨_, rfl⟩
  rw [readLink_opening, readAt, hfirst, htext, ← hf, closingBrace_bytes]
  cases ha : closeBrace 0 r with
  | none => rfl
  | some x =>
    obtain ⟨a, b⟩ := x
    have hr : '{' :: r = group a ++ b := Tex.readArgument_eq_some ha
    have hmiddle : byteSize f + 1 + byteSize a + 1 = byteSize (f ++ group a) := by
      rw [Text.byteSize_append, byteSize_group]
      omega
    have htarget := slice_group f a b
    simp only [Option.map_some, Option.bind_some, bind, Except.bind, pure, Except.pure]
    rw [hr, hmiddle, ← List.append_assoc, getElem?_bytes]
    rw [← List.append_assoc] at htarget
    by_cases hopen : ∃ w, b = '{' :: w
    · obtain ⟨w, rfl⟩ := hopen
      rw [if_neg (not_not_intro (head?_bytes_eq_open_iff.2 ⟨w, rfl⟩)), closingBrace_bytes]
      simp only [readArgument]
      cases hc : closeBrace 0 w with
      | none => rfl
      | some y =>
        obtain ⟨d, e⟩ := y
        have hw : '{' :: w = group d ++ e := Tex.readArgument_eq_some hc
        have hcaption := slice_group (f ++ group a) d e
        rw [← hw, ← hmiddle] at hcaption
        simp only [Option.map_some, Option.bind_some, ← hmiddle, hcaption, htarget,
          Text.bytes_eq_nil_iff]
        split
        · rfl
        · -- the link ends behind its caption
          simp only [Option.map_some, Link.written, Tex.command_two, Text.byteSize_append,
            byteSize_group]
          rw [← Nat.add_assoc, ← Text.byteSize_append u, ← hf]
          congr 3
          omega
    · rw [if_pos fun h => hopen (head?_bytes_eq_open_iff.1 h), readArgument_of_not_open hopen]
      rfl

/-! ## the whole scan -/

theorem places_of_cut_none (h : Text.cut opening t = none) : places i t = [] := by
  have hnone : ∀ p s, t = p ++ s → s ≠ [] → readLink (s ++ []) = none := by
    intro p s ht _
    refine readLink_of_no_opening fun r hr => ?_
    rw [List.append_nil] at hr
    exact Text.cut_eq_none_iff.1 h p r (by rw [ht, hr])
  rw [← List.append_nil t, places_append hnone, places_nil]

/-- no link begins before the first opening. -/
theorem places_of_cut {x : Text.Cut Unit} (h : Text.cut opening t = some x) :
    places i t = places (i + byteSize x.before) (opening ++ x.after) := by
  obtain ⟨ht, hfirst⟩ := Text.cut_eq_some_iff.1 h
  rw [ht]
  refine places_append fun p s hp hs => ?_
  refine readLink_of_no_opening fun r hr => ?_
  have hle := hfirst p r (by rw [ht, hp, List.append_assoc, hr])
  have hlen := List.length_pos_iff.2 hs
  rw [hp, List.length_append] at hle
  omega

/-- behind an opening that begins no link, the next one is looked for. -/
theorem places_opening (h : readLink (opening ++ r) = none) :
    places i (opening ++ r) = places (i + byteSize opening) r := by
  refine places_append fun p s hp hs => ?_
  cases p with
  | nil =>
    rw [List.nil_append] at hp
    rw [← hp]
    exact h
  | cons c p =>
    -- there is no backslash but the first
    obtain ⟨d, s, rfl⟩ := List.exists_cons_of_ne_nil hs
    refine readLink_of_ne ?_ _
    rintro rfl
    have hmem : '\\' ∈ opening.tail := by
      rw [hp]
      simp
    exact absurd hmem (by decide +kernel)

theorem ascii_opening : ∀ c ∈ opening, c.toNat < 128 := by
  unfold opening
  rw [String.toList_ofList]
  decide

/-- **A scan goes without a fault through the links of the text**, in as many turns as there are
characters. -/
theorem scanFrom_bytes {fuel : Nat} (u : Text) (hfuel : t.length < fuel) :
    scanFrom (bytes (u ++ t)) fuel (byteSize u) = .ok ((places (byteSize u) t).map Place.hit) := by
  induction fuel generalizing u t with
  | zero => omega
  | succ fuel ih =>
    have hrest : slice (bytes (u ++ t)) (byteSize u) (bytes (u ++ t)).length = .ok (bytes t) := by
      refine slice_bytes (u := u) (w := []) (by simp) rfl ?_
      rw [Text.length_bytes, Text.byteSize_append]
    have hseek := Text.seek_bytes (p := opening) (by decide_cbv) ascii_opening t
    rw [scanFrom, hrest]
    simp only [bind, Except.bind, pure, Except.pure, hseek]
    cases hx : Text.cut opening t with
    | none =>
      rw [places_of_cut_none hx]
      rfl
    | some x =>
      have ht := Text.cut_eq_some hx
      have hplace : byteSize u + byteSize x.before = byteSize (u ++ x.before) :=
        (Text.byteSize_append ..).symm
      have htext : u ++ t = (u ++ x.before) ++ (opening ++ x.after) := by
        rw [List.append_assoc, ← ht]
      have hlen := congrArg List.length ht
      simp only [List.length_append] at hlen
      rw [places_of_cut hx, hplace, htext]
      simp only [Option.map_some, hplace, readAt_bytes]
      cases hl : readLink (opening ++ x.after) with
      | none =>
        have hskip : byteSize (u ++ x.before) + opening.length
            = byteSize (u ++ x.before ++ opening) := by
          rw [Text.byteSize_append _ opening]
          rfl
        have hturn := ih (t := x.after) (u ++ x.before ++ opening) (by
          have : opening.length = 6 := by decide_cbv
          omega)
        rw [places_opening hl, ← Text.byteSize_append, ← hturn, List.append_assoc _ opening]
        simp only [Option.map_none, hskip]
      | some y =>
        obtain ⟨l, r⟩ := y
        obtain ⟨hwritten, hsound⟩ := readLink_eq_some_iff.1 hl
        have hshort := takes_readLink _ _ _ hl
        have hturn := ih (t := r) (u ++ x.before ++ l.written) (by
          rw [List.length_append] at hshort
          omega)
        rw [List.append_assoc _ l.written, Text.byteSize_append _ l.written] at hturn
        rw [hwritten, places_written hsound]
        simp only [Option.map_some, hturn]
        rfl

theorem scan_bytes (t : Text) : scan (bytes t) = .ok ((places 0 t).map Place.hit) := by
  have hlen := Text.length_le_byteSize t
  rw [scan, Text.length_bytes]
  exact scanFrom_bytes [] (Nat.lt_succ_of_le hlen)

theorem closingBrace_eq_some_iff :
    closingBrace (bytes (u ++ '{' :: t)) (byteSize u) = .ok (some i) ↔
      ∃ a b, t = a ++ '}' :: b ∧ Balanced a ∧ i = byteSize (u ++ '{' :: a) := by
  have hplace : ∀ a, byteSize (u ++ '{' :: a) = byteSize u + 1 + byteSize a := by
    intro a
    rw [Text.byteSize_append, ← List.singleton_append, Text.byteSize_append, Nat.add_assoc]
    rfl
  rw [closingBrace_bytes, Except.ok.injEq, Option.map_eq_some_iff]
  constructor
  · rintro ⟨⟨a, b⟩, h, rfl⟩
    obtain ⟨ht, hnests⟩ := Tex.closeBrace_eq_some_iff.1 h
    exact ⟨a, b, ht, Tex.nests_zero_iff.1 hnests, (hplace a).symm⟩
  · rintro ⟨a, b, ht, ha, rfl⟩
    exact ⟨(a, b), Tex.closeBrace_eq_some_iff.2 ⟨ht, ha.nests 0⟩, (hplace a).symm⟩

/-- **The scan of the bytes finds exactly the links, without a fault.**  From an opening brace the
counter leads to the brace behind the balanced text that follows, and nowhere if there is none.
The scan gives links from left to right, one behind the other: all that can be read in the text and
begin in no link before them. -/
theorem finds_links :
    (∀ u t, (∃ place, closingBrace (bytes (u ++ '{' :: t)) (byteSize u) = .ok place) ∧
      ∀ i, closingBrace (bytes (u ++ '{' :: t)) (byteSize u) = .ok (some i) ↔
        ∃ a b, t = a ++ '}' :: b ∧ Balanced a ∧ i = byteSize (u ++ '{' :: a)) ∧
    ∀ t, ∃ xs : List Place, scan (bytes t) = .ok (xs.map Place.hit) ∧
      xs.map Place.link = found t ∧ (xs.Pairwise fun x y => x.stop ≤ y.start) ∧
      ∀ x, x ∈ xs ↔ x.Stands 0 t ∧ ∀ y ∈ xs, y.start < x.start → y.stop ≤ x.start := by
  refine ⟨fun u t => ⟨⟨_, closingBrace_bytes u t⟩, fun i => closingBrace_eq_some_iff⟩, fun t => ?_⟩
  exact ⟨places 0 t, scan_bytes t, link_places 0 t, pairwise_places 0 t, fun x => mem_places_iff⟩

-- A link whose caption is not closed is passed over, and the one inside of it is found.
example : scan (bytes "\\href\x7ba\x7d\x7bé \\href\x7b\\ü\x7d\x7b\\\x7d\x7dx".toList)
    = .ok [⟨26, [92, 195, 188], [92, 125]⟩] := by
  cbv

end Citation
end Bookpress
