import Bookpress.Proofs.Text.Searching

/-!
# The bytes of a text

The UTF-8 form of a text, for programs that go through it byte by byte.  The bytes of ASCII
characters stand for themselves, and every other character is a lead byte with trailing bytes
behind it.  So a place in the bytes is the end of a front of the text exactly if no trailing byte
stands there, and an ASCII text is found among the bytes where it is found in the text.

* `utf8EncodeChar_cases` : the bytes of a character.
* `isBoundary_append`, `slice?_bytes` : bytes may be cut out between fronts of a text.
* `seek_bytes` : the first occurrence of an ASCII text.
-/

namespace Bookpress
namespace Text

/-- the UTF-8 form of a text. -/
def bytes (t : Text) : List UInt8 := t.flatMap String.utf8EncodeChar

/-- whether a byte stands inside the form of a character. -/
def isTrailing (b : UInt8) : Bool := decide (128 ≤ b.toNat) && decide (b.toNat < 192)

/-- whether a place does not stand inside the form of a character. -/
def isBoundary (bs : List UInt8) (i : Nat) : Bool :=
  match bs[i]? with
  | some b => !isTrailing b
  | none => decide (i = bs.length)

/-- the bytes between two places, if a text may be cut there. -/
def slice? (bs : List UInt8) (i j : Nat) : Option (List UInt8) :=
  if i ≤ j ∧ isBoundary bs i ∧ isBoundary bs j then some ((bs.take j).drop i) else none

/-- the place of the first occurrence of `p`. -/
def seek (p : List UInt8) : List UInt8 → Option Nat
  | [] => if p = [] then some 0 else none
  | b :: bs => if p.isPrefixOf (b :: bs) then some 0 else (seek p bs).map (· + 1)

variable {c : Char} {p t u v w : Text} {b : UInt8} {bs us : List UInt8}

@[simp] theorem bytes_nil : bytes [] = [] := rfl

theorem bytes_cons (c : Char) (t : Text) : bytes (c :: t) = String.utf8EncodeChar c ++ bytes t :=
  List.flatMap_cons ..

@[simp] theorem bytes_append (u v : Text) : bytes (u ++ v) = bytes u ++ bytes v :=
  List.flatMap_append ..

@[simp] theorem length_bytes (t : Text) : (bytes t).length = byteSize t := by
  induction t with
  | nil => rfl
  | cons c t ih => rw [bytes_cons, List.length_append, String.length_utf8EncodeChar, ih, byteSize]

theorem length_le_byteSize (t : Text) : t.length ≤ byteSize t := by
  induction t with
  | nil => exact Nat.le_refl 0
  | cons c t ih =>
    have hpos := c.utf8Size_pos
    rw [List.length_cons, byteSize]
    omega

theorem byteSize_eq_zero_iff : byteSize t = 0 ↔ t = [] := by
  constructor
  · intro h
    have hlen := length_le_byteSize t
    exact List.length_eq_zero_iff.1 (by omega)
  · rintro rfl
    rfl

theorem bytes_eq_nil_iff : bytes t = [] ↔ t = [] := by
  rw [← List.length_eq_zero_iff, length_bytes, byteSize_eq_zero_iff]

/-! ## the bytes of a character -/

/-- **A character is a byte below 128, or a lead byte and trailing bytes.** -/
theorem utf8EncodeChar_cases (c : Char) :
    (c.toNat < 128 ∧ String.utf8EncodeChar c = [UInt8.ofNat c.toNat]) ∨
      (128 ≤ c.toNat ∧ ∃ b us, String.utf8EncodeChar c = b :: us ∧ 192 ≤ b.toNat ∧
        ∀ u ∈ us, isTrailing u = true) := by
  have hval : c.val.toNat = c.toNat := rfl
  rw [String.utf8EncodeChar.eq_1, hval]
  split
  · exact .inl ⟨by omega, rfl⟩
  · refine .inr ⟨by omega, ?_⟩
    split
    · refine ⟨_, _, rfl, ?_, ?_⟩
      · simp only [UInt8.toNat_ofNat']
        omega
      · simp only [List.forall_mem_cons, isTrailing, UInt8.toNat_ofNat', Bool.and_eq_true,
          decide_eq_true_eq]
        exact ⟨by omega, fun _ h => absurd h List.not_mem_nil⟩
    · split
      · refine ⟨_, _, rfl, ?_, ?_⟩
        · simp only [UInt8.toNat_ofNat']
          omega
        · simp only [List.forall_mem_cons, isTrailing, UInt8.toNat_ofNat', Bool.and_eq_true,
            decide_eq_true_eq]
          exact ⟨by omega, by omega, fun _ h => absurd h List.not_mem_nil⟩
      · refine ⟨_, _, rfl, ?_, ?_⟩
        · simp only [UInt8.toNat_ofNat']
          omega
        · simp only [List.forall_mem_cons, isTrailing, UInt8.toNat_ofNat', Bool.and_eq_true,
            decide_eq_true_eq]
          exact ⟨by omega, by omega, by omega, fun _ h => absurd h List.not_mem_nil⟩

theorem exists_utf8EncodeChar (c : Char) : ∃ b us, String.utf8EncodeChar c = b :: us ∧
    (∀ u ∈ us, isTrailing u = true) ∧ us.length + 1 = c.utf8Size := by
  rw [← String.length_utf8EncodeChar]
  rcases utf8EncodeChar_cases c with ⟨-, hc⟩ | ⟨-, b, us, hc, -, hus⟩
  · exact ⟨_, [], hc, fun _ h => absurd h List.not_mem_nil, by rw [hc]; rfl⟩
  · exact ⟨b, us, hc, hus, by rw [hc]; rfl⟩

theorem bytes_cons_of_lt (h : c.toNat < 128) (t : Text) :
    bytes (c :: t) = UInt8.ofNat c.toNat :: bytes t := by
  rcases utf8EncodeChar_cases c with ⟨-, hc⟩ | ⟨hle, -⟩
  · rw [bytes_cons, hc, List.singleton_append]
  · omega

/-! ## places and slices -/

theorem isBoundary_append (u v : Text) : isBoundary (bytes (u ++ v)) (byteSize u) = true := by
  unfold isBoundary
  rw [bytes_append, List.getElem?_append_right (Nat.le_of_eq (length_bytes u)), length_bytes,
    Nat.sub_self]
  cases v with
  | nil => simp
  | cons c v =>
    rw [bytes_cons]
    rcases utf8EncodeChar_cases c with ⟨hlt, hc⟩ | ⟨-, b, us, hc, hb, -⟩
    · rw [hc]
      simp only [List.cons_append, List.getElem?_cons_zero, isTrailing, UInt8.toNat_ofNat',
        Bool.not_eq_true', Bool.and_eq_false_iff, decide_eq_false_iff_not]
      omega
    · rw [hc]
      simp only [List.cons_append, List.getElem?_cons_zero, isTrailing, Bool.not_eq_true',
        Bool.and_eq_false_iff, decide_eq_false_iff_not]
      omega

/-- **Between two fronts of a text stand the bytes of what is between them.** -/
theorem slice?_bytes (u v w : Text) :
    slice? (bytes (u ++ (v ++ w))) (byteSize u) (byteSize u + byteSize v) = some (bytes v) := by
  have hfirst := isBoundary_append u (v ++ w)
  have hlast := isBoundary_append (u ++ v) w
  rw [List.append_assoc, byteSize_append] at hlast
  unfold slice?
  rw [if_pos ⟨Nat.le_add_right _ _, hfirst, hlast⟩, bytes_append, bytes_append, ← length_bytes u,
    ← length_bytes v, List.take_length_add_append, List.drop_left' rfl, List.take_left' rfl]

/-! ## occurrences -/

/-- an ASCII text is a front of the bytes where it is a front of the text. -/
theorem isPrefixOf_bytes (hp : ∀ c ∈ p, c.toNat < 128) (t : Text) :
    (bytes p).isPrefixOf (bytes t) = p.isPrefixOf t := by
  induction p generalizing t with
  | nil => simp
  | cons c p ih =>
    rw [List.forall_mem_cons] at hp
    rw [bytes_cons_of_lt hp.1]
    cases t with
    | nil => rfl
    | cons d t =>
      rw [bytes_cons]
      rcases utf8EncodeChar_cases d with ⟨hlt, hd⟩ | ⟨hle, b, us, hd, hb, -⟩
      · have hiff : UInt8.ofNat c.toNat = UInt8.ofNat d.toNat ↔ c = d := by
          constructor
          · intro h
            have hnat := congrArg UInt8.toNat h
            simp only [UInt8.toNat_ofNat'] at hnat
            rw [Nat.mod_eq_of_lt (by omega), Nat.mod_eq_of_lt (by omega)] at hnat
            exact Char.toNat_inj.1 hnat
          · rintro rfl
            rfl
        rw [hd, List.singleton_append, List.isPrefixOf_cons_cons, List.isPrefixOf_cons_cons,
          ih hp.2]
        congr 1
        rw [Bool.eq_iff_iff, beq_iff_eq, beq_iff_eq, hiff]
      · have hne : UInt8.ofNat c.toNat ≠ b := by
          rintro rfl
          simp only [UInt8.toNat_ofNat'] at hb
          omega
        have hne' : c ≠ d := by
          rintro rfl
          omega
        rw [hd, List.cons_append, List.isPrefixOf_cons_cons, List.isPrefixOf_cons_cons,
          beq_eq_false_iff_ne.2 hne, beq_eq_false_iff_ne.2 hne']
        rfl

/-- no ASCII text begins in the trailing bytes. -/
theorem seek_append_trailing (hc : c.toNat < 128) (hu : ∀ u ∈ us, isTrailing u = true)
    (bs : List UInt8) :
    seek (bytes (c :: p)) (us ++ bs) = (seek (bytes (c :: p)) bs).map (· + us.length) := by
  induction us with
  | nil => simp
  | cons u us ih =>
    rw [List.forall_mem_cons] at hu
    have hne : UInt8.ofNat c.toNat ≠ u := by
      rintro rfl
      have h := hu.1
      simp only [isTrailing, UInt8.toNat_ofNat', Bool.and_eq_true, decide_eq_true_eq] at h
      omega
    rw [List.cons_append, seek, ih hu.2, bytes_cons_of_lt hc, List.isPrefixOf_cons_cons,
      beq_eq_false_iff_ne.2 hne, Bool.false_and, if_neg Bool.false_ne_true, Option.map_map]
    rfl

/-- **An ASCII text is found among the bytes where it is found in the text.** -/
theorem seek_bytes (hne : p ≠ []) (hp : ∀ c ∈ p, c.toNat < 128) (t : Text) :
    seek (bytes p) (bytes t) = (cut p t).map fun x => byteSize x.before := by
  obtain ⟨c, q, rfl⟩ := List.exists_cons_of_ne_nil hne
  have hnil : bytes (c :: q) ≠ [] := fun h => hne (bytes_eq_nil_iff.1 h)
  induction t with
  | nil =>
    rw [bytes_nil, seek, if_neg hnil, cut, search, strip?]
    rfl
  | cons d t ih =>
    -- the first byte of the form of `d` is looked at, the trailing ones are passed
    obtain ⟨b, us, hd, hus, hlen⟩ := exists_utf8EncodeChar d
    have hfront := isPrefixOf_bytes hp (d :: t)
    rw [bytes_cons d, hd, List.cons_append] at hfront ⊢
    rw [seek, hfront]
    cases hx : (c :: q).isPrefixOf (d :: t) with
    | true =>
      rw [if_pos rfl, cut_of_strip? (by rw [strip?, if_pos hx])]
      rfl
    | false =>
      rw [if_neg Bool.false_ne_true, seek_append_trailing (hp c List.mem_cons_self) hus, ih,
        cut_cons_of_none (by rw [strip?, hx, if_neg Bool.false_ne_true]), Option.map_map,
        Option.map_map, Option.map_map]
      congr 1
      funext x
      show byteSize x.before + us.length + 1 = d.utf8Size + byteSize x.before
      omega

end Text
end Bookpress
