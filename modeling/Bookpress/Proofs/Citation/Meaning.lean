import Bookpress.Proofs.Citation.Encoding
import Bookpress.Proofs.Text.Bytes
import Bookpress.Proofs.Text.Numerals

/-!
# What an encoded target means

A percent sign stands as it is, so that the escapes of a target are left alone and the new ones may
stand behind stray percent signs.  Neither runs into the other: encoding puts a percent sign or the
character itself where a character stood, and so two hexadecimal digits follow a percent sign after
encoding exactly where they did before.

* `readDigit_encode`, `readByte_encode` : the digits at the front of a target stay at its front.
* `decode_encode` : an encoded target stands for the same bytes.
* `encode_keeps_meaning` : an encoded target has characters of URLs only, is its own encoding and
  stands for the same bytes.
-/

namespace Bookpress
namespace Citation

/-! ## digits -/

/-- the value of the hexadecimal digit at the front. -/
def readDigit : Text → Option (Nat × Text)
  | [] => none
  | c :: t => (Text.hexValue? c).map fun x => (x, t)

/-- the byte that two hexadecimal digits at the front write. -/
def readByte (t : Text) : Option (UInt8 × Text) :=
  (readDigit t).bind fun x => (readDigit x.2).map fun y => (UInt8.ofNat (x.1 * 16 + y.1), y.2)

theorem hexValue?_hexDigit : ∀ n : Nat, n < 16 → Text.hexValue? (hexDigit n) = some n := by
  decide

theorem isUrlChar_of_hexValue? {c : Char} {n : Nat} (h : Text.hexValue? c = some n) :
    isUrlChar c = true := by
  have hrange : ∀ {a b : Char}, (decide (a ≤ c) && decide (c ≤ b)) = true →
      a.toNat ≤ c.toNat ∧ c.toNat ≤ b.toNat := by
    intro a b h
    rw [Bool.and_eq_true, decide_eq_true_eq, decide_eq_true_eq] at h
    exact h
  have hc : c.isAlphanum = true := by
    rw [isAlphanum_iff]
    unfold Text.hexValue? at h
    split at h
    · rename_i hc
      have : 48 ≤ c.toNat ∧ c.toNat ≤ 57 := hrange hc
      omega
    · split at h
      · rename_i hc
        have : 97 ≤ c.toNat ∧ c.toNat ≤ 102 := hrange hc
        omega
      · split at h
        · rename_i hc
          have : 65 ≤ c.toNat ∧ c.toNat ≤ 70 := hrange hc
          omega
        · cases h
  simp [isUrlChar, hc]

theorem length_of_readDigit {t r : Text} {n : Nat} (h : readDigit t = some (n, r)) :
    r.length < t.length := by
  cases t with
  | nil => cases h
  | cons c t =>
    obtain ⟨x, -, e⟩ := Option.map_eq_some_iff.1 h
    cases e
    exact Nat.lt_succ_self _

theorem length_of_readByte {t r : Text} {b : UInt8} (h : readByte t = some (b, r)) :
    r.length < t.length := by
  obtain ⟨⟨x, u⟩, hx, h⟩ := Option.bind_eq_some_iff.1 h
  obtain ⟨⟨y, v⟩, hy, e⟩ := Option.map_eq_some_iff.1 h
  cases e
  exact Nat.lt_trans (length_of_readDigit hy) (length_of_readDigit hx)

/-! ## reading back -/

theorem decode_percent (t : Text) :
    decode ('%' :: t) = match readByte t with
      | some (b, r) => b :: decode r
      | none => 37 :: decode t := by
  rcases t with _ | ⟨a, _ | ⟨b, t⟩⟩
  · rfl
  · have hread : readByte [a] = none := by
      cases ha : Text.hexValue? a with
      | none => simp [readByte, readDigit, ha]
      | some x => simp [readByte, readDigit, ha]
    rw [hread]
    rfl
  · cases ha : Text.hexValue? a with
    | none => simp [readByte, readDigit, ha, decode]
    | some x => cases hb : Text.hexValue? b with
      | none => simp [readByte, readDigit, ha, hb, decode]
      | some y => simp [readByte, readDigit, ha, hb, decode]

theorem decode_cons_of_ne {c : Char} (h : c ≠ '%') (t : Text) :
    decode (c :: t) = String.utf8EncodeChar c ++ decode t := by
  rw [decode]
  rintro a b r rfl
  exact absurd rfl h

theorem readDigit_hexDigit {n : Nat} (h : n < 16) (t : Text) :
    readDigit (hexDigit n :: t) = some (n, t) := by
  rw [readDigit, hexValue?_hexDigit n h, Option.map_some]

theorem decode_percentByte (b : UInt8) (t : Text) :
    decode (percentByte b ++ t) = b :: decode t := by
  have hb : b.toNat < 256 := b.toNat_lt
  have hvalue : b.toNat / 16 * 16 + b.toNat % 16 = b.toNat := by omega
  have hread : readByte (hexDigit (b.toNat / 16) :: hexDigit (b.toNat % 16) :: t)
      = some (b, t) := by
    rw [readByte, readDigit_hexDigit (by omega), Option.bind_some,
      readDigit_hexDigit (by omega), Option.map_some, hvalue, UInt8.ofNat_toNat]
  show decode ('%' :: hexDigit (b.toNat / 16) :: hexDigit (b.toNat % 16) :: t) = _
  rw [decode_percent, hread]

theorem decode_percentBytes (bs : List UInt8) (t : Text) :
    decode (bs.flatMap percentByte ++ t) = bs ++ decode t := by
  induction bs with
  | nil => rfl
  | cons b bs ih =>
    rw [List.flatMap_cons, List.append_assoc, decode_percentByte, ih, List.cons_append]

/-! ## encoding -/

theorem isUrlChar_percent : isUrlChar '%' = true := by
  unfold isUrlChar urlPunctuation
  rw [String.toList_ofList]
  decide

/-- a character that does not stand as it is begins with a percent sign. -/
theorem exists_encodeChar {c : Char} (h : isUrlChar c = false) :
    ∃ u, encodeChar c = '%' :: u := by
  obtain ⟨b, us, hc, -⟩ := Text.exists_utf8EncodeChar c
  rw [encodeChar, h, hc]
  exact ⟨_, rfl⟩

theorem readDigit_encode (t : Text) :
    readDigit (encode t) = (readDigit t).map fun x => (x.1, encode x.2) := by
  cases t with
  | nil => rfl
  | cons c t =>
    rw [encode_cons]
    cases hc : isUrlChar c with
    | true =>
      rw [encodeChar_of_isUrlChar hc]
      simp [readDigit]
      rfl
    | false =>
      have hdigit : Text.hexValue? c = none := by
        cases hx : Text.hexValue? c with
        | none => rfl
        | some x => rw [isUrlChar_of_hexValue? hx] at hc; cases hc
      obtain ⟨u, hu⟩ := exists_encodeChar hc
      simp [hu, readDigit, hdigit]
      rfl

theorem readByte_encode (t : Text) :
    readByte (encode t) = (readByte t).map fun x => (x.1, encode x.2) := by
  unfold readByte
  rw [readDigit_encode]
  cases readDigit t with
  | none => rfl
  | some x =>
    rw [Option.map_some, Option.bind_some, Option.bind_some, readDigit_encode]
    cases readDigit x.2 with
    | none => rfl
    | some y => rfl

/-- **An encoded target stands for the same bytes.** -/
theorem decode_encode (t : Text) : decode (encode t) = decode t := by
  induction t using Text.length_induction with
  | step t ih =>
    cases t with
    | nil => rfl
    | cons c t =>
      simp only [List.length_cons] at ih
      have hrest := ih t (by omega)
      rw [encode_cons]
      by_cases hp : c = '%'
      · rw [hp, encodeChar_of_isUrlChar isUrlChar_percent, List.singleton_append, decode_percent,
          readByte_encode, decode_percent]
        cases hr : readByte t with
        | none => exact congrArg (37 :: ·) hrest
        | some x =>
          have := length_of_readByte hr
          exact congrArg (x.1 :: ·) (ih x.2 (by omega))
      · rw [decode_cons_of_ne hp]
        cases hc : isUrlChar c with
        | true =>
          rw [encodeChar_of_isUrlChar hc, List.singleton_append, decode_cons_of_ne hp, hrest]
        | false =>
          rw [encodeChar, hc, if_neg Bool.false_ne_true, decode_percentBytes, hrest]

theorem encode_of_forall {t : Text} (h : ∀ c ∈ t, isUrlChar c = true) : encode t = t := by
  induction t with
  | nil => rfl
  | cons c t ih =>
    rw [List.forall_mem_cons] at h
    rw [encode_cons, encodeChar_of_isUrlChar h.1, ih h.2, List.singleton_append]

theorem lt_of_isUrlChar {c : Char} (h : isUrlChar c = true) : c.toNat < 128 := by
  have hpunctuation : ∀ c ∈ urlPunctuation, c.toNat < 128 := by
    unfold urlPunctuation
    rw [String.toList_ofList]
    decide
  simp only [isUrlChar, Bool.or_eq_true, beq_iff_eq, List.contains_iff_mem] at h
  rcases h with (h | rfl) | h
  · exact lt_of_isAlphanum h
  · decide
  · exact hpunctuation c h

theorem not_isUrlChar_of_mem : ∀ c ∈ ['{', '}', '\\', '~', ' '], isUrlChar c = false := by
  unfold isUrlChar urlPunctuation
  rw [String.toList_ofList]
  decide

/-- **What encoding keeps.**  An encoded target has ASCII letters, digits and the punctuation of
URLs only, no brace, backslash, tilde, space or character beyond ASCII among them; it is its own
encoding; and it stands for the same bytes as the target, in which escapes and percent signs that
begin none may stand anywhere. -/
theorem encode_keeps_meaning (t : Text) :
    (∀ c ∈ encode t,
      (c.isAlphanum = true ∨ c = apostrophe ∨ c ∈ urlPunctuation)
        ∧ c.toNat < 128 ∧ c ∉ ['{', '}', '\\', '~', ' '])
      ∧ encode (encode t) = encode t
      ∧ decode (encode t) = decode t := by
  refine ⟨fun c hc => ?_, encode_of_forall fun _ => isUrlChar_of_mem_encode, decode_encode t⟩
  have hurl := isUrlChar_of_mem_encode hc
  refine ⟨?_, lt_of_isUrlChar hurl, fun hm => ?_⟩
  · simpa [isUrlChar, or_assoc] using hurl
  · rw [not_isUrlChar_of_mem c hm] at hurl
    cases hurl

end Citation
end Bookpress
