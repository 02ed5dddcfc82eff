import Bookpress.Citation.Percent
import Bookpress.Proofs.Tex.Nesting

/-!
# The characters of an encoded target

An encoded target holds characters of URLs only, so it stands in an argument as it is.

* `isUrlChar_of_mem_encode` : every character of an encoded target stands as it is.
* `balanced_encode` : an encoded target holds no braces and no backslashes.
-/

namespace Bookpress
namespace Citation

theorem isUrlChar_hexDigit : ∀ n : Nat, n < 16 → isUrlChar (hexDigit n) = true := by
  unfold isUrlChar urlPunctuation
  rw [String.toList_ofList]
  decide

theorem isUrlChar_of_mem_percentByte {b : UInt8} {c : Char} (h : c ∈ percentByte b) :
    isUrlChar c = true := by
  have hb : b.toNat < 256 := b.toNat_lt
  simp only [percentByte, List.mem_cons, List.not_mem_nil, or_false] at h
  rcases h with rfl | rfl | rfl
  · unfold isUrlChar urlPunctuation
    rw [String.toList_ofList]
    decide
  · exact isUrlChar_hexDigit _ (by omega)
  · exact isUrlChar_hexDigit _ (by omega)

theorem isUrlChar_of_mem_encodeChar {c d : Char} (h : d ∈ encodeChar c) : isUrlChar d = true := by
  unfold encodeChar at h
  split at h
  · rename_i hc
    rwa [List.mem_singleton.1 h]
  · obtain ⟨b, -, hb⟩ := List.mem_flatMap.1 h
    exact isUrlChar_of_mem_percentByte hb

theorem isUrlChar_of_mem_encode {t : Text} {c : Char} (h : c ∈ encode t) :
    isUrlChar c = true := by
  obtain ⟨d, -, hd⟩ := List.mem_flatMap.1 h
  exact isUrlChar_of_mem_encodeChar hd

theorem isOrdinary_of_isUrlChar {c : Char} (h : isUrlChar c = true) : Tex.isOrdinary c = true := by
  have special : ∀ c ∈ ['\\', '{', '}'], isUrlChar c = false := by
    unfold isUrlChar urlPunctuation
    repeat rw [String.toList_ofList]
    decide
  cases hc : Tex.isOrdinary c with
  | true => rfl
  | false =>
    have hm : c ∈ ['\\', '{', '}'] := Decidable.byContradiction fun hn => by
      simp only [List.mem_cons, List.not_mem_nil, or_false, not_or] at hn
      simp [Tex.isOrdinary, hn] at hc
    rw [special c hm] at h
    cases h

theorem slash_not_mem_encode (t : Text) : '\\' ∉ encode t := fun h => by
  have := isOrdinary_of_isUrlChar (isUrlChar_of_mem_encode h)
  revert this
  decide

theorem balanced_encode (t : Text) : Tex.Balanced (encode t) :=
  Tex.balanced_of_isOrdinary fun _ h => isOrdinary_of_isUrlChar (isUrlChar_of_mem_encode h)

end Citation
end Bookpress
