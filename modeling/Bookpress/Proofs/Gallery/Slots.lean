import Bookpress.Gallery.Serve
import Bookpress.Proofs.Disk.Folder
import Bookpress.Proofs.Text.Numerals
import Mathlib.Algebra.GroupWithZero.Nat

/-!
# The names in the picture folder

The picture folder holds downloads and the pictures made from them, side by side: of texts on the
page under their digests, of figures under their numbers, and of the logo.  A digest may well
consist of decimal digits, but it has more of them than the number of any figure.

* `Slot.isName_raw`, `Slot.isName_png` : these are names of files.
* `Slot.raw_ne_png` : no download has the name of a picture.
* `Slot.eq_or_collide` : two slots share their names only if two digests are equal.
-/

namespace Bookpress

/-- what is kept in a picture folder under names of its own. -/
inductive Slot
  /-- the picture of a text on the page. -/
  | keyed (t : Text)
  /-- the figure with a number. -/
  | numbered (n : Nat)
  | logo
deriving Repr, DecidableEq

/-! ## characters of names -/

theorem isAlphanum_of_mem_hex {m : List UInt8} {c : Char} (h : c ∈ Digest.hex m) :
    c.isAlphanum = true := by
  have hdigit : ∀ n < 16, (Nat.digitChar n).isAlphanum = true := by decide
  obtain ⟨b, -, hc⟩ := List.mem_flatMap.1 h
  have hb := b.toNat_lt
  rw [Digest.hexByte, List.mem_cons, List.mem_singleton] at hc
  obtain rfl | rfl := hc <;> exact hdigit _ (by omega)

theorem isAlphanum_of_isDigit {c : Char} (h : c.isDigit = true) : c.isAlphanum = true := by
  simp [Char.isAlphanum, h]

theorem utf8Size_of_isAlphanum {c : Char} (h : c.isAlphanum = true) : c.utf8Size = 1 := by
  have hlt : c.val.toNat < 128 := lt_of_isAlphanum h
  rw [Char.utf8Size, if_pos]
  rw [UInt32.le_iff_toNat_le]
  change c.val.toNat ≤ 127
  omega

theorem byteSize_of_isAlphanum {t : Text} (h : ∀ c ∈ t, c.isAlphanum = true) :
    Text.byteSize t = t.length := by
  induction t with
  | nil => rfl
  | cons c t ih =>
    rw [Text.byteSize, utf8Size_of_isAlphanum (h c (by simp)),
      ih fun d hd => h d (List.mem_cons_of_mem _ hd), List.length_cons, Nat.add_comm]

namespace Slot

/-- the name of what is downloaded for a slot. -/
def raw : Slot → Text
  | .keyed t => cacheKey t
  | .numbered n => Text.ofNat n
  | .logo => "placeholder".toList

/-- the name of the picture of a slot. -/
def png (σ : Slot) : Text := σ.raw ++ pngEnding

theorem pngEnding_eq : pngEnding = ['.', 'p', 'n', 'g'] := String.toList_ofList

/-- whether a slot has a name that is shorter than digests are, if it is a number. -/
def Fits : Slot → Prop
  | .numbered n => n < 10 ^ 31
  | _ => True

variable {σ τ : Slot}

theorem isAlphanum_of_mem_raw {c : Char} (h : c ∈ σ.raw) : c.isAlphanum = true := by
  cases σ with
  | keyed t => exact isAlphanum_of_mem_hex h
  | numbered n => exact isAlphanum_of_isDigit (Text.isDigit_of_mem_ofNat h)
  | logo =>
    have hletters : ∀ c ∈ "placeholder".toList, c.isAlphanum = true := by
      rw [String.toList_ofList]
      decide
    exact hletters c h

theorem not_mem_raw {c : Char} (hc : c.isAlphanum = false) : c ∉ σ.raw := fun h => by
  simp [isAlphanum_of_mem_raw h] at hc

theorem length_keyed (t : Text) : (keyed t).raw.length = 32 := Digest.length_hex _

theorem length_numbered {n : Nat} (h : n < 10 ^ 31) : (numbered n).raw.length ≤ 31 :=
  (Nat.length_toDigits_le_iff (by decide) (by decide)).2 h

theorem length_logo : logo.raw.length = 11 := by
  unfold raw
  rw [String.toList_ofList]
  rfl

theorem length_raw (h : σ.Fits) : σ.raw.length ≤ 32 := by
  cases σ with
  | keyed t => exact Nat.le_of_eq (length_keyed t)
  | numbered n => exact Nat.le_succ_of_le (length_numbered h)
  | logo => exact length_logo ▸ by decide

theorem raw_ne_nil : σ.raw ≠ [] := by
  cases σ with
  | keyed t =>
    intro h
    have := length_keyed t
    simp [h] at this
  | numbered n => exact Text.ofNat_ne_nil n
  | logo =>
    intro h
    have := length_logo
    simp [h] at this

theorem isPart_raw : IsPart σ.raw where
  no_slash := not_mem_raw (by decide)
  ne_nil := raw_ne_nil
  ne_here e := not_mem_raw (σ := σ) (c := '.') (by decide) (by simp [e])
  ne_above e := not_mem_raw (σ := σ) (c := '.') (by decide) (by simp [e])

theorem isName_raw (h : σ.Fits) : IsName σ.raw := by
  refine isPart_raw.isName ?_
  have := length_raw h
  rw [byteSize_of_isAlphanum fun _ => isAlphanum_of_mem_raw]
  omega

theorem length_png : σ.png.length = σ.raw.length + 4 := by
  rw [png, List.length_append]
  rfl

theorem isPart_png : IsPart σ.png where
  no_slash hs := by
    obtain hs | hs := List.mem_append.1 hs
    · exact not_mem_raw (by decide) hs
    · rw [pngEnding_eq] at hs
      exact absurd hs (by decide)
  ne_nil := by simp [png, raw_ne_nil]
  ne_here e := by
    have := congrArg List.length e
    simp [length_png] at this
  ne_above e := by
    have := congrArg List.length e
    simp [length_png] at this

theorem isName_png (h : σ.Fits) : IsName σ.png := by
  refine isPart_png.isName ?_
  have := length_raw h
  have hending : Text.byteSize pngEnding = 4 := by
    rw [pngEnding_eq]
    decide
  rw [png, Text.byteSize_append, byteSize_of_isAlphanum fun _ => isAlphanum_of_mem_raw, hending]
  omega

theorem isName_keyed (t : Text) : IsName (keyed t).raw := isName_raw trivial

theorem isName_keyed_png (t : Text) : IsName (keyed t).png := isName_png trivial

/-! ## names that differ -/

/-- **No download has the name of a picture.** -/
theorem raw_ne_png : σ.raw ≠ τ.png := fun h => by
  have hpoint : '.' ∈ pngEnding := by
    rw [pngEnding_eq]
    decide
  have : '.' ∈ τ.png := List.mem_append_right _ hpoint
  exact not_mem_raw (by decide) (h ▸ this)

theorem png_inj : σ.png = τ.png ↔ σ.raw = τ.raw := List.append_left_inj pngEnding

theorem keyed_ne_numbered (t : Text) {n : Nat} (h : n < 10 ^ 31) :
    (keyed t).raw ≠ (numbered n).raw := fun e => by
  have := length_numbered h
  rw [← e, length_keyed] at this
  omega

theorem keyed_ne_logo (t : Text) : (keyed t).raw ≠ logo.raw := fun e => by
  have := length_keyed t
  rw [e, length_logo] at this
  omega

theorem numbered_ne_logo (n : Nat) : (numbered n).raw ≠ logo.raw := fun e => by
  have hp : 'p' ∈ logo.raw := by
    unfold raw
    rw [String.toList_ofList]
    exact List.mem_cons_self
  exact absurd (Text.isDigit_of_mem_ofNat (e ▸ hp)) (by decide)

/-- **Two slots share their names only if two digests are equal.** -/
theorem eq_or_collide (hσ : σ.Fits) (hτ : τ.Fits) (h : σ.raw = τ.raw) :
    σ = τ ∨ ∃ t u, σ = .keyed t ∧ τ = .keyed u ∧ cacheKey t = cacheKey u := by
  cases σ <;> cases τ
  case keyed.keyed t u => exact .inr ⟨t, u, rfl, rfl, h⟩
  case keyed.numbered t n => exact absurd h (keyed_ne_numbered t hτ)
  case keyed.logo t => exact absurd h (keyed_ne_logo t)
  case numbered.keyed n t => exact absurd h.symm (keyed_ne_numbered t hσ)
  case numbered.numbered m n => exact .inl (congrArg _ (Text.ofNat_injective h))
  case numbered.logo n => exact absurd h (numbered_ne_logo n)
  case logo.keyed t => exact absurd h.symm (keyed_ne_logo t)
  case logo.numbered n => exact absurd h.symm (numbered_ne_logo n)
  case logo.logo => exact .inl rfl

end Slot
end Bookpress
