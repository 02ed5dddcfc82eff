import Bookpress.Proofs.Tex.Escaping

/-!
# Reading escaped texts

The sequences of the special characters are a code that can be read from left to right: no text in
front of it, and nothing that follows it, makes an escaped text read as another one.  So an escaped
text begins with an escaped pattern exactly if the text begins with the pattern, and a pattern may
be replaced before or after escaping.

* `strip?_escape` : an escaped pattern at the front of an escaped text.
* `replace_escape` : a pattern is replaced before or after escaping.
* `occursIn_escape` : an escaped pattern occurs where the pattern does.
* `escape_decodes` : escaped texts are read back, in front of any text.
-/

namespace Bookpress
namespace Tex

variable {p : Text}

theorem escape_injective : Function.Injective escape := fun a b h => by
  rw [← unescape_escape a, h, unescape_escape]

/-- **Escaped texts are read back, in front of any text**, so no two texts are escaped alike. -/
theorem escape_decodes :
    (∀ a t, unescape (escape a ++ t) = a ++ unescape t) ∧ Function.LeftInverse unescape escape ∧
      Function.Injective escape :=
  ⟨unescape_escape_append, unescape_escape, escape_injective⟩

/-! ## patterns in escaped texts -/

/-- **An escaped text begins with an escaped pattern exactly if the text begins with the
pattern.** -/
theorem strip?_escape (p t : Text) :
    Text.strip? (escape p) (escape t) = (Text.strip? p t).map escape := by
  cases h : Text.strip? p t with
  | some r =>
    rw [Text.strip?_eq_some.1 h, escape_append, Text.strip?_append]
    rfl
  | none =>
    rw [Option.map_none, Option.eq_none_iff_forall_ne_some]
    intro r hr
    -- what follows the escaped pattern is read back as what follows the pattern
    have ht := congrArg unescape (Text.strip?_eq_some.1 hr)
    rw [unescape_escape, unescape_escape_append] at ht
    rw [ht, Text.strip?_append] at h
    cases h

/-- the sequence of a character is one character, and none that begins a pattern follows it. -/
theorem exists_escapeChar_eq_cons {a : Char} (ha : ∀ x ∈ specials, a ∉ x.2.tail) (c : Char) :
    ∃ d u, escapeChar c = d :: u ∧ a ∉ u := by
  cases hs : isSpecial c with
  | true =>
    have hc := escapeChar_of_isSpecial hs
    exact ⟨'\\', _, exists_tail_of_mem_specials _ hc, ha _ hc⟩
  | false => exact ⟨c, [], escapeChar_of_not_isSpecial hs, List.not_mem_nil⟩

/-- **A pattern may be replaced before or after escaping**, if it does not begin as a sequence goes
on. -/
theorem replace_escape {a : Char} {q : Text} (hp : escape p = a :: q)
    (ha : ∀ x ∈ specials, a ∉ x.2.tail) (s t : Text) :
    Text.replace (escape p) (escape s) (escape t) = escape (Text.replace p s t) := by
  have hescape : escape p ≠ [] := by rw [hp]; exact List.cons_ne_nil _ _
  have hpattern : p ≠ [] := fun e => hescape (escape_eq_nil_iff.2 e)
  induction t using Text.replace_induction hpattern with
  | nil => rw [escape_nil, Text.replace_nil hescape, Text.replace_nil hpattern, escape_nil]
  | front t ih =>
    rw [escape_append, Text.replace_append hescape, Text.replace_append hpattern, ih,
      escape_append]
  | char c t h ih =>
    have hfront := strip?_escape p (c :: t)
    obtain ⟨d, u, hd, hu⟩ := exists_escapeChar_eq_cons ha c
    rw [h, escape_cons, hd, List.cons_append] at hfront
    rw [Text.replace_cons_of_not hpattern s h, escape_cons, escape_cons, hd, List.cons_append,
      Text.replace_cons_of_not hescape _ hfront]
    rw [hp, Text.replace_append_of_not_mem _ hu, ← hp, ih, List.cons_append]

theorem occursIn_append_of_not_mem {a : Char} {q u : Text} (hu : a ∉ u) (t : Text) :
    Text.occursIn (a :: q) (u ++ t) = Text.occursIn (a :: q) t := by
  induction u with
  | nil => rfl
  | cons c u ih =>
    rw [List.mem_cons, not_or] at hu
    have hstrip := Text.strip?_cons_cons_of_ne hu.1 q (u ++ t)
    rw [← ih hu.2, Text.occursIn, List.cons_append, Text.cut_cons_of_none hstrip, Option.isSome_map,
      Text.occursIn]

/-- **An escaped pattern occurs where the pattern does**, if it does not begin as a sequence goes
on. -/
theorem occursIn_escape {a : Char} {q : Text} (hp : escape p = a :: q)
    (ha : ∀ x ∈ specials, a ∉ x.2.tail) (t : Text) :
    Text.occursIn (escape p) (escape t) = Text.occursIn p t := by
  induction t with
  | nil =>
    have hpattern : p ≠ [] := by
      rintro rfl
      cases hp
    obtain ⟨b, r, rfl⟩ := List.exists_cons_of_ne_nil hpattern
    rw [hp]
    rfl
  | cons c t ih =>
    have hfront := strip?_escape p (c :: t)
    cases h : Text.strip? p (c :: t) with
    | some r =>
      rw [h] at hfront
      rw [Text.occursIn, Text.cut_of_strip? hfront, Text.occursIn, Text.cut_of_strip? h]
      rfl
    | none =>
      obtain ⟨d, u, hd, hu⟩ := exists_escapeChar_eq_cons ha c
      rw [h, escape_cons, hd, List.cons_append] at hfront
      rw [Text.occursIn, escape_cons, hd, List.cons_append, Text.cut_cons_of_none hfront,
        Option.isSome_map, ← Text.occursIn, hp, occursIn_append_of_not_mem hu, ← hp, ih,
        Text.occursIn, Text.occursIn, Text.cut_cons_of_none h, Option.isSome_map]

end Tex
end Bookpress
