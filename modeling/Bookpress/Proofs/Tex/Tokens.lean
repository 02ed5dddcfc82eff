import Bookpress.Proofs.Tex.Escaping

/-!
# How escaped texts are read

LaTeX gives a meaning to ten characters, and reads the name of a command as far as its letters go.
An escaped text falls into the sequences of its special characters and into characters without a
meaning, in one way only, and it is read in these pieces, whatever stands side by side.  One of the
ten has no sequence: the number sign is left as it is.

* `Splits.unique` : a text falls into such pieces in one way at most.
* `tokens_escape` : an escaped text is read character by character.
* `escape_neutral_iff` : escaping takes the meaning from a text iff it holds no number sign.
-/

namespace Bookpress
namespace Tex

/-- the characters to which LaTeX gives a meaning. -/
def reserved : Text := ['#', '$', '%', '&', '~', '_', '^', '\\', '{', '}']

variable {p : Char → Prop} {t : Text}

/-! ## pieces -/

/-- a sequence of a special character, or a character in `p`. -/
def IsPiece (p : Char → Prop) (w : Text) : Prop :=
  (∃ c, (c, w) ∈ specials) ∨ ∃ c, p c ∧ w = [c]

/-- a text falls into pieces. -/
structure Splits (p : Char → Prop) (t : Text) (ws : List Text) : Prop where
  flatten_eq : ws.flatten = t
  isPiece : ∀ w ∈ ws, IsPiece p w

theorem eq_cons_of_mem_specials {c : Char} {w : Text} (h : (c, w) ∈ specials) :
    w = '\\' :: w.tail := exists_tail_of_mem_specials _ h

theorem IsPiece.ne_nil {w : Text} (h : IsPiece p w) : w ≠ [] := by
  rcases h with ⟨c, h⟩ | ⟨c, -, rfl⟩
  · rw [eq_cons_of_mem_specials h]
    exact List.cons_ne_nil _ _
  · exact List.cons_ne_nil _ _

/-- no piece begins another one. -/
theorem IsPiece.unique (hp : ∀ c, p c → c ≠ '\\') {w v a b : Text} (hw : IsPiece p w)
    (hv : IsPiece p v) (h : w ++ a = v ++ b) : w = v := by
  rcases hw with ⟨c, hw⟩ | ⟨c, hc, rfl⟩
  · rcases hv with ⟨d, hv⟩ | ⟨d, hd, rfl⟩
    · -- both are read back, and leave the same rest
      have hread := readSpecial_append hw a
      rw [h, readSpecial_append hv b] at hread
      cases hread
      exact List.append_cancel_right h
    · rw [eq_cons_of_mem_specials hw] at h
      exact absurd (List.cons.inj h).1.symm (hp d hd)
  · rcases hv with ⟨d, hv⟩ | ⟨d, hd, rfl⟩
    · rw [eq_cons_of_mem_specials hv] at h
      exact absurd (List.cons.inj h).1 (hp c hc)
    · rw [(List.cons.inj h).1]

/-- **A text falls into pieces in one way at most.** -/
theorem Splits.unique (hp : ∀ c, p c → c ≠ '\\') {ws vs : List Text} (hw : Splits p t ws)
    (hv : Splits p t vs) : ws = vs := by
  induction ws generalizing t vs with
  | nil =>
    cases vs with
    | nil => rfl
    | cons v vs =>
      have h := hw.flatten_eq.trans hv.flatten_eq.symm
      rw [List.flatten_nil, List.flatten_cons, eq_comm, List.append_eq_nil_iff] at h
      exact absurd h.1 (hv.isPiece v (by simp)).ne_nil
  | cons w ws ih =>
    have h := hw.flatten_eq.trans hv.flatten_eq.symm
    have hpiece := hw.isPiece w (by simp)
    cases vs with
    | nil =>
      rw [List.flatten_nil, List.flatten_cons, List.append_eq_nil_iff] at h
      exact absurd h.1 hpiece.ne_nil
    | cons v vs =>
      rw [List.flatten_cons, List.flatten_cons] at h
      obtain rfl := hpiece.unique hp (hv.isPiece v (by simp)) h
      have hrest : Splits p ws.flatten ws :=
        ⟨rfl, fun u hu => hw.isPiece u (List.mem_cons_of_mem _ hu)⟩
      have hrest' : Splits p ws.flatten vs :=
        ⟨(List.append_cancel_left h).symm, fun u hu => hv.isPiece u (List.mem_cons_of_mem _ hu)⟩
      rw [ih hrest hrest']

/-- an escaped text falls into the sequences of its special characters and its other characters. -/
theorem splits_escape (h : ∀ c ∈ t, isSpecial c = false → p c) :
    Splits p (escape t) (t.map escapeChar) := by
  refine ⟨(List.flatMap_def ..).symm, fun w hw => ?_⟩
  obtain ⟨c, hc, rfl⟩ := List.mem_map.1 hw
  cases hs : isSpecial c with
  | true => exact .inl ⟨c, escapeChar_of_isSpecial hs⟩
  | false => exact .inr ⟨c, h c hc hs, escapeChar_of_not_isSpecial hs⟩

theorem ne_percent_of_not_isSpecial {c : Char} (h : isSpecial c = false) : c ≠ '%' := by
  rintro rfl
  revert h
  decide

theorem not_mem_reserved {c : Char} (hs : isSpecial c = false) (hc : c ≠ '#') :
    c ∉ reserved := by
  have hreserved : ∀ c ∈ reserved, c = '#' ∨ isSpecial c = true := by decide
  intro hm
  rcases hreserved c hm with h | h
  · exact hc h
  · rw [h] at hs
    cases hs

/-! ## tokens -/

/-- what LaTeX reads. -/
inductive Token
  | command (name : Text)
  | comment
  /-- a character with a meaning. -/
  | sign (c : Char)
  | plain (c : Char)
deriving Repr, DecidableEq

/-- the token at the front: a command has all letters that follow the backslash in its name, and
the spaces behind them are skipped, or it is named by one other character; a comment goes on to the
end of its line. -/
def readToken : Text → Option (Token × Text)
  | [] => none
  | c :: t =>
    if c = '\\' then
      match t.takeWhile Char.isAlpha with
      | [] => some (.command (t.take 1), t.drop 1)
      | d :: w => some (.command (d :: w), (t.dropWhile Char.isAlpha).dropWhile (· = ' '))
    else if c = '%' then some (.comment, t.dropWhile (· ≠ '\n'))
    else some (if reserved.contains c then .sign c else .plain c, t)

/-- a text as LaTeX reads it. -/
def tokens (t : Text) : List Token := Text.hits (Text.search readToken) t

theorem takes_readToken : Text.Takes readToken := by
  intro t k r h
  cases t with
  | nil => cases h
  | cons c t =>
    have hletters := (List.dropWhile_sublist Char.isAlpha (l := t)).length_le
    have hspaces := (List.dropWhile_sublist (· = ' ') (l := t.dropWhile Char.isAlpha)).length_le
    have hline := (List.dropWhile_sublist (· ≠ '\n') (l := t)).length_le
    rw [readToken] at h
    split at h
    · split at h
      · cases h
        simp only [List.length_drop, List.length_cons]
        omega
      · cases h
        simp only [List.length_cons]
        omega
    · split at h
      · cases h
        simp only [List.length_cons]
        omega
      · cases h
        simp

theorem tokens_nil : tokens [] = [] := Text.hits_search_nil takes_readToken

theorem tokens_of_read {k : Token} {r : Text} (h : readToken t = some (k, r)) :
    tokens t = k :: tokens r := Text.hits_search_of_some takes_readToken h

theorem tokens_cons {c : Char} (hs : c ≠ '\\') (hc : c ≠ '%') (t : Text) :
    tokens (c :: t) = (if reserved.contains c then .sign c else .plain c) :: tokens t :=
  tokens_of_read (by simp [readToken, hs, hc])

/-- the name of a command ends where a character follows that is no letter. -/
theorem tokens_word {w : Text} (hw : w ≠ []) (hletters : ∀ c ∈ w, c.isAlpha = true) {d : Char}
    (hd : d.isAlpha = false) (hspace : d ≠ ' ') (t : Text) :
    tokens ('\\' :: (w ++ d :: t)) = .command w :: tokens (d :: t) := by
  obtain ⟨c, v, rfl⟩ := List.exists_cons_of_ne_nil hw
  have htake : (c :: v ++ d :: t).takeWhile Char.isAlpha = c :: v := by
    rw [List.takeWhile_append_of_pos hletters, List.takeWhile_cons_of_neg (by simp [hd]),
      List.append_nil]
  have hdrop : (c :: v ++ d :: t).dropWhile Char.isAlpha = d :: t := by
    rw [List.dropWhile_append_of_pos hletters, List.dropWhile_cons_of_neg (by simp [hd])]
  apply tokens_of_read
  rw [readToken, if_pos rfl, htake, hdrop, List.dropWhile_cons_of_neg (by simpa using hspace)]

/-! ## sequences -/

/-- what is read of a text does not depend on what follows it. -/
def IsClosed (w : Text) : Prop := ∃ ks, ∀ t, tokens (w ++ t) = ks ++ tokens t

theorem IsClosed.tokens_append {w : Text} (h : IsClosed w) (t : Text) :
    tokens (w ++ t) = tokens w ++ tokens t := by
  obtain ⟨ks, hks⟩ := h
  have hw := hks []
  rw [tokens_nil, List.append_nil, List.append_nil] at hw
  rw [hks, hw]

theorem IsClosed.append {u v : Text} (hu : IsClosed u) (hv : IsClosed v) : IsClosed (u ++ v) :=
  ⟨tokens u ++ tokens v, fun t => by
    rw [List.append_assoc, hu.tokens_append, hv.tokens_append, List.append_assoc]⟩

theorem isClosed_singleton {c : Char} (hs : c ≠ '\\') (hc : c ≠ '%') : IsClosed [c] :=
  ⟨[_], tokens_cons hs hc⟩

theorem isClosed_symbol {d : Char} (hd : d.isAlpha = false) : IsClosed ['\\', d] :=
  ⟨[.command [d]], fun _ => tokens_of_read (by simp [readToken, hd])⟩

theorem isClosed_word {w : Text} (hw : w ≠ []) (hletters : ∀ c ∈ w, c.isAlpha = true) {d : Char}
    {r : Text} (hd : d.isAlpha = false) (hspace : d ≠ ' ') (hr : IsClosed (d :: r)) :
    IsClosed ('\\' :: w ++ d :: r) := by
  refine ⟨.command w :: tokens (d :: r), fun t => ?_⟩
  have hword := tokens_word hw hletters hd hspace (r ++ t)
  have hrest := hr.tokens_append t
  rw [List.cons_append] at hrest
  rw [hrest] at hword
  simpa using hword

theorem isClosed_stopped {w : Text} (hw : w ≠ []) (hletters : ∀ c ∈ w, c.isAlpha = true) :
    IsClosed ('\\' :: w ++ stop) := by
  have hopen := isClosed_singleton (c := '{') (by decide) (by decide)
  have hclose := isClosed_singleton (c := '}') (by decide) (by decide)
  exact isClosed_word hw hletters (by decide) (by decide) (hopen.append hclose)

/-- **The sequences are read as they are, whatever follows them.** -/
theorem isClosed_of_mem_specials {c : Char} {w : Text} (h : (c, w) ∈ specials) : IsClosed w := by
  simp only [specials, control, List.mem_cons, Prod.mk.injEq, List.not_mem_nil, or_false] at h
  repeat rw [String.toList_ofList] at h
  rcases h with ⟨rfl, rfl⟩ | ⟨rfl, rfl⟩ | ⟨rfl, rfl⟩ | ⟨rfl, rfl⟩ | ⟨rfl, rfl⟩ | ⟨rfl, rfl⟩
    | ⟨rfl, rfl⟩ | ⟨rfl, rfl⟩ | ⟨rfl, rfl⟩ | ⟨rfl, rfl⟩ | ⟨rfl, rfl⟩
  · exact isClosed_stopped (by decide) (by decide)
  · exact isClosed_stopped (by decide) (by decide)
  · exact isClosed_stopped (by decide) (by decide)
  · exact isClosed_stopped (by decide) (by decide)
  · have hsign := isClosed_singleton (c := '^') (by decide) (by decide)
    exact isClosed_word (w := ['s', 't', 'r', 'i', 'n', 'g']) (by decide) (by decide) (by decide)
      (by decide) hsign
  all_goals exact isClosed_symbol (by decide)

theorem isClosed_escapeChar (c : Char) : IsClosed (escapeChar c) := by
  cases hs : isSpecial c with
  | true => exact isClosed_of_mem_specials (escapeChar_of_isSpecial hs)
  | false =>
    rw [escapeChar_of_not_isSpecial hs]
    exact isClosed_singleton (ne_slash_of_not_isSpecial hs) (ne_percent_of_not_isSpecial hs)

/-- **An escaped text is read character by character.** -/
theorem tokens_escape (t : Text) :
    tokens (escape t) = t.flatMap fun c => tokens (escapeChar c) := by
  induction t with
  | nil => exact tokens_nil
  | cons c t ih => rw [escape_cons, (isClosed_escapeChar c).tokens_append, ih, List.flatMap_cons]

/-! ## the number sign -/

/-- a token of a sequence, or a character without a meaning. -/
def Token.IsPrinted (k : Token) : Prop :=
  (∃ c, k = .plain c) ∨ ∃ x ∈ specials, k ∈ tokens x.2

/-- no sequence holds the number sign, or is read as one. -/
theorem hash_not_mem : ∀ x ∈ specials, '#' ∉ x.2 ∧ Token.sign '#' ∉ tokens x.2 := by
  unfold specials control stop
  repeat rw [String.toList_ofList]
  decide

theorem mem_tokens_escape {k : Token} :
    k ∈ tokens (escape t) ↔ ∃ c ∈ t, k ∈ tokens (escapeChar c) := by
  rw [tokens_escape, List.mem_flatMap]

theorem tokens_singleton {c : Char} (hs : isSpecial c = false) (hc : c ≠ '#') :
    tokens [c] = [.plain c] := by
  rw [tokens_cons (ne_slash_of_not_isSpecial hs) (ne_percent_of_not_isSpecial hs), tokens_nil,
    if_neg (by simpa using not_mem_reserved hs hc)]

theorem isPrinted_iff : (∀ k ∈ tokens (escape t), k.IsPrinted) ↔ '#' ∉ t := by
  constructor
  · intro h hm
    have hsign : Token.sign '#' ∈ tokens (escape t) := mem_tokens_escape.2 ⟨'#', hm, by decide⟩
    rcases h _ hsign with ⟨c, hc⟩ | ⟨x, hx, hk⟩
    · cases hc
    · exact (hash_not_mem x hx).2 hk
  · intro h k hk
    obtain ⟨c, hc, hk⟩ := mem_tokens_escape.1 hk
    cases hs : isSpecial c with
    | true => exact .inr ⟨_, escapeChar_of_isSpecial hs, hk⟩
    | false =>
      have hne : c ≠ '#' := fun e => h (e ▸ hc)
      rw [escapeChar_of_not_isSpecial hs, tokens_singleton hs hne, List.mem_singleton] at hk
      exact .inl ⟨c, hk⟩

theorem exists_splits_iff : (∃ ws, Splits (· ∉ reserved) (escape t) ws) ↔ '#' ∉ t := by
  constructor
  · rintro ⟨ws, h⟩ hm
    have hesc : '#' ∈ escape t := List.mem_flatMap.2 ⟨'#', hm, by decide⟩
    rw [← h.flatten_eq] at hesc
    obtain ⟨w, hw, hc⟩ := List.mem_flatten.1 hesc
    rcases h.isPiece w hw with ⟨d, hd⟩ | ⟨d, hd, rfl⟩
    · exact (hash_not_mem _ hd).1 hc
    · rw [← List.mem_singleton.1 hc] at hd
      exact hd (by decide)
  · intro h
    exact ⟨_, splits_escape fun c hc hs => not_mem_reserved hs fun e => h (e ▸ hc)⟩

/-- **Escaping takes the meaning from a text iff it holds no number sign.**  An escaped text falls
into sequences and characters without a meaning exactly if there is no number sign in the text, and
so it is read; with number signs left to stand, it always falls into such pieces.  It does so in one
way only, and is read piece by piece. -/
theorem escape_neutral_iff (t : Text) :
    ((∃! ws, Splits (· ∉ reserved) (escape t) ws) ↔ '#' ∉ t)
      ∧ ((∀ k ∈ tokens (escape t), k.IsPrinted) ↔ '#' ∉ t)
      ∧ (∃! ws, Splits (fun c => c ∉ reserved ∨ c = '#') (escape t) ws)
      ∧ tokens (escape t) = t.flatMap fun c => tokens (escapeChar c) := by
  have hslash : ∀ c, c ∉ reserved ∨ c = '#' → c ≠ '\\' := by
    rintro c h rfl
    revert h
    decide
  refine ⟨?_, isPrinted_iff, ?_, tokens_escape t⟩
  · rw [← exists_splits_iff]
    refine ⟨ExistsUnique.exists, fun ⟨ws, h⟩ => ⟨ws, h, fun vs hv => ?_⟩⟩
    exact hv.unique (fun c hc => hslash c (.inl hc)) h
  · have h : Splits (fun c => c ∉ reserved ∨ c = '#') (escape t) (t.map escapeChar) :=
      splits_escape fun c _ hs => (Decidable.em (c = '#')).symm.imp_left (not_mem_reserved hs)
    exact ⟨_, h, fun vs hv => hv.unique hslash h⟩

/-- **A number sign keeps its meaning.** -/
theorem not_neutral_hash :
    ¬ ∀ t, ∃! ws, Splits (· ∉ reserved) (escape t) ws := by
  intro h
  exact exists_splits_iff.1 (h ['#']).exists (by decide)

end Tex
end Bookpress
