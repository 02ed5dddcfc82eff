import Bookpress.Citation.Percent

/-!
# URLs

A URL by its parts, and its text.  The parts hold what the text shows: what cannot stand in a part
is percent-encoded in it.

* `isHidden_of_mem_encodeFor` : what is encoded shows no hidden characters.
-/

namespace Bookpress
namespace Web

/-- who answers for a URL. -/
structure Authority where
  /-- the name and password, with the sign that ends them. -/
  user : Text
  host : Text
  port? : Option Nat
deriving Repr, DecidableEq

/-- where a URL leads. -/
inductive Way
  /-- the names from the root. -/
  | steps (names : List Text)
  /-- a text without names in it. -/
  | plain (t : Text)
deriving Repr, DecidableEq

/-- a URL. -/
structure Url where
  scheme : Text
  authority? : Option Authority
  way : Way
  query? : Option Text
  fragment? : Option Text
deriving Repr, DecidableEq

/-- why a text is no URL. -/
inductive UrlFault
  | noBase
  | plainBase
  | emptyHost
  | badHost
  | badCharacter
  | badPort
  | badIpv4
  | badIpv6
deriving Repr, DecidableEq

/-- the words of a fault. -/
def UrlFault.message : UrlFault → String
  | .noBase => "relative URL without a base"
  | .plainBase => "relative URL with a cannot-be-a-base base"
  | .emptyHost => "empty host"
  | .badHost => "invalid international domain name"
  | .badCharacter => "invalid domain character"
  | .badPort => "invalid port number"
  | .badIpv4 => "invalid IPv4 address"
  | .badIpv6 => "invalid IPv6 address"

/-! ## schemes -/

/-- the schemes with a host, and the ports that they mean. -/
def portOf? (scheme : Text) : Option Nat :=
  if scheme = "http".toList ∨ scheme = "ws".toList then some 80
  else if scheme = "https".toList ∨ scheme = "wss".toList then some 443
  else if scheme = "ftp".toList then some 21
  else none

/-- the scheme of files. -/
def fileScheme : Text := "file".toList

/-- whether a scheme knows hosts and takes both slashes for the same. -/
def isSpecial (scheme : Text) : Bool := (portOf? scheme).isSome || scheme == fileScheme

/-- whether a URL leads along names. -/
def Url.hasSteps (u : Url) : Bool :=
  match u.way with
  | .steps _ => true
  | .plain _ => false

/-! ## percent-encoding -/

/-- whether a character is a control or no ASCII; no part of a URL shows these. -/
def isHidden (c : Char) : Bool := c.toNat < 32 || 127 ≤ c.toNat

/-- a text with the hidden characters and those of `extra` percent-encoded. -/
def encodeFor (extra : Text) (t : Text) : Text :=
  t.flatMap fun c =>
    if isHidden c || extra.contains c then (String.utf8EncodeChar c).flatMap Citation.percentByte
    else [c]

theorem isHidden_of_mem_percentByte {b : UInt8} {c : Char} (h : c ∈ Citation.percentByte b) :
    isHidden c = false := by
  have hd : ∀ k : Fin 16, isHidden (Citation.hexDigit k) = false := by decide
  have hb := b.toNat_lt
  simp only [Citation.percentByte, List.mem_cons, List.not_mem_nil, or_false] at h
  rcases h with rfl | rfl | rfl
  · decide
  · exact hd ⟨b.toNat / 16, by omega⟩
  · exact hd ⟨b.toNat % 16, by omega⟩

theorem isHidden_of_mem_encodeFor {extra t : Text} {c : Char} (h : c ∈ encodeFor extra t) :
    isHidden c = false := by
  obtain ⟨d, -, h⟩ := List.mem_flatMap.1 h
  split at h
  · obtain ⟨b, -, h⟩ := List.mem_flatMap.1 h
    exact isHidden_of_mem_percentByte h
  · rename_i hd
    rw [List.mem_singleton.1 h]
    simp only [Bool.or_eq_true, not_or] at hd
    simpa using hd.1

/-- what a fragment does not show. -/
def fragmentExtra : Text := " \"<>`".toList

/-- what a name does not show. -/
def stepExtra : Text := " \"<>`#?\x7b\x7d".toList

/-- what names and passwords do not show. -/
def userExtra : Text := stepExtra ++ "/:;=@[\\]^|".toList

/-- what a query does not show; in special schemes it does not show apostrophes either. -/
def queryExtra (special : Bool) : Text :=
  if special then apostrophe :: " \"#<>".toList else " \"#<>".toList

/-! ## the text of a URL -/

/-- the text of an authority. -/
def Authority.toText (a : Authority) : Text :=
  a.user ++ a.host ++ (match a.port? with
    | some n => ':' :: Text.ofNat n
    | none => [])

/-- the text of a way; names that would be taken for an authority come after a step in place. -/
def Way.toText (hasAuthority : Bool) : Way → Text
  | .plain t => t
  | .steps names =>
    let t := names.flatMap fun n => '/' :: n
    if !hasAuthority && "//".toList.isPrefixOf t then '/' :: '.' :: t else t

/-- the text up to the fragment. -/
def Url.beforeFragment (u : Url) : Text :=
  u.scheme ++ ':' :: ((match u.authority? with
    | some a => '/' :: '/' :: a.toText
    | none => []) ++ u.way.toText u.authority?.isSome ++ (match u.query? with
    | some q => '?' :: q
    | none => []))

/-- the text of a URL. -/
def Url.toText (u : Url) : Text :=
  u.beforeFragment ++ (match u.fragment? with
    | some f => '#' :: f
    | none => [])

end Web
end Bookpress
