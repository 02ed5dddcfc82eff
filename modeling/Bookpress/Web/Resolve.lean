import Bookpress.Web.Host

/-!
# Resolving URLs

Reading a URL, alone or as it stands on a page with a URL of its own.
-/

namespace Bookpress
namespace Web

/-! ## names -/

/-- whether a name means the folder itself. -/
def isHere (name : Text) : Bool := name == ['.'] || name.map Char.toLower == "%2e".toList

/-- whether a name means the folder above. -/
def isAbove (name : Text) : Bool :=
  ["..", ".%2e", "%2e.", "%2e%2e"].any fun s => name.map Char.toLower == s.toList

/-- the names reached from `names` along more of them. -/
def walk (names : List Text) : List Text → List Text
  | [] => names
  | n :: rest =>
    if isAbove n then
      walk (if rest.isEmpty then names.dropLast ++ [[]] else names.dropLast) rest
    else if isHere n then walk (if rest.isEmpty then names ++ [[]] else names) rest
    else walk (names ++ [encodeFor stepExtra n]) rest

/-- a text with every backslash for a slash, in special schemes. -/
def evenSlashes (special : Bool) (t : Text) : Text :=
  if special then t.map fun c => if c = '\\' then '/' else c else t

/-- the names of a text that does not start with a slash, from a folder on. -/
def stepsFrom (special : Bool) (names : List Text) (t : Text) : Way :=
  .steps (walk names (Text.split '/' (evenSlashes special t)))

/-- the way of a text that may start with a slash. -/
def wayOf (special : Bool) (t : Text) : Way :=
  match t with
  | [] => .steps (if special then [[]] else [])
  | c :: r => if c = '/' ∨ special ∧ c = '\\' then stepsFrom special [] r
    else stepsFrom special [] t

/-! ## authorities -/

/-- the text before the colon of a port, and the port; brackets may hold colons. -/
def splitPort (t : Text) : Text × Option Text :=
  match Text.splitLast? ':' t with
  | some (a, b) => if b.contains ']' then (t, none) else (a, some b)
  | none => (t, none)

/-- the port that a text names, unless the scheme means it. -/
def readPort (scheme t : Text) : Except UrlFault (Option Nat) :=
  if t = [] then .ok none
  else match Text.toNat? t with
    | none => .error .badPort
    | some n =>
      if 65535 < n then .error .badPort
      else .ok (if portOf? scheme = some n then none else some n)

/-- the name and password of an authority, percent-encoded. -/
def userOf (t : Text) : Text :=
  let name := t.takeWhile (· ≠ ':')
  let password := (t.dropWhile (· ≠ ':')).drop 1
  if name = [] ∧ password = [] then []
  else encodeFor userExtra name
    ++ (if password = [] then [] else ':' :: encodeFor userExtra password) ++ ['@']

/-- the authority that a text names. -/
def readAuthority (scheme t : Text) : Except UrlFault Authority := do
  let halves? := Text.splitLast? '@' t
  let (name, port?) := splitPort ((halves?.map Prod.snd).getD t)
  let host ← hostOf (isSpecial scheme) name
  if host = [] ∧ (halves?.isSome ∨ port?.isSome) then throw .emptyHost
  return ⟨userOf ((halves?.map Prod.fst).getD []), host, ← readPort scheme (port?.getD [])⟩

/-! ## reading -/

/-- the scheme that a text starts with, and what follows its colon. -/
def splitScheme? (t : Text) : Option (Text × Text) :=
  let name := t.takeWhile (· ≠ ':')
  match t.drop name.length with
  | [] => none
  | _ :: rest =>
    if name.head?.any Char.isAlpha
        && name.all fun c => c.isAlphanum || c == '+' || c == '-' || c == '.' then
      some (name.map Char.toLower, rest)
    else none

/-- a text without what is not read: controls and spaces at both ends, line ends and tabs. -/
def readable (t : Text) : Text :=
  let isEdge (c : Char) : Bool := c.toNat ≤ 32
  (Text.dropEndWhile isEdge (t.dropWhile isEdge)).filter fun c =>
    c ≠ '\n' ∧ c ≠ '\r' ∧ c ≠ '\t'

/-- a text in front of the first `c`, and what follows it. -/
def cutAt (c : Char) (t : Text) : Text × Option Text :=
  match t.dropWhile (· ≠ c) with
  | [] => (t, none)
  | _ :: r => (t.takeWhile (· ≠ c), some r)

/-- what stands between a scheme and the end of a URL. -/
structure Body where
  text : Text
  query? : Option Text
  fragment? : Option Text

/-- the parts of what follows a scheme, with the query as it is written. -/
def Body.of (t : Text) : Body :=
  let (front, fragment?) := cutAt '#' t
  let (text, query?) := cutAt '?' front
  ⟨text, query?, fragment?.map (encodeFor fragmentExtra)⟩

/-- the URL of a way with the query and fragment of a body. -/
def Body.close (b : Body) (scheme : Text) (authority? : Option Authority) (way : Way) : Url :=
  ⟨scheme, authority?, way, b.query?.map (encodeFor (queryExtra (isSpecial scheme))), b.fragment?⟩

/-- whether a character is a slash; a backslash counts in special schemes. -/
def isSlash (special : Bool) (c : Char) : Bool := c == '/' || special && c == '\\'

/-- the URL whose authority stands at the front of `t`. -/
def Body.fromAuthority (b : Body) (scheme t : Text) : Except UrlFault Url := do
  let special := isSpecial scheme
  let name := t.takeWhile fun c => !isSlash special c
  let a ← readAuthority scheme name
  return b.close scheme (some a) (wayOf special (t.drop name.length))

/-- the URL of a file: a host may stand after two slashes. -/
def Body.fromFile (b : Body) : Except UrlFault Url := do
  match b.text.map (fun c => if c = '\\' then '/' else c) with
  | '/' :: '/' :: t =>
    let name := t.takeWhile (· ≠ '/')
    let host ← if name = [] then pure [] else hostOf true name
    return b.close fileScheme (some ⟨[], if host = "localhost".toList then [] else host, none⟩)
      (wayOf true (t.drop name.length))
  | t => return b.close fileScheme (some ⟨[], [], none⟩) (wayOf true t)

/-- the URL of a body seen from a URL that leads along `names`. -/
def Body.relativeTo (b : Body) (base : Url) (names : List Text) : Except UrlFault Url :=
  let special := isSpecial base.scheme
  match b.text with
  | [] =>
    match b.query? with
    | some _ => .ok (b.close base.scheme base.authority? base.way)
    | none => .ok { base with fragment? := b.fragment? }
  | c :: r =>
    if isSlash special c then
      if r.head?.any (isSlash special) then
        if base.scheme = fileScheme then b.fromFile
        else b.fromAuthority base.scheme (b.text.dropWhile (isSlash special))
      else .ok (b.close base.scheme base.authority? (stepsFrom special [] r))
    else .ok (b.close base.scheme base.authority? (stepsFrom special names.dropLast b.text))

/-- the URL of a scheme and what follows it. -/
def readAfter (base? : Option Url) (scheme rest : Text) : Except UrlFault Url :=
  let b := Body.of rest
  let sameBase? := base?.filter fun u => u.scheme == scheme
  let slashes := b.text.takeWhile (isSlash (isSpecial scheme))
  if isSpecial scheme then
    match sameBase? with
    | some ⟨_, a?, .steps names, q?, f?⟩ =>
      if slashes.length < 2 then b.relativeTo ⟨scheme, a?, .steps names, q?, f?⟩ names
      else if scheme = fileScheme then b.fromFile
      else b.fromAuthority scheme (b.text.drop slashes.length)
    | _ =>
      if scheme = fileScheme then b.fromFile
      else b.fromAuthority scheme (b.text.drop slashes.length)
  else if 2 ≤ slashes.length then b.fromAuthority scheme (b.text.drop 2)
  else if slashes.length = 1 then .ok (b.close scheme none (stepsFrom false [] (b.text.drop 1)))
  else .ok (b.close scheme none (.plain (encodeFor [] b.text)))

/-- the URL of a text, seen from a URL if there is one. -/
def read (base? : Option Url) (t : Text) : Except UrlFault Url :=
  let t := readable t
  match splitScheme? t with
  | some (scheme, rest) => readAfter base? scheme rest
  | none =>
    match base? with
    | none => .error .noBase
    | some base =>
      let b := Body.of t
      match base.way with
      | .steps names => b.relativeTo base names
      | .plain _ =>
        if t.head? = some '#' then .ok { base with fragment? := b.fragment? }
        else .error .plainBase

/-- the URL that a text stands for on the page at another URL. -/
def resolve (page t : Text) : Except UrlFault Text := do
  let base ← read none page
  let u ← read (some base) t
  return u.toText

end Web
end Bookpress
