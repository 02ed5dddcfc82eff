import Bookpress.CommandLine.Basic

/-!
# The words of a command line

The words are read from left to right, and the first thing that is wrong with them counts.  A
word with two dashes is the name of an option, perhaps with its value after an equals sign; a word
with one dash is a row of letters; after a word of two dashes alone no option follows.

* `verbosity_louder_le` : the verbosity stays a byte.
-/

namespace Bookpress
namespace CommandLine

/-- what has been read of a command line. -/
structure Draft where
  page? : Option Text
  switches : List Switch
  choices : List (Choice × Text)
  verbosity : Nat
deriving Repr, DecidableEq

namespace Draft

/-- nothing has been read. -/
def empty : Draft := ⟨none, [], [], 0⟩

/-- the value of a choice. -/
def value? (d : Draft) (c : Choice) : Option Text := d.choices.lookup c

/-- whether a switch has been set. -/
def has (d : Draft) (s : Switch) : Bool := d.switches.contains s

/-- one more request for details; 255 is the most. -/
def louder (d : Draft) : Draft := { d with verbosity := min 255 (d.verbosity + 1) }

/-- with a switch set. -/
def set (d : Draft) (s : Switch) : Except Halt Draft :=
  if d.has s then .error (.misuse (.repeated s.name))
  else .ok { d with switches := s :: d.switches }

/-- with the value of a choice. -/
def choose (d : Draft) (c : Choice) (v : Text) : Except Halt Draft :=
  if (d.value? c).isSome then .error (.misuse (.repeated c.name))
  else if c.admits v then .ok { d with choices := (c, v) :: d.choices }
  else .error (.misuse (.refused c v))

/-- with the page to convert. -/
def turnTo (d : Draft) (page : Text) : Except Halt Draft :=
  match d.page? with
  | some _ => .error (.misuse (.surplus page))
  | none => .ok { d with page? := some page }

theorem verbosity_louder_le (d : Draft) : d.louder.verbosity ≤ 255 := Nat.min_le_left _ _

/-! ## options -/

/-- an option without a value. -/
def plain (d : Draft) (name : Text) : Except Halt (Option Draft) :=
  if name = "help".toList then .error .help
  else if name = "version".toList then .error .version
  else if name = "verbose".toList then .ok (some d.louder)
  else match Switch.all.find? fun s => s.name.toList = name with
    | some s => (d.set s).map some
    | none => .ok none

/-- an option with two dashes, and the choice that the next word has to be the value of. -/
def long (d : Draft) (name : Text) (value? : Option Text) :
    Except Halt (Draft × Option Choice) :=
  match Choice.all.find? fun c => c.name.toList = name, value? with
  | some c, some v => (d.choose c v).map fun d => (d, none)
  | some c, none => .ok (d, some c)
  | none, some _ =>
    if ["help", "version", "verbose"].any (fun s => s.toList = name)
        || Switch.all.any (fun s => s.name.toList = name) then
      .error (.misuse (.valueUnasked ('-' :: '-' :: name)))
    else .error (.misuse (.unknown ('-' :: '-' :: name)))
  | none, none => do
    match ← d.plain name with
    | some d => .ok (d, none)
    | none => .error (.misuse (.unknown ('-' :: '-' :: name)))

/-- the letters after one dash; the rest after a letter that takes a value is its value. -/
def letters : Draft → List Char → Except Halt (Draft × Option Choice)
  | d, [] => .ok (d, none)
  | d, c :: r =>
    if c = 'v' then d.louder.letters r
    else if c = 'h' then .error .help
    else if c = 'V' then .error .version
    else if c = 'o' then
      if r = [] then .ok (d, some .output)
      else (d.choose .output ((Text.strip? ['='] r).getD r)).map fun d => (d, none)
    else .error (.misuse (.unknown ['-', c]))

/-- the name and the value of an option. -/
def halves (t : Text) : Text × Option Text :=
  (t.takeWhile (· ≠ '='), if t.contains '=' then some ((t.dropWhile (· ≠ '=')).drop 1) else none)

/-- the words of a command line; `pending` is the choice that the next word is the value of. -/
def readWords : Draft → Option Choice → List Text → Except Halt Draft
  | d, none, [] => .ok d
  | _, some c, [] => .error (.misuse (.valueNeeded c))
  | d, pending, w :: ws =>
    match w, pending with
    | ['-', '-'], none => ws.foldlM turnTo d
    | ['-', '-'], some c => .error (.misuse (.valueNeeded c))
    | '-' :: '-' :: option, none => do
      let (name, value?) := halves option
      let (d, pending) ← d.long name value?
      readWords d pending ws
    | '-' :: c :: r, none => do
      let (d, pending) ← d.letters (c :: r)
      readWords d pending ws
    | '-' :: _ :: _, some c => .error (.misuse (.valueNeeded c))
    | _, some c => do readWords (← d.choose c w) none ws
    | _, none => do readWords (← d.turnTo w) none ws

/-- with the choices that the environment makes where the command line makes none. -/
def supplement (environment : String → Option Text) (d : Draft) : Except Halt Draft :=
  Choice.all.foldlM (fun d c =>
    match d.value? c, c.variable?.bind environment with
    | none, some v => d.choose c v
    | _, _ => .ok d) d

end Draft
end CommandLine
end Bookpress
