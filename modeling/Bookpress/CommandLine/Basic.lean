import Bookpress.Text.Basic

/-!
# Command lines

What can stand on the command line: one page, switches, and choices that take a value.  A choice
that does not stand there is looked up in the environment.

* `readSeconds?_digits` : a row of digits is read as its number if that is at most `secondsLimit`.
-/

namespace Bookpress
namespace CommandLine

/-- options without a value, which stand at most once. -/
inductive Switch
  | noColor | noReferences | indent | noCache | wordWrap | json
deriving Repr, DecidableEq

/-- the name of a switch. -/
def Switch.name : Switch → String
  | .noColor => "no-color"
  | .noReferences => "no-references"
  | .indent => "indent"
  | .noCache => "no-cache"
  | .wordWrap => "word-wrap"
  | .json => "json"

/-- all switches. -/
def Switch.all : List Switch := [.noColor, .noReferences, .indent, .noCache, .wordWrap, .json]

/-- options with a value, which stand at most once. -/
inductive Choice
  | output | language | workDir | imageDir | backend | program | timeout
deriving Repr, DecidableEq

/-- the name of a choice. -/
def Choice.name : Choice → String
  | .output => "output"
  | .language => "lang"
  | .workDir => "work-dir"
  | .imageDir => "image-dir"
  | .backend => "raster"
  | .program => "convert-program"
  | .timeout => "download-timeout"

/-- all choices. -/
def Choice.all : List Choice :=
  [.output, .language, .workDir, .imageDir, .backend, .program, .timeout]

/-- the variable of the environment that a choice is taken from. -/
def Choice.variable? : Choice → Option String
  | .output => some "WS2TEX_OUTPUT"
  | .language => some "WS2TEX_LANG"
  | .workDir => some "WS2TEX_WORK_DIR"
  | .imageDir => some "WS2TEX_IMAGE_DIR"
  | .backend => none
  | .program => some "WS2TEX_CONVERT"
  | .timeout => some "WS2TEX_DOWNLOAD_TIMEOUT"

/-- the value of the choice that selects the backend of the library. -/
def builtinName : Text := "builtin".toList

/-- the value of the choice that selects a program as backend. -/
def programName : Text := "imagemagick".toList

/-- the most seconds that can be chosen, a number of 64 bits. -/
def secondsLimit : Nat := 18446744073709551615

/-- a number of seconds, with or without a plus sign. -/
def readSeconds? (t : Text) : Option Nat :=
  match Text.toNat? ((Text.strip? ['+'] t).getD t) with
  | some n => if n ≤ secondsLimit then some n else none
  | none => none

theorem readSeconds?_digits {t : Text} {n : Nat} (h : Text.toNat? t = some n) :
    readSeconds? t = if n ≤ secondsLimit then some n else none := by
  have hs : Text.strip? ['+'] t = none := by
    cases t with
    | nil => simp [Text.toNat?] at h
    | cons c t =>
      by_cases hc : c = '+'
      · subst hc
        simp [Text.toNat?] at h
      · simp [Text.strip?, Ne.symm hc]
  simp [readSeconds?, hs, h]

/-- whether a choice takes a value: paths are not empty, backends are named, and times are
numbers. -/
def Choice.admits : Choice → Text → Bool
  | .output, v | .workDir, v => !v.isEmpty
  | .backend, v => v = builtinName || v = programName
  | .timeout, v => (readSeconds? v).isSome
  | .language, _ | .imageDir, _ | .program, _ => true

/-- what is wrong with a command line. -/
inductive Misuse
  | unknown (word : Text)
  | surplus (word : Text)
  | repeated (name : String)
  | valueNeeded (c : Choice)
  | valueUnasked (name : Text)
  | refused (c : Choice) (value : Text)
  | pageNeeded
deriving Repr, DecidableEq

/-- a word between apostrophes. -/
def marked (t : Text) : Text := apostrophe :: (t ++ [apostrophe])

/-- an option as it is written. -/
def dashed (name : String) : Text := '-' :: '-' :: name.toList

/-- the words of a misuse. -/
def Misuse.message : Misuse → Text
  | .unknown w | .surplus w => "unexpected argument ".toList ++ marked w ++ " found".toList
  | .repeated name =>
    "the argument ".toList ++ marked (dashed name) ++ " cannot be used multiple times".toList
  | .valueNeeded c =>
    "a value is required for ".toList ++ marked (dashed c.name) ++ " but none was supplied".toList
  | .valueUnasked name => "unexpected value for ".toList ++ marked name ++ " found".toList
  | .refused c v => "invalid value ".toList ++ marked v ++ " for ".toList ++ marked (dashed c.name)
  | .pageNeeded => "the page to convert is required".toList

/-- why the words of a command line are not followed. -/
inductive Halt
  | help
  | version
  | misuse (m : Misuse)
deriving Repr, DecidableEq

end CommandLine
end Bookpress
