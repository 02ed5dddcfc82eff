import Bookpress.Settings.Language
import Bookpress.Length.Sizing
import Bookpress.Decimal.Shortest
import Bookpress.Disk.Path
import Bookpress.Text.Blank

/-!
# Settings

What a conversion can be asked to do differently.  Settings are drafted, and a draft becomes
settings when it has no fault; the labels follow the language unless they are chosen.

* `build_eq_ok` : what the settings of a faultless draft are.
-/

namespace Bookpress

/-- how pictures are turned into PNG. -/
inductive Backend
  /-- by an external program, or by the library where the program fails. -/
  | program (name : Text)
  /-- by the library. -/
  | builtin
deriving Repr, DecidableEq

/-- the settings of a conversion. -/
structure Settings where
  language : Language
  labels : Labels
  /-- how much detail the journal holds. -/
  verbosity : Nat
  /-- the folder that holds the picture folder. -/
  workDir : Path
  /-- the picture folder, seen from `workDir` and from the document. -/
  imageDir : Path
  /-- whether colours are set; otherwise coloured text is slanted. -/
  textColor : Bool
  /-- whether links are cited. -/
  references : Bool
  /-- whether paragraphs begin without an indent. -/
  noIndent : Bool
  /-- whether pictures that are there are taken again. -/
  imageCache : Bool
  /-- whether translated text is wrapped. -/
  wordWrap : Bool
  sizing : Sizing Float
  backend : Backend
  /-- how long a download may take, in seconds. -/
  timeout : Nat

namespace Settings

/-- the settings unless they are chosen. -/
def standard : Settings where
  language := .english
  labels := .ofLanguage Language.english.name
  verbosity := 0
  workDir := ".".toList
  imageDir := "images".toList
  textColor := true
  references := true
  noIndent := true
  imageCache := true
  wordWrap := false
  sizing := .standard
  backend := .program "convert".toList
  timeout := 120

/-- the picture folder on disk. -/
def imagePath (s : Settings) : Path := Path.join s.workDir s.imageDir

/-- why a draft is refused. -/
inductive Fault
  | emptyImageDir
  | absoluteImageDir (dir : Path)
  | sizing (fault : Sizing.Fault Float)

/-- what is wrong with a refused draft. -/
def Fault.reason : Fault → Text
  | .emptyImageDir => "image directory must not be empty".toList
  | .absoluteImageDir dir =>
    "image directory must be relative to the work dir, got ".toList
      ++ apostrophe :: (dir ++ [apostrophe])
  | .sizing (.notPositive field value) =>
    field.label.toList ++ " must be a positive number, got ".toList ++ Decimal.shortest value
  | .sizing .inverted => "image size minimum exceeds maximum".toList
  | .sizing (.columnWidth value) =>
    "column width must be in (0, 1], got ".toList ++ Decimal.shortest value

/-- the words for a refusal. -/
def Fault.message (f : Fault) : Text := "Invalid configuration: ".toList ++ f.reason

/-- settings in the making; the labels are open until they are chosen. -/
structure Draft where
  chosen : Settings
  labels? : Option Labels

namespace Draft

/-- the draft in which nothing has been chosen. -/
def standard : Draft := ⟨.standard, none⟩

/-- the draft with a change of the settings. -/
def update (d : Draft) (f : Settings → Settings) : Draft := { d with chosen := f d.chosen }

/-- the draft with chosen labels. -/
def withLabels (d : Draft) (l : Labels) : Draft := { d with labels? := some l }

/-- the first fault of a draft. -/
def fault? (d : Draft) : Option Fault :=
  if Text.trim d.chosen.imageDir = [] then some .emptyImageDir
  else if Path.isAbsolute d.chosen.imageDir then some (.absoluteImageDir d.chosen.imageDir)
  else d.chosen.sizing.fault?.map .sizing

/-- the settings of a draft. -/
def build (d : Draft) : Except Fault Settings :=
  match d.fault? with
  | some f => .error f
  | none =>
    .ok { d.chosen with labels := d.labels?.getD (.ofLanguage d.chosen.language.name) }

theorem build_eq_ok {d : Draft} {s : Settings} (h : d.build = .ok s) :
    d.fault? = none
      ∧ s = { d.chosen with labels := d.labels?.getD (.ofLanguage d.chosen.language.name) } := by
  unfold build at h
  split at h
  · cases h
  · rename_i hf
    cases h
    exact ⟨hf, rfl⟩

end Draft
end Settings
end Bookpress
