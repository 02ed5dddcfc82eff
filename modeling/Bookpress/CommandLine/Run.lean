import Bookpress.CommandLine.Summary
import Bookpress.CommandLine.Words

/-!
# Runs

What the program does: the words of the command line and the environment become a job, the job is
done on a disk, and the result is delivered as files, on the two output streams and as an exit
code.

* `hanging_of_oneLine` : a text of one line stands behind its label as it is.
-/

namespace Bookpress
namespace CommandLine

/-- a page to convert, and how. -/
structure Job where
  page : Path
  /-- where the LaTeX goes unless it is shown. -/
  output? : Option Path
  /-- whether a summary in JSON is shown. -/
  json : Bool
  settings : Settings

/-- how a run ends. -/
inductive Ending
  /-- a text was asked for, and nothing else. -/
  | shown (t : Text)
  | misused (m : Misuse)
  | failed (report : Text)
  /-- the LaTeX or the summary on the standard output, or the summary in words elsewhere. -/
  | done (output : Text) (summary? : Option Text)

/-- the exit code of an ending. -/
def Ending.code : Ending → Nat
  | .shown _ | .done _ _ => 0
  | .failed _ => 1
  | .misused _ => 2

/-- what a run leaves. -/
structure Outcome where
  ending : Ending
  disk : Disk
  journal : List Event

/-! ## the job -/

/-- the settings that a command line asks for. -/
def Draft.settings (d : Draft) : Settings.Draft :=
  .update .standard fun s =>
    { s with
      language := .ofCode ((d.value? .language).getD "en".toList)
      verbosity := d.verbosity
      workDir := (d.value? .workDir).getD s.workDir
      imageDir := (d.value? .imageDir).getD s.imageDir
      textColor := !d.has .noColor
      references := !d.has .noReferences
      noIndent := !d.has .indent
      imageCache := !d.has .noCache
      wordWrap := d.has .wordWrap
      backend := if d.value? .backend = some builtinName then .builtin
        else .program ((d.value? .program).getD "convert".toList)
      timeout := ((d.value? .timeout).bind readSeconds?).getD s.timeout }

/-- a text behind a label; its further lines stand below its first. -/
def hanging (label t : Text) : Text :=
  label ++ t.flatMap fun c => if c = '\n' then '\n' :: List.replicate label.length ' ' else [c]

theorem hanging_of_oneLine (label : Text) {t : Text} (h : '\n' ∉ t) :
    hanging label t = label ++ t := by
  have : t.flatMap (fun c => if c = '\n' then '\n' :: List.replicate label.length ' ' else [c])
      = t := by
    induction t with
    | nil => rfl
    | cons c t ih =>
      simp only [List.mem_cons, not_or] at h
      simp [Ne.symm h.1, ih h.2]
  rw [hanging, this]

/-- the label of a cause; causes have numbers if there are several. -/
def causeLabel (numbered : Bool) (k : Nat) : Text :=
  if numbered then
    let digits := Text.ofNat k
    List.replicate (5 - digits.length) ' ' ++ digits ++ ": ".toList
  else List.replicate 4 ' '

/-- the report of a failure with its causes. -/
def report (what : Text) (causes : List Text) : Text :=
  "Error: ".toList ++ what ++ "\n\nCaused by:".toList
    ++ causes.zipIdx.flatMap fun (t, k) => '\n' :: hanging (causeLabel (1 < causes.length) k) t

/-- the name and the version of the program. -/
def versionLine : Text := "ws2tex 0.1.0\n".toList

/-- how the program is called. -/
def helpText : Text := "Convert worksheet books (HTML) to LaTeX

Usage: ws2tex [OPTIONS] <INPUT>

Options:
  -o, --output <OUTPUT>                      write the LaTeX to this file
      --lang <LANGUAGE>                      en, hu, de or de_AT
      --work-dir <WORK_DIR>                  the folder of the picture folder
      --image-dir <IMAGE_DIR>                the picture folder in it
      --no-color                             slant coloured text
      --no-references                        leave out citations and bibliography
      --indent                               keep the indents of paragraphs
      --no-cache                             get every picture again
      --word-wrap                            wrap text at 75 columns
      --raster <imagemagick or builtin>      how pictures are made PNG
      --convert-program <CONVERT_PROGRAM>    the program for imagemagick
      --download-timeout <DOWNLOAD_TIMEOUT>  in seconds
  -v, --verbose                              show more of the journal
      --json                                 show a summary in JSON
  -h, --help
  -V, --version
".toList

/-- the job of a command line, or the ending of a run without one. -/
def prepare (environment : String → Option Text) (words : List Text) : Except Ending Job :=
  match Draft.readWords .empty none words >>= Draft.supplement environment with
  | .error .help => .error (.shown helpText)
  | .error .version => .error (.shown versionLine)
  | .error (.misuse m) => .error (.misused m)
  | .ok d =>
    match d.page? with
    | none => .error (.misused .pageNeeded)
    | some page =>
      match d.settings.build with
      | .error f => .error (.failed (report "Invalid configuration".toList [f.message]))
      | .ok s => .ok ⟨page, d.value? .output, d.has .json, s⟩

/-! ## the result -/

/-- does a job on a disk. -/
def Job.convert (w : World) (stamp : Text) (d : Disk) (j : Job) :
    Except Conversion.Fault Conversion × Session :=
  (Conversion.ofFile w j.settings stamp j.page).run.run (.start d)

/-- the failure of a conversion. -/
def Job.failure (j : Job) (f : Conversion.Fault) : Ending :=
  .failed (report ("Failed to convert ".toList ++ j.page)
    (f.message :: (f.refusal?.map fun r => r.message.toList).toList))

/-- the disk with the LaTeX where it goes. -/
def Job.saved (j : Job) (c : Conversion) (d : Disk) : Except Ending Disk :=
  match j.output? with
  | none => .ok d
  | some p => (d.writeText p c.latex).mapError fun r =>
    .failed (report ("Failed to write ".toList ++ p) [r.message.toList])

/-- the ending of a job that has been done. -/
def Job.ending (j : Job) (c : Conversion) (elapsed : Nat) : Ending :=
  if j.json then .done ((summary c elapsed).toText ++ ['\n']) none
  else .done (if j.output?.isSome then [] else c.latex) (some (summaryLine c.stats elapsed))

/-- delivers the result of a conversion that took some milliseconds. -/
def Job.deliver (j : Job) (elapsed : Nat) :
    Except Conversion.Fault Conversion × Session → Outcome
  | (.error f, s) => ⟨j.failure f, s.disk, s.journal⟩
  | (.ok c, s) =>
    let journal := s.journal ++ [c.completed elapsed]
    match j.saved c s.disk with
    | .error e => ⟨e, s.disk, journal⟩
    | .ok d => ⟨j.ending c elapsed, d, journal⟩

/-- whether a line of the journal is shown at a verbosity. -/
def isShown (verbosity : Nat) : Severity → Bool
  | .error | .warn => true
  | .info | .debug => 1 ≤ verbosity
  | .trace => 2 ≤ verbosity

end CommandLine
end Bookpress
