import Bookpress.CommandLine.Run
import Std.Time.Format

/-!
# The program

The outer layer: the folders that a job works in are loaded into a disk, the job is done, and what
has changed on the disk is written back.  Nothing is downloaded, and no other program is run.
-/

namespace Bookpress
namespace Machine

/-- what is outside of a run on a machine without a network. -/
def world : World where
  answer _ _ := .error "there is no network".toList
  ending _ := Refusal.missing.message.toList

/-- the path of a place. -/
def pathOf (q : Place) : String := String.ofList ('/' :: Text.join '/' q)

/-- the place of an absolute path. -/
def placeOf (p : String) : Place := (Text.split '/' p.toList).filter (· ≠ [])

/-- the disk with a folder at a place and on the way to it. -/
def withFolder (d : Disk) (q : Place) : Disk :=
  (List.range q.length).foldl (fun d n => d.put (q.take (n + 1)) .folder) d

/-- the disk with what is at a place, down to a depth. -/
def load : Nat → Disk → Place → IO Disk
  | 0, d, _ => pure d
  | depth + 1, d, q => do
    let p ← IO.FS.realPath (pathOf q)
    if ← p.isDir then
      let mut d := withFolder d q
      for e in ← p.readDir do
        d ← load depth d (q ++ [e.fileName.toList])
      return d
    else
      return d.put q (.file (← IO.FS.readBinFile p))

/-- the disk with what is at a path, if something is there. -/
def loadAt (depth : Nat) (d : Disk) (p : Path) : IO Disk := do
  let shown := if p = [] then ['.'] else p
  try
    let q := placeOf (← IO.FS.realPath (String.ofList shown)).toString
    load depth (withFolder d q.dropLast) q
  catch _ => return d

/-- the disk of a job: the folder of the page, the picture folder, and where the LaTeX goes. -/
def diskOf (j : CommandLine.Job) : IO Disk := do
  let here := placeOf (← IO.FS.realPath ".").toString
  let d := { withFolder .empty here with here := here }
  let d ← loadAt 8 d (Page.folderOf j.page)
  let d ← loadAt 8 d j.page
  let d ← loadAt 1 d j.settings.workDir
  let d ← loadAt 2 d j.settings.imagePath
  match j.output? with
  | none => return d
  | some p => loadAt 1 (← loadAt 1 d ((Path.parent? p).getD [])) p

/-- writes what stands on a disk and did not stand there before. -/
def writeBack (before after : Disk) : IO Unit := do
  for (q, n) in after.nodes.reverse do
    match n, before.get? q with
    | .folder, some .folder => pure ()
    | .folder, _ => IO.FS.createDirAll (pathOf q)
    | .file new, some (.file old) => if new != old then IO.FS.writeBinFile (pathOf q) new
    | .file new, _ => IO.FS.writeBinFile (pathOf q) new

/-- the time as documents show it. -/
def stamp : IO Text := do
  let t := toString (← Std.Time.PlainDateTime.now)
  return (t.toList.take 19).map fun c => if c = 'T' then ' ' else c

/-- the variables of the environment that choices are taken from. -/
def environment : IO (List (String × Text)) :=
  (CommandLine.Choice.all.filterMap CommandLine.Choice.variable?).filterMapM fun name => do
    return (← IO.getEnv name).map fun v => (name, v.toList)

/-- shows how a run ends. -/
def showEnding : CommandLine.Ending → IO Unit
  | .shown t => IO.print (String.ofList t)
  | .misused m => IO.eprintln ("error: " ++ String.ofList m.message)
  | .failed t => IO.eprintln (String.ofList t)
  | .done t summary? => do
    IO.print (String.ofList t)
    match summary? with
    | some line => IO.eprintln (String.ofList line)
    | none => pure ()

/-- shows the lines of a journal that a verbosity asks for. -/
def showJournal (verbosity : Nat) (es : List Event) : IO Unit := do
  for e in es do
    if CommandLine.isShown verbosity e.severity then
      IO.eprintln (e.severity.label ++ ": " ++ String.ofList e.message)

/-- does a job, and gives its ending. -/
def work (j : CommandLine.Job) : IO CommandLine.Ending := do
  let before ← diskOf j
  let time ← stamp
  let start ← IO.monoMsNow
  let result ← IO.lazyPure fun _ => j.convert world time before
  let stop ← IO.monoMsNow
  let outcome := j.deliver (stop - start) result
  writeBack before outcome.disk
  showJournal j.settings.verbosity outcome.journal
  return outcome.ending

end Machine
end Bookpress

open Bookpress

/-- runs the program on the words of its command line. -/
def main (words : List String) : IO UInt32 := do
  let chosen ← Machine.environment
  let ending ← match CommandLine.prepare (fun name => chosen.lookup name)
      (words.map String.toList) with
    | .error e => pure e
    | .ok j => Machine.work j
  Machine.showEnding ending
  return UInt32.ofNat ending.code
