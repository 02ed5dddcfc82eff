import Bookpress.Text.Basic

/-!
# LaTeX commands

The forms that generated LaTeX is made of: control words, groups and commands with arguments.
-/

namespace Bookpress
namespace Tex

/-- `\name`. -/
def control (name : String) : Text := '\\' :: name.toList

/-- `t` between braces. -/
def group (t : Text) : Text := '{' :: (t ++ ['}'])

/-- an empty group, which ends a control word. -/
def stop : Text := ['{', '}']

/-- `\name` with each of `args` between braces. -/
def command (name : String) (args : List Text) : Text := control name ++ args.flatMap group

/-- `\name` with an option between brackets and each of `args` between braces. -/
def commandWith (name : String) (option : Text) (args : List Text) : Text :=
  control name ++ '[' :: (option ++ ']' :: args.flatMap group)

/-- the opening of the environment `name`. -/
def openEnv (name : String) : Text := command "begin" [name.toList]

/-- the end of the environment `name`. -/
def closeEnv (name : String) : Text := command "end" [name.toList]

/-- a line. -/
def line (t : Text) : Text := t ++ ['\n']

@[simp] theorem command_nil (name : String) : command name [] = control name := by
  simp [command]

@[simp] theorem command_one (name : String) (a : Text) :
    command name [a] = control name ++ group a := by
  simp [command]

theorem command_two (name : String) (a b : Text) :
    command name [a, b] = control name ++ (group a ++ group b) := by
  simp [command]

end Tex
end Bookpress
