import ScriptRunner.Template.Basic
import ScriptRunner.Text.LetterCase

/-! Transpilers: command-line compilers that turn a source with one extension into a script beside
it, with the same stem. -/

namespace ScriptRunner

/-- The extension of a script that is ready to run. -/
def scriptExtension : String := ".py"

structure Transpiler where
  name : String
  extension : String
  /-- Templates of the words of the command, over `source` and `output`. -/
  command : List String
  extension_ne : Text.lower extension ≠ scriptExtension

/-- What keeps a command from being put together. -/
inductive CommandFault where
  | emptyName (source : Path)
  | template (f : Template.Fault)
  deriving DecidableEq, Repr

def CommandFault.message : CommandFault → String
  | .emptyName source => source.shown ++ " has an empty name"
  | .template f => f.message

namespace Transpiler

/-- A transpiler with these parts, unless it would compile scripts to themselves. -/
def ofParts? (name extension : String) (command : List String) : Option Transpiler :=
  if h : Text.lower extension ≠ scriptExtension then some ⟨name, extension, command, h⟩ else none

def selfCompilationMessage (name : String) : String :=
  "Transpiler '" ++ name ++ "' cannot compile .py to itself"

/-- Where the compiled script is to appear. -/
def outputPath (source : Path) : Except CommandFault Path :=
  match source.withSuffix? scriptExtension with
  | some output => .ok output
  | none => .error (.emptyName source)

/-- The words of the command for a source: one for each template, filled in once. -/
def argv (t : Transpiler) (source : Path) : Except CommandFault (List String) := do
  let output ← outputPath source
  let values := [("source", .path source), ("output", .path output)]
  t.command.mapM fun part => (Template.fill values part).mapError .template

def coconut : Transpiler where
  name := "coconut"
  extension := ".coco"
  command := ["coconut", "--quiet", "\x7bsource\x7d"]
  extension_ne := by decide

def hy : Transpiler where
  name := "hy2py"
  extension := ".hy"
  command := ["hy2py", "\x7bsource\x7d", "-o", "\x7boutput\x7d"]
  extension_ne := by decide

end Transpiler

/-- The transpilers by the extension of the sources that are given to them. -/
abbrev Registry := List (String × Transpiler)

def Registry.standard : Registry := [(".coco", .coconut), (".hy", .hy)]

end ScriptRunner
