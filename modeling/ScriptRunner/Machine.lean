import ScriptRunner.Console
import ScriptRunner.Shell.Basic

/-! The machine that scripts are run on: files, the outcomes of the programs that are still to be
launched, a console, and a record of what has been done. -/

namespace ScriptRunner

/-- A file or directory that a program writes. -/
inductive Writing where
  | file (path : Path) (data : Bytes)
  | directory (path : Path)
  deriving DecidableEq, Repr

def Writing.apply (t : FileTree) (cwd : Location) : Writing → FileTree.Outcome
  | .file path data => t.writeUnder cwd path data
  | .directory path => t.ensureDirectories cwd path

/-- How a program that was started ends, and what it writes. -/
structure ToolResult where
  code : Int := 0
  stdout : String := ""
  stderr : String := ""
  writes : List Writing := []
  deriving DecidableEq, Repr

/-- What becomes of the launch of a program. -/
inductive ToolRun where
  /-- The launch fails. A program whose output is no text fails as well, after it has written. -/
  | refused (f : Failure) (writes : List Writing := [])
  | ended (r : ToolResult)
  deriving Repr

/-- What keeps words from being launched as a program: there are none, or there is a null character
among them. -/
def argvFault? (argv : List String) : Option Failure :=
  if argv.isEmpty then some (.raised "IndexError" [.text "list index out of range"])
  else if argv.any (·.toList.contains '\x00') then some .nullCharacter
  else none

/-- A call of the loader with a script that is ready to run. -/
structure Call where
  path : Path
  /-- The file that the script appears as, and its directory. -/
  filename : Path
  dirname : Path
  argv : List String
  /-- The names that the script is given, and the shell that it runs commands through. -/
  globals : List String
  shell : Shell
  /-- What was read from the path, if it could be read. -/
  content : Option Bytes
  deriving DecidableEq, Repr

inductive Event where
  | logged (text : String)
  | launched (argv : List String)
  | loaded (call : Call)
  /-- Text on the console, on standard output and on standard error. -/
  | echoed (text : String)
  | printed (text : String)
  | complained (text : String)
  /-- A shell command of the script has succeeded. -/
  | succeeded (output : Shell.Output)
  deriving DecidableEq, Repr

structure Machine where
  tree : FileTree := {}
  /-- The current directory. -/
  cwd : Location := []
  /-- The paths of all temporary files so far. -/
  issued : List Path := []
  /-- What becomes of the next launches, in order. -/
  pending : List ToolRun := []
  /-- What has been done, the last thing first. -/
  done : List Event := []
  /-- What keeps words from being launched, whatever becomes of a launch. -/
  argvFault? : List String → Option Failure := ScriptRunner.argvFault?
  console : Console := .standard

namespace Machine

def record (m : Machine) (e : Event) : Machine := { m with done := e :: m.done }

def log (m : Machine) (text : String) : Machine := m.record (.logged text)

/-- What has been done, in order. -/
def events (m : Machine) : List Event := m.done.reverse

/-- Writes what a program writes, up to the first thing that is refused. -/
def write (m : Machine) : List Writing → Machine × Option FileTree.Refusal
  | [] => (m, none)
  | w :: rest =>
    match w.apply m.tree m.cwd with
    | (tree, none) => write { m with tree } rest
    | (tree, some refusal) => ({ m with tree }, some refusal)

/-- Launches a program. When no outcome is left, there is no such program; one that may not write
what it has to is not run either. -/
def launch (m : Machine) (argv : List String) : Except Failure ToolResult × Machine :=
  let m := m.record (.launched argv)
  match m.argvFault? argv, m.pending with
  | some f, _ => (.error f, m)
  | none, [] => (.error (.os (.notFound (argv.headD ""))), m)
  | none, .refused f writes :: rest => (.error f, ({ m with pending := rest }.write writes).1)
  | none, .ended r :: rest =>
    match { m with pending := rest }.write r.writes with
    | (m, none) => (.ok r, m)
    | (m, some (fault, path)) => (.error (.ofFault path.toString fault), m)

end Machine
end ScriptRunner
