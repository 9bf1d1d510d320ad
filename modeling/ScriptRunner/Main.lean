import ScriptRunner.Artifact.LetteredNames
import ScriptRunner.CommandLine.Preview
import ScriptRunner.CommandLine.Run

/-! The program. Its first word may be the name of the command that prints the script of a document;
all other words are those of the command that runs a script. The script that is ready to run is
written to standard output, for an interpreter to read. -/

namespace ScriptRunner.Main

open CommandLine

def previewWord : String := "preview"

def usage : String :=
  "Usage: yzx [OPTIONS] [SCRIPT] [SCRIPT_ARGS]...\n" ++
  "       yzx " ++ previewWord ++ " [OPTIONS] DOCUMENT\n"

def variableNames : List String :=
  ["YZX_SHELL", "YZX_PREFIX", "YZX_QUIET", "YZX_TMPDIR", "YZX_LOG_LEVEL"]

def environment : IO Environment :=
  variableNames.filterMapM fun name => do return (← IO.getEnv name).map fun value => (name, value)

partial def readAll (input : IO.FS.Stream) (data : Bytes) : IO Bytes := do
  let more ← input.read 65536
  if more.isEmpty then return data else readAll input (data ++ more.toList)

/-- What is piped in, if a command line asks for it. -/
def standardInput (args : List String) : IO StandardInput := do
  match runRequest .standard args with
  | .ok (.run _ _ words) =>
    let input ← IO.getStdin
    if (words.head?.filter (· ≠ inputWord)).isSome || (← input.isTty) then return .terminal
    else return .piped (← readAll input [])
  | _ => return .terminal

/-- A tree of the files at some paths, as far as they can be read. -/
def snapshot (cwd : Location) (paths : List Path) : IO FileTree := do
  let start := (FileTree.ensureDirectories {} cwd (.ofLocation cwd)).1
  let start := (start.ensureDirectories cwd (.ofString "/tmp")).1
  paths.foldlM (fun t p => do
    match ← (IO.FS.readBinFile p.toString).toBaseIO with
    | .ok data => return (t.writeUnder cwd p data.toList).1
    | .error _ => return t) start

def currentLocation : IO Location := do
  return (Path.ofString (← IO.currentDir).toString).names

/-- Shows what has been done: scripts and what they print, and what is said on the console. -/
def display (e : Event) : IO Unit := do
  match e with
  | .loaded call => (← IO.getStdout).write ⟨(call.content.getD []).toArray⟩
  | .printed text => IO.print text
  | .echoed text | .complained text => IO.eprint text
  | _ => return

def conclude (e : Ending) : IO UInt32 := do
  IO.print (e.text .standard)
  IO.eprint (e.report .standard)
  match e with
  | .helped _ => IO.print usage
  | .misused _ => IO.eprint (usage ++ "Error: " ++ e.complaint .standard ++ "\n")
  | _ => pure ()
  match e.conclusion .standard with
  | .exits code => return UInt32.ofNat (code % 256).toNat
  | .raises f =>
    IO.print f.parting
    match f with
    | .exit _ => pure ()
    | _ => IO.eprintln f.message
    return UInt32.ofNat (f.exitCode % 256).toNat

/-- The letters that names of temporary files are made of. -/
def letters : Letters where
  front := List.replicate 6 'x'
  letter := 'a'
  others := "bcdefghijklmnopqrstuvwxyz0123456789_".toList
  slash_notMem := by decide

def runMain (args : List String) : IO UInt32 := do
  let cwd ← currentLocation
  let t ← snapshot cwd (args.filterMap fun word => (scriptPath {} (.ofLocation cwd) word).toOption)
  let host : Host := {
    environment := ← environment
    input := ← standardInput args
    names := .lettered letters
    loader := fun _ => {} }
  let (ending, _, m) := run host args {} { tree := t, cwd }
  m.events.forM display
  conclude ending

def previewMain (args : List String) : IO UInt32 := do
  let cwd ← currentLocation
  conclude (preview .standard (← snapshot cwd (args.map .ofString)) cwd args)

end ScriptRunner.Main

def main (args : List String) : IO UInt32 :=
  match args with
  | word :: rest =>
    if word = ScriptRunner.Main.previewWord then ScriptRunner.Main.previewMain rest
    else ScriptRunner.Main.runMain args
  | [] => ScriptRunner.Main.runMain []
