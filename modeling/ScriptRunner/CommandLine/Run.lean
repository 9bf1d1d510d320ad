import ScriptRunner.CommandLine.Ending
import ScriptRunner.CommandLine.ScriptArgument
import ScriptRunner.LogHub
import ScriptRunner.Resolver

/-! The command that runs a script: options, the script, and words that are passed on to it. Without a
script it runs what is piped into it. -/

namespace ScriptRunner.CommandLine

def version : String := "0.3.0"

def versionText : String := "yzx version " ++ version ++ "\n"

inductive RunOption where
  | version
  | help
  | quiet
  | shell (binary : String)
  | commandPrefix (text : String)
  | logLevel (name : String)
  deriving DecidableEq, Repr

def runOptions : List (OptionSpec RunOption) := [
  { long := "version", short := ['v', 'V'], kind := .flag .version },
  { long := "help", kind := .flag .help },
  { long := "quiet", kind := .flag .quiet },
  { long := "shell", kind := .valued .shell },
  { long := "prefix", kind := .valued .commandPrefix },
  { long := "log-level", kind := .valued .logLevel }]

/-- The answer to an option that asks about the command instead of running it. -/
def RunOption.answer? : RunOption → Option Ending
  | .version => some (.answered versionText)
  | .help => some (.helped true)
  | _ => none

/-- The value that an option gives for a field of the settings. -/
def RunOption.override? : RunOption → Option (String × Value)
  | .quiet => some ("quiet", .bool true)
  | .shell binary => some ("shell", .text binary)
  | .commandPrefix text => some ("prefix", .text text)
  | .logLevel _ | .version | .help => none

def RunOption.level? : RunOption → Option String
  | .logLevel name => some name
  | _ => none

inductive RunRequest where
  | answer (e : Ending)
  | run (overrides : Overrides) (level : Option String) (words : List String)

/-- What a command line asks for. A question about the command is answered before the level is
looked at. Of options that are repeated the last one counts. -/
def runRequest (kit : Toolkit) (args : List String) : Except Misuse RunRequest :=
  match kit.parse runOptions false args with
  | .error e => .error e
  | .ok p =>
    match p.options.findSome? RunOption.answer? with
    | some ending => .ok (.answer ending)
    | none =>
      let overrides := p.options.reverse.filterMap RunOption.override?
      match p.options.reverse.findSome? RunOption.level? with
      | none => .ok (.run overrides none p.words)
      | some level =>
        match kit.choose? LogLevel.names level with
        | some level => .ok (.run overrides (some level) p.words)
        | none => .error (.invalidChoice level)

inductive StandardInput where
  | terminal
  | piped (data : Bytes)
  deriving DecidableEq, Repr

/-- What the command finds around it. -/
structure Host where
  kit : Toolkit := .standard
  environment : Environment := []
  input : StandardInput := .terminal
  systemTemp : String := "/tmp"
  names : TempNames
  loader : Call → Behaviour

/-- The name of the file that a script from standard input appears as. -/
def inputName : String := "stdin.py"

/-- The script that is piped in, as a text with line feeds alone; nothing if there is none. -/
def inputSource (input : StandardInput) (cwd : Location) : Except Failure (Option Source) :=
  match input with
  | .terminal => .ok none
  | .piped data =>
    match Utf8.decode data with
    | .error e => .error (.undecodable e)
    | .ok [] => .ok none
    | .ok text =>
      .ok (some (.ofText (Utf8.encode (Text.unifyNewlines text)) (.ofLocation (cwd ++ [inputName]))))

/-- The word that stands for standard input. -/
def inputWord : String := "-"

/-- The script that is to run: the one that a word names, or else the one that is piped in. -/
def scriptSource (host : Host) (script : Option String) (m : Machine) :
    Except Failure (Option Source) :=
  match script.filter (· ≠ inputWord) with
  | none => inputSource host.input m.cwd
  | some word => (scriptPath m.tree (.ofLocation m.cwd) word).map fun p => some (.ofPath p)

/-- The names that every script is given. -/
def scriptGlobals : List String := ["sh", "ProcessOutput", "ExecutionError"]

def Host.resolver (host : Host) (s : Settings) (args : List String) : Resolver where
  tempDir := s.tempDir.toText
  systemTemp := host.systemTemp
  names := host.names
  argv := args
  globals := scriptGlobals
  shell := ⟨s.shell.toText, s.commandPrefix.toText, s.quiet.isTruthy⟩
  loader := host.loader

/-- Runs the script that is named by the first word, with the words after it. -/
def runWords (host : Host) (s : Settings) (words : List String) (m : Machine) : Ending × Machine :=
  match scriptSource host words.head? m with
  | .error f => (.ofFailure f, m)
  | .ok none => (.helped false, m)
  | .ok (some source) =>
    let (outcome, m) := (host.resolver s words.tail).resolve source m
    (.ofOutcome outcome, m)

/-- Runs a command line. The log hub is configured once the options and the environment are known to
be right. -/
def run (host : Host) (args : List String) (hub : LogHub) (m : Machine) : Ending × LogHub × Machine :=
  match runRequest host.kit args with
  | .error e => (.misused e, hub, m)
  | .ok (.answer ending) => (ending, hub, m)
  | .ok (.run overrides level words) =>
    match Settings.ofEnvironment host.environment with
    | .error level => (.misused (.unknownLevel level), hub, m)
    | .ok s =>
      let s := s.put overrides level
      let (ending, m) := runWords host s words m
      (ending, (hub.configure s.loggingLevel).1, m)

end ScriptRunner.CommandLine
