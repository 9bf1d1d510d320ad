import ScriptRunner.Text.Blank

/-! The shell that scripts run commands through. -/

namespace ScriptRunner

structure Shell where
  binary : String := "/bin/bash"
  /-- Text put in front of every command. -/
  commandPrefix : String := ""
  /-- Whether commands are run without an echo of them on the console. -/
  quiet : Bool := false
  deriving DecidableEq, Repr

namespace Shell

/-- A command without line feeds around it. -/
def clean (command : String) : String :=
  String.ofList (Text.trimBy (· = '\n') command.toList)

def argv (s : Shell) (command : String) : List String :=
  [s.binary, "-c", s.commandPrefix ++ command]

end Shell
end ScriptRunner
