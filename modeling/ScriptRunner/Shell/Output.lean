import ScriptRunner.Text.Blank

/-! The captured result of one shell command. -/

namespace ScriptRunner.Shell

structure Output where
  command : String
  exitCode : Int
  stdout : String := ""
  stderr : String := ""
  deriving DecidableEq, Repr

namespace Output

def ok (o : Output) : Bool := o.exitCode == 0

instance : ToString Output := ⟨stdout⟩

/-- What is said of a failed command: its exit code, and what it wrote on standard error. -/
def failureMessage (o : Output) : String :=
  "exit code: " ++ toString o.exitCode ++
    if Text.allBlank o.stderr then "" else "\n" ++ Text.trimEnd o.stderr

end Output
end ScriptRunner.Shell
