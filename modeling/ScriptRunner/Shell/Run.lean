import ScriptRunner.Machine

/-! Running shell commands on the machine: each one is echoed unless the shell is quiet, what it writes
is passed on, and the first that fails is the last. -/

namespace ScriptRunner.Shell

def echo (s : Shell) (command : String) (m : Machine) : Machine :=
  if s.quiet then m else m.record (.echoed (m.console.line "$ " command ++ "\n"))

/-- Passes on what a command wrote. -/
def forward (r : ToolResult) (m : Machine) : Machine :=
  let m := if r.stdout = "" then m else m.record (.printed r.stdout)
  if r.stderr = "" then m else m.record (.complained r.stderr)

/-- Runs a command. One that ends with a code other than zero fails. -/
def run (s : Shell) (command : String) (m : Machine) : Except Failure Output × Machine :=
  let command := clean command
  match (s.echo command m).launch (s.argv command) with
  | (.error f, m) => (.error f, m)
  | (.ok r, m) =>
    let m := forward r m
    let output : Output := ⟨command, r.code, r.stdout, r.stderr⟩
    if output.ok then (.ok output, m.record (.succeeded output)) else (.error (.execution output), m)

/-- Runs commands one after the other, up to the first that fails. -/
def runAll (s : Shell) : List String → Machine → Except Failure Unit × Machine
  | [], m => (.ok (), m)
  | command :: rest, m =>
    match s.run command m with
    | (.ok _, m) => s.runAll rest m
    | (.error e, m) => (.error e, m)

end ScriptRunner.Shell
