import ScriptRunner.CommandLine.Toolkit
import ScriptRunner.Console

/-! How a command ends, and what the toolkit makes of it. -/

namespace ScriptRunner

namespace Failure

/-- The one line that a failure is reported in. -/
def report (f : Failure) (console : Console) : String := console.line "Error: " f.message ++ "\n"

/-- The code of a script that ends itself is the number that it gives, if it gives one. -/
def exitCode : Failure → Int
  | .exit [] | .exit [.null] => 0
  | .exit [.int n] => n
  | .exit [.bool b] => if b then 1 else 0
  | _ => 1

/-- What a script leaves to be printed by ending itself with something other than a number. -/
def parting : Failure → String
  | .exit [] | .exit [.null] | .exit [.int _] | .exit [.bool _] => ""
  | .exit args => raisedMessage "" args ++ "\n"
  | _ => ""

end Failure

namespace CommandLine

inductive Ending where
  | done
  /-- A text is printed, and that is all. -/
  | answered (text : String)
  /-- Help is shown, because it was asked for or because there is nothing to do. -/
  | helped (asked : Bool)
  | misused (fault : Misuse)
  /-- A failure is reported in one line. -/
  | reported (f : Failure)
  /-- A failure that the command does nothing about. -/
  | raised (f : Failure)

namespace Ending

def ofFailure (f : Failure) : Ending := if f.isReported then .reported f else .raised f

def ofOutcome {α : Type} : Except Failure α → Ending
  | .ok _ => .done
  | .error f => ofFailure f

/-- How the function of the command is left. -/
def result : Ending → Result
  | .done => .returned
  | .answered _ | .helped true => .exited 0
  | .helped false => .exited 2
  | .misused fault => .misused fault
  | .reported _ => .exited 1
  | .raised f => .raised f

def conclusion (kit : Toolkit) (e : Ending) : Conclusion := kit.conclude e.result

/-- What is printed at the end. -/
def text (kit : Toolkit) : Ending → String
  | .answered text => String.ofList (kit.echo text.toList)
  | _ => ""

/-- What is said of a command line that is wrong. -/
def complaint (kit : Toolkit) : Ending → String
  | .misused fault => String.ofList (kit.echo fault.message.toList)
  | _ => ""

/-- What is reported at the end. -/
def report (console : Console) : Ending → String
  | .reported f => f.report console
  | _ => ""

end Ending
end CommandLine
end ScriptRunner
