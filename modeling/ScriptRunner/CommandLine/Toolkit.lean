import ScriptRunner.CommandLine.Options
import ScriptRunner.Failure
import ScriptRunner.Text.ControlSequence

/-! The toolkit that commands are built with. It takes command lines apart, prints texts, and tells from how
the function of a command is left what the program comes to. How it does that is its own affair; the standard
one is enough for the commands here. -/

namespace ScriptRunner.CommandLine

/-- How the function of a command is left. -/
inductive Result where
  | returned
  | exited (code : Int)
  /-- With a complaint about the command line. -/
  | misused (fault : Misuse)
  | raised (f : Failure)

/-- What a program comes to: an exit code, or a failure that it is left with. -/
inductive Conclusion where
  | exits (code : Int)
  | raises (f : Failure)

structure Toolkit where
  /-- Takes a command line apart. Options stand in front of all other words, unless they may stand among
  them. -/
  parse {α : Type} : List (OptionSpec α) → Bool → List String → Except Misuse (Parsed α)
  /-- The choice that a text names. -/
  choose? : List String → String → Option String
  /-- What is printed of a text. -/
  echo : List Char → List Char
  /-- The failures that it deals with itself. -/
  intercepts : Failure → Bool
  conclude : Result → Conclusion

namespace Toolkit

/-- Nothing is said about an interrupt, the end of the input, or a reader that has gone away. -/
def isSilent : Failure → Bool
  | .raised "EOFError" _ | .raised "KeyboardInterrupt" _ => true
  | f => f.osError?.any (·.isNumbered 32)

/-- A command that is left in no other way has done what it was to do. -/
def concludeStandard : Result → Conclusion
  | .returned => .exits 0
  | .exited code => .exits code
  | .misused _ => .exits 2
  | .raised f => if isSilent f then .exits 1 else .raises f

def standard : Toolkit where
  parse := CommandLine.parse
  choose? := CommandLine.choose?
  echo := Text.dropSequences
  intercepts := isSilent
  conclude := concludeStandard

end Toolkit
end ScriptRunner.CommandLine
