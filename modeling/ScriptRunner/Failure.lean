import ScriptRunner.FileTree.RealPath
import ScriptRunner.Shell.Output
import ScriptRunner.Text.Markup
import ScriptRunner.Transpiler
import ScriptRunner.Value

/-! Failures: why a script was not run, or did not run to its end. Some are reported in one line to
the user; all others pass through unchanged. -/

namespace ScriptRunner

/-- How a compiler fails to turn a source into a script. -/
inductive CompilationFault where
  | notLaunched (tool : String) (e : OsError)
  | exited (tool : String) (code : Int) (stdout stderr : String)
  | noOutput (tool : String) (output : Path)
  | described (text : String)
  deriving DecidableEq, Repr

/-- A failed compiler is reported in its own words if it has any. -/
def CompilationFault.message : CompilationFault → String
  | .notLaunched tool e => "Could not run " ++ tool ++ ": " ++ e.message
  | .exited tool code stdout stderr =>
    let words := Text.trim (if stderr = "" then stdout else stderr)
    if words = "" then tool ++ " exited with code " ++ toString code else words
  | .noOutput tool output => tool ++ " did not produce " ++ output.toString
  | .described text => text

/-- Why something cannot be raised. -/
inductive RaiseFault where
  /-- What is called to make the error is a value of this kind. -/
  | notCallable (kind : String)
  /-- What is raised is a value. -/
  | noError
  /-- An error is made of another number of values. -/
  | wrongCount (maker : String) (expected found : Nat)
  deriving DecidableEq, Repr

def RaiseFault.message : RaiseFault → String
  | .notCallable kind => "'" ++ kind ++ "' object is not callable"
  | .noError => "exceptions must derive from BaseException"
  | .wrongCount maker expected found =>
    maker ++ " takes exactly " ++ toString expected ++ " arguments (" ++ toString found ++ " given)"

inductive Failure where
  | unrecognized (path extension : String)
  | compilation (fault : CompilationFault)
  | execution (output : Shell.Output)
  | os (e : OsError)
  /-- An error of the operating system that is raised under the name of its kind. -/
  | named (kind : String) (e : OsError)
  /-- An error that cannot be raised. -/
  | count (fault : CountFault)
  | undecodable (e : Utf8.DecodeError)
  | command (fault : CommandFault)
  /-- The line that tells of a compilation cannot be shown. -/
  | markup (fault : Text.Markup.Fault)
  | nullCharacter
  /-- The name that a script is to appear under has a null character in it. -/
  | nullInName
  | linkLoop (p : Path)
  | undefinedName (name : String)
  | malformedScript
  /-- A line of a script starts with blanks. -/
  | indentedScript
  | unraisable (fault : RaiseFault)
  /-- A script ends itself. -/
  | exit (args : List Value)
  /-- Any other error of the family that the program's own errors belong to, raised by a script. -/
  | own (kind text : String)
  /-- An error of another kind. The kinds of a module have its name in front. -/
  | raised (kind : String) (args : List Value)
  deriving Repr

namespace Failure

def unrecognizedMessage (path extension : String) : String :=
  "Unrecognized script format '" ++ extension ++ "': " ++ path

/-- The kinds of errors that are made of a number, a text and files. -/
def osKinds : List String :=
  [OsError.generalKind, OsError.blockingKind, "BrokenPipeError", "ChildProcessError",
    "ConnectionAbortedError", "ConnectionError", "ConnectionRefusedError", "ConnectionResetError",
    "FileExistsError", "FileNotFoundError", "InterruptedError", "IsADirectoryError",
    "NotADirectoryError", "PermissionError", "ProcessLookupError", "TimeoutError"]

/-- What makes errors of a kind that are made of a fixed number of values, and that number. -/
def makerOf? (kind : String) : Option (String × Nat) :=
  if kind = "UnicodeDecodeError" || kind = "UnicodeEncodeError" then some ("function", 5)
  else if kind = "UnicodeTranslateError" then some ("function", 4)
  else if kind = "ExceptionGroup" || kind = "BaseExceptionGroup" then
    some ("BaseExceptionGroup.__new__()", 2)
  else none

/-- What is raised under a name with arguments. -/
def ofRaised (kind : String) (args : List Value) : Failure :=
  if kind = "SystemExit" then .exit args
  else if let some (maker, expected) := (makerOf? kind).filter (·.2 ≠ args.length) then
    .unraisable (.wrongCount maker expected args.length)
  else if osKinds.contains kind then
    match OsError.ofArgs kind args with
    | .ok e => if kind = OsError.generalKind then .os e else .named kind e
    | .error fault => .count fault
  else .raised kind args

/-- The error of the operating system that a failure is, if it is one. -/
def osError? : Failure → Option OsError
  | .os e | .named _ e => some e
  | _ => none

/-- The text of what is raised: the one argument, shown quoted for a missing key, or all arguments in
parentheses. -/
def raisedMessage (kind : String) : List Value → String
  | [] => ""
  | [v] => if kind = "KeyError" then v.shown else v.toText
  | args => Value.parenthesized args

def message : Failure → String
  | .unrecognized path extension => unrecognizedMessage path extension
  | .compilation fault => fault.message
  | .execution output => output.failureMessage
  | .os e | .named _ e => e.message
  | .count fault => fault.message
  | .undecodable e => e.message
  | .command fault => fault.message
  | .markup fault => fault.message
  | .nullCharacter => "embedded null byte"
  | .nullInName => "embedded null character"
  | .linkLoop p => "Symlink loop from " ++ Text.quoted p.toString
  | .undefinedName name => "name '" ++ name ++ "' is not defined"
  | .malformedScript => "invalid syntax"
  | .indentedScript => "unexpected indent"
  | .unraisable fault => fault.message
  | .exit args => raisedMessage "" args
  | .own _ text => text
  | .raised kind args => raisedMessage kind args

/-- The kinds of errors that say themselves where in a script they come from. -/
def syntaxKinds : List String := ["SyntaxError", "IndentationError", "TabError"]

/-- Whether the failure says that something is wrong with a script. -/
def isSyntaxFault : Failure → Bool
  | .malformedScript | .indentedScript => true
  | .raised kind _ => syntaxKinds.contains kind
  | _ => false

/-- Whether the failure is one that is reported in one line. -/
def isReported : Failure → Bool
  | .unrecognized .. | .compilation _ | .execution _ | .own .. => true
  | _ => false

/-- A refused operation on the file of this name. -/
def ofFault (file : String) (fault : FileFault) : Failure :=
  match fault.osError? file with
  | some e => .os e
  | none => .nullCharacter

def ofRealPath : FileTree.RealPathError → Failure
  | .nullCharacter => .nullCharacter
  | .linkLoop p => .linkLoop p

end Failure
end ScriptRunner
