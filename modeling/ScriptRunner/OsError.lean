import ScriptRunner.Value

/-! Errors of the operating system, with as much of number, text and files as is known. -/

namespace ScriptRunner

/-- The number of an error: the whole number that it equals, if it equals one, and how it is written.
Only an integer tells the kind of the error. -/
structure ErrorNumber where
  value? : Option Int
  isInteger : Bool
  written : String
  deriving DecidableEq, Repr

namespace ErrorNumber

def ofInt (n : Int) : ErrorNumber := ⟨some n, true, toString n⟩

def ofValue : Value → ErrorNumber
  | .int n => .ofInt n
  | .bool b => ⟨some (if b then 1 else 0), true, (Value.bool b).toText⟩
  | .float x => ⟨Decimal.whole? x, false, Decimal.text x⟩
  | v => ⟨none, false, v.toText⟩

def code? (number : ErrorNumber) : Option Int := if number.isInteger then number.value? else none

end ErrorNumber

inductive OsError where
  /-- An error without a number; its text may be empty. -/
  | note (text : String)
  /-- A numbered error, with the files that it is about as they are shown. -/
  | coded (number : ErrorNumber) (text : String) (files : List String)
  deriving DecidableEq, Repr

/-- Why a number cannot be the count of what was written before an operation would have blocked. -/
inductive CountFault where
  | notInteger
  | tooLarge
  deriving DecidableEq, Repr

def CountFault.message : CountFault → String
  | .notInteger => "'float' object cannot be interpreted as an integer"
  | .tooLarge => "cannot fit 'int' into an index-sized integer"

namespace OsError

def onFile (code : Int) (text file : String) : OsError :=
  .coded (.ofInt code) text [Text.quoted file]

def notFound (file : String) : OsError := onFile 2 "No such file or directory" file

/-- The integer that tells the kind of the error. -/
def code? : OsError → Option Int
  | .coded number .. => number.code?
  | .note _ => none

/-- Whether the number of the error equals a whole number, in whatever way it is written. -/
def isNumbered (n : Int) : OsError → Bool
  | .coded number .. => number.value? = some n
  | .note _ => false

/-- A number and a text, with the files behind a colon. -/
def message : OsError → String
  | .note text => text
  | .coded number text files =>
    "[Errno " ++ number.written ++ "] " ++ text ++
      if files.isEmpty then "" else ": " ++ " -> ".intercalate files

/-- The name that errors of all kinds can be raised under. -/
def generalKind : String := "OSError"

/-- The kind of an operation that would have blocked. -/
def blockingKind : String := "BlockingIOError"

/-- The numbers of operations that would have blocked. -/
def blockingCodes : List Int := [11, 114, 115]

/-- Whether an error that is raised under a name is one of an operation that would have blocked. -/
def blocks (kind : String) (number : ErrorNumber) : Bool :=
  kind = blockingKind || kind = generalKind && number.code?.any blockingCodes.contains

/-- Whether a value counts what was written before an operation would have blocked. Any number is
meant as such a count, but it has to be an integer of 64 bits. -/
def isCount : Value → Except CountFault Bool
  | .int n =>
    if -9223372036854775808 ≤ n && n ≤ 9223372036854775807 then .ok true else .error .tooLarge
  | .float _ => .error .notInteger
  | .bool _ => .ok true
  | _ => .ok false

/-- The files among the arguments behind number and text. The second one stands two places after the
first, and counts only with it. -/
def filesOf : List Value → List String
  | [] | .null :: _ => []
  | [file, _, .null] | [file] | [file, _] => [file.shown]
  | file :: _ :: other :: _ => [file.shown, other.shown]

/-- The error that is raised under a name with these arguments: number, text, and what follows. With
less than two of them, or more than five, there is neither number nor file. -/
def ofArgs (kind : String) : List Value → Except CountFault OsError
  | [] => .ok (.note "")
  | [v] => .ok (.note v.toText)
  | code :: text :: rest =>
    let number := ErrorNumber.ofValue code
    if 3 < rest.length then .ok (.note (Value.parenthesized (code :: text :: rest)))
    else if blocks kind number then do
      let counted ← isCount (rest.headD .null)
      return .coded number text.toText (if counted then [] else filesOf rest)
    else .ok (.coded number text.toText (filesOf rest))

end OsError

/-- Why an operation on a file is refused. -/
inductive FileFault where
  | notFound
  | notDirectory
  | isDirectory
  | alreadyExists
  | tooManyLinks
  | nameTooLong
  | nullCharacter
  deriving DecidableEq, Repr

namespace FileFault

/-- The fault as an error of the operating system; a name that it cannot even be given is none. -/
def osError? (file : String) : FileFault → Option OsError
  | .notFound => some (.notFound file)
  | .notDirectory => some (.onFile 20 "Not a directory" file)
  | .isDirectory => some (.onFile 21 "Is a directory" file)
  | .alreadyExists => some (.onFile 17 "File exists" file)
  | .tooManyLinks => some (.onFile 40 "Too many levels of symbolic links" file)
  | .nameTooLong => some (.onFile 36 "File name too long" file)
  | .nullCharacter => none

end FileFault
end ScriptRunner
