import ScriptRunner.Expression.Tokens
import ScriptRunner.Interpreter.Name

/-! Lines of scripts as they are written, and what keeps a script from being compiled. -/

namespace ScriptRunner.Interpreter

/-- Why a line cannot be compiled. -/
inductive LineFault where
  /-- The line cannot be split into tokens. -/
  | unreadable
  | indented
  | malformed
  /-- A name is bound that cannot be. -/
  | forbidden
  deriving DecidableEq, Repr

namespace Action

/-- How an action is written that has names or values in it. -/
def written : Action → String
  | .set name v => name ++ " = " ++ v.shown
  | .copy name source => name ++ " = " ++ source
  | .raise kind v => "raise " ++ kind ++ "(" ++ v.shown ++ ")"
  | _ => ""

/-- Whether names stand wherever they have to. -/
def isWellFormed : Action → Bool
  | .set name _ => isName name
  | .copy name source => isName name && isReadable source
  | .raise kind _ => kind = "" || isReadable kind
  | .malformed => false
  | _ => true

/-- The name that an action binds. -/
def target? : Action → Option String
  | .set name _ | .copy name _ => some name
  | _ => none

/-- Why an action cannot be compiled. -/
def fault? (a : Action) : Option LineFault :=
  let ts := Expression.Tokens.ofText a.written.toList
  if ts.items[0]?.any (·.kind = .indent) then some .indented
  else if ts.fault?.isSome then some .unreadable
  else if !a.isWellFormed then some .malformed
  else if a.target?.any (nameOf · = checkingName) then some .forbidden
  else none

end Action

/-- The first line, counted from `line`, with one of some faults. -/
def lineFault? (among : List LineFault) (line : Nat) : List Action → Option (Nat × LineFault)
  | [] => none
  | a :: rest =>
    match a.fault?.filter (among.contains ·) with
    | some fault => some (line, fault)
    | none => lineFault? among (line + 1) rest

/-- The line that keeps a script from being compiled, and why. Behind a malformed line the rest is still
split into tokens, and a line that cannot be split counts more. Names come last. -/
def scriptFault? (actions : List Action) : Option (Nat × LineFault) :=
  match lineFault? [.unreadable, .indented, .malformed] 1 actions with
  | some (line, .malformed) => (lineFault? [.unreadable] 1 actions).or (some (line, .malformed))
  | some found => some found
  | none => lineFault? [.forbidden] 1 actions

end ScriptRunner.Interpreter
