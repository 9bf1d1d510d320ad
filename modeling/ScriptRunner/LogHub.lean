import ScriptRunner.LogLevel

/-! The hub that log records pass through: its level and the handlers that are given each record.
Configuring it leaves one console handler, after those that others have added. -/

namespace ScriptRunner

inductive LogHandler where
  | console
  | foreign (id : Nat)
  deriving DecidableEq, Repr

structure LogHub where
  level : LogLevel := .number 0
  /-- Whether records are passed on to the hub above. -/
  propagate : Bool := true
  handlers : List LogHandler := []
  deriving DecidableEq, Repr

namespace LogHub

/-- A handler that is there already is not added again. Each console handler is a new one, since they are
not told apart. -/
def addHandler (h : LogHub) (handler : LogHandler) : LogHub :=
  if handler ≠ .console ∧ handler ∈ h.handlers then h
  else { h with handlers := h.handlers ++ [handler] }

def removeHandler (h : LogHub) (handler : LogHandler) : LogHub :=
  { h with handlers := h.handlers.erase handler }

/-- Goes through the handlers that were there at the start and takes the console handlers out. -/
def dropConsoles (h : LogHub) : LogHub :=
  h.handlers.foldl (fun g handler => if handler = .console then g.removeHandler handler else g) h

/-- The hub with its own console handler in the place of all others. -/
def renewConsole (h : LogHub) : LogHub := h.dropConsoles.addHandler .console

/-- Renews the console handler, then sets the level. A level that is none leaves the rest of the hub
as it was. -/
def configure (h : LogHub) (level : Value) : LogHub × Option LogLevel.Fault :=
  match LogLevel.check level with
  | .ok level => ({ h.renewConsole with level, propagate := false }, none)
  | .error e => (h.renewConsole, some e)

/-- The level that holds below the hub, if the hub sets one. -/
def childLevel? (h : LogHub) : Option LogLevel :=
  if h.level.toInt = 0 then none else some h.level

end LogHub
end ScriptRunner
