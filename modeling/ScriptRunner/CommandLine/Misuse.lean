import ScriptRunner.Settings

/-! What a command line gets wrong, as its user is told. -/

namespace ScriptRunner.CommandLine

inductive Misuse where
  | unknownOption (name : String)
  | missingValue (name : String)
  | unexpectedValue (name : String)
  | invalidChoice (value : String)
  /-- The environment asks for a log level that is none. -/
  | unknownLevel (level : String)
  | missingDocument
  | noDocument (word : String)
  | extraWords (words : List String)
  deriving DecidableEq, Repr

def Misuse.message : Misuse → String
  | .unknownOption name => "No such option: " ++ name
  | .missingValue name => "Option '" ++ name ++ "' requires an argument."
  | .unexpectedValue name => "Option '" ++ name ++ "' does not take a value."
  | .invalidChoice value => "Invalid value: '" ++ value ++ "'"
  | .unknownLevel level => Settings.unknownLevelMessage level
  | .missingDocument => "Missing argument 'DOCUMENT'."
  | .noDocument word => "Invalid value for 'DOCUMENT': '" ++ word ++ "'"
  | .extraWords words => "Got unexpected extra arguments (" ++ " ".intercalate words ++ ")"

end ScriptRunner.CommandLine
