import ScriptRunner.CommandLine.Ending
import ScriptRunner.Literate.Document

/-! The command that prints the script of a literate document. Its options may stand before or behind
the document. -/

namespace ScriptRunner.CommandLine

inductive PreviewOption where
  | help
  | dialect (name : String)
  deriving DecidableEq, Repr

def previewOptions : List (OptionSpec PreviewOption) := [
  { long := "help", kind := .flag .help },
  { long := "dialect", short := ['d'], kind := .valued .dialect }]

/-- The names that a dialect can be asked for by. -/
def dialectChoices : List String := ["python", "py", "javascript", "js"]

/-- The dialect that the last of the options asks for. -/
def previewDialect (kit : Toolkit) (options : List PreviewOption) : Except Misuse Literate.Dialect :=
  let name := options.foldl (fun name o => match o with | .dialect n => n | .help => name) "python"
  match (kit.choose? dialectChoices name).bind Literate.Dialect.ofName? with
  | some d => .ok d
  | none => .error (.invalidChoice name)

/-- The text of a document, with line feeds alone. -/
def documentText (t : FileTree) (cwd : Location) (p : Path) : Except Failure (List Char) :=
  match t.read cwd (.ofPath p) with
  | .error fault => .error (.ofFault p.toString fault)
  | .ok data =>
    match Utf8.decode data with
    | .error e => .error (.undecodable e)
    | .ok text => .ok (Text.unifyNewlines text)

/-- Prints the script of the document that a word names. -/
def previewDocument (t : FileTree) (cwd : Location) (d : Literate.Dialect) (word : String) : Ending :=
  match documentText t cwd (.ofString word) with
  | .error f => .ofFailure f
  | .ok text => .answered (String.ofList (Literate.extract d text))

/-- Runs a command line. A document that is not there is found before words too many are. -/
def preview (kit : Toolkit) (t : FileTree) (cwd : Location) (args : List String) : Ending :=
  match kit.parse previewOptions true args with
  | .error e => .misused e
  | .ok p =>
    if .help ∈ p.options then .helped true
    else
      match previewDialect kit p.options, p.words with
      | .error e, _ => .misused e
      | .ok _, [] => .misused .missingDocument
      | .ok d, word :: extra =>
        match t.status cwd (.ofString word) with
        | .error .nullCharacter => .ofFailure .nullCharacter
        | .error _ | .ok .directory => .misused (.noDocument word)
        | .ok _ =>
          if extra.isEmpty then previewDocument t cwd d word else .misused (.extraWords extra)

end ScriptRunner.CommandLine
