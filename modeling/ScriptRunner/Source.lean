import ScriptRunner.Failure

/-! Sources: what a script is read from, and the step that brings it closer to running. -/

namespace ScriptRunner

inductive Body where
  | file (path : Path)
  | text (content : Bytes)
  deriving DecidableEq, Repr

/-- A script and the file that it is to appear as. -/
structure Source where
  body : Body
  origin : Path
  deriving DecidableEq, Repr

namespace Source

def ofPath (path : Path) (origin : Path := path) : Source := ⟨.file path, origin⟩

def ofText (content : Bytes) (origin : Path) : Source := ⟨.text content, origin⟩

/-- The path under which the source is spoken of. -/
def label (s : Source) : Path :=
  match s.body with
  | .file path => path
  | .text _ => s.origin

/-- The extension in lower case. A text has none. -/
def extension (s : Source) : String :=
  match s.body with
  | .file path => Text.lower path.suffix
  | .text _ => ""

/-- The stem of what is made from the source. -/
def stem (s : Source) : String :=
  let stem := (Path.ofString s.label.name).stem
  if stem = "" then "script" else stem

end Source

/-- How a source is turned into a script that is closer to running. -/
inductive Normalization where
  | raw
  | literate
  | transpiled (t : Transpiler)

/-- What is to be done with a source next. -/
inductive Step where
  | normalize (n : Normalization)
  | execute

def Step.name : Step → String
  | .normalize .raw => "Raw"
  | .normalize .literate => "Literate"
  | .normalize (.transpiled _) => "Transpiled"
  | .execute => "Executable"

def literateExtension : String := ".md"

/-- The step for a source, by its extension. Documents come before what is registered, and that
before scripts. -/
def classify (registry : Registry) (s : Source) : Except Failure Step :=
  let ext := s.extension
  if ext = "" then .ok (.normalize .raw)
  else if ext = literateExtension then .ok (.normalize .literate)
  else
    match registry.lookup ext with
    | some t => .ok (.normalize (.transpiled t))
    | none =>
      if ext = scriptExtension then .ok .execute
      else .error (.unrecognized s.label.toString ext)

theorem extension_of_classify_raw {registry : Registry} {s : Source}
    (h : classify registry s = .ok (.normalize .raw)) : s.extension = "" := by
  grind [classify]

theorem extension_of_classify_literate {registry : Registry} {s : Source}
    (h : classify registry s = .ok (.normalize .literate)) :
    s.extension = literateExtension := by
  grind [classify]

end ScriptRunner
