import ScriptRunner.Literate.Dialect

/-! Extraction of a script from a literate document: a fold over its lines that emits one line for
each. Code is kept, shell blocks are framed, and everything else becomes a comment. -/

namespace ScriptRunner.Literate

open Text

inductive Mode where
  | prose
  | indentedBlock
  | fencedScript
  | fencedShell
  | fencedOther
  deriving DecidableEq, Repr

/-- The state between two lines. The flag is set at the start, so that a document may open with
an indented block, and is renewed by each line of prose. -/
structure Cursor where
  mode : Mode := .prose
  prevBlank : Bool := true
  deriving DecidableEq, Repr

/-- The mode that a line of prose opens, if it opens a fenced block. -/
def Dialect.fenceMode? (d : Dialect) (line : Line) : Option Mode :=
  if d.isScriptFence line then some .fencedScript
  else if d.isShellFence line then some .fencedShell
  else if isAnyFence line then some .fencedOther
  else none

/-- Consumes one line: the next cursor and the emitted line. The line that ends an indented block
is prose even if it is a fence. -/
def Dialect.advance (d : Dialect) (c : Cursor) (line : Line) : Cursor × Line :=
  match c.mode with
  | .prose =>
    if c.prevBlank && opensIndented line then ({ c with mode := .indentedBlock }, d.codeLine line)
    else
      match d.fenceMode? line with
      | some mode => ({ c with mode }, if mode = .fencedShell then d.shellOpen else [])
      | none => (⟨.prose, line.isEmpty⟩, d.comment line)
  | .indentedBlock =>
    if continuesIndented line then (c, d.codeLine line)
    else if line.isEmpty then (c, [])
    else ({ c with mode := .prose }, d.comment line)
  | mode =>
    if line = fence then
      ({ c with mode := .prose }, if mode = .fencedShell then d.shellClose else [])
    else (c, if mode = .fencedOther then d.commentPrefix ++ line else line)

/-- Consumes lines one after the other: the last cursor and the emitted lines. -/
def Dialect.advanceAll (d : Dialect) (c : Cursor) : List Line → Cursor × List Line
  | [] => (c, [])
  | line :: rest =>
    let (next, emitted) := d.advance c line
    let (last, more) := d.advanceAll next rest
    (last, emitted :: more)

/-- The lines of a document, each without one carriage return at its end. -/
def documentLines (source : List Char) : List Line := (lines source).map dropReturn

def extractWithCursor (d : Dialect) (source : List Char) : List Char × Cursor :=
  let (c, emitted) := d.advanceAll {} (documentLines source)
  (unlines emitted, c)

/-- The script of a document: as many lines as the document has. -/
def extract (d : Dialect) (source : List Char) : List Char := (extractWithCursor d source).1

end ScriptRunner.Literate
