import ScriptRunner.Text.Blank
import ScriptRunner.Text.LetterCase
import ScriptRunner.Text.Line

/-! Dialects: how the lines of a literate document are framed for one target language. -/

namespace ScriptRunner.Literate

open Text

structure Dialect where
  name : String
  extension : String
  commentPrefix : Line
  scriptTags : List Line
  shellTags : List Line := ["sh".toList, "bash".toList]
  shellOpen : Line := []
  shellClose : Line := []
  /-- Whether one unit of indentation is dropped from the lines of an indented block. -/
  stripIndent : Bool := false
  aliases : List String := []
  deriving DecidableEq, Repr

/-- The line that closes a fenced block; an opening line is this with a tag after it. -/
def fence : Line := "```".toList

/-- What follows the three marks of an opening line. -/
def fenceTag? : Line → Option Line
  | '\x60' :: '\x60' :: '\x60' :: tag => some tag
  | _ => none

/-- Whether a line opens a block with one of the tags. No tags count as one empty tag. -/
def isFence (tags : List Line) (line : Line) : Bool :=
  (fenceTag? line).any (if tags.isEmpty then [[]] else tags).contains

/-- Whether a line opens a block of any kind. -/
def isAnyFence (line : Line) : Bool :=
  (fenceTag? line).any fun tag => !tag.contains '\n'

def dropSpaces : Nat → Line → Line
  | n + 1, ' ' :: rest => dropSpaces n rest
  | _, line => line

/-- Drops one unit of indentation: a tab, or as many as four spaces. -/
def dropIndent : Line → Line
  | '\t' :: rest => rest
  | line => dropSpaces 4 line

def opensIndented : Line → Bool
  | '\t' :: _ => true
  | ' ' :: ' ' :: ' ' :: ' ' :: _ => true
  | _ => false

def continuesIndented : Line → Bool
  | '\t' :: _ => true
  | ' ' :: _ => true
  | _ => false

namespace Dialect

def comment (d : Dialect) (line : Line) : Line :=
  if line.isEmpty then [] else d.commentPrefix ++ line

def isScriptFence (d : Dialect) (line : Line) : Bool := isFence d.scriptTags line

def isShellFence (d : Dialect) (line : Line) : Bool := isFence d.shellTags line

def codeLine (d : Dialect) (line : Line) : Line :=
  if d.stripIndent then dropIndent line else line

def python : Dialect where
  name := "python"
  extension := ".py"
  commentPrefix := "# ".toList
  scriptTags := ["python".toList, "py".toList]
  shellOpen := "sh(r\"\"\"".toList
  shellClose := "\"\"\")".toList
  stripIndent := true
  aliases := ["py"]

def javascript : Dialect where
  name := "javascript"
  extension := ".mjs"
  commentPrefix := "// ".toList
  scriptTags := ["js".toList, "javascript".toList]
  shellOpen := "await $`".toList
  shellClose := "`".toList
  aliases := ["js"]

/-- The dialects that are known by name. -/
def known : List Dialect := [python, javascript]

def answersTo (d : Dialect) (key : String) : Bool := key == d.name || d.aliases.contains key

/-- The known dialect with a name or alias; letter case and outer blanks do not matter. -/
def ofName? (name : String) : Option Dialect :=
  known.find? (·.answersTo (lower (trim name)))

def unknownMessage (name : String) : String :=
  "Unknown dialect '" ++ name ++ "'. Must be one of: " ++ ", ".intercalate (known.map (·.name))

end Dialect
end ScriptRunner.Literate
