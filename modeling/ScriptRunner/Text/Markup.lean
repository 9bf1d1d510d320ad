import ScriptRunner.Expression.Literal
import ScriptRunner.Text.Identifier
import ScriptRunner.Text.Quoted
import ScriptRunner.Text.Style

/-! Markup of console texts. A tag is what stands between square brackets and starts with a small
letter, `#`, `/` or `@`. Tags open styles, and tags with a slash close them again. -/

namespace ScriptRunner.Text

def startsTagName (c : Char) : Bool := 'a' ≤ c && c ≤ 'z' || c = '#' || c = '/' || c = '@'

def isBracket (c : Char) : Bool := c = '[' || c = ']'

/-- What stands in the tag that an opening bracket before a text starts, if it starts one. -/
def tagBody? : List Char → Option (List Char)
  | [] => none
  | c :: rest =>
    if startsTagName c && rest.find? isBracket = some ']' then
      some (c :: rest.takeWhile fun d => !isBracket d)
    else none

/-- Whether what follows an opening bracket makes it the start of a tag. -/
def isTag (s : List Char) : Bool := (tagBody? s).isSome

namespace Markup

/-- A name, with parameters behind an equals sign. -/
structure Tag where
  name : List Char
  parameters : Option (List Char) := none
  deriving DecidableEq, Repr

def Tag.ofBody (body : List Char) : Tag :=
  match body.dropWhile (· ≠ '=') with
  | [] => ⟨body, none⟩
  | _ :: parameters => ⟨body.takeWhile (· ≠ '='), some parameters⟩

def Tag.text (t : Tag) : String :=
  "[" ++ String.ofList (t.name ++ (t.parameters.map ('=' :: ·)).getD []) ++ "]"

/-- The tags in a text and where they stand. `slashes` backslashes stand before the text; a tag with
an odd number of them before it is plain text. Of the characters, `skipped` are the rest of a tag. -/
def tagsFrom (position slashes skipped : Nat) : List Char → List (Nat × Tag)
  | [] => []
  | c :: rest =>
    match skipped with
    | skipped + 1 => tagsFrom (position + 1) 0 skipped rest
    | 0 =>
      if c = '\\' then tagsFrom (position + 1) (slashes + 1) 0 rest
      else
        match c, tagBody? rest with
        | '[', some body =>
          let later := tagsFrom (position + 1) 0 (body.length + 1) rest
          if slashes % 2 = 0 then (position, .ofBody body) :: later else later
        | _, _ => tagsFrom (position + 1) 0 0 rest

def tags (s : List Char) : List (Nat × Tag) := tagsFrom 0 0 0 s

inductive Fault where
  /-- A tag closes a style that is not open. -/
  | unmatched (tag : String) (position : Nat)
  | nothingOpen (position : Nat)
  /-- What an action is called with is no expression. -/
  | badArguments (arguments parameters : String) (fault : Expression.Fault)
  /-- What an action is called with is no literal. -/
  | noLiteral (parameters : String) (fault : Expression.ValueFault)
  /-- The parameters of an action have a null character in them. -/
  | nullCharacter (parameters : String)
  /-- What an action is called with is nested too deeply. -/
  | tooDeep (parameters : String)
  | badColor (fault : Style.PartFault)
  deriving DecidableEq, Repr

def Fault.message : Fault → String
  | .unmatched tag position =>
    "closing tag '" ++ tag ++ "' at position " ++ toString position ++ " doesn't match any open tag"
  | .nothingOpen position =>
    "closing tag '[/]' at position " ++ toString position ++ " has nothing to close"
  | .badArguments arguments parameters fault =>
    "error parsing " ++ quoted arguments ++ " in " ++ quoted parameters ++ "; " ++ fault.message
  | .noLiteral parameters fault => "error parsing " ++ quoted parameters ++ "; " ++ fault.message
  | .nullCharacter parameters =>
    "error parsing " ++ quoted parameters ++ "; source code string cannot contain null bytes"
  | .tooDeep parameters => "error parsing " ++ quoted parameters ++ "; "
  | .badColor fault => fault.message

/-- What an action is called with. Parameters that are a name alone stand for a call with nothing, and
the parentheses behind a name for what is in them. -/
def argumentsOf (parameters : List Char) : List Char :=
  let isPart (c : Char) : Bool := isWordChar c || c = '.'
  match parameters.dropWhile isPart with
  | [] => "()".toList
  | '(' :: rest =>
    if rest.getLast? = some ')' && !rest.contains '\n' then '(' :: rest else parameters
  | _ => parameters

/-- Checks the parameters of an action whose tag is closed. -/
def checkAction (parameters : List Char) : Except Fault Unit :=
  let arguments := argumentsOf (trimBy isBlank parameters)
  let written := String.ofList parameters
  if arguments.contains '\x00' then .error (.nullCharacter written)
  else
    match Expression.checkLiteral arguments with
    | .ok () => .ok ()
    | .error (.unreadable .tooDeep) => .error (.tooDeep written)
    | .error (.unreadable fault) =>
      .error (.badArguments (String.ofList arguments) written fault)
    | .error (.valueless fault) => .error (.noLiteral written fault)

def normalName (name : List Char) : Except Fault (List Char) :=
  match Style.normalForm (String.ofList name) with
  | .ok name => .ok name.toList
  | .error (.badPart fault) => .error (.badColor fault)
  | .error .unknownWord => .ok name

/-- Closes a style. -/
def Tag.close (t : Tag) : Except Fault Unit :=
  match t.name.head?, t.parameters with
  | some '@', some (c :: rest) => checkAction (c :: rest)
  | _, _ => .ok ()

/-- Follows tags while the styles `opened` are open, the last one first. A tag closes the last style
of its name, or the last of all if it has no name. -/
def follow (opened : List Tag) : List (Nat × Tag) → Except Fault Unit
  | [] => .ok ()
  | (position, tag) :: rest =>
    match tag.name with
    | '/' :: name =>
      if (trimBy isBlank name).isEmpty then
        match opened with
        | [] => .error (.nothingOpen position)
        | top :: below => do
          top.close
          follow below rest
      else do
        let name ← normalName (trimBy isBlank name)
        match opened.find? (·.name = name) with
        | none => throw (.unmatched tag.text position)
        | some match_ => do
          match_.close
          follow (opened.eraseP (·.name = name)) rest
    | name => do
      let name ← normalName name
      follow ({ tag with name } :: opened) rest

/-- Whether a console can read a text. -/
def check (s : List Char) : Except Fault Unit := follow [] (tags s)

end Markup
end ScriptRunner.Text
