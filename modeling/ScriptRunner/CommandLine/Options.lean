import ScriptRunner.CommandLine.Misuse

/-! Options on a command line. A word with two dashes is one option by its long name, a word with one
dash is a cluster of short names, and a single dash is no option. Two dashes alone end the options. -/

namespace ScriptRunner.CommandLine

/-- What a name stands for: an option on its own, or one that takes a value. -/
inductive OptionKind (α : Type) where
  | flag (o : α)
  | valued (o : String → α)

structure OptionSpec (α : Type) where
  /-- The long name, without its dashes. -/
  long : String
  /-- The short names, without their dash. -/
  short : List Char := []
  kind : OptionKind α

/-- An option that is still without the value that it takes, under the name it was given by. -/
structure OpenOption (α : Type) where
  name : String
  close : String → α

/-- The options that a word holds, and one at its end if its value is the next word. -/
abbrev WordOptions (α : Type) := List α × Option (OpenOption α)

variable {α : Type}

/-- A word of the form `--name` or `--name=value`, from behind its dashes. -/
def readLong (specs : List (OptionSpec α)) (body : List Char) : Except Misuse (WordOptions α) :=
  let long := String.ofList (body.takeWhile (· ≠ '='))
  let name := "--" ++ long
  match specs.find? (·.long = long), body.dropWhile (· ≠ '=') with
  | none, _ => .error (.unknownOption name)
  | some ⟨_, _, .flag o⟩, [] => .ok ([o], none)
  | some ⟨_, _, .flag _⟩, _ :: _ => .error (.unexpectedValue name)
  | some ⟨_, _, .valued o⟩, [] => .ok ([], some ⟨name, o⟩)
  | some ⟨_, _, .valued o⟩, _ :: value => .ok ([o (String.ofList value)], none)

/-- A cluster of short names, from behind its dash. The rest of the word is the value of the first
option that takes one. -/
def readCluster (specs : List (OptionSpec α)) : List Char → Except Misuse (WordOptions α)
  | [] => .ok ([], none)
  | c :: rest =>
    let name := String.ofList ['-', c]
    match specs.find? (·.short.contains c) with
    | none => .error (.unknownOption name)
    | some ⟨_, _, .flag o⟩ =>
      (readCluster specs rest).map fun (found, last) => (o :: found, last)
    | some ⟨_, _, .valued o⟩ =>
      if rest.isEmpty then .ok ([], some ⟨name, o⟩) else .ok ([o (String.ofList rest)], none)

/-- The options of a word, or nothing if the word is none. -/
def readWord? (specs : List (OptionSpec α)) (word : String) :
    Option (Except Misuse (WordOptions α)) :=
  match word.toList with
  | '-' :: '-' :: body => some (readLong specs body)
  | '-' :: c :: rest => some (readCluster specs (c :: rest))
  | _ => none

/-- A command line taken apart: its options in order, and the other words in order. -/
structure Parsed (α : Type) where
  options : List α := []
  words : List String := []
  deriving DecidableEq, Repr

def Parsed.addOptions (found : List α) (p : Parsed α) : Parsed α :=
  { p with options := found ++ p.options }

def Parsed.addWord (word : String) (p : Parsed α) : Parsed α :=
  { p with words := word :: p.words }

/-- Takes a command line apart. All words from the first that is no option on are plain words, unless
options may stand among them. The word after an option without its value is that value, whatever it
looks like. -/
def parse (specs : List (OptionSpec α)) (interspersed : Bool) :
    List String → Except Misuse (Parsed α)
  | [] => .ok {}
  | word :: rest =>
    if word = "--" then .ok { words := rest }
    else
      match readWord? specs word with
      | none =>
        if interspersed then (parse specs interspersed rest).map (.addWord word)
        else .ok { words := word :: rest }
      | some (.error e) => .error e
      | some (.ok (found, none)) => (parse specs interspersed rest).map (.addOptions found)
      | some (.ok (found, some o)) =>
        match rest with
        | [] => .error (.missingValue o.name)
        | value :: rest =>
          (parse specs interspersed rest).map (.addOptions (found ++ [o.close value]))

/-- The choice that a text names, whatever the case of its letters. -/
def choose? (choices : List String) (text : String) : Option String :=
  choices.find? (Text.fold · = Text.fold text)

end ScriptRunner.CommandLine
