import ScriptRunner.Text.Cell
import ScriptRunner.Text.Markup

/-! Texts as a console shows them. A text is shown with the tags in it as they are written. -/

namespace ScriptRunner.Text

/-- Characters that a console does not show: bell, backspace, vertical tab, form feed and carriage
return. -/
def isHidden (c : Char) : Bool := c ∈ ['\x07', '\x08', '\x0b', '\x0c', '\r']

/-- The text without the backslashes that stand right before an opening bracket, unless that starts
a tag. -/
def unescapeBrackets : List Char → List Char
  | [] => []
  | '\\' :: '[' :: rest =>
    if isTag rest then '\\' :: '[' :: unescapeBrackets rest else '[' :: unescapeBrackets rest
  | c :: rest => c :: unescapeBrackets rest

def endsInLoneBackslash (s : List Char) : Bool :=
  match s.reverse with
  | ['\\'] => true
  | '\\' :: c :: _ => c != '\\'
  | _ => false

/-- A text with its tags as they are written. One backslash at its end is doubled. -/
def plainMarkup (s : List Char) : List Char :=
  unescapeBrackets (if endsInLoneBackslash s then s ++ ['\\'] else s)

/-- A text behind a label, as the console shows both. -/
def consoleText (label s : String) : String :=
  String.ofList
    (expandTabs (label.toList ++ (plainMarkup s.toList).filter fun c => !isHidden c))

end ScriptRunner.Text
