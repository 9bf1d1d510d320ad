import ScriptRunner.Expression.Number
import ScriptRunner.Text.Identifier
import ScriptRunner.Text.Quoted

/-! Splitting a text into tokens. Blanks and comments stand between tokens. Outside brackets a line end
is a token of its own, and so is every change of the indentation. -/

namespace ScriptRunner.Expression

/-- Where the reading of a text stands. -/
structure Place where
  rest : List Char
  line : Nat := 1
  opened : List Opening := []
  /-- The indentations that are in force, the innermost first: their columns when a tab ends at a
  multiple of eight, and when it is one column wide. -/
  indents : List (Nat × Nat) := [(0, 0)]
  deriving Repr

namespace Place

def isBlank (c : Char) : Bool := c = ' ' || c = '\t' || c = '\x0c'

def token (p : Place) (kind : TokenKind) (written : List Char) (seesEnd : Bool) : Token :=
  ⟨kind, String.ofList written, p.line, p.opened.length, seesEnd⟩

/-- The place behind a part of the text that has no line end in it. -/
def skip (p : Place) (rest : List Char) : Place := { p with rest }

/-- What the end of the text is where a token has to follow. -/
def endFault (p : Place) : TokenFault :=
  match p.opened with
  | ⟨bracket, _⟩ :: _ => .unclosed bracket
  | [] => .unexpectedEnd

/-- The line that the last character of a text stands on, if its first one stands on this line. -/
def lastLine (line : Nat) (s : List Char) : Nat := line + s.dropLast.count '\n'

/-- The place behind a backslash, which has to stand at the end of its line. -/
def continueLine (p : Place) : List Char → Except TokenFault Place
  | '\n' :: [] => .error p.endFault
  | '\n' :: rest => .ok { p with rest, line := p.line + 1 }
  | _ => .error .strayBackslash

/-! ### Indentation -/

/-- The indentation of a line: its two columns, and the place behind it. The first backslash in it, if
it stands behind a blank, ends what counts; `held` is the column of such a backslash. -/
def margin (fuel : Nat) (column narrow held : Nat) (p : Place) :
    Except TokenFault (Nat × Nat × Place) :=
  let result := if held = 0 then (column, narrow, p) else (held, held, p)
  match fuel, p.rest with
  | fuel + 1, ' ' :: rest => margin fuel (column + 1) (narrow + 1) held (p.skip rest)
  | fuel + 1, '\t' :: rest =>
    margin fuel ((column / 8 + 1) * 8) (narrow + 1) held (p.skip rest)
  | fuel + 1, '\x0c' :: rest => margin fuel 0 0 held (p.skip rest)
  | fuel + 1, '\\' :: rest => do
    margin fuel column narrow (if held = 0 then column else held) (← p.continueLine rest)
  | _, _ => .ok result

/-- How many indentations can be in force. -/
def maxIndents : Nat := 100

/-- Leaves indentations until one of this column is in force. -/
def dedent (p : Place) (column narrow : Nat) :
    List (Nat × Nat) → Except TokenFault (List Token × Place)
  | [] => .error .badDedent
  | (top, narrowTop) :: below =>
    if column < top then do
      let (tokens, p) ← dedent p column narrow below
      return (p.token .dedent [] false :: tokens, p)
    else if column ≠ top then .error .badDedent
    else if narrow ≠ narrowTop then .error .badTabs
    else .ok ([], { p with indents := (top, narrowTop) :: below })

/-- Enters or leaves indentations at the start of a line with these columns. -/
def indentTo (p : Place) (column narrow : Nat) : Except TokenFault (List Token × Place) :=
  match p.indents with
  | [] => .ok ([], p)
  | (top, narrowTop) :: _ =>
    if column = top then if narrow = narrowTop then .ok ([], p) else .error .badTabs
    else if top < column then
      if maxIndents ≤ p.indents.length then .error .tooManyIndents
      else if narrow ≤ narrowTop then .error .badTabs
      else .ok ([p.token .indent [] false], { p with indents := (column, narrow) :: p.indents })
    else p.dedent column narrow p.indents

/-- The tokens at the start of a line, and the place behind the indentation. -/
def startLine (p : Place) : Except TokenFault (List Token × Place) := do
  let (column, narrow, p) ← margin p.rest.length 0 0 0 p
  match p.rest with
  | '#' :: _ | '\n' :: _ => return ([], p)
  | _ => if p.opened.isEmpty then p.indentTo column narrow else return ([], p)

/-- Whether a line has nothing but a comment. -/
def isBlankLine : List Char → Bool
  | '#' :: _ | '\n' :: _ => true
  | _ => false

/-! ### Tokens within a line -/

/-- The letters that may stand before a quote, in small letters. -/
def quoteMarks : List String := ["b", "r", "u", "f", "br", "rb", "fr", "rf"]

/-- What follows a text that is closed by as many quotes as stand at its start, and how much of it was
read before; `closing` quotes were read last. -/
def afterText (quote : Char) (size closing : Nat) : List Char → Option (List Char)
  | [] => none
  | c :: rest =>
    if c = quote then
      if closing + 1 = size then some rest else afterText quote size (closing + 1) rest
    else if c = '\\' then
      match rest with
      | [] => none
      | _ :: rest => afterText quote size 0 rest
    else if c = '\n' && size = 1 then none
    else afterText quote size 0 rest

/-- The part of a text on one line that is read before the missing quote is noticed. -/
def openPart : List Char → List Char
  | [] => []
  | '\\' :: c :: rest => '\\' :: c :: openPart rest
  | c :: rest => if c = '\n' then [c] else c :: openPart rest

/-- What the first part of a text is, if the last part is what follows it. -/
def front (s rest : List Char) : List Char := s.take (s.length - rest.length)

/-- The token of a text that has its quotes behind the letters `marks`, and the place behind it. -/
def textToken (p : Place) (marks s : List Char) : Except TokenFault (Token × Place) :=
  match s with
  | q :: r :: rest =>
    if q = r && rest.head? ≠ some q then
      .ok (p.token .text (marks ++ [q, r]) rest.isEmpty, p.skip rest)
    else
      let size := if q = r then 3 else 1
      match afterText q size 0 (s.drop size) with
      | some rest =>
        let written := front s rest
        .ok (p.token .text (marks ++ written) false,
          { p with rest, line := p.line + written.count '\n' })
      | none =>
        if size = 3 then .error (.openLongText (lastLine p.line s))
        else .error (.openText (lastLine p.line (q :: openPart (s.drop 1))))
  | _ => .error (.openText p.line)

/-- The token of a word, or of a text that starts with letters. -/
def wordToken (p : Place) : Except TokenFault (Token × Place) :=
  let word := p.rest.takeWhile isWordPart
  let rest := p.rest.dropWhile isWordPart
  let opensText := rest.head?.any fun c => c = '"' || c = '\''
  if opensText && quoteMarks.contains (String.ofList (word.map Char.toLower)) then
    p.textToken word rest
  else
    match Text.invalidChar? word with
    | some c => .error (if Text.isPrintable c then .badCharacter c else .hiddenCharacter c)
    | none => .ok (p.token .word word rest.isEmpty, p.skip rest)

/-- Symbols of three characters, and of two. -/
def longSymbols : List (List Char) :=
  ["**=", "//=", "<<=", ">>=", "...", "!=", "%=", "&=", "**", "*=", "+=", "-=", "->", "//", "/=",
    ":=", "<<", "<=", "<>", "==", ">=", ">>", "@=", "^=", "|="].map String.toList

/-- How many brackets can be open. -/
def maxDepth : Nat := 200

def closingOf (c : Char) : Char := if c = '(' then ')' else if c = '[' then ']' else '\x7d'

/-- The place behind a symbol that is one character, with brackets opened and closed. -/
def passSymbol (p : Place) (c : Char) (rest : List Char) : Except TokenFault Place :=
  if c = '(' || c = '[' || c = '\x7b' then
    if maxDepth ≤ p.opened.length then .error .tooDeep
    else .ok { p with rest, opened := ⟨c, p.line⟩ :: p.opened }
  else if c = ')' || c = ']' || c = '\x7d' then
    match p.opened with
    | [] => .error (.unmatched c)
    | top :: below =>
      if closingOf top.bracket = c then .ok { p with rest, opened := below }
      else .error (.mismatched c top p.line)
  else if Text.isPrintable c then .ok (p.skip rest)
  else .error (.hiddenCharacter c)

/-- The token that stands at a place, and the place behind it. -/
def readToken (p : Place) (c : Char) (rest : List Char) : Except TokenFault (Token × Place) :=
  let number (after : Except TokenFault (List Char)) : Except TokenFault (Token × Place) := do
    let rest ← after
    return (p.token .number (front p.rest rest) rest.isEmpty, p.skip rest)
  if c.isDigit then number (afterNumber p.rest)
  else if c = '.' && rest.head?.any Char.isDigit then number (afterPoint rest)
  else if isWordPart c then p.wordToken
  else if c = '"' || c = '\'' then p.textToken [] p.rest
  else
    match longSymbols.find? (·.isPrefixOf p.rest) with
    | some symbol =>
      let rest := p.rest.drop symbol.length
      .ok (p.token .symbol symbol (rest.isEmpty && symbol.length < 3), p.skip rest)
    | none => do
      let p ← p.passSymbol c rest
      return (p.token .symbol [c] rest.isEmpty, p)

/-! ### Texts -/

/-- The tokens behind those that are read, which are kept backwards. At the start of a line the
indentation is read first. -/
def readAll (fuel : Nat) (atStart : Bool) (done : List Token) (p : Place) : Tokens :=
  let stop (done : List Token) (fault? : Option TokenFault) (p : Place) : Tokens :=
    ⟨done.reverse.toArray, fault?, p.opened⟩
  match fuel with
  | 0 => stop done (some p.endFault) p
  | fuel + 1 =>
    if atStart then
      match p.startLine with
      | .error fault => stop done (some fault) p
      | .ok (tokens, p) =>
        if isBlankLine p.rest then
          match p.rest.dropWhile (· ≠ '\n') with
          | '\n' :: rest => readAll fuel true done { p with rest, line := p.line + 1 }
          | rest => readAll fuel false done (p.skip rest)
        else readAll fuel false (tokens.reverse ++ done) p
    else
      match p.rest with
      | [] =>
        if p.opened.isEmpty then stop (p.token .finish [] true :: done) none p
        else stop done (some p.endFault) p
      | c :: rest =>
        if isBlank c then readAll fuel false done (p.skip rest)
        else if c = '#' then readAll fuel false done (p.skip (rest.dropWhile (· ≠ '\n')))
        else if c = '\n' then
          let next := { p with rest, line := p.line + 1 }
          if p.opened.isEmpty then readAll fuel true (p.token .newline [] false :: done) next
          else readAll fuel true done next
        else if c = '\\' then
          match p.continueLine rest with
          | .error fault => stop done (some fault) p
          | .ok p => readAll fuel false done p
        else
          match p.readToken c rest with
          | .error fault => stop done (some fault) p
          | .ok (token, p) => readAll fuel false (token :: done) p

end Place

/-- Line ends of all kinds as line feeds. -/
def unifyLineEnds : List Char → List Char
  | '\r' :: '\n' :: rest => '\n' :: unifyLineEnds rest
  | c :: rest => (if c = '\r' then '\n' else c) :: unifyLineEnds rest
  | [] => []

/-- Splits a text into tokens. -/
def Tokens.ofText (s : List Char) : Tokens :=
  let s := unifyLineEnds s
  Place.readAll (2 * s.length + 2) true [] ⟨s, 1, [], [(0, 0)]⟩

end ScriptRunner.Expression
