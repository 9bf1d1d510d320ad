import ScriptRunner.Expression.CharacterName
import ScriptRunner.Expression.Fault
import ScriptRunner.Expression.Tree

/-! Texts between quotes: their escapes, and the expressions in texts that are marked as formatted. -/

namespace ScriptRunner.Expression

namespace TextLiteral

/-! ### Escapes -/

/-- A text in ASCII, which positions are counted in: every other character is written as an escape of
ten characters, and a backslash before one as an escape of six. -/
def asciiForm : List Char → List Char
  | [] => []
  | ['\\'] => "\\u005c".toList
  | '\\' :: c :: rest =>
    if c.toNat < 128 then '\\' :: c :: asciiForm rest
    else "\\u005c\\U00000000".toList ++ asciiForm rest
  | c :: rest => if c.toNat < 128 then c :: asciiForm rest else "\\U00000000".toList ++ asciiForm rest

/-- Checks the hexadecimal digits of an escape that starts at `position`. -/
def checkHex (position : Nat) (letter : Char) (digits : Nat) (s : List Char) : Except Fault Unit :=
  let found := (s.take digits).takeWhile fun c => (Text.hexValue? c).isSome
  if found.length < digits then
    .error (.escape position (position + 1 + found.length) (.truncated letter digits))
  else if 0x10FFFF < Text.hexNumber found then
    .error (.escape position (position + 1 + digits) .outOfRange)
  else .ok ()

/-- Checks the name in an escape that starts at `position`. -/
def checkName (position : Nat) : List Char → Except Fault Unit
  | '\x7b' :: rest =>
    let name := rest.takeWhile (· ≠ '\x7d')
    if name.length = rest.length then
      .error (.escape position (position + 2 + name.length) .malformedName)
    else if name.isEmpty then .error (.escape position (position + 2) .malformedName)
    else if isCharacterName name then .ok ()
    else .error (.escape position (position + 3 + name.length) .unknownName)
  | _ => .error (.escape position (position + 1) .malformedName)

/-- Checks the escapes of a text in ASCII form. -/
def checkEscapes (position : Nat) : List Char → Except Fault Unit
  | '\\' :: c :: rest => do
    if c = 'x' then checkHex position c 2 rest
    else if c = 'u' then checkHex position c 4 rest
    else if c = 'U' then checkHex position c 8 rest
    else if c = 'N' then checkName position rest
    checkEscapes (position + 2) rest
  | _ :: rest => checkEscapes (position + 1) rest
  | [] => .ok ()

/-- Checks the escapes of bytes. -/
def checkByteEscapes (position : Nat) : List Char → Except Fault Unit
  | '\\' :: 'x' :: rest =>
    if ((rest.take 2).filter fun c => (Text.hexValue? c).isSome).length < 2 then
      .error (.byteEscape position)
    else checkByteEscapes (position + 2) rest
  | '\\' :: _ :: rest => checkByteEscapes (position + 2) rest
  | _ :: rest => checkByteEscapes (position + 1) rest
  | [] => .ok ()

/-- Checks a text without its quotes. Where it is raw, backslashes stand for themselves. -/
def checkPlain (raw : Bool) (s : List Char) : Except Fault Unit :=
  if raw then .ok () else checkEscapes 0 (asciiForm s)

def checkBytes (raw : Bool) (s : List Char) : Except Fault Unit :=
  if s.any fun c => 128 ≤ c.toNat then .error .notAscii
  else if raw then .ok ()
  else checkByteEscapes 0 s

/-! ### Formatted texts -/

/-- What stands before the next expression in a formatted text. -/
structure Plain where
  text : List Char
  /-- Whether a doubled brace ends it. -/
  doubled : Bool
  rest : List Char

/-- Reads up to the next brace. Two braces in a row stand for one, but not in a layout; the braces around
the name of a character do not count. -/
def takePlain (raw inLayout : Bool) : Nat → List Char → List Char → Except Fault Plain
  | 0, taken, s => .ok ⟨taken.reverse, false, s⟩
  | fuel + 1, taken, s =>
    let brace (taken : List Char) (c : Char) (rest : List Char) : Except Fault Plain :=
      if !inLayout && rest.head? = some c then .ok ⟨(c :: taken).reverse, true, rest.drop 1⟩
      else if !inLayout && c = '\x7d' then .error (.formatted .loneBrace)
      else .ok ⟨taken.reverse, false, c :: rest⟩
    let isBrace (c : Char) : Bool := c = '\x7b' || c = '\x7d'
    match s with
    | [] => .ok ⟨taken.reverse, false, []⟩
    | '\\' :: c :: rest =>
      if raw then takePlain raw inLayout fuel ('\\' :: taken) (c :: rest)
      else if c = 'N' then
        match rest with
        | '\x7b' :: rest =>
          let name := rest.takeWhile (· ≠ '\x7d')
          let closing := (rest.drop name.length).take 1
          takePlain raw inLayout fuel
            (closing ++ name.reverse ++ '\x7b' :: 'N' :: '\\' :: taken)
            (rest.drop (name.length + 1))
        | d :: rest => takePlain raw inLayout fuel (d :: 'N' :: '\\' :: taken) rest
        | [] => takePlain raw inLayout fuel ('N' :: '\\' :: taken) []
      else if isBrace c then brace ('\\' :: taken) c rest
      else takePlain raw inLayout fuel (c :: '\\' :: taken) rest
    | c :: rest =>
      if isBrace c then brace taken c rest else takePlain raw inLayout fuel (c :: taken) rest

/-- A quote that is open, and whether it is three in a row. -/
abbrev Quote := Char × Bool

def closes (bracket opening : Char) : Bool :=
  (opening = '(' && bracket = ')') || (opening = '[' && bracket = ']') ||
    (opening = '\x7b' && bracket = '\x7d')

/-- What a character in an expression does: it goes on with `quote` open, brackets `opened` and `skipped`
more characters of no meaning, or the expression ends before it. -/
inductive Effect where
  | goOn (quote : Option Quote) (opened : List Char) (skipped : Nat)
  | stop

/-- The effect of a character outside quotes. -/
def effectOutside (opened : List Char) (c : Char) (rest : List Char) : Except Fault Effect :=
  if c = '\'' || c = '"' then
    if rest.take 2 = [c, c] then .ok (.goOn (some (c, true)) opened 2)
    else .ok (.goOn (some (c, false)) opened 0)
  else if c = '(' || c = '[' || c = '\x7b' then
    if 200 ≤ opened.length then .error (.formatted .tooManyBrackets)
    else .ok (.goOn none (c :: opened) 0)
  else if c = '#' then .error (.formatted .comment)
  else if opened.isEmpty && ['!', ':', '\x7d', '=', '>', '<'].contains c then
    if rest.head? = some '=' && ['!', '=', '<', '>'].contains c then .ok (.goOn none opened 1)
    else if c = '>' || c = '<' then .ok (.goOn none opened 0)
    else .ok .stop
  else if c = ']' || c = '\x7d' || c = ')' then
    match opened with
    | [] => .error (.formatted (.unmatched c))
    | opening :: below =>
      if closes c opening then .ok (.goOn none below 0)
      else .error (.formatted (.mismatched c opening))
  else .ok (.goOn none opened 0)

/-- The effect of a character between quotes. -/
def effectInside (quote : Quote) (opened : List Char) (c : Char) (rest : List Char) : Effect :=
  if c = quote.1 then
    if !quote.2 then .goOn none opened 0
    else if rest.take 2 = [c, c] then .goOn none opened 2
    else .goOn (some quote) opened 0
  else .goOn (some quote) opened 0

/-- Reads an expression up to the character behind it: a conversion, a layout or the closing brace. -/
def takeExpression (quote : Option Quote) (opened : List Char) (skipped : Nat) (taken : List Char) :
    List Char → Except Fault (List Char × List Char)
  | [] =>
    match quote, opened with
    | some _, _ => .error (.formatted .openText)
    | none, bracket :: _ => .error (.formatted (.unmatched bracket))
    | none, [] => .error (.formatted .openBrace)
  | c :: rest =>
    match skipped with
    | skipped + 1 => takeExpression quote opened skipped (c :: taken) rest
    | 0 =>
      if c = '\\' then .error (.formatted .backslash)
      else
        let effect : Except Fault Effect := match quote with
          | some quote => .ok (effectInside quote opened c rest)
          | none => effectOutside opened c rest
        match effect with
        | .error fault => .error fault
        | .ok .stop => .ok (taken.reverse, c :: rest)
        | .ok (.goOn quote opened skipped) => takeExpression quote opened skipped (c :: taken) rest

/-- Checks an expression that stands before `next`. -/
def checkExpression (check : List Char → Option Fault) (next : Char) (expression : List Char) :
    Except Fault Unit :=
  if expression.all fun c => c = ' ' || c = '\t' || c = '\n' || c = '\x0c' then
    if next = '!' || next = ':' || next = '=' then .error (.formatted (.missing next))
    else .error (.formatted .empty)
  else
    match check expression with
    | some fault => .error fault
    | none => .ok ()

/-- What follows a sign that asks for the text of an expression, and the blanks behind it. -/
def afterSign : List Char → Except Fault (List Char)
  | '=' :: rest =>
    let isBlank (c : Char) : Bool := c = ' ' || 9 ≤ c.toNat && c.toNat ≤ 13
    match rest.dropWhile isBlank with
    | [] => .error (.formatted .openBrace)
    | rest => .ok rest
  | s => .ok s

/-- What follows a conversion, if one stands here. -/
def afterConversion : List Char → Except Fault (List Char)
  | '!' :: c :: rest =>
    if ['s', 'r', 'a'].contains c then
      if rest.isEmpty then .error (.formatted .openBrace) else .ok rest
    else .error (.formatted .badConversion)
  | '!' :: [] => .error (.formatted .openBrace)
  | s => .ok s

/-- Reads a formatted text, or the layout of an expression up to its closing brace; `depth` is how many
expressions it stands in. -/
def readFormatted (check : List Char → Option Fault) (raw : Bool) :
    Nat → Nat → List Char → Except Fault (List Char)
  | 0, _, s => .ok s
  | fuel + 1, depth, s => do
    let plain ← takePlain raw (depth != 0) s.length [] s
    checkPlain raw plain.text
    if plain.doubled then readFormatted check raw fuel depth plain.rest
    else
      match plain.rest with
      | '\x7b' :: rest =>
        if 2 ≤ depth then throw (.formatted .tooDeep)
        let (expression, rest) ← takeExpression none [] 0 [] rest
        checkExpression check (rest.headD '\x7d') expression
        let rest ← afterConversion (← afterSign rest)
        let rest ← match rest with
          | ':' :: rest =>
            if rest.isEmpty then throw (.formatted .openBrace)
            else readFormatted check raw fuel (depth + 1) rest
          | rest => pure rest
        match rest with
        | '\x7d' :: rest => readFormatted check raw fuel depth rest
        | _ => throw (.formatted .openBrace)
      | rest => return rest

/-! ### Texts in a row -/

/-- The marks before the quotes of a text. -/
structure Marks where
  raw : Bool
  bytes : Bool
  formatted : Bool

def Marks.ofLetters (letters : List Char) : Marks :=
  let has (c : Char) : Bool := (letters.map Char.toLower).contains c
  ⟨has 'r', has 'b', has 'f'⟩

/-- What stands between the quotes, which are one or three on each side. -/
def unquote (s : List Char) : List Char :=
  let size := match s with
    | a :: b :: c :: _ => if a = b && b = c && 6 ≤ s.length then 3 else 1
    | _ => 1
  (s.drop size).take (s.length - 2 * size)

/-- Checks a text with its marks and quotes. -/
def check (written : List Char) : Except Fault Marks := do
  let isQuote (c : Char) : Bool := c = '"' || c = '\''
  let marks := Marks.ofLetters (written.takeWhile fun c => !isQuote c)
  let s := unquote (written.dropWhile fun c => !isQuote c)
  if marks.bytes then checkBytes marks.raw s
  else if !marks.formatted then checkPlain marks.raw s
  return marks

/-- Reads texts that stand in a row, after some that are `bytes` or not, and `formatted` or not. -/
def readFrom (expression : List Char → Option Fault) (bytes : Option Bool) (formatted : Bool) :
    List String → Except Fault Tree
  | [] =>
    if formatted then .ok (.node .formatted [])
    else .ok (.constant (if bytes = some true then .bytes else .text))
  | written :: rest => do
    let marks ← check written.toList
    if bytes.any (· != marks.bytes) then throw .mixedTexts
    if marks.formatted then
      let isQuote (c : Char) : Bool := c = '"' || c = '\''
      let s := unquote (written.toList.dropWhile fun c => !isQuote c)
      let left ← readFormatted expression marks.raw (s.length + 1) 0 s
      if !left.isEmpty then throw (.formatted .openBrace)
    readFrom expression (some marks.bytes) (formatted || marks.formatted) rest

/-- Reads texts that stand in a row; `expression` tells what is wrong with an expression in one. -/
def read (expression : List Char → Option Fault) (written : List String) : Except Fault Tree :=
  readFrom expression none false written

end TextLiteral
end ScriptRunner.Expression
