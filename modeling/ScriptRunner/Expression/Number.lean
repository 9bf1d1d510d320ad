import ScriptRunner.Expression.Token
import ScriptRunner.Text.Digit

/-! Numbers as they are written: with a radix, with underscores between digits, with a fraction and an
exponent. -/

namespace ScriptRunner.Expression

/-- A character that can stand in a word, or be meant to. -/
def isWordPart (c : Char) : Bool := c.isAlphanum || c = '_' || 128 ≤ c.toNat

/-- Whether what follows a number starts with a word that may do so without a blank. Of words with an `i`
only the first two letters are looked at. -/
def startsWithConnective (s : List Char) : Bool :=
  ["if", "in", "is"].any (·.toList.isPrefixOf s) ||
    ["and", "else", "for", "not", "or"].contains (String.ofList (s.takeWhile isWordPart))

/-- Checks what follows a number. A character that is not ASCII is the start of the next token. -/
def checkEnd (radix : Radix) (s : List Char) : Except TokenFault Unit :=
  if startsWithConnective s then .ok ()
  else if s.head?.any (fun c => c.toNat < 128 && isWordPart c) then .error (.badNumber radix)
  else .ok ()

/-- What follows decimal digits, where one underscore may stand between two of them. -/
def afterDigits : List Char → Except TokenFault (List Char)
  | '_' :: rest =>
    match rest with
    | c :: _ => if c.isDigit then afterDigits rest else .error (.badNumber .decimal)
    | [] => .error (.badNumber .decimal)
  | c :: rest => if c.isDigit then afterDigits rest else .ok (c :: rest)
  | [] => .ok []

/-- What follows the digits of a radix, of which one has to stand at the start, with or without an
underscore before it. -/
def afterRadix (radix : Radix) (isOwn : Char → Bool) (needed : Bool) :
    List Char → Except TokenFault (List Char)
  | '_' :: rest =>
    match rest with
    | c :: _ =>
      if isOwn c then afterRadix radix isOwn false rest
      else if c.isDigit then .error (.badDigit c radix)
      else .error (.badNumber radix)
    | [] => .error (.badNumber radix)
  | c :: rest =>
    if isOwn c then afterRadix radix isOwn false rest
    else if c.isDigit then .error (.badDigit c radix)
    else if needed then .error (.badNumber radix)
    else .ok (c :: rest)
  | [] => if needed then .error (.badNumber radix) else .ok []

/-- What follows a number with the radix that the letter behind a zero tells. -/
def afterRadixLetter (radix : Radix) (isOwn : Char → Bool) (s : List Char) :
    Except TokenFault (List Char) := do
  let rest ← afterRadix radix isOwn true s
  checkEnd radix rest
  return rest

/-- What follows the mark of an imaginary number, if it stands here. -/
def afterMark : List Char → Except TokenFault (List Char)
  | c :: rest =>
    if c = 'j' || c = 'J' then do checkEnd .imaginary rest; return rest
    else do checkEnd .decimal (c :: rest); return c :: rest
  | [] => .ok []

/-- What follows an exponent, if one stands here, and the mark behind it. The letter of an exponent
without digits belongs to the word that follows. -/
def afterExponent : List Char → Except TokenFault (List Char)
  | e :: rest =>
    if e = 'e' || e = 'E' then
      match rest with
      | c :: rest' =>
        if c = '+' || c = '-' then
          if rest'.head?.any Char.isDigit then do afterMark (← afterDigits rest')
          else .error (.badNumber .decimal)
        else if c.isDigit then do afterMark (← afterDigits rest)
        else do checkEnd .decimal (e :: rest); return e :: rest
      | [] => .error (.badNumber .decimal)
    else afterMark (e :: rest)
  | [] => .ok []

/-- What follows a fraction behind its point, and all that can follow it. -/
def afterPoint (s : List Char) : Except TokenFault (List Char) := do
  if s.head?.any Char.isDigit then afterExponent (← afterDigits s) else afterExponent s

/-- What follows a number that starts with the digits before a point. -/
def afterWhole (s : List Char) : Except TokenFault (List Char) :=
  match s with
  | '.' :: rest => afterPoint rest
  | s => afterExponent s

/-- What follows zeros, where one underscore may stand before each digit. -/
def afterZeros : List Char → Except TokenFault (List Char)
  | '_' :: rest =>
    match rest with
    | c :: _ => if c.isDigit then afterZeros rest else .error (.badNumber .decimal)
    | [] => .error (.badNumber .decimal)
  | '0' :: rest => afterZeros rest
  | s => .ok s

/-- What follows a decimal number that starts with a zero. Only with a point, an exponent or the mark
of an imaginary number may its other digits be no zeros. -/
def afterLeadingZero (s : List Char) : Except TokenFault (List Char) := do
  let rest ← afterZeros s
  if rest.head?.any Char.isDigit then
    let rest ← afterDigits rest
    if rest.head?.any (['.', 'e', 'E', 'j', 'J'].contains ·) then afterWhole rest
    else throw .leadingZeros
  else afterWhole rest

/-- What follows the number that a text starts with. The text starts with a digit. -/
def afterNumber : List Char → Except TokenFault (List Char)
  | '0' :: c :: rest =>
    if c = 'x' || c = 'X' then
      afterRadixLetter .hexadecimal (fun d => (Text.hexValue? d).isSome) rest
    else if c = 'o' || c = 'O' then
      afterRadixLetter .octal (fun d => '0' ≤ d && d ≤ '7') rest
    else if c = 'b' || c = 'B' then
      afterRadixLetter .binary (fun d => d = '0' || d = '1') rest
    else afterLeadingZero (c :: rest)
  | s => do afterWhole (← afterDigits s)

end ScriptRunner.Expression
