import ScriptRunner.Expression.Token
import ScriptRunner.Text.Digit

/-! Why a text is no expression. -/

namespace ScriptRunner.Expression

/-- What is wrong with an escape in a text. -/
inductive EscapeFault where
  /-- An escape of a letter and hexadecimal digits has too few of them. -/
  | truncated (letter : Char) (digits : Nat)
  | outOfRange
  | malformedName
  | unknownName
  deriving DecidableEq, Repr

def EscapeFault.message : EscapeFault → String
  | .truncated letter digits =>
    "truncated \\" ++ letter.toString ++ "".pushn 'X' digits ++ " escape"
  | .outOfRange => "illegal Unicode character"
  | .malformedName => "malformed \\N character escape"
  | .unknownName => "unknown Unicode character name"

/-- What is wrong with a text that has expressions in it. -/
inductive FormattedFault where
  | empty
  /-- No expression stands before a character that can only follow one. -/
  | missing (before : Char)
  | loneBrace
  | openBrace
  | backslash
  | comment
  | openText
  | unmatched (bracket : Char)
  | mismatched (bracket opening : Char)
  | tooManyBrackets
  | tooDeep
  | badConversion
  deriving DecidableEq, Repr

def FormattedFault.message : FormattedFault → String
  | .empty => "f-string: empty expression not allowed"
  | .missing before => "f-string: expression required before '" ++ before.toString ++ "'"
  | .loneBrace => "f-string: single '\x7d' is not allowed"
  | .openBrace => "f-string: expecting '\x7d'"
  | .backslash => "f-string expression part cannot include a backslash"
  | .comment => "f-string expression part cannot include '#'"
  | .openText => "f-string: unterminated string"
  | .unmatched bracket => "f-string: unmatched '" ++ bracket.toString ++ "'"
  | .mismatched bracket opening =>
    "f-string: closing parenthesis '" ++ bracket.toString ++
      "' does not match opening parenthesis '" ++ opening.toString ++ "'"
  | .tooManyBrackets => "f-string: too many nested parenthesis"
  | .tooDeep => "f-string: expressions nested too deeply"
  | .badConversion => "f-string: invalid conversion character: expected 's', 'r', or 'a'"

inductive Fault where
  | token (fault : TokenFault)
  | unexpected
  | unexpectedIndent
  | unexpectedDedent
  | missingComma
  | missingElse
  | missingParentheses (name : String)
  /-- Something other than a name stands before `:=`. -/
  | named (what : String)
  /-- An equals sign stands where a comparison or `:=` is meant. -/
  | assigned
  | assignedTo (what : String)
  | notAssignable (what : String)
  | argumentAssigned
  | starred
  | doubleStarred
  | loneStar
  | starredValue
  | missingColon
  | missingValue
  | starredComprehension
  | unpackingComprehension
  | bareTarget
  | bareGenerator
  | unpackingBehindKeywords
  | positionalBehindKeyword
  | positionalBehindUnpacking
  | missingDefault
  | noDefaultBehindDefault
  | parenthesizedParameters
  | slashFirst
  | secondSlash
  | slashBehindStar
  | noCommaBehindSlash
  | nothingBehindStar
  | starDefault
  | secondStar
  | doubleStarDefault
  | behindDoubleStar
  | tooManyDigits (count : Nat)
  | mixedTexts
  | notAscii
  | escape (first last : Nat) (fault : EscapeFault)
  | byteEscape (position : Nat)
  | formatted (fault : FormattedFault)
  /-- The fault of an expression in a text. -/
  | inText (fault : Fault)
  /-- The expression is nested too deeply to be read. -/
  | tooDeep
  deriving DecidableEq, Repr

namespace Fault

def message : Fault → String
  | .token fault => fault.message
  | .unexpected => "invalid syntax"
  | .unexpectedIndent => "unexpected indent"
  | .unexpectedDedent => "unexpected unindent"
  | .missingComma => "invalid syntax. Perhaps you forgot a comma?"
  | .missingElse => "expected 'else' after 'if' expression"
  | .missingParentheses name =>
    "Missing parentheses in call to '" ++ name ++ "'. Did you mean " ++ name ++ "(...)?"
  | .named what => "cannot use assignment expressions with " ++ what
  | .assigned => "invalid syntax. Maybe you meant '==' or ':=' instead of '='?"
  | .assignedTo what =>
    "cannot assign to " ++ what ++ " here. Maybe you meant '==' instead of '='?"
  | .notAssignable what => "cannot assign to " ++ what
  | .argumentAssigned => "expression cannot contain assignment, perhaps you meant \"==\"?"
  | .starred => "cannot use starred expression here"
  | .doubleStarred => "cannot use double starred expression here"
  | .loneStar => "Invalid star expression"
  | .starredValue => "cannot use a starred expression in a dictionary value"
  | .missingColon => "':' expected after dictionary key"
  | .missingValue => "expression expected after dictionary key and ':'"
  | .starredComprehension => "iterable unpacking cannot be used in comprehension"
  | .unpackingComprehension => "dict unpacking cannot be used in dict comprehension"
  | .bareTarget => "did you forget parentheses around the comprehension target?"
  | .bareGenerator => "Generator expression must be parenthesized"
  | .unpackingBehindKeywords =>
    "iterable argument unpacking follows keyword argument unpacking"
  | .positionalBehindKeyword => "positional argument follows keyword argument"
  | .positionalBehindUnpacking => "positional argument follows keyword argument unpacking"
  | .missingDefault => "expected default value expression"
  | .noDefaultBehindDefault => "non-default argument follows default argument"
  | .parenthesizedParameters => "Lambda expression parameters cannot be parenthesized"
  | .slashFirst => "at least one argument must precede /"
  | .secondSlash => "/ may appear only once"
  | .slashBehindStar => "/ must be ahead of *"
  | .noCommaBehindSlash => "expected comma between / and *"
  | .nothingBehindStar => "named arguments must follow bare *"
  | .starDefault => "var-positional argument cannot have default value"
  | .secondStar => "* argument may appear only once"
  | .doubleStarDefault => "var-keyword argument cannot have default value"
  | .behindDoubleStar => "arguments cannot follow var-keyword argument"
  | .tooManyDigits count =>
    Text.tooManyDigitsMessage count ++
      " - Consider hexadecimal for huge integer literals to avoid decimal conversion limits."
  | .mixedTexts => "cannot mix bytes and nonbytes literals"
  | .notAscii => "bytes can only contain ASCII literal characters"
  | .escape first last fault =>
    "(unicode error) 'unicodeescape' codec can't decode bytes in position " ++ toString first ++
      "-" ++ toString last ++ ": " ++ fault.message
  | .byteEscape position => "(value error) invalid \\x escape at position " ++ toString position
  | .formatted fault => fault.message
  | .inText (.token fault) =>
    if fault.isMinor then "f-string: " ++ fault.message else fault.message
  | .inText fault => "f-string: " ++ fault.message
  | .tooDeep => ""

/-- The fault of an expression as a fault of the text that it stands in. -/
def within : Fault → Fault
  | .inText fault => .inText fault
  | .tooDeep => .tooDeep
  | fault => .inText fault

end Fault
end ScriptRunner.Expression
