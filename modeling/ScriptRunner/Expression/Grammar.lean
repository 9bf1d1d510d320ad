import ScriptRunner.Expression.Peg

/-! The grammar of expressions, and its hints. What is wrong with the entries of a dictionary is no hint:
it is told even where hints are left out, and so comes before them. -/

namespace ScriptRunner.Expression

namespace Rule

open Peg

/-! ### Why something does not fit -/

/-- A reason that does not depend on what is captured. -/
def always (fault : Fault) : Nat → List Tree → Option Fault := fun _ _ => Option.some fault

/-- Names that used to be commands, and so may be meant to be. -/
def commands : List String := ["print", "exec"]

def isCommand : Tree → Bool
  | .name id => commands.contains id
  | _ => false

/-- Two expressions stand side by side in brackets. -/
def missingComma (depth : Nat) : List Tree → Option Fault
  | first :: _ => if isCommand first || depth = 0 then Option.none else Option.some .missingComma
  | [] => Option.none

def missingParentheses : Nat → List Tree → Option Fault
  | _, .name id :: _ =>
    if commands.contains id then Option.some (.missingParentheses id) else Option.none
  | _, _ => Option.none

/-- A reason that tells what the first expression is. -/
def about (fault : String → Fault) : Nat → List Tree → Option Fault
  | _, first :: _ => Option.some (fault first.description)
  | _, [] => Option.none

def badTargetFault : Nat → List Tree → Option Fault
  | _, first :: _ => first.unassignable?.map fun t => .notAssignable t.description
  | _, [] => Option.none

def isPositional : Tree → Bool
  | .node .keyword _ | .node .unpacking _ => false
  | _ => true

/-- A generator stands behind other arguments. -/
def bareGeneratorFault : Nat → List Tree → Option Fault
  | _, .node .arguments parts :: _ =>
    if (parts.filter isPositional).length ≤ 1 then Option.none else Option.some .bareGenerator
  | _, _ => Option.none

def isUnpacking : Tree → Bool
  | .node .unpacking _ => true
  | _ => false

/-- More arguments stand behind those that have to come last. -/
def positionalFault : Nat → List Tree → Option Fault
  | _, .node .arguments parts :: _ =>
    Option.some
      (if parts.any isUnpacking then .positionalBehindUnpacking else .positionalBehindKeyword)
  | _, _ => Option.none

/-! ### Parts of rules -/

/-- An expression that no `:=` follows, or one with it. -/
def element : Peg := choice [assignment, seq [expression, notAhead ":="]]

def positionalArguments : Peg := listed (choice [starredExpression, seq [element, notAhead "="]])

/-- The clause of a comprehension behind its `for`. -/
def clauseTail : Peg :=
  seq [starTargets, "in", commit, disjunction, many (seq ["if", disjunction])]

/-- A parameter ends with a comma, or before the colon. -/
def parameterEnd : Peg := choice [",", ahead ":"]

def notAssigning : Peg := notAhead (choice ["=", ":="])

/-- What each rule is made of. -/
def body : Rule → Peg
  | expressions => choice [
      node .tuple (seq [expression, Peg.some (seq [",", expression]), optional ","]),
      node .tuple (seq [expression, ","]),
      expression]
  | conditional => node .conditional (seq [disjunction, "if", disjunction, "else", expression])
  | expression => choice [
      hint badExpression, hint badLegacyExpression, conditional, disjunction, lambda]
  | plainExpression => plain (choice [conditional, disjunction, lambda])
  | yielding => choice [
      node .yielding (seq ["yield", "from", expression]),
      node .yielding (seq ["yield", optional starExpressions])]
  | starExpressions => choice [
      node .tuple (seq [starExpression, Peg.some (seq [",", starExpression]), optional ","]),
      node .tuple (seq [starExpression, ","]),
      starExpression]
  | starExpression => choice [node .starred (seq ["*", bitwiseOr]), expression]
  | starNamedExpressions => seq [listed starNamedExpression, optional ","]
  | starNamedExpression => choice [node .starred (seq ["*", bitwiseOr]), namedExpression]
  | assignment => node .naming (seq [name, ":=", commit, expression])
  | namedExpression => choice [
      assignment, hint badNamedExpression, seq [expression, notAhead ":="]]
  | disjunction => choice [
      node .operation (seq [conjunction, Peg.some (seq ["or", conjunction])]), conjunction]
  | conjunction => choice [
      node .operation (seq [inversion, Peg.some (seq ["and", inversion])]), inversion]
  | inversion => choice [node .operation (seq ["not", inversion]), comparison]
  | comparison => choice [
      node (.comparison true) (seq [bitwiseOr, "in", bitwiseOr, many comparisonTail]),
      node (.comparison false) (seq [bitwiseOr, Peg.some comparisonTail]),
      bitwiseOr]
  | comparisonTail => choice [
      seq ["==", bitwiseOr], seq ["!=", bitwiseOr], seq ["<=", bitwiseOr], seq ["<", bitwiseOr],
      seq [">=", bitwiseOr], seq [">", bitwiseOr], seq ["not", "in", bitwiseOr],
      seq ["in", bitwiseOr], seq ["is", "not", bitwiseOr], seq ["is", bitwiseOr]]
  | bitwiseOr => binary [
      (.operation, ["|"]), (.operation, ["^"]), (.operation, ["&"]), (.operation, ["<<", ">>"]),
      (.sum, ["+", "-"]), (.operation, ["*", "/", "//", "%", "@"])] factor
  | factor => choice [
      node .sign (seq ["+", factor]), node .sign (seq ["-", factor]),
      node .operation (seq ["~", factor]), power]
  | power => choice [node .operation (seq [awaiting, "**", factor]), awaiting]
  | awaiting => choice [node .awaiting (seq ["await", primary]), primary]
  | primary => chain atom [
      (.attribute, seq [".", name]),
      (.call, generator),
      (.call, seq ["(", optional arguments, ")"]),
      (.subscript, seq ["[", slices, "]"])]
  | slices => choice [
      seq [slice, notAhead ","],
      node .tuple (seq [listed (choice [slice, starredExpression]), optional ","])]
  | slice => choice [
      node .operation (seq [
        optional expression, ":", optional expression, optional (seq [":", optional expression])]),
      namedExpression]
  | atom => choice [
      name, constant "True" .yes, constant "False" .no, constant "None" .none, texts, number,
      seq [ahead "(", choice [tuple, group, generator]],
      seq [ahead "[", choice [list, listComprehension]],
      seq [ahead "\x7b", choice [dict, set, dictComprehension, setComprehension]],
      constant "..." .ellipsis]
  | texts => Peg.texts
  | group => choice [seq ["(", choice [yielding, namedExpression], ")"], hint badGroup]
  | list => node .list (seq ["[", optional starNamedExpressions, "]"])
  | tuple => node .tuple (seq [
      "(", optional (seq [starNamedExpression, ",", optional starNamedExpressions]), ")"])
  | set => node .set (seq ["\x7b", starNamedExpressions, "\x7d"])
  | dict => choice [
      node .dict (seq ["\x7b", optional entries, "\x7d"]),
      seq ["\x7b", badEntries, "\x7d"]]
  | entries => seq [listed entry, optional ","]
  | entry => choice [node .unpacking (seq ["**", bitwiseOr]), keyValue]
  | keyValue => node .entry (seq [expression, ":", expression])
  | clauses => Peg.some clause
  | clause => choice [
      seq ["async", "for", clauseTail], seq ["for", clauseTail], hint badTarget]
  | listComprehension => choice [
      node .listComprehension (seq ["[", namedExpression, clauses, "]"]), hint badComprehension]
  | setComprehension => choice [
      node .setComprehension (seq ["\x7b", namedExpression, clauses, "\x7d"]),
      hint badComprehension]
  | generator => choice [
      node .generator (seq ["(", element, clauses, ")"]), hint badComprehension]
  | dictComprehension => choice [
      node .dictComprehension (seq ["\x7b", keyValue, clauses, "\x7d"]),
      hint badDictComprehension]
  | arguments => choice [seq [callArguments, optional ",", ahead ")"], hint badArguments]
  | callArguments => node .arguments (choice [
      seq [positionalArguments, optional (seq [",", keywordArguments])], keywordArguments])
  | keywordArguments => choice [
      seq [listed keywordOrStarred, ",", listed keywordOrUnpacking],
      listed keywordOrStarred,
      listed keywordOrUnpacking]
  | starredExpression => choice [
      node .starred (seq ["*", expression]), refuse (always .loneStar) "*"]
  | keywordOrStarred => choice [
      hint badKeyword, node .keyword (seq [name, "=", expression]), starredExpression]
  | keywordOrUnpacking => choice [
      hint badKeyword, node .keyword (seq [name, "=", expression]),
      node .unpacking (seq ["**", expression])]
  | lambda => node .lambda (seq ["lambda", optional lambdaParameters, ":", expression])
  | lambdaParameters => choice [hint badParameters, parameterList]
  | parameterList => choice [
      seq [slashNoDefault, many parameterNoDefault, many parameterWithDefault,
        optional starParameters],
      seq [slashWithDefault, many parameterWithDefault, optional starParameters],
      seq [Peg.some parameterNoDefault, many parameterWithDefault, optional starParameters],
      seq [Peg.some parameterWithDefault, optional starParameters],
      starParameters]
  | slashNoDefault => seq [Peg.some parameterNoDefault, "/", parameterEnd]
  | slashWithDefault =>
    seq [many parameterNoDefault, Peg.some parameterWithDefault, "/", parameterEnd]
  | starParameters => choice [
      hint badStarParameters,
      seq ["*", parameterNoDefault, many parameterMaybeDefault, optional doubleStarParameter],
      seq ["*", ",", Peg.some parameterMaybeDefault, optional doubleStarParameter],
      doubleStarParameter]
  | doubleStarParameter => choice [hint badDoubleStarParameter, seq ["**", parameterNoDefault]]
  | parameterNoDefault => seq [name, parameterEnd]
  | parameterWithDefault => seq [name, default, parameterEnd]
  | parameterMaybeDefault => seq [name, optional default, parameterEnd]
  | default => choice [seq ["=", expression], hint badDefault]
  | starTargets => choice [
      seq [starTarget, notAhead ","],
      node .tuple (seq [starTarget, many (seq [",", starTarget]), optional ","])]
  | starTargetsList => seq [listed starTarget, optional ","]
  | starTargetsTuple => choice [
      seq [starTarget, Peg.some (seq [",", starTarget]), optional ","], seq [starTarget, ","]]
  | starTarget => choice [
      node .starred (seq ["*", notAhead "*", starTarget]), targetWithStarAtom]
  | targetWithStarAtom => choice [
      node .attribute (seq [targetPrimary, ".", name, notAhead targetFollows]),
      node .subscript (seq [targetPrimary, "[", slices, "]", notAhead targetFollows]),
      starAtom]
  | starAtom => choice [
      name,
      seq ["(", targetWithStarAtom, ")"],
      node .tuple (seq ["(", optional starTargetsTuple, ")"]),
      node .list (seq ["[", optional starTargetsList, "]"])]
  | targetPrimary => chain (seq [atom, ahead targetFollows]) [
      (.attribute, seq [".", name, ahead targetFollows]),
      (.subscript, seq ["[", slices, "]", ahead targetFollows]),
      (.call, seq [generator, ahead targetFollows]),
      (.call, seq ["(", optional arguments, ")", ahead targetFollows])]
  | targetFollows => choice ["(", "[", "."]
  | badExpression => choice [
      refuse missingComma (seq [
        notAhead (choice [seq [name, text], softWord]), disjunction, plainExpression]),
      refuse (always .missingElse)
        (seq [disjunction, "if", disjunction, notAhead (choice ["else", ":"])])]
  | badLegacyExpression => refuse missingParentheses (seq [name, notAhead "(", starExpressions])
  | badNamedExpression => choice [
      refuse (about .named) (seq [expression, ":=", expression]),
      refuse (always .assigned) (seq [name, "=", bitwiseOr, notAssigning]),
      refuse (about .assignedTo) (seq [
        notAhead (choice [list, tuple, generator, "True", "None", "False"]),
        bitwiseOr, "=", bitwiseOr, notAssigning])]
  | badGroup => choice [
      refuse (always .starred) (seq ["(", starredExpression, ")"]),
      refuse (always .doubleStarred) (seq ["(", "**", expression, ")"])]
  | badEntries => choice [
      seq [listed entry, ",", badKeyValue],
      refuse (always .starredValue) (seq [expression, ":", "*", bitwiseOr]),
      refuse (always .missingValue) (seq [expression, ":", ahead (choice ["\x7d", ","])])]
  | badKeyValue => choice [
      refuse (always .missingColon) (seq [expression, notAhead ":"]),
      refuse (always .starredValue) (seq [expression, ":", "*", bitwiseOr]),
      refuse (always .missingValue) (seq [expression, ":", ahead (choice ["\x7d", ","])])]
  | badComprehension => choice [
      refuse (always .starredComprehension)
        (seq [choice ["[", "(", "\x7b"], starredExpression, clauses]),
      refuse (always .bareTarget)
        (seq [choice ["[", "\x7b"], starNamedExpression, ",", starNamedExpressions, clauses]),
      refuse (always .bareTarget)
        (seq [choice ["[", "\x7b"], starNamedExpression, ",", clauses])]
  | badDictComprehension => refuse (always .unpackingComprehension)
      (seq ["\x7b", "**", bitwiseOr, clauses, "\x7d"])
  | badTarget => refuse badTargetFault (seq [optional "async", "for", starExpressions])
  | badArguments => choice [
      refuse (always .unpackingBehindKeywords) (seq [
        choice [seq [positionalArguments, ",", keywordArguments], keywordArguments], ",",
        listed (seq [starredExpression, notAhead "="])]),
      refuse (always .bareGenerator) (seq [
        expression, clauses, ",", optional (choice [callArguments, seq [expression, clauses]])]),
      refuse (always .assigned) (seq [name, "=", expression, clauses]),
      refuse bareGeneratorFault (seq [callArguments, clauses]),
      refuse (always .bareGenerator) (seq [callArguments, ",", expression, clauses]),
      refuse positionalFault (seq [callArguments, ",", callArguments])]
  | badKeyword => choice [
      refuse (always (.notAssignable "True")) (seq ["True", "="]),
      refuse (always (.notAssignable "False")) (seq ["False", "="]),
      refuse (always (.notAssignable "None")) (seq ["None", "="]),
      refuse (always .assigned) (seq [name, "=", expression, clauses]),
      refuse (always .argumentAssigned) (seq [notAhead (seq [name, "="]), expression, "="])]
  | badParameters => choice [
      refuse (always .noDefaultBehindDefault) (seq [
        many parameterNoDefault, choice [slashWithDefault, Peg.some parameterWithDefault],
        parameterNoDefault]),
      refuse (always .parenthesizedParameters)
        (seq [many parameterNoDefault, "(", listed name, optional ",", ")"]),
      refuse (always .slashFirst) (seq ["/", ","]),
      refuse (always .secondSlash)
        (seq [choice [slashNoDefault, slashWithDefault], many parameterMaybeDefault, "/"]),
      refuse (always .slashBehindStar) (seq [
        optional (choice [slashNoDefault, slashWithDefault]), many parameterMaybeDefault, "*",
        choice [",", parameterNoDefault], many parameterMaybeDefault, "/"]),
      refuse (always .noCommaBehindSlash) (seq [Peg.some parameterMaybeDefault, "/", "*"])]
  | badStarParameters => choice [
      refuse (always .nothingBehindStar)
        (seq ["*", choice [":", seq [",", choice [":", "**"]]]]),
      refuse (always .starDefault) (seq ["*", name, "="]),
      refuse (always .secondStar) (seq [
        "*", choice [parameterNoDefault, ","], many parameterMaybeDefault, "*",
        choice [parameterNoDefault, ","]])]
  | badDoubleStarParameter => choice [
      refuse (always .doubleStarDefault) (seq ["**", name, "="]),
      refuse (always .behindDoubleStar) (seq ["**", name, ",", name]),
      refuse (always .behindDoubleStar) (seq ["**", name, ",", choice ["*", "**", "/"]])]
  | badDefault => refuse (always .missingDefault) (seq ["=", ahead (choice [")", ","])])

/-- The rules whose results are kept for every place. A result that was found without hints stands for
one with hints too, so it matters which rules these are. -/
def isKept : Rule → Bool
  | expression | starExpression | disjunction | conjunction | inversion | bitwiseOr | factor
  | awaiting | primary | texts | arguments | starTarget | targetWithStarAtom | targetPrimary
  | badNamedExpression => true
  | _ => false

end Rule

namespace Peg

/-- A whole text that is an expression. -/
def whole : Peg := seq [Rule.expressions, many newline, finish]

/-- An expression within a formatted text. -/
def inner : Peg := .rule .starExpressions

end Peg
end ScriptRunner.Expression
