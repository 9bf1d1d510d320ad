import ScriptRunner.Expression.Fault
import ScriptRunner.Expression.Tree

/-! Grammars: rules that are tried in their order, where the first one that fits is taken. Some parts of a
grammar are hints, which say what is wrong with a text that does not fit; they are left out until it is
known not to fit. -/

namespace ScriptRunner.Expression

/-- The rules of the grammar of expressions. -/
inductive Rule where
  | expressions | expression | plainExpression | conditional
  | starExpressions | starExpression | starNamedExpressions | starNamedExpression
  | assignment | namedExpression | yielding
  | disjunction | conjunction | inversion | comparison | comparisonTail
  | bitwiseOr | factor | power | awaiting | primary | atom | group
  | slices | slice
  | list | tuple | set | dict | entries | entry | keyValue
  | clauses | clause | listComprehension | setComprehension | dictComprehension | generator
  | arguments | callArguments | keywordArguments | starredExpression
  | keywordOrStarred | keywordOrUnpacking
  | lambda | lambdaParameters | parameterList | slashNoDefault | slashWithDefault
  | starParameters | doubleStarParameter | parameterNoDefault | parameterWithDefault
  | parameterMaybeDefault | default
  | starTargets | starTargetsList | starTargetsTuple | starTarget | targetWithStarAtom | starAtom
  | targetPrimary | targetFollows
  | texts
  | badExpression | badLegacyExpression | badNamedExpression | badGroup | badEntries | badKeyValue
  | badComprehension | badDictComprehension | badTarget | badArguments | badKeyword
  | badParameters | badStarParameters | badDoubleStarParameter | badDefault
  deriving DecidableEq, Repr

/-- A grammar, or part of one. What it captures are the trees of the expressions in it, in a row. -/
inductive Peg where
  /-- A word or symbol that stands for itself. -/
  | symbol (written : String)
  /-- A word or symbol that is a constant. -/
  | constant (written : String) (c : Constant)
  | name
  /-- A name that has, or may be going to have, a meaning of its own in some places only. -/
  | softWord
  | number
  | text
  /-- Texts in a row. -/
  | texts
  | newline
  | finish
  | rule (r : Rule)
  | seq (parts : List Peg)
  | choice (ways : List Peg)
  | optional (p : Peg)
  | many (p : Peg)
  | some (p : Peg)
  /-- One or more, with commas between them. -/
  | listed (p : Peg)
  | ahead (p : Peg)
  | notAhead (p : Peg)
  /-- From here on, the other ways of the choice or rule around are no more to be tried. -/
  | commit
  | node (former : Former) (p : Peg)
  /-- Operands with binary operators between them, level by level, the weakest first. -/
  | binary (levels : List (Former × List String)) (operand : Peg)
  /-- What starts with `base` and goes on in one of some ways, again and again. -/
  | chain (base : Peg) (tails : List (Former × Peg))
  /-- What is a part of the grammar only as long as hints are. -/
  | hint (p : Peg)
  /-- What is read without hints. -/
  | plain (p : Peg)
  /-- What does not fit, and why: a function of the number of brackets that are open and of what is
  captured. If it tells no reason, no other way of the choice or rule around is tried. -/
  | refuse (why : Nat → List Tree → Option Fault) (p : Peg)

instance : Coe String Peg := ⟨.symbol⟩

instance : Coe Rule Peg := ⟨.rule⟩

end ScriptRunner.Expression
