import ScriptRunner.Expression.Grammar
import ScriptRunner.Expression.TextLiteral
import ScriptRunner.Expression.Tokens
import ScriptRunner.Expression.Word
import ScriptRunner.Text.Composition
import Std.Data.HashMap

/-! Reading expressions by the grammar. A text is read without hints first. If it does not fit, it is read
again with them, and they may tell why. -/

namespace ScriptRunner.Expression

/-- What comes of reading a part of the grammar. -/
inductive Outcome where
  /-- It fits, captures these trees and ends before this token. -/
  | fits (captured : List Tree) (next : Nat)
  | misfit
  /-- It does not fit, and no other way is to be tried. -/
  | deadEnd
  | refused (fault : Fault)
  deriving Repr

/-- What is known of the tokens from readings before: how many were looked at, and what was captured by
rules from a token on, and up to which one, if they fit. -/
structure Memory where
  seen : Nat := 0
  kept : Std.HashMap (Nat × Nat) (Option (List Tree × Nat)) := {}

/-- Where a part of the grammar is read: from which token on, and whether hints are a part of it. -/
structure Spot where
  position : Nat := 0
  hints : Bool := false

abbrev Step := Spot → Memory → Outcome × Memory

namespace Step

/-- A token that is accepted, and what it captures. -/
def token (ts : Tokens) (accept : Token → Outcome) : Step := fun at_ m =>
  match ts.items[at_.position]? with
  | some t => (accept t, { m with seen := max m.seen (at_.position + 1) })
  | none => (.refused (.token (ts.fault?.getD .unexpectedEnd)), m)

def isName (t : Token) : Bool := t.kind = .word && !keywords.contains t.written

/-- Whether a word is the start of one that has a meaning of its own in some places. -/
def isSoftWord (t : Token) : Bool :=
  isName t && softWords.any fun word => t.written.toList.isPrefixOf word.toList

/-- A token that has a property, and captures trees. -/
def matching (ts : Tokens) (fits : Token → Bool) (captured : Token → List Tree) : Step :=
  fun at_ m =>
    token ts (fun t => if fits t then .fits (captured t) (at_.position + 1) else .misfit) at_ m

def symbol (ts : Tokens) (written : String) (captured : List Tree) : Step :=
  matching ts (fun t => (t.kind = .word || t.kind = .symbol) && t.written = written)
    fun _ => captured

def ofKind (ts : Tokens) (kind : TokenKind) : Step := matching ts (·.kind = kind) fun _ => []

def name (ts : Tokens) : Step :=
  matching ts isName fun t => [.name (String.ofList (Text.plainForm t.written.toList))]

/-- A number. Whole numbers can have only so many decimal digits. -/
def number (ts : Tokens) : Step := fun at_ m =>
  let accept (t : Token) : Outcome :=
    let written := t.written.toList.filter (· ≠ '_')
    if t.kind ≠ .number then .misfit
    else if written.all Char.isDigit && written.head? ≠ some '0' &&
        Text.maxDigits < written.length then .refused (.tooManyDigits written.length)
    else if written.getLast?.any fun c => c = 'j' || c = 'J' then
      .fits [.constant .imaginary] (at_.position + 1)
    else .fits [.constant .number] (at_.position + 1)
  token ts accept at_ m

/-- The parts of a sequence behind some that have captured trees. -/
def sequence (go : Peg → Step) (committed : Bool) (captured : List Tree) : List Peg → Step
  | [] => fun at_ m => (.fits captured at_.position, m)
  | .commit :: rest => sequence go true captured rest
  | p :: rest => fun at_ m =>
    match go p at_ m with
    | (.fits more position, m) =>
      sequence go committed (captured ++ more) rest { at_ with position } m
    | (.misfit, m) => (if committed then .deadEnd else .misfit, m)
    | result => result

/-- The first of some ways that fits. -/
def firstOf (go : Peg → Step) : List Peg → Step
  | [] => fun _ m => (.misfit, m)
  | p :: rest => fun at_ m =>
    match go p at_ m with
    | (.misfit, m) => firstOf go rest at_ m
    | (.deadEnd, m) => (.misfit, m)
    | result => result

/-- A step as often as it fits, but at most `fuel` times. -/
def repeated (step : Step) : Nat → List Tree → Step
  | 0, captured => fun at_ m => (.fits captured at_.position, m)
  | fuel + 1, captured => fun at_ m =>
    match step at_ m with
    | (.fits more position, m) => repeated step fuel (captured ++ more) { at_ with position } m
    | (.refused fault, m) => (.refused fault, m)
    | (_, m) => (.fits captured at_.position, m)

/-- A step that fits, then another one as often as it does. -/
def andThen (first next : Step) (fuel : Nat) : Step := fun at_ m =>
  match first at_ m with
  | (.fits captured position, m) => repeated next fuel captured { at_ with position } m
  | result => result

/-- Texts in a row, which are read as one. -/
def texts (ts : Tokens) (check : List Char → Option Fault) : Step := fun at_ m =>
  let text := matching ts (·.kind = .text) fun t => [.name t.written]
  match andThen text text ts.items.size at_ m with
  | (.fits captured position, m) =>
    let written := captured.filterMap fun
      | .name written => some written
      | _ => none
    match TextLiteral.read check written with
    | .ok tree => (.fits [tree] position, m)
    | .error fault => (.refused fault, m)
  | result => result

/-- One of the operators of a level of strength. -/
def operator (ts : Tokens) (written : List String) : Step :=
  matching ts (fun t => t.kind = .symbol && written.contains t.written) fun _ => []

/-- Operators with operands behind a tree, from the left to the right. -/
def applied (former : Former) (operator operand : Step) : Nat → Tree → Step
  | 0, tree => fun at_ m => (.fits [tree] at_.position, m)
  | fuel + 1, tree => fun at_ m =>
    match operator at_ m with
    | (.fits _ position, m) =>
      match operand { at_ with position } m with
      | (.fits more position, m) =>
        applied former operator operand fuel (.node former (tree :: more)) { at_ with position } m
      | (.refused fault, m) => (.refused fault, m)
      | (_, m) => (.fits [tree] at_.position, m)
    | (.refused fault, m) => (.refused fault, m)
    | (_, m) => (.fits [tree] at_.position, m)

/-- Operands with operators of the levels between them. -/
def binary (ts : Tokens) (operand : Step) : List (Former × List String) → Step
  | [] => operand
  | (former, written) :: rest => fun at_ m =>
    match binary ts operand rest at_ m with
    | (.fits [tree] position, m) =>
      applied former (operator ts written) (binary ts operand rest) ts.items.size tree
        { at_ with position } m
    | result => result

/-- The first tail that fits behind a tree. -/
def tail (go : Peg → Step) (tree : Tree) : List (Former × Peg) → Step
  | [] => fun _ m => (.misfit, m)
  | (former, p) :: rest => fun at_ m =>
    match go p at_ m with
    | (.fits more position, m) => (.fits [.node former (tree :: more)] position, m)
    | (.refused fault, m) => (.refused fault, m)
    | (_, m) => tail go tree rest at_ m

/-- A tree with as many tails as fit. -/
def tails (go : Peg → Step) (ways : List (Former × Peg)) : Nat → Tree → Step
  | 0, tree => fun at_ m => (.fits [tree] at_.position, m)
  | fuel + 1, tree => fun at_ m =>
    match tail go tree ways at_ m with
    | (.fits [tree] position, m) => tails go ways fuel tree { at_ with position } m
    | (.refused fault, m) => (.refused fault, m)
    | (_, m) => (.fits [tree] at_.position, m)

/-- A rule is a whole of its own: what ends the search for ways in it does not matter outside. -/
def closed : Outcome → Outcome
  | .deadEnd => .misfit
  | outcome => outcome

/-- A rule, whose result is looked up if it is kept. -/
def ofRule (go : Peg → Step) (rule : Rule) : Step := fun at_ m =>
  let key := (at_.position, rule.ctorIdx)
  let known := if rule.isKept then m.kept[key]? else none
  match known with
  | some (some (captured, position)) => (.fits captured position, m)
  | some none => (.misfit, m)
  | none =>
    match go rule.body at_ m with
    | (outcome, m) =>
      let outcome := closed outcome
      match rule.isKept, outcome with
      | true, .fits captured position =>
        (outcome, { m with kept := m.kept.insert key (some (captured, position)) })
      | true, .misfit => (outcome, { m with kept := m.kept.insert key none })
      | _, _ => (outcome, m)

/-- A look at what follows, which takes nothing. -/
def lookahead (expected : Bool) (step : Step) : Step := fun at_ m =>
  match step at_ m with
  | (.refused fault, m) => (.refused fault, m)
  | (.fits .., m) => (if expected then .fits [] at_.position else .misfit, m)
  | (_, m) => (if expected then .misfit else .fits [] at_.position, m)

/-- A step that refuses the text if it fits and there is a reason. -/
def refusing (ts : Tokens) (why : Nat → List Tree → Option Fault) (step : Step) : Step :=
  fun at_ m =>
    match step at_ m with
    | (.fits captured position, m) =>
      match why ((ts.items[position - 1]?.map (·.depth)).getD 0) captured with
      | some fault => (.refused fault, m)
      | none => (.deadEnd, m)
    | result => result

end Step

/-- The fault that splitting the rest of the text into tokens brings to light, which counts more than
one that was found before. A bracket that is never closed does so only if it stands on an earlier
line. -/
def Tokens.laterFault? (ts : Tokens) (seen : Nat) : Option Fault :=
  match ts.fault? with
  | none => none
  | some fault =>
    if !fault.isMinor then some (.token fault)
    else
      match ts.opened, ts.items[seen - 1]? with
      | ⟨bracket, line⟩ :: _, some t =>
        if line < t.line then some (.token (.unclosed bracket)) else none
      | _, _ => none

/-- The fault to report when one is found after so many tokens. What is wrong with a token, and a text
that is nested too deeply, are reported at once. -/
def Tokens.reported (ts : Tokens) (seen : Nat) (fault : Fault) : Fault :=
  match fault with
  | .token _ | .tooDeep => fault
  | fault =>
    if ts.items[seen - 1]?.any (·.seesEnd) then fault else (ts.laterFault? seen).getD fault

/-- The fault of a text that does not fit for no special reason. -/
def Tokens.unexpected (ts : Tokens) (seen seenLater : Nat) : Fault :=
  match ts.items[seen - 1]? with
  | some { kind := .indent, .. } => .unexpectedIndent
  | some { kind := .dedent, .. } => .unexpectedDedent
  | _ => (ts.laterFault? seenLater).getD .unexpected

/-- Reads tokens without hints, and again with them if they do not fit. -/
def readTwice (go : Step) (ts : Tokens) : Except Fault (List Tree) :=
  match go {} {} with
  | (.fits captured _, _) => .ok captured
  | (.refused fault, m) => .error (ts.reported m.seen fault)
  | (_, m) =>
    let seen := m.seen
    match go { hints := true } { seen } with
    | (.refused fault, m) => .error (ts.reported m.seen fault)
    | (_, m) => .error (ts.unexpected seen m.seen)

/-- Reads a part of the grammar. The text may be nested as deeply as there is `fuel`. -/
def run : Nat → Tokens → Peg → Step
  | 0, _, _ => fun _ m => (.refused .tooDeep, m)
  | fuel + 1, ts, p =>
    let go := run fuel ts
    let count := ts.items.size
    match p with
    | .symbol written => Step.symbol ts written []
    | .constant written c => Step.symbol ts written [.constant c]
    | .name => Step.name ts
    | .softWord => Step.matching ts Step.isSoftWord fun _ => []
    | .number => Step.number ts
    | .text => Step.ofKind ts .text
    | .newline => Step.ofKind ts .newline
    | .finish => Step.ofKind ts .finish
    | .texts => Step.texts ts fun inner =>
      let ts := Tokens.ofText ('(' :: inner ++ [')', '\n'])
      match readTwice (run fuel ts .inner) ts with
      | .ok _ => none
      | .error fault => some fault.within
    | .rule rule => Step.ofRule go rule
    | .seq parts => Step.sequence go false [] parts
    | .choice ways => Step.firstOf go ways
    | .optional p => Step.repeated (go p) 1 []
    | .many p => Step.repeated (go p) count []
    | .some p => Step.andThen (go p) (go p) count
    | .listed p => Step.andThen (go p) (Step.sequence go false [] [.symbol ",", p]) count
    | .ahead p => Step.lookahead true (go p)
    | .notAhead p => Step.lookahead false (go p)
    | .commit => fun at_ m => (.fits [] at_.position, m)
    | .node former p => fun at_ m =>
      match go p at_ m with
      | (.fits captured position, m) => (.fits [.node former captured] position, m)
      | result => result
    | .binary levels operand => Step.binary ts (go operand) levels
    | .chain base ways => fun at_ m =>
      match go base at_ m with
      | (.fits [tree] position, m) => Step.tails go ways count tree { at_ with position } m
      | result => result
    | .hint p => fun at_ m => if at_.hints then go p at_ m else (.misfit, m)
    | .plain p => fun at_ m => go p { at_ with hints := false } m
    | .refuse why p => Step.refusing ts why (go p)

/-- How deeply an expression may be nested. -/
def maxNesting : Nat := 16000

/-- Reads a text that is one expression. -/
def Tree.ofText (s : List Char) : Except Fault Tree := do
  let ts := Tokens.ofText s
  let captured ← readTwice (run maxNesting ts .whole) ts
  return captured.headD (.node .tuple [])

end ScriptRunner.Expression
