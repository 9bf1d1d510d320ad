/-! Control sequences of a terminal: an escape and an opening bracket, parameters, intermediate
characters and a final one. A text that is not shown on a terminal is printed without them. -/

namespace ScriptRunner.Text

def isParameter (c : Char) : Bool := '0' ≤ c && c ≤ '?'

def isIntermediate (c : Char) : Bool := ' ' ≤ c && c ≤ '/'

def isFinal (c : Char) : Bool := '@' ≤ c && c ≤ '~'

/-- What follows the rest of a control sequence, if one is complete here. -/
def afterSequence? (s : List Char) : Option (List Char) :=
  match (s.dropWhile isParameter).dropWhile isIntermediate with
  | c :: rest => if isFinal c then some rest else none
  | [] => none

theorem length_of_afterSequence? {s rest : List Char} (h : afterSequence? s = some rest) :
    rest.length < s.length := by
  have h₁ := (List.dropWhile_sublist isParameter (l := s)).length_le
  have h₂ := (List.dropWhile_sublist isIntermediate (l := s.dropWhile isParameter)).length_le
  unfold afterSequence? at h
  grind

/-- The text without its control sequences. What is left is not looked at again. -/
def dropSequences : List Char → List Char
  | [] => []
  | '\x1b' :: '[' :: rest =>
    match _h : afterSequence? rest with
    | some after => dropSequences after
    | none => '\x1b' :: '[' :: dropSequences rest
  | c :: rest => c :: dropSequences rest
  termination_by s => s.length
  decreasing_by
    all_goals try have := length_of_afterSequence? _h
    all_goals grind

theorem dropSequences_of_notMem {s : List Char} (h : '\x1b' ∉ s) : dropSequences s = s := by
  fun_induction dropSequences s <;> grind

end ScriptRunner.Text
