/-! Lines of a text. A line ends at a line feed; the text after the last one is a line too. -/

namespace ScriptRunner.Text

abbrev Line := List Char

def lines (s : List Char) : List Line := s.splitOn '\n'

def unlines (ls : List Line) : List Char := ['\n'].intercalate ls

theorem unlines_lines (s : List Char) : unlines (lines s) = s :=
  List.intercalate_splitOn '\n'

theorem lines_unlines {ls : List Line} (h : ∀ l ∈ ls, '\n' ∉ l) (hne : ls ≠ []) :
    lines (unlines ls) = ls :=
  List.splitOn_intercalate '\n' h hne

/-- A line without one carriage return at its end. -/
def dropReturn (l : Line) : Line :=
  if l.getLast? = some '\r' then l.dropLast else l

/-- Turns each carriage return, with the line feed after it if there is one, into a line feed. -/
def unifyNewlines : List Char → List Char
  | [] => []
  | '\r' :: '\n' :: rest => '\n' :: unifyNewlines rest
  | '\r' :: rest => '\n' :: unifyNewlines rest
  | c :: rest => c :: unifyNewlines rest

end ScriptRunner.Text
