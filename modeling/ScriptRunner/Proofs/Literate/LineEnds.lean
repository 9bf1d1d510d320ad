import ScriptRunner.Proofs.Literate.Alignment
import ScriptRunner.Proofs.Text.PhysicalLines

/-! Documents with their line ends unified. A document has the same script then, unless a carriage return
stands in it that no line feed follows, which makes a line of its own. -/

namespace ScriptRunner

namespace Text

/-- A character that ends no line is the first of its line. -/
theorem map_dropReturn_lines_cons {c : Char} (hr : c ≠ '\r') (hn : c ≠ '\n') (s : List Char) :
    (lines (c :: s)).map dropReturn = ((lines s).map dropReturn).modifyHead (c :: ·) := by
  rw [lines_cons_of_ne hn]
  cases lines s with
  | nil => rfl
  | cons l ls => simp [dropReturn_cons hr]

end Text

namespace Literate

open Text

/-- Carriage returns at the ends of lines make no difference to the lines of a document. -/
theorem documentLines_unifyNewlines {source : List Char} (h : loneReturns source = 0) :
    documentLines (unifyNewlines source) = documentLines source := by
  unfold documentLines
  fun_induction loneReturns source with
  | case1 => rfl
  | case2 rest ih =>
      have hlines : lines ('\r' :: '\n' :: rest) = ['\r'] :: lines rest := by
        rw [lines_cons_of_ne (by decide), lines_newline]
        rfl
      rw [unifyNewlines, lines_newline, hlines, List.map_cons, List.map_cons, ih h]
      rfl
  | case3 rest hrest ih => cases h
  | case4 c rest hfirst hr ih =>
      rw [unifyNewlines_cons_of_ne hr]
      by_cases hn : c = '\n'
      · rw [hn, lines_newline, lines_newline, List.map_cons, List.map_cons, ih h]
      · rw [map_dropReturn_lines_cons hr hn, map_dropReturn_lines_cons hr hn, ih h]

namespace Dialect

variable {d : Dialect}

theorem OneLine.count_extract (hd : d.OneLine) (source : List Char) :
    (extract d source).count '\n' = source.count '\n' := by
  have hlen := hd.length_lines_extract source
  rw [length_lines, length_lines] at hlen
  exact Nat.succ_inj.mp hlen

/-- What is printed of a document's script when its line ends are unified first is that script exactly if
every carriage return in the document stands before a line feed, and the script is printed as it is. -/
theorem OneLine.printed_eq_iff (hd : d.OneLine) {echo : List Char → List Char}
    (hecho : ∀ s, (echo s).count '\n' = s.count '\n') (source : List Char) :
    echo (extract d (unifyNewlines source)) = extract d source ↔
      loneReturns source = 0 ∧ echo (extract d source) = extract d source := by
  have hextract (h : loneReturns source = 0) : extract d (unifyNewlines source) = extract d source := by
    rw [extract, extractWithCursor, documentLines_unifyNewlines h]
    rfl
  constructor
  · intro h
    have hcount := congrArg (List.count '\n') h
    rw [hecho, hd.count_extract, hd.count_extract, count_unifyNewlines] at hcount
    have hreturns := Nat.add_eq_left.mp hcount
    exact ⟨hreturns, hextract hreturns ▸ h⟩
  · rintro ⟨hreturns, hsame⟩
    rw [hextract hreturns, hsame]

end Dialect
end Literate
end ScriptRunner
