import ScriptRunner.Proofs.Literate.Alignment
import ScriptRunner.Proofs.Text.PhysicalLines

/-! Text stays a comment. A document's lines end at line feeds, but the interpreter that is handed the script
takes a carriage return for the end of a line as well. What follows one in a line of text is a line of
the script, with no mark before it. -/

namespace ScriptRunner.Literate

open Text

namespace Dialect

/-- Whether a line is read as text: as prose, as the line that ends an indented block, or as part of a
foreign fence. -/
def TakesAsText (d : Dialect) (c : Cursor) (line : Line) : Prop :=
  (c.mode = .prose ∨ c.mode = .indentedBlock) ∧ (d.advance c line).1.mode = .prose ∨
    c.mode = .fencedOther ∧ (d.advance c line).1.mode = .fencedOther

instance (d : Dialect) (c : Cursor) (line : Line) : Decidable (d.TakesAsText c line) :=
  inferInstanceAs (Decidable (_ ∨ _))

/-- Whether the interpreter passes over a line of a script. -/
def Silent (d : Dialect) (line : Line) : Prop := line = [] ∨ d.commentPrefix <+: line

instance (d : Dialect) (line : Line) : Decidable (d.Silent line) :=
  inferInstanceAs (Decidable (_ ∨ _))

variable {d : Dialect} {c : Cursor} {line : Line}

/-- A line of text is emitted behind the mark of a comment, or it is empty and so is what is emitted. -/
theorem emitted_of_takesAsText (h : d.TakesAsText c line) :
    line = [] ∧ (d.advance c line).2 = [] ∨ (d.advance c line).2 = d.commentPrefix ++ line := by
  have ht := d.transition_advance c line
  unfold TakesAsText at h
  generalize d.advance c line = r at h ht
  obtain ⟨next, emitted⟩ := r
  cases ht with
  -- These lead out of prose, or they stay in an indented block.
  | opensBlock | staysInBlock | emptyInBlock => simp at h
  | opensFence hmode => simp [hmode.ne_prose] at h
  | prose =>
      by_cases hl : line = []
      · subst hl
        exact .inl ⟨rfl, rfl⟩
      · exact .inr (comment_of_ne_nil hl)
  | endsBlock => exact .inr rfl
  | closesFence hmode => simp [hmode.ne_prose, hmode.ne_indentedBlock] at h
  | body hmode =>
      have hother := by simpa [hmode.ne_prose] using h
      exact .inr (if_pos hother)

/-- A line of text stays a comment as far as the interpreter takes it for one line. -/
theorem silent_advance_iff (hr : '\r' ∉ d.commentPrefix) (hn : '\n' ∉ d.commentPrefix)
    (h : d.TakesAsText c line) :
    (∀ l ∈ physicalLines (d.advance c line).2, d.Silent l) ↔
      ∀ l ∈ (physicalLines line).tail, d.Silent l := by
  obtain ⟨hl, he⟩ | he := emitted_of_takesAsText h
  · rw [he, hl]
    simp [physicalLines, unifyNewlines, lines, Silent]
  · rw [he, physicalLines_append hr hn]
    cases physicalLines line with
    | nil => simp
    | cons first rest =>
        have hfirst : d.Silent (d.commentPrefix ++ first) := .inr (List.prefix_append _ _)
        simp [hfirst]

end Dialect

open Dialect

/-- What a line of text emits is passed over if and only if the same holds of whatever stands behind
carriage returns in it. The script has the lines of the document, and one more for each carriage return
that no line feed follows. -/
theorem text_stays_comment_iff (source : List Char) (before after : List Line) (line : Line)
    (h : documentLines source = before ++ line :: after)
    (htext : python.TakesAsText (python.advanceAll {} before).1 line) :
    ∃ emitted, (lines (extract python source))[before.length]? = some emitted ∧
      ((∀ l ∈ physicalLines emitted, python.Silent l) ↔
        ∀ l ∈ (physicalLines line).tail, python.Silent l) ∧
      (physicalLines (extract python source)).length =
        (lines source).length + loneReturns (extract python source) := by
  refine ⟨_, oneLine_python.getElem?_lines_extract h, ?_, ?_⟩
  · exact silent_advance_iff (by decide) (by decide) htext
  · rw [length_physicalLines, oneLine_python.length_lines_extract]

/-- Behind a carriage return prose is a line of its own, and it is code. -/
theorem prose_behind_return_is_code :
    documentLines "text\rprint(1)".toList = ["text\rprint(1)".toList] ∧
      python.TakesAsText {} "text\rprint(1)".toList ∧
      extract python "text\rprint(1)".toList = "# text\rprint(1)".toList ∧
      physicalLines "# text\rprint(1)".toList = ["# text".toList, "print(1)".toList] ∧
      ¬ python.Silent "print(1)".toList := by
  decide

theorem text_stays_comment_iff_framed :
    documentLines "a\n```c\nx\ry\n```".toList =
        ["a".toList, "```c".toList] ++ "x\ry".toList :: ["```".toList] ∧
      python.TakesAsText (python.advanceAll {} ["a".toList, "```c".toList]).1 "x\ry".toList ∧
      ∃ emitted,
        (lines (extract python "a\n```c\nx\ry\n```".toList))[2]? = some emitted ∧
        ((∀ l ∈ physicalLines emitted, python.Silent l) ↔
          ∀ l ∈ (physicalLines "x\ry".toList).tail, python.Silent l) ∧
        (physicalLines (extract python "a\n```c\nx\ry\n```".toList)).length =
          (lines "a\n```c\nx\ry\n```".toList).length +
            loneReturns (extract python "a\n```c\nx\ry\n```".toList) := by
  have hlines : documentLines "a\n```c\nx\ry\n```".toList =
      ["a".toList, "```c".toList] ++ "x\ry".toList :: ["```".toList] := by decide
  have htext : python.TakesAsText (python.advanceAll {} ["a".toList, "```c".toList]).1
      "x\ry".toList := by decide
  exact ⟨hlines, htext, text_stays_comment_iff _ _ _ _ hlines htext⟩

end ScriptRunner.Literate
