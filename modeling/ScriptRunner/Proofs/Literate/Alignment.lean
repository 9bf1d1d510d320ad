import ScriptRunner.Proofs.Literate.Transitions

/-! One line for each. If the marks of a dialect have no line feed in them, each line is emitted as one
line, so the lines of a script are those that were emitted, and they stand where the document's stand. -/

namespace ScriptRunner.Literate

open Text

theorem dropSpaces_suffix (n : Nat) (line : Line) : dropSpaces n line <:+ line := by
  fun_induction dropSpaces n line with
  | case1 n rest ih => exact ih.trans (List.suffix_cons _ _)
  | case2 => exact List.suffix_rfl

theorem dropIndent_suffix (line : Line) : dropIndent line <:+ line := by
  unfold dropIndent
  split
  · exact List.suffix_cons _ _
  · exact dropSpaces_suffix _ _

namespace Dialect

variable {d : Dialect}

/-- Whether the marks of a dialect have no line feed in them. -/
structure OneLine (d : Dialect) : Prop where
  commentPrefix : '\n' ∉ d.commentPrefix
  shellOpen : '\n' ∉ d.shellOpen
  shellClose : '\n' ∉ d.shellClose

theorem oneLine_python : python.OneLine := ⟨by decide, by decide, by decide⟩

theorem mem_of_mem_codeLine {line : Line} {c : Char} (h : c ∈ d.codeLine line) : c ∈ line := by
  unfold codeLine at h
  split at h
  · exact (dropIndent_suffix line).subset h
  · exact h

variable (hd : d.OneLine) (c : Cursor) {line : Line} (hl : '\n' ∉ line)

include hd hl

theorem OneLine.newline_notMem_prefixed : '\n' ∉ d.commentPrefix ++ line := by
  simp [hd.commentPrefix, hl]

theorem OneLine.newline_notMem_comment : '\n' ∉ d.comment line := by
  unfold comment
  split
  · exact List.not_mem_nil
  · exact hd.newline_notMem_prefixed hl

/-- A line is emitted as one line. -/
theorem OneLine.newline_notMem_advance : '\n' ∉ (d.advance c line).2 := by
  have hcode : '\n' ∉ d.codeLine line := fun h => hl (mem_of_mem_codeLine h)
  have hcomment := hd.newline_notMem_comment hl
  have hprefixed := hd.newline_notMem_prefixed hl
  rcases hr : d.advance c line with ⟨next, emitted⟩
  have ht : d.Transition c line next emitted := transition_iff.mpr hr
  cases ht with
  | opensBlock | staysInBlock => exact hcode
  | opensFence =>
      split
      · exact hd.shellOpen
      · exact List.not_mem_nil
  | prose => exact hcomment
  | emptyInBlock => exact List.not_mem_nil
  | endsBlock => exact hprefixed
  | closesFence =>
      split
      · exact hd.shellClose
      · exact List.not_mem_nil
  | body =>
      split
      · exact hprefixed
      · exact hl

omit hl

theorem OneLine.newline_notMem_advanceAll {ls : List Line} (h : ∀ l ∈ ls, '\n' ∉ l) :
    ∀ emitted ∈ (d.advanceAll c ls).2, '\n' ∉ emitted := by
  induction ls generalizing c with
  | nil => simp
  | cons line ls ih =>
      intro emitted hin
      rw [advanceAll_cons] at hin
      rcases List.mem_cons.mp hin with rfl | hin
      · exact hd.newline_notMem_advance c (h line (by simp))
      · exact ih _ (fun l hl => h l (List.mem_cons_of_mem _ hl)) emitted hin

omit hd

theorem length_advanceAll (ls : List Line) : (d.advanceAll c ls).2.length = ls.length := by
  induction ls generalizing c with
  | nil => rfl
  | cons line ls ih => rw [advanceAll_cons, List.length_cons, ih, List.length_cons]

/-- The lines of a script are those that its document's lines emit. -/
theorem OneLine.lines_extract (hd : d.OneLine) (source : List Char) :
    lines (extract d source) = (d.advanceAll {} (documentLines source)).2 := by
  apply lines_unlines
  · exact hd.newline_notMem_advanceAll _ fun _ => newline_notMem_of_mem_documentLines
  · exact d.advanceAll_snd_ne_nil {} (documentLines_ne_nil source)

theorem OneLine.length_lines_extract (hd : d.OneLine) (source : List Char) :
    (lines (extract d source)).length = (lines source).length := by
  rw [hd.lines_extract, length_advanceAll, documentLines, List.length_map]

/-- Each line of a document has its own line in the script, at the same place. -/
theorem OneLine.getElem?_lines_extract (hd : d.OneLine) {source : List Char}
    {before after : List Line} (h : documentLines source = before ++ line :: after) :
    (lines (extract d source))[before.length]? =
      some (d.advance (d.advanceAll {} before).1 line).2 := by
  rw [hd.lines_extract, h, advanceAll_append, advanceAll_cons,
    List.getElem?_append_right (Nat.le_of_eq (length_advanceAll {} before)),
    length_advanceAll, Nat.sub_self]
  rfl

end Dialect
end ScriptRunner.Literate
