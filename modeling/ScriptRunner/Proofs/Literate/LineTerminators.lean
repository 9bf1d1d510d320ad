import ScriptRunner.Proofs.Literate.Wrapping

/-! Line ends of documents. A line may end in a line feed or in a carriage return and a line feed, each line as
it likes, and the last one in a carriage return or in nothing: the document has the same lines, so the same
script and the same state at its end. -/

namespace ScriptRunner.Literate

open Text

/-- A text has these lines in it, each with a line end of its own. Behind the last one there is none, but there
may be a carriage return. -/
inductive Spells : List Line → List Char → Prop where
  | nil : Spells [] []
  | last (line : Line) : Spells [line] line
  | lastReturn (line : Line) : Spells [line] (line ++ ['\r'])
  | newline (line : Line) {next : Line} {rest : List Line} {text : List Char}
      (h : Spells (next :: rest) text) : Spells (line :: next :: rest) (line ++ '\n' :: text)
  | returnNewline (line : Line) {next : Line} {rest : List Line} {text : List Char}
      (h : Spells (next :: rest) text) : Spells (line :: next :: rest) (line ++ '\r' :: '\n' :: text)

variable {ls : List Line} {s t : List Char}

theorem documentLines_of_notMem (h : '\n' ∉ s) : documentLines s = [dropReturn s] := by
  rw [documentLines, lines, List.splitOn_eq_singleton h]
  rfl

theorem IsProgramLine.documentLines_eq {line : Line} (h : IsProgramLine line) :
    documentLines line = [line] := by
  rw [documentLines_of_notMem h.1, h.dropReturn_eq]

theorem IsProgramLine.documentLines_append_return {line : Line} (h : IsProgramLine line) :
    documentLines (line ++ ['\r']) = [line] := by
  have hn : '\n' ∉ line ++ ['\r'] := by simp [h.1]
  rw [documentLines_of_notMem hn, dropReturn_append_return]

theorem Spells.documentLines_eq (hs : Spells ls s) (hne : ls ≠ []) (h : ∀ line ∈ ls, IsProgramLine line) :
    documentLines s = ls := by
  induction hs with
  | nil => exact absurd rfl hne
  | last line => exact (h line (by simp)).documentLines_eq
  | lastReturn line => exact (h line (by simp)).documentLines_append_return
  | newline line _ ih =>
      rw [documentLines_append_newline, (h line (by simp)).documentLines_eq,
        ih (List.cons_ne_nil _ _) fun l hl => h l (List.mem_cons_of_mem _ hl)]
      rfl
  | returnNewline line _ ih =>
      rw [List.append_cons line '\r', documentLines_append_newline,
        (h line (by simp)).documentLines_append_return,
        ih (List.cons_ne_nil _ _) fun l hl => h l (List.mem_cons_of_mem _ hl)]
      rfl

theorem spells_unlines (whole : List Line) : Spells (whole.map dropReturn) (unlines whole) := by
  induction whole with
  | nil => exact .nil
  | cons line rest ih =>
      have hline := eq_dropReturn_or line
      generalize hbare : dropReturn line = bare at hline
      cases rest with
      | nil =>
          have hone : unlines [line] = line := List.intercalate_singleton
          rw [hone, List.map_singleton, hbare]
          rcases hline with rfl | rfl
          · exact .last _
          · exact .lastReturn _
      | cons next rest =>
          rw [unlines_cons line (List.cons_ne_nil next rest), List.map_cons, hbare]
          rcases hline with rfl | rfl
          · exact .newline _ ih
          · rw [List.append_assoc]
            exact .returnNewline _ ih

/-- Every text spells its own lines. -/
theorem spells_documentLines (s : List Char) : Spells (documentLines s) s := by
  have h := spells_unlines (lines s)
  rwa [unlines_lines] at h

/-- The texts that have given lines are those that spell them, with any choice of line ends. -/
theorem documentLines_eq_iff (hne : ls ≠ []) (h : ∀ line ∈ ls, IsProgramLine line) :
    documentLines s = ls ↔ Spells ls s := by
  refine ⟨?_, fun hs => hs.documentLines_eq hne h⟩
  rintro rfl
  exact spells_documentLines s

theorem Spells.extractWithCursor_eq (hs : Spells ls s) (d : Dialect) (h : ∀ line ∈ ls, IsProgramLine line) :
    extractWithCursor d s = (unlines (d.advanceAll {} ls).2, (d.advanceAll {} ls).1) := by
  by_cases hne : ls = []
  · -- No lines are spelled by the empty text alone, which is read as one empty line.
    subst hne
    cases hs
    rfl
  · rw [d.extractWithCursor_eq, (documentLines_eq_iff hne h).mpr hs]

open Dialect

/-- Whatever the line ends, the script is what the lines emit and the state at the end is the one that they
leave; so two texts that differ in their line ends only have the same script and leave the same state. -/
theorem line_ends_make_no_difference (d : Dialect) (h : ∀ line ∈ ls, IsProgramLine line)
    (hs : Spells ls s) (ht : Spells ls t) :
    extractWithCursor d s = (unlines (d.advanceAll {} ls).2, (d.advanceAll {} ls).1) ∧
      extractWithCursor d t = extractWithCursor d s := by
  have hfirst := hs.extractWithCursor_eq d h
  have hsecond := ht.extractWithCursor_eq d h
  exact ⟨hfirst, hsecond.trans hfirst.symm⟩

/-- Mixed line ends, and a carriage return inside a line. -/
theorem line_ends_make_no_difference_mixed :
    (∀ line ∈ ["a\rb".toList, [], "\tc".toList, "```".toList], IsProgramLine line) ∧
      Spells ["a\rb".toList, [], "\tc".toList, "```".toList] "a\rb\r\n\n\tc\r\n```\r".toList ∧
      Spells ["a\rb".toList, [], "\tc".toList, "```".toList] "a\rb\n\r\n\tc\n```".toList ∧
      extractWithCursor python "a\rb\r\n\n\tc\r\n```\r".toList =
        ("# a\rb\n\nc\n# ```".toList, ⟨.prose, true⟩) ∧
      extractWithCursor python "a\rb\n\r\n\tc\n```".toList =
        extractWithCursor python "a\rb\r\n\n\tc\r\n```\r".toList := by
  have hlines : ∀ line ∈ ["a\rb".toList, [], "\tc".toList, "```".toList], IsProgramLine line := by decide
  have hfirst : Spells ["a\rb".toList, [], "\tc".toList, "```".toList] "a\rb\r\n\n\tc\r\n```\r".toList :=
    .returnNewline _ (.newline _ (.returnNewline _ (.lastReturn _)))
  have hsecond : Spells ["a\rb".toList, [], "\tc".toList, "```".toList] "a\rb\n\r\n\tc\n```".toList :=
    .newline _ (.returnNewline _ (.newline _ (.last _)))
  exact ⟨hlines, hfirst, hsecond, line_ends_make_no_difference python hlines hfirst hsecond⟩

end ScriptRunner.Literate
