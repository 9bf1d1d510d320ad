import ScriptRunner.Proofs.Literate.LineEnds

/-! Documents that go on. What is written below a document is extracted from the state that the document
leaves, and does not change what stands above: a line of a script depends on the lines of the document down to
its own. -/

namespace ScriptRunner.Literate

open Text

namespace Dialect

variable (d : Dialect)

/-- The first lines that are emitted are those of the first lines. -/
theorem take_advanceAll (c : Cursor) (k : Nat) (ls : List Line) :
    (d.advanceAll c ls).2.take k = (d.advanceAll c (ls.take k)).2 := by
  induction ls generalizing c k with
  | nil => simp
  | cons line ls ih =>
      cases k with
      | zero => rfl
      | succ k => rw [advanceAll_cons, List.take_succ_cons, ih, List.take_succ_cons, advanceAll_cons]

/-- A document is extracted in one go or in two. -/
theorem extractWithCursor_append_newline (a b : List Char) :
    extractWithCursor d (a ++ '\n' :: b) =
      (extract d a ++ '\n' :: unlines (d.advanceAll (extractWithCursor d a).2 (documentLines b)).2,
        (d.advanceAll (extractWithCursor d a).2 (documentLines b)).1) := by
  have hupper := d.advanceAll_snd_ne_nil {} (documentLines_ne_nil a)
  have hlower := d.advanceAll_snd_ne_nil (d.advanceAll {} (documentLines a)).1 (documentLines_ne_nil b)
  rw [extractWithCursor_eq, documentLines_append_newline, advanceAll_append,
    unlines_append_of_ne_nil hupper hlower]
  rfl

variable {d}

theorem OneLine.lines_extract_append_newline (hd : d.OneLine) (a b : List Char) :
    lines (extract d (a ++ '\n' :: b)) =
      lines (extract d a) ++ (d.advanceAll (extractWithCursor d a).2 (documentLines b)).2 := by
  rw [hd.lines_extract, hd.lines_extract, documentLines_append_newline, advanceAll_append]
  rfl

theorem OneLine.take_lines_extract (hd : d.OneLine) (source : List Char) (k : Nat) :
    (lines (extract d source)).take k = (d.advanceAll {} ((documentLines source).take k)).2 := by
  rw [hd.lines_extract, take_advanceAll]

end Dialect

open Dialect

/-- A script has as many line feeds as its document. What stands below a line feed goes on from the state
above it: the script of the text above comes first, unchanged, and then what the lines below emit from there
on. Documents that have their first lines in common have as many first lines of their scripts in common. -/
theorem extraction_continues {d : Dialect} (hd : d.OneLine) :
    (∀ a b : List Char,
      (extract d (a ++ '\n' :: b)).count '\n' = (a ++ '\n' :: b).count '\n' ∧
        extractWithCursor d (a ++ '\n' :: b) =
          (extract d a ++ '\n' :: unlines (d.advanceAll (extractWithCursor d a).2 (documentLines b)).2,
            (d.advanceAll (extractWithCursor d a).2 (documentLines b)).1) ∧
        (lines (extract d (a ++ '\n' :: b))).take (lines a).length = lines (extract d a) ∧
        (lines (extract d (a ++ '\n' :: b))).drop (lines a).length =
          (d.advanceAll (extractWithCursor d a).2 (documentLines b)).2) ∧
      ∀ (source other : List Char) (k : Nat), (documentLines source).take k = (documentLines other).take k →
        (lines (extract d source)).take k = (lines (extract d other)).take k := by
  refine ⟨?_, ?_⟩
  · intro a b
    -- The script of the upper part ends where that part ends, since each line of it has one line there.
    have hlength : (lines a).length = (lines (extract d a)).length := (hd.length_lines_extract a).symm
    refine ⟨hd.count_extract _, d.extractWithCursor_append_newline a b, ?_, ?_⟩
    · rw [hd.lines_extract_append_newline, hlength, List.take_left]
    · rw [hd.lines_extract_append_newline, hlength, List.drop_left]
  · intro source other k h
    rw [hd.take_lines_extract, hd.take_lines_extract, h]

/-- A document that breaks off inside a block, and goes on with a line that would be prose. -/
theorem extraction_continues_inside :
    python.OneLine ∧
      extractWithCursor python "a\n```py\nx".toList = ("# a\n\nx".toList, ⟨.fencedScript, false⟩) ∧
      extractWithCursor python "a\n```py\nx\n# y\r\n```\nb".toList =
        ("# a\n\nx\n# y\n\n# b".toList, ⟨.prose, false⟩) ∧
      (documentLines "a\n```py\nx\n# y\r\n```\nb".toList).take 3 =
        (documentLines "a\r\n```py\nx\n```".toList).take 3 ∧
      (lines (extract python "a\n```py\nx\n# y\r\n```\nb".toList)).take 3 =
        (lines (extract python "a\r\n```py\nx\n```".toList)).take 3 := by
  obtain ⟨hparts, hfront⟩ := extraction_continues oneLine_python
  have hsame : (documentLines "a\n```py\nx\n# y\r\n```\nb".toList).take 3 =
      (documentLines "a\r\n```py\nx\n```".toList).take 3 := by decide
  obtain ⟨_, hrun, _, _⟩ := hparts "a\n```py\nx".toList "# y\r\n```\nb".toList
  exact ⟨oneLine_python, by decide, hrun, hsame, hfront _ _ 3 hsame⟩

end ScriptRunner.Literate
