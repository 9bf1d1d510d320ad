import ScriptRunner.Literate.Document
import ScriptRunner.Proofs.Text.Split

/-! The fold over the lines of a document: how it composes, and what its lines are made of. -/

namespace ScriptRunner.Literate

open Text

theorem newline_notMem_of_mem_documentLines {source : List Char} {l : Line}
    (h : l ∈ documentLines source) : '\n' ∉ l := by
  obtain ⟨whole, hw, rfl⟩ := List.mem_map.mp h
  intro hn
  exact newline_notMem_of_mem_lines hw (mem_of_mem_dropReturn hn)

theorem documentLines_ne_nil (source : List Char) : documentLines source ≠ [] := by
  intro hnil
  exact List.splitOn_ne_nil '\n' source (List.map_eq_nil_iff.mp hnil)

/-- The lines of a document go on behind a line feed. -/
theorem documentLines_append_newline (a b : List Char) :
    documentLines (a ++ '\n' :: b) = documentLines a ++ documentLines b := by
  rw [documentLines, lines_append_newline, List.map_append]
  rfl

namespace Dialect

variable (d : Dialect)

theorem extractWithCursor_eq (source : List Char) :
    extractWithCursor d source =
      (unlines (d.advanceAll {} (documentLines source)).2, (d.advanceAll {} (documentLines source)).1) := rfl

@[simp] theorem advanceAll_nil (c : Cursor) : d.advanceAll c [] = (c, []) := rfl

theorem advanceAll_cons (c : Cursor) (line : Line) (rest : List Line) :
    d.advanceAll c (line :: rest) =
      ((d.advanceAll (d.advance c line).1 rest).1,
        (d.advance c line).2 :: (d.advanceAll (d.advance c line).1 rest).2) := rfl

theorem advanceAll_snd_ne_nil (c : Cursor) {ls : List Line} (h : ls ≠ []) : (d.advanceAll c ls).2 ≠ [] := by
  obtain ⟨line, rest, rfl⟩ := List.exists_cons_of_ne_nil h
  exact List.cons_ne_nil _ _

/-- Lines are consumed in one go or in two: the second part starts where the first one ends. -/
theorem advanceAll_append (c : Cursor) (xs ys : List Line) :
    d.advanceAll c (xs ++ ys) =
      ((d.advanceAll (d.advanceAll c xs).1 ys).1,
        (d.advanceAll c xs).2 ++ (d.advanceAll (d.advanceAll c xs).1 ys).2) := by
  induction xs generalizing c with
  | nil => rfl
  | cons line xs ih => simp only [List.cons_append, advanceAll_cons, ih]

/-- A run of lines that all leave the cursor where it is. -/
theorem advanceAll_of_stays {c : Cursor} {f : Line → Line} {run : List Line}
    (h : ∀ line ∈ run, d.advance c line = (c, f line)) :
    d.advanceAll c run = (c, run.map f) := by
  induction run with
  | nil => rfl
  | cons line run ih =>
      rw [advanceAll_cons, h line (by simp), ih (fun l hl => h l (by simp [hl]))]
      rfl

/-- The longest run of lines that leave the cursor where it is, and what comes after it. -/
theorem advanceAll_span {c : Cursor} {p : Line → Bool} {f : Line → Line}
    (h : ∀ line, p line = true → d.advance c line = (c, f line)) (lines : List Line) :
    d.advanceAll c lines =
      ((d.advanceAll c (lines.dropWhile p)).1,
        (lines.takeWhile p).map f ++ (d.advanceAll c (lines.dropWhile p)).2) := by
  have hrun : d.advanceAll c (lines.takeWhile p) = (c, (lines.takeWhile p).map f) :=
    d.advanceAll_of_stays fun l hl => h l (List.all_eq_true.mp List.all_takeWhile l hl)
  have hs := d.advanceAll_append c (lines.takeWhile p) (lines.dropWhile p)
  rwa [List.takeWhile_append_dropWhile, hrun] at hs

end Dialect
end ScriptRunner.Literate
