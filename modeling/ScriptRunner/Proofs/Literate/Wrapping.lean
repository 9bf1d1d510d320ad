import ScriptRunner.Proofs.Literate.Fold

/-! Programs wrapped in documents. A program comes back unchanged from between fences, and from an indented
block where the dialect takes one unit of indentation away. -/

namespace ScriptRunner.Literate

open Text

/-! ## Lines of programs -/

/-- Whether something can be a line of a program: it holds no line feed and does not end in a carriage
return. -/
def IsProgramLine (line : Line) : Prop := '\n' ∉ line ∧ line.getLast? ≠ some '\r'

instance (line : Line) : Decidable (IsProgramLine line) := inferInstanceAs (Decidable (_ ∧ _))

/-- A line behind one unit of indentation. An empty line stays empty. -/
def indented (line : Line) : Line := if line.isEmpty then [] else "    ".toList ++ line

theorem IsProgramLine.dropReturn_eq {line : Line} (h : IsProgramLine line) : dropReturn line = line := by
  simp [dropReturn, h.2]

theorem IsProgramLine.indented {line : Line} (h : IsProgramLine line) :
    IsProgramLine (Literate.indented line) := by
  cases line with
  | nil => exact ⟨List.not_mem_nil, nofun⟩
  | cons c line =>
      have hlast : (Literate.indented (c :: line)).getLast? = (c :: line).getLast? := by
        simp [Literate.indented]
      refine ⟨?_, hlast ▸ h.2⟩
      simpa [Literate.indented] using h.1

theorem map_dropReturn {program : List Line} (h : ∀ line ∈ program, IsProgramLine line) :
    program.map dropReturn = program :=
  (List.map_congr_left fun line hline => (h line hline).dropReturn_eq).trans (List.map_id program)

namespace Dialect

variable (d : Dialect)

/-- What the lines of a document emit. -/
def emits (ls : List Line) : List Line := (d.advanceAll {} (ls.map dropReturn)).2

/-- The state that the lines of a document leave. -/
def leaves (ls : List Line) : Cursor := (d.advanceAll {} (ls.map dropReturn)).1

theorem extractWithCursor_unlines {ls : List Line} (h : ∀ l ∈ ls, '\n' ∉ l) :
    extractWithCursor d (unlines ls) = (unlines (d.emits ls), d.leaves ls) := by
  by_cases hne : ls = []
  · subst hne
    -- A document without lines is read as one empty line.
    rfl
  · have hlines : documentLines (unlines ls) = ls.map dropReturn := by
      rw [documentLines, lines_unlines h hne]
    rw [extractWithCursor, hlines]
    rfl

theorem emits_append (xs ys : List Line) :
    d.emits (xs ++ ys) = d.emits xs ++ (d.advanceAll (d.leaves xs) (ys.map dropReturn)).2 := by
  rw [emits, List.map_append, advanceAll_append]
  rfl

theorem leaves_append (xs ys : List Line) :
    d.leaves (xs ++ ys) = (d.advanceAll (d.leaves xs) (ys.map dropReturn)).1 := by
  rw [leaves, List.map_append, advanceAll_append]
  rfl

/-- Lines of a program behind a document start from the state that the document leaves. -/
theorem extractWithCursor_append {document program : List Line}
    (hdocument : ∀ line ∈ document, '\n' ∉ line) (hprogram : ∀ line ∈ program, IsProgramLine line) :
    extractWithCursor d (unlines (document ++ program)) =
      (unlines (d.emits document ++ (d.advanceAll (d.leaves document) program).2),
        (d.advanceAll (d.leaves document) program).1) := by
  have hlines : ∀ line ∈ document ++ program, '\n' ∉ line := by
    intro line hline
    rcases List.mem_append.mp hline with hline | hline
    · exact hdocument line hline
    · exact (hprogram line hline).1
  rw [extractWithCursor_unlines d hlines, emits_append, leaves_append, map_dropReturn hprogram]

variable {d}

/-! ## Between fences -/

theorem advanceAll_script (flag : Bool) {tag : Line} {program : List Line}
    (htag : d.isScriptFence (fence ++ tag) = true) (h : fence ∉ program) :
    d.advanceAll ⟨.prose, flag⟩ ((fence ++ tag) :: program ++ [fence]) =
      (⟨.prose, flag⟩, [] :: program ++ [[]]) := by
  have hopen : d.advance ⟨.prose, flag⟩ (fence ++ tag) = (⟨.fencedScript, flag⟩, []) := by
    have hindent : opensIndented (fence ++ tag) = false := rfl
    simp [advance, hindent, fenceMode?, htag]
  have hbody : d.advanceAll ⟨.fencedScript, flag⟩ program = (⟨.fencedScript, flag⟩, program) := by
    have hstays : ∀ line ∈ program,
        d.advance ⟨.fencedScript, flag⟩ line = (⟨.fencedScript, flag⟩, id line) := by
      intro line hline
      have hne : line ≠ fence := fun e => h (e ▸ hline)
      simp [advance, hne]
    simpa using d.advanceAll_of_stays hstays
  have hclose : d.advance ⟨.fencedScript, flag⟩ fence = (⟨.prose, flag⟩, []) := rfl
  rw [List.cons_append, advanceAll_cons, hopen, advanceAll_append, hbody, advanceAll_cons, hclose]
  rfl

/-! ## Indented -/

theorem codeLine_indent (hstrip : d.stripIndent = true) (line : Line) :
    d.codeLine ("    ".toList ++ line) = line := by
  simp [codeLine, hstrip]
  rfl

theorem advance_indented (hstrip : d.stripIndent = true) {mode : Mode}
    (hmode : mode = .prose ∨ mode = .indentedBlock) (line : Line) :
    d.advance ⟨mode, true⟩ (indented line) =
      (⟨if line.isEmpty then mode else .indentedBlock, true⟩, line) := by
  cases line with
  | nil => rcases hmode with rfl | rfl <;> rfl
  | cons c line =>
      have hcode := codeLine_indent hstrip (c :: line)
      rcases hmode with rfl | rfl
      · exact Prod.ext rfl hcode
      · exact Prod.ext rfl hcode

theorem emitted_indented (hstrip : d.stripIndent = true) {mode : Mode}
    (hmode : mode = .prose ∨ mode = .indentedBlock) (program : List Line) :
    (d.advanceAll ⟨mode, true⟩ (program.map indented)).2 = program := by
  -- Empty lines in front are still prose; they keep the flag set until the first line opens the block.
  induction program generalizing mode with
  | nil => rfl
  | cons line program ih =>
      have hnext : (if line.isEmpty then mode else .indentedBlock) = .prose ∨
          (if line.isEmpty then mode else .indentedBlock) = .indentedBlock := by
        split
        · exact hmode
        · exact .inr rfl
      rw [List.map_cons, advanceAll_cons, advance_indented hstrip hmode, ih hnext]

end Dialect

open Dialect

/-- A program that stands in a document behind prose comes back as it is: between fences, where the state
after it is the one before it, and indented, if the line above is empty. -/
theorem wrapped_program_returns (document program : List Line)
    (hdocument : ∀ line ∈ document, '\n' ∉ line)
    (hprogram : ∀ line ∈ program, IsProgramLine line)
    (hprose : (python.leaves document).mode = .prose) :
    extractWithCursor python (unlines document) =
        (unlines (python.emits document), python.leaves document) ∧
      (fence ∉ program →
        extractWithCursor python
            (unlines (document ++ ("```python".toList :: program ++ [fence]))) =
          (unlines (python.emits document ++ ([] :: program ++ [[]])), python.leaves document)) ∧
      ((python.leaves document).prevBlank = true →
        extract python (unlines (document ++ program.map indented)) =
          unlines (python.emits document ++ program)) := by
  have hstate : python.leaves document = ⟨.prose, (python.leaves document).prevBlank⟩ := by
    rw [← hprose]
  refine ⟨extractWithCursor_unlines python hdocument, ?_, ?_⟩
  · intro hfence
    have hlines : ∀ line ∈ "```python".toList :: program ++ [fence], IsProgramLine line := by
      intro line hline
      rcases List.mem_append.mp hline with hline | hline
      · rcases List.mem_cons.mp hline with rfl | hline
        · decide
        · exact hprogram line hline
      · cases List.mem_singleton.mp hline
        decide
    have hrun := advanceAll_script (python.leaves document).prevBlank
      (show python.isScriptFence (fence ++ "python".toList) = true by decide) hfence
    have hopener : "```python".toList = fence ++ "python".toList := rfl
    rw [← hstate, ← hopener] at hrun
    rw [extractWithCursor_append python hdocument hlines, hrun]
  · intro hblank
    have hlines : ∀ line ∈ program.map indented, IsProgramLine line := by
      intro line hline
      obtain ⟨bare, hbare, rfl⟩ := List.mem_map.mp hline
      exact (hprogram bare hbare).indented
    have hrun := emitted_indented (show python.stripIndent = true from rfl) (.inl rfl) program
    rw [hblank] at hstate
    rw [extract, extractWithCursor_append python hdocument hlines, hstate, hrun]

/-- Lines that look like fences, or like blocks and their ends, in a program of their own. -/
theorem wrapped_program_returns_hard :
    (∀ line ∈ ["Intro".toList, []], '\n' ∉ line) ∧
      (∀ line ∈ [[], "\tx".toList, "```py".toList, "  ".toList, "y".toList], IsProgramLine line) ∧
      (python.leaves ["Intro".toList, []]).mode = .prose ∧
      fence ∉ [[], "\tx".toList, "```py".toList, "  ".toList, "y".toList] ∧
      (python.leaves ["Intro".toList, []]).prevBlank = true ∧
      extractWithCursor python "Intro\n\n```python\n\n\tx\n```py\n  \ny\n```".toList =
        ("# Intro\n\n\n\n\tx\n```py\n  \ny\n".toList, {}) ∧
      extract python "Intro\n\n\n    \tx\n    ```py\n      \n    y".toList =
        "# Intro\n\n\n\tx\n```py\n  \ny".toList := by
  have hdocument : ∀ line ∈ ["Intro".toList, []], '\n' ∉ line := by decide
  have hprogram : ∀ line ∈ [[], "\tx".toList, "```py".toList, "  ".toList, "y".toList],
      IsProgramLine line := by decide
  obtain ⟨_, hfenced, hindented⟩ :=
    wrapped_program_returns _ _ hdocument hprogram (by decide)
  exact ⟨hdocument, hprogram, by decide, by decide, by decide, hfenced (by decide), hindented (by decide)⟩

end ScriptRunner.Literate
