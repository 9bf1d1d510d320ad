import ScriptRunner.Proofs.Literate.Blocks
import ScriptRunner.Proofs.Literate.Transitions

/-! Two dialects on one document. The tags of a dialect say what a fence is for and not whether it is one, so
two dialects may be in different fenced blocks, but never is one of them in a block and the other is not. -/

namespace ScriptRunner.Literate

open Text

/-- Two states that differ in what an open fence is for, if in anything. -/
inductive InStep : Cursor → Cursor → Prop where
  | prose (flag : Bool) : InStep ⟨.prose, flag⟩ ⟨.prose, flag⟩
  | indentedBlock (flag : Bool) : InStep ⟨.indentedBlock, flag⟩ ⟨.indentedBlock, flag⟩
  | fenced (flag : Bool) {mode other : Mode} (hmode : mode.IsFenced) (hother : other.IsFenced) :
      InStep ⟨mode, flag⟩ ⟨other, flag⟩

theorem FenceKind.isFenced_mode (kind : FenceKind) : kind.mode.IsFenced := by
  cases kind <;> trivial

namespace InStep

variable {c c' : Cursor}

theorem mode_eq_prose_iff (h : InStep c c') : c.mode = .prose ↔ c'.mode = .prose := by
  cases h with
  | prose | indentedBlock => rfl
  | fenced _ hmode hother => simp [hmode.ne_prose, hother.ne_prose]

theorem isFenced_iff (h : InStep c c') : c.mode.IsFenced ↔ c'.mode.IsFenced := by
  cases h with
  | prose | indentedBlock => rfl
  | fenced _ hmode hother => simp [hmode, hother]

variable (d e : Dialect)

theorem advance_prose (flag : Bool) {line : Line} (hline : '\n' ∉ line) :
    InStep (d.advance ⟨.prose, flag⟩ line).1 (e.advance ⟨.prose, flag⟩ line).1 := by
  by_cases hrun : (flag && startsRun line) = true
  · rw [d.advance_prose_of_startsRun flag hrun, e.advance_prose_of_startsRun flag hrun]
    exact .indentedBlock flag
  · -- Both dialects find a fence here or neither does; their tags decide on its kind alone.
    by_cases hfence : fence.isPrefixOf line = true
    · obtain ⟨word, rfl⟩ := List.isPrefixOf_iff_prefix.mp hfence
      have hword : '\n' ∉ word := fun hn => hline (List.mem_append_right _ hn)
      obtain ⟨kind, hkind⟩ := exists_fenceMode? d hword
      obtain ⟨other, hother⟩ := exists_fenceMode? e hword
      rw [d.advance_prose_fence flag hrun hkind, e.advance_prose_fence flag hrun hother]
      exact .fenced flag kind.isFenced_mode other.isFenced_mode
    · have hnone := Bool.eq_false_iff.mpr hfence
      rw [d.advance_prose_of_text flag hrun hnone, e.advance_prose_of_text flag hrun hnone]
      exact .prose _

theorem advance_indentedBlock (flag : Bool) (line : Line) :
    InStep (d.advance ⟨.indentedBlock, flag⟩ line).1 (e.advance ⟨.indentedBlock, flag⟩ line).1 := by
  by_cases hstays : staysInRun line = true
  · rw [d.advance_indented_of_stays flag hstays, e.advance_indented_of_stays flag hstays]
    exact .indentedBlock flag
  · have hends := Bool.eq_false_iff.mpr hstays
    rw [d.advance_indented_of_ends flag hends, e.advance_indented_of_ends flag hends]
    exact .prose flag

theorem advance_fenced (flag : Bool) {mode other : Mode} (hmode : mode.IsFenced) (hother : other.IsFenced)
    (line : Line) : InStep (d.advance ⟨mode, flag⟩ line).1 (e.advance ⟨other, flag⟩ line).1 := by
  rw [Dialect.advance_of_isFenced hmode, Dialect.advance_of_isFenced hother]
  by_cases hclose : line = fence
  · rw [if_pos hclose, if_pos hclose]
    exact .prose flag
  · rw [if_neg hclose, if_neg hclose]
    exact .fenced flag hmode hother

/-- One line keeps two dialects in step. -/
theorem advance (h : InStep c c') {line : Line} (hline : '\n' ∉ line) :
    InStep (d.advance c line).1 (e.advance c' line).1 := by
  cases h with
  | prose flag => exact advance_prose d e flag hline
  | indentedBlock flag => exact advance_indentedBlock d e flag line
  | fenced flag hmode hother => exact advance_fenced d e flag hmode hother line

/-- Any number of lines does. -/
theorem advanceAll (h : InStep c c') {ls : List Line} (hls : ∀ line ∈ ls, '\n' ∉ line) :
    InStep (d.advanceAll c ls).1 (e.advanceAll c' ls).1 := by
  induction ls generalizing c c' with
  | nil => exact h
  | cons line ls ih =>
      rw [Dialect.advanceAll_cons, Dialect.advanceAll_cons]
      exact ih (h.advance d e (hls line (by simp))) fun l hl => hls l (List.mem_cons_of_mem _ hl)

end InStep

namespace Dialect

variable (d : Dialect) (source : List Char)

/-- The state before the line of a document with a number, that is, after so many lines. -/
def stateAt (n : Nat) : Cursor := (d.advanceAll {} ((documentLines source).take n)).1

/-- Whether a line of a document opens a block. -/
def OpensAt (n : Nat) : Prop :=
  n < (documentLines source).length ∧
    (d.stateAt source n).mode = .prose ∧ (d.stateAt source (n + 1)).mode ≠ .prose

/-- Whether a line of a document goes on with the block that is open above it. -/
def ContinuesAt (n : Nat) : Prop :=
  n < (documentLines source).length ∧
    (d.stateAt source n).mode ≠ .prose ∧ (d.stateAt source (n + 1)).mode ≠ .prose

/-- Whether a line of a document closes the block that is open above it. -/
def ClosesAt (n : Nat) : Prop :=
  n < (documentLines source).length ∧
    (d.stateAt source n).mode ≠ .prose ∧ (d.stateAt source (n + 1)).mode = .prose

/-- Whether no fence is left open by a document. -/
def Balanced : Prop := ¬ (extractWithCursor d source).2.mode.IsFenced

theorem inStep_stateAt (e : Dialect) (n : Nat) : InStep (d.stateAt source n) (e.stateAt source n) :=
  (InStep.prose true).advanceAll d e fun _ hline =>
    newline_notMem_of_mem_documentLines (List.mem_of_mem_take hline)

theorem stateAt_length : d.stateAt source (documentLines source).length = (extractWithCursor d source).2 := by
  rw [stateAt, List.take_length, extractWithCursor_eq]

end Dialect

open Dialect

/-- After the same lines of a document any two dialects are in prose, in an indented block or in a fence
together, with the same flag. So the same lines open, continue and close blocks for both of them, and no fence
is left open for one exactly if none is for the other. -/
theorem dialects_keep_step (d e : Dialect) (source : List Char) :
    (∀ n, InStep (d.stateAt source n) (e.stateAt source n)) ∧
      (∀ n, (d.OpensAt source n ↔ e.OpensAt source n) ∧
        (d.ContinuesAt source n ↔ e.ContinuesAt source n) ∧
        (d.ClosesAt source n ↔ e.ClosesAt source n)) ∧
      (d.Balanced source ↔ e.Balanced source) := by
  have hstep := fun n => d.inStep_stateAt source e n
  refine ⟨hstep, ?_, ?_⟩
  · intro n
    have hbefore := (hstep n).mode_eq_prose_iff
    have hafter := (hstep (n + 1)).mode_eq_prose_iff
    refine ⟨?_, ?_, ?_⟩
    · simp only [OpensAt, ne_eq, hbefore, hafter]
    · simp only [ContinuesAt, ne_eq, hbefore, hafter]
    · simp only [ClosesAt, ne_eq, hbefore, hafter]
  · have hend := (hstep (documentLines source).length).isFenced_iff
    rw [stateAt_length, stateAt_length] at hend
    exact not_congr hend

/-- A fence that is a script for one dialect and foreign to the other. -/
example : python.stateAt "```js\nx".toList 1 = ⟨.fencedOther, true⟩ ∧
    javascript.stateAt "```js\nx".toList 1 = ⟨.fencedScript, true⟩ := by
  decide

end ScriptRunner.Literate
