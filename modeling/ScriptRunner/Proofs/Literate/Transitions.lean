import ScriptRunner.Proofs.Literate.Fold

/-! What consuming one line can do, as rules: one rule for each way from a state to the next. -/

namespace ScriptRunner.Literate

open Text

/-- Whether a fenced block is open in a mode. -/
def Mode.IsFenced : Mode → Prop
  | .fencedScript | .fencedShell | .fencedOther => True
  | .prose | .indentedBlock => False

theorem Mode.IsFenced.ne_prose {mode : Mode} (h : mode.IsFenced) : mode ≠ .prose := by
  rintro rfl
  exact h

theorem Mode.IsFenced.ne_indentedBlock {mode : Mode} (h : mode.IsFenced) : mode ≠ .indentedBlock := by
  rintro rfl
  exact h

namespace Dialect

/-- A line takes a cursor to the next one and emits a line. -/
inductive Transition (d : Dialect) : Cursor → Line → Cursor → Line → Prop where
  | opensBlock {line : Line} (h : opensIndented line = true) :
      d.Transition ⟨.prose, true⟩ line ⟨.indentedBlock, true⟩ (d.codeLine line)
  | opensFence {flag : Bool} {line : Line} {mode : Mode} (hmode : mode.IsFenced)
      (hindent : (flag && opensIndented line) = false) (h : d.fenceMode? line = some mode) :
      d.Transition ⟨.prose, flag⟩ line ⟨mode, flag⟩ (if mode = .fencedShell then d.shellOpen else [])
  | prose {flag : Bool} {line : Line} (hindent : (flag && opensIndented line) = false)
      (h : d.fenceMode? line = none) :
      d.Transition ⟨.prose, flag⟩ line ⟨.prose, line.isEmpty⟩ (d.comment line)
  | staysInBlock {flag : Bool} {line : Line} (h : continuesIndented line = true) :
      d.Transition ⟨.indentedBlock, flag⟩ line ⟨.indentedBlock, flag⟩ (d.codeLine line)
  | emptyInBlock {flag : Bool} : d.Transition ⟨.indentedBlock, flag⟩ [] ⟨.indentedBlock, flag⟩ []
  | endsBlock {flag : Bool} {line : Line} (hne : line ≠ []) (h : continuesIndented line = false) :
      d.Transition ⟨.indentedBlock, flag⟩ line ⟨.prose, flag⟩ (d.commentPrefix ++ line)
  | closesFence {flag : Bool} {mode : Mode} (hmode : mode.IsFenced) :
      d.Transition ⟨mode, flag⟩ fence ⟨.prose, flag⟩ (if mode = .fencedShell then d.shellClose else [])
  | body {flag : Bool} {mode : Mode} {line : Line} (hmode : mode.IsFenced) (h : line ≠ fence) :
      d.Transition ⟨mode, flag⟩ line ⟨mode, flag⟩
        (if mode = .fencedOther then d.commentPrefix ++ line else line)

variable {d : Dialect} {c next : Cursor} {line emitted : Line}

theorem isFenced_of_fenceMode? {mode : Mode} (h : d.fenceMode? line = some mode) : mode.IsFenced := by
  unfold fenceMode? at h
  split at h
  · cases h
    trivial
  · split at h
    · cases h
      trivial
    · split at h
      · cases h
        trivial
      · cases h

theorem comment_of_ne_nil (h : line ≠ []) : d.comment line = d.commentPrefix ++ line := by
  simp [comment, h]

theorem advance_of_isFenced {mode : Mode} (h : mode.IsFenced) (flag : Bool) :
    d.advance ⟨mode, flag⟩ line =
      if line = fence then (⟨.prose, flag⟩, if mode = .fencedShell then d.shellClose else [])
      else (⟨mode, flag⟩, if mode = .fencedOther then d.commentPrefix ++ line else line) := by
  cases mode with
  | prose | indentedBlock => cases h
  | fencedScript | fencedShell | fencedOther => rfl

theorem transition_of_isFenced {mode : Mode} (h : mode.IsFenced) (flag : Bool) (line : Line) :
    d.Transition ⟨mode, flag⟩ line (d.advance ⟨mode, flag⟩ line).1 (d.advance ⟨mode, flag⟩ line).2 := by
  rw [advance_of_isFenced h]
  by_cases hclose : line = fence
  · rw [if_pos hclose, hclose]
    exact .closesFence h
  · rw [if_neg hclose]
    exact .body h hclose

theorem transition_advance (d : Dialect) (c : Cursor) (line : Line) :
    d.Transition c line (d.advance c line).1 (d.advance c line).2 := by
  obtain ⟨mode, flag⟩ := c
  cases mode with
  | prose =>
      by_cases hindent : (flag && opensIndented line) = true
      · obtain ⟨rfl, hopens⟩ := Bool.and_eq_true_iff.mp hindent
        simpa [advance, hopens] using Transition.opensBlock hopens
      · have hindent := Bool.eq_false_iff.mpr hindent
        cases hf : d.fenceMode? line with
        | some mode =>
            simpa [advance, hindent, hf] using
              Transition.opensFence (isFenced_of_fenceMode? hf) hindent hf
        | none => simpa [advance, hindent, hf] using Transition.prose hindent hf
  | indentedBlock =>
      -- Fences are not looked for here: a line that is neither indented nor empty ends the block.
      by_cases hstays : continuesIndented line = true
      · simpa [advance, hstays] using Transition.staysInBlock hstays
      · have hstays := Bool.eq_false_iff.mpr hstays
        by_cases hne : line = []
        · subst hne
          exact .emptyInBlock
        · simpa [advance, hstays, hne, comment_of_ne_nil hne] using Transition.endsBlock hne hstays
  | fencedScript | fencedShell | fencedOther =>
      apply transition_of_isFenced
      trivial

theorem Transition.advance (h : d.Transition c line next emitted) :
    d.advance c line = (next, emitted) := by
  cases h with
  | opensBlock h => simp [Dialect.advance, h]
  | opensFence _ hindent h => simp [Dialect.advance, hindent, h]
  | prose hindent h => simp [Dialect.advance, hindent, h]
  | staysInBlock h => simp [Dialect.advance, h]
  | emptyInBlock => rfl
  | endsBlock hne h => simp [Dialect.advance, h, hne, comment_of_ne_nil hne]
  | closesFence hmode => simp [advance_of_isFenced hmode]
  | body hmode h => simp [advance_of_isFenced hmode, h]

theorem transition_iff : d.Transition c line next emitted ↔ d.advance c line = (next, emitted) := by
  refine ⟨Transition.advance, ?_⟩
  intro h
  simpa only [h] using d.transition_advance c line

end Dialect
end ScriptRunner.Literate
