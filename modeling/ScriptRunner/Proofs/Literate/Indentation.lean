import ScriptRunner.Proofs.Literate.Transitions

/-! When an indented block opens. The flag that lets one open is renewed by lines of prose only; fences and
indented blocks carry it past all their lines. So right below the line that closes a block it still tells of
the last line of prose before that block, and not of the line above. -/

namespace ScriptRunner.Literate

open Text

namespace Dialect

variable (d : Dialect)

/-- Whether a line is read as prose that leaves prose open. -/
def TakesAsProse (c : Cursor) (line : Line) : Prop :=
  c.mode = .prose ∧ (d.advance c line).1.mode = .prose

instance (c : Cursor) (line : Line) : Decidable (d.TakesAsProse c line) :=
  inferInstanceAs (Decidable (_ ∧ _))

/-- The last of some lines that is read as prose. -/
def lastProse? (c : Cursor) : List Line → Option Line
  | [] => none
  | line :: rest =>
    (lastProse? (d.advance c line).1 rest).or (if d.TakesAsProse c line then some line else none)

/-- Whether a line opens an indented block. -/
def OpensBlock (c : Cursor) (line : Line) : Prop :=
  c.mode = .prose ∧ (d.advance c line).1.mode = .indentedBlock

instance (c : Cursor) (line : Line) : Decidable (d.OpensBlock c line) :=
  inferInstanceAs (Decidable (_ ∧ _))

/-! ## What the flag tells -/

variable {d} {c : Cursor} {line : Line}

theorem prevBlank_of_takesAsProse (h : d.TakesAsProse c line) :
    (d.advance c line).1.prevBlank = line.isEmpty := by
  have ht := d.transition_advance c line
  unfold TakesAsProse at h
  generalize d.advance c line = r at h ht ⊢
  obtain ⟨next, emitted⟩ := r
  cases ht with
  | prose => rfl
  | opensBlock | staysInBlock | emptyInBlock | endsBlock => simp at h
  | opensFence hmode | closesFence hmode | body hmode => exact absurd (by simp_all) hmode.ne_prose

theorem prevBlank_of_not_takesAsProse (h : ¬ d.TakesAsProse c line) :
    (d.advance c line).1.prevBlank = c.prevBlank := by
  have ht := d.transition_advance c line
  unfold TakesAsProse at h
  generalize d.advance c line = r at h ht ⊢
  obtain ⟨next, emitted⟩ := r
  cases ht with
  | prose => exact absurd ⟨rfl, rfl⟩ h
  | opensBlock | staysInBlock | emptyInBlock | endsBlock | opensFence | closesFence | body => rfl

/-- The flag tells of the last line of prose, or it is as it was. -/
theorem prevBlank_advanceAll (c : Cursor) (ls : List Line) :
    (d.advanceAll c ls).1.prevBlank =
      ((d.lastProse? c ls).map List.isEmpty).getD c.prevBlank := by
  induction ls generalizing c with
  | nil => rfl
  | cons line rest ih =>
      rw [advanceAll_cons, ih, lastProse?]
      by_cases h : d.TakesAsProse c line
      · rw [prevBlank_of_takesAsProse h, if_pos h]
        cases d.lastProse? (d.advance c line).1 rest <;> rfl
      · rw [prevBlank_of_not_takesAsProse h, if_neg h, Option.or_none]

/-- At the start of a document the flag is set unless there was prose and its last line was not empty. -/
theorem prevBlank_iff (ls : List Line) :
    (d.advanceAll {} ls).1.prevBlank = true ↔ ∀ l, d.lastProse? {} ls = some l → l = [] := by
  rw [prevBlank_advanceAll]
  cases d.lastProse? {} ls <;> simp

theorem opensBlock_iff :
    d.OpensBlock c line ↔ c.mode = .prose ∧ c.prevBlank = true ∧ opensIndented line = true := by
  have ht := d.transition_advance c line
  unfold OpensBlock
  generalize d.advance c line = r at ht ⊢
  obtain ⟨next, emitted⟩ := r
  cases ht with
  | opensBlock h => simp [h]
  | opensFence hmode hindent => simpa [hmode.ne_indentedBlock] using hindent
  | prose hindent => simpa using hindent
  | staysInBlock | emptyInBlock | endsBlock => simp
  | closesFence hmode | body hmode => simp [hmode.ne_prose]

theorem advanceAll_concat (c : Cursor) (ls : List Line) (line : Line) :
    (d.advanceAll c (ls ++ [line])).1 = (d.advance (d.advanceAll c ls).1 line).1 := by
  rw [advanceAll_append, advanceAll_cons, advanceAll_nil]

/-- Whether a block may open below some lines, if they leave prose open. -/
def MayOpenBelow (d : Dialect) (before : List Line) : Prop :=
  before = [] ∨ ∃ init last, before = init ++ [last] ∧
    if (d.advanceAll {} init).1.mode = .prose then last = []
    else ∀ l, d.lastProse? {} init = some l → l = []

theorem mayOpenBelow_iff {before : List Line} (h : (d.advanceAll {} before).1.mode = .prose) :
    d.MayOpenBelow before ↔ (d.advanceAll {} before).1.prevBlank = true := by
  rcases List.eq_nil_or_concat before with rfl | ⟨init, last, rfl⟩
  · simp [MayOpenBelow]
  · rw [List.concat_eq_append] at h ⊢
    have hlast : d.MayOpenBelow (init ++ [last]) ↔
        if (d.advanceAll {} init).1.mode = .prose then last = []
        else ∀ l, d.lastProse? {} init = some l → l = [] := by
      constructor
      · rintro (hnil | ⟨init', last', he, hopen⟩)
        · simp at hnil
        · obtain ⟨rfl, hl⟩ := List.append_inj' he rfl
          cases hl
          exact hopen
      · exact fun hopen => .inr ⟨init, last, rfl, hopen⟩
    rw [advanceAll_concat] at h
    rw [hlast, advanceAll_concat]
    by_cases hmode : (d.advanceAll {} init).1.mode = .prose
    · rw [if_pos hmode, prevBlank_of_takesAsProse ⟨hmode, h⟩, List.isEmpty_iff]
    · rw [if_neg hmode, prevBlank_of_not_takesAsProse (fun ht => hmode ht.1), prevBlank_iff]

end Dialect

open Dialect

/-- An indented line opens a block at the start of a document, below an empty line of prose, and below the
line that closes a block if there was no prose before that block or its last line was empty. -/
theorem opens_block_iff (d : Dialect) (before : List Line) (line : Line) :
    d.OpensBlock (d.advanceAll {} before).1 line ↔
      (d.advanceAll {} before).1.mode = .prose ∧ opensIndented line = true ∧
        d.MayOpenBelow before := by
  rw [opensBlock_iff]
  constructor
  · rintro ⟨hmode, hflag, hline⟩
    exact ⟨hmode, hline, (mayOpenBelow_iff hmode).mpr hflag⟩
  · rintro ⟨hmode, hline, hopen⟩
    exact ⟨hmode, (mayOpenBelow_iff hmode).mp hopen, hline⟩

/-- A block opens below a line that is not empty: below one that ended a block, and below a fence. -/
theorem block_opens_below_text :
    documentLines "    a\nprose\n    b".toList = ["    a".toList, "prose".toList, "    b".toList] ∧
      python.OpensBlock (python.advanceAll {} ["    a".toList, "prose".toList]).1 "    b".toList ∧
      extract python "    a\nprose\n    b".toList = "a\n# prose\nb".toList ∧
      python.OpensBlock (python.advanceAll {} [fence, fence]).1 "    b".toList ∧
      extract python "```\n```\n    b".toList = "\n\nb".toList := by
  decide

end ScriptRunner.Literate
