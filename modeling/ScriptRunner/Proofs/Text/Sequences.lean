import ScriptRunner.Proofs.Text.Split
import ScriptRunner.Text.ControlSequence

/-! Control sequences in a text that is printed. Without them the text has as many lines as before, and it is
the same text exactly if there were none in it. -/

namespace ScriptRunner.Text

/-- A whole control sequence. -/
inductive IsSequence : List Char → Prop where
  | intro {parameters intermediates last} (hp : ∀ c ∈ parameters, isParameter c = true)
      (hi : ∀ c ∈ intermediates, isIntermediate c = true) (hl : isFinal last = true) :
      IsSequence ('\x1b' :: '[' :: (parameters ++ (intermediates ++ [last])))

/-- A control sequence stands somewhere in the text. -/
def HasSequence (s : List Char) : Prop := ∃ sequence, IsSequence sequence ∧ sequence <:+: s

/-! ## One sequence -/

/-- The three kinds of characters in a sequence are apart. -/
theorem isParameter_eq_false {c : Char} (h : isIntermediate c = true ∨ isFinal c = true) :
    isParameter c = false := by
  simp only [isIntermediate, isFinal, isParameter, Bool.and_eq_true, decide_eq_true_eq, Char.le_def,
    UInt32.le_iff_toNat_le, Bool.and_eq_false_iff, decide_eq_false_iff_not] at *
  grind

theorem isIntermediate_eq_false {c : Char} (h : isFinal c = true) : isIntermediate c = false := by
  simp only [isIntermediate, isFinal, Bool.and_eq_true, decide_eq_true_eq, Char.le_def,
    UInt32.le_iff_toNat_le, Bool.and_eq_false_iff, decide_eq_false_iff_not] at *
  grind

theorem exists_of_afterSequence? {s after : List Char} (h : afterSequence? s = some after) :
    ∃ inner, s = inner ++ after ∧ IsSequence ('\x1b' :: '[' :: inner) := by
  unfold afterSequence? at h
  split at h
  · rename_i last rest hrest
    split at h
    · rename_i hlast
      cases h
      have hs := List.takeWhile_append_dropWhile (p := isParameter) (l := s)
      have hs' := List.takeWhile_append_dropWhile (p := isIntermediate) (l := s.dropWhile isParameter)
      rw [hrest] at hs'
      refine ⟨s.takeWhile isParameter ++ ((s.dropWhile isParameter).takeWhile isIntermediate ++ [last]), ?_,
        .intro (List.all_eq_true.mp List.all_takeWhile) (List.all_eq_true.mp List.all_takeWhile) hlast⟩
      simp [hs', hs]
    · cases h
  · cases h

theorem afterSequence?_append {inner : List Char} (h : IsSequence ('\x1b' :: '[' :: inner))
    (after : List Char) : afterSequence? (inner ++ after) = some after := by
  cases h with
  | @intro parameters intermediates last hp hi hl =>
      have hparams : (parameters ++ (intermediates ++ last :: after)).dropWhile isParameter =
          intermediates ++ last :: after := by
        rw [List.dropWhile_append_of_pos hp]
        cases intermediates with
        | nil => exact List.dropWhile_cons_of_neg (by simp [isParameter_eq_false (.inr hl)])
        | cons c intermediates =>
            exact List.dropWhile_cons_of_neg (by simp [isParameter_eq_false (.inl (hi c (by simp)))])
      have hinter : (intermediates ++ last :: after).dropWhile isIntermediate = last :: after := by
        rw [List.dropWhile_append_of_pos hi]
        exact List.dropWhile_cons_of_neg (by simp [isIntermediate_eq_false hl])
      simp [afterSequence?, hparams, hinter, hl]

theorem newline_notMem_of_isSequence {s : List Char} (h : IsSequence s) : '\n' ∉ s := by
  cases h with
  | intro hp hi hl =>
      intro hn
      simp only [List.mem_cons, List.mem_append, List.mem_nil_iff, or_false] at hn
      rcases hn with hn | hn | hn | hn | rfl
      · cases hn
      · cases hn
      · exact absurd (hp _ hn) (by decide)
      · exact absurd (hi _ hn) (by decide)
      · exact absurd hl (by decide)

/-! ## Somewhere in a text -/

theorem HasSequence.cons {c : Char} {s : List Char} (h : HasSequence s) : HasSequence (c :: s) := by
  obtain ⟨sequence, hsequence, hin⟩ := h
  exact ⟨sequence, hsequence, List.infix_cons hin⟩

theorem HasSequence.of_afterSequence? {s after : List Char} (h : afterSequence? s = some after) :
    HasSequence ('\x1b' :: '[' :: s) := by
  obtain ⟨inner, rfl, hsequence⟩ := exists_of_afterSequence? h
  exact ⟨_, hsequence, [], after, rfl⟩

/-- A sequence in a text is at its start or behind it. -/
theorem HasSequence.cases {c : Char} {s : List Char} (h : HasSequence (c :: s)) :
    (c = '\x1b' ∧ ∃ rest after, s = '[' :: rest ∧ afterSequence? rest = some after) ∨ HasSequence s := by
  obtain ⟨sequence, hsequence, hin⟩ := h
  rcases List.infix_cons_iff.mp hin with ⟨after, hs⟩ | hin
  · cases hsequence with
    | intro hp hi hl =>
        obtain ⟨rfl, rfl⟩ := List.cons.inj hs
        exact .inl ⟨rfl, _, after, rfl, afterSequence?_append (.intro hp hi hl) after⟩
  · exact .inr ⟨sequence, hsequence, hin⟩

/-! ## Printing -/

theorem count_dropSequences (s : List Char) : (dropSequences s).count '\n' = s.count '\n' := by
  fun_induction dropSequences s with
  | case1 => rfl
  | case2 rest after h ih =>
      obtain ⟨inner, rfl, hsequence⟩ := exists_of_afterSequence? h
      have hnone := List.count_eq_zero_of_not_mem (newline_notMem_of_isSequence hsequence)
      rw [ih, ← List.cons_append, ← List.cons_append, List.count_append, hnone, Nat.zero_add]
  | case3 rest h ih => simp [ih]
  | case4 c rest hfirst ih => simp [List.count_cons, ih]

theorem length_dropSequences_le (s : List Char) : (dropSequences s).length ≤ s.length := by
  fun_induction dropSequences s with
  | case1 => exact Nat.le_refl _
  | case2 rest after h ih =>
      have hlen := length_of_afterSequence? h
      simp only [List.length_cons]
      omega
  | case3 rest h ih => simpa using ih
  | case4 c rest hfirst ih => simpa using ih

theorem length_dropSequences_lt {s : List Char} (hs : HasSequence s) :
    (dropSequences s).length < s.length := by
  fun_induction dropSequences s with
  | case1 =>
      obtain ⟨sequence, hsequence, hin⟩ := hs
      rw [List.infix_nil.mp hin] at hsequence
      cases hsequence
  | case2 rest after h ih =>
      have hlen := length_of_afterSequence? h
      have hle := length_dropSequences_le after
      simp only [List.length_cons]
      omega
  | case3 rest h ih =>
      have hrest : HasSequence rest := by
        rcases hs.cases with ⟨-, rest', after, hr, ha⟩ | hs
        · cases hr
          rw [h] at ha
          cases ha
        · rcases hs.cases with ⟨he, -⟩ | hs
          · cases he
          · exact hs
      exact Nat.add_lt_add_right (ih hrest) 2
  | case4 c rest hfirst ih =>
      rcases hs.cases with ⟨rfl, rest', after, rfl, -⟩ | hs
      · exact absurd rfl (hfirst rest' rfl)
      · exact Nat.succ_lt_succ (ih hs)

theorem dropSequences_eq_self_iff {s : List Char} : dropSequences s = s ↔ ¬ HasSequence s := by
  constructor
  · intro h hs
    have hlt := length_dropSequences_lt hs
    rw [h] at hlt
    exact Nat.lt_irrefl _ hlt
  · intro hs
    fun_induction dropSequences s with
    | case1 => rfl
    | case2 rest after h ih => exact absurd (HasSequence.of_afterSequence? h) hs
    | case3 rest h ih => rw [ih fun hrest => hs hrest.cons.cons]
    | case4 c rest hfirst ih => rw [ih fun hrest => hs hrest.cons]

end ScriptRunner.Text
