import ScriptRunner.Text.Line

/-! Pieces of a list between separators, and the lines of a text among them. -/

namespace ScriptRunner.Text

variable {α : Type} [BEq α] [LawfulBEq α]

theorem notMem_of_mem_splitOn {x : α} {xs piece : List α} (h : piece ∈ xs.splitOn x) :
    x ∉ piece := by
  induction xs generalizing piece with
  | nil => simp_all
  | cons y xs ih =>
      rw [List.splitOn_cons_eq_if_modifyHead] at h
      split at h
      · rcases List.mem_cons.mp h with rfl | h
        · simp
        · exact ih h
      · rename_i hy
        cases hs : xs.splitOn x with
        | nil => exact absurd hs (List.splitOn_ne_nil x xs)
        | cons first rest =>
            rw [hs, List.modifyHead_cons] at h
            rw [hs] at ih
            rcases List.mem_cons.mp h with rfl | h
            · have hf : x ∉ first := ih (by simp)
              have hne : x ≠ y := fun e => hy (by simp [e])
              simp [hne, hf]
            · exact ih (List.mem_cons_of_mem _ h)

theorem newline_notMem_of_mem_lines {s : List Char} {l : Line} (h : l ∈ lines s) : '\n' ∉ l :=
  notMem_of_mem_splitOn h

theorem lines_cons_of_ne {c : Char} (h : c ≠ '\n') (s : List Char) :
    lines (c :: s) = (lines s).modifyHead (c :: ·) := by
  rw [lines, List.splitOn_cons_eq_if_modifyHead]
  simp [h, lines]

theorem lines_append_of_notMem {start : List Char} (h : '\n' ∉ start) (s : List Char) :
    lines (start ++ s) = (lines s).modifyHead (start ++ ·) := by
  induction start with
  | nil =>
      rw [List.nil_append]
      cases lines s <;> rfl
  | cons c start ih =>
      have hc : c ≠ '\n' := fun e => h (by simp [e])
      rw [List.cons_append, lines_cons_of_ne hc, ih (fun hs => h (List.mem_cons_of_mem _ hs)),
        List.modifyHead_modifyHead]
      rfl

theorem lines_newline (s : List Char) : lines ('\n' :: s) = [] :: lines s := by
  rw [lines, List.splitOn_cons_eq_if_modifyHead]
  rfl

/-- A line feed ends a line wherever it stands. -/
theorem lines_append_newline (start s : List Char) :
    lines (start ++ '\n' :: s) = lines start ++ lines s :=
  List.splitOn_append_cons_self start s

theorem length_lines (s : List Char) : (lines s).length = s.count '\n' + 1 := by
  induction s with
  | nil => rfl
  | cons c s ih =>
      by_cases hc : c = '\n'
      · rw [hc, lines_newline, List.length_cons, ih, List.count_cons_self]
      · rw [lines_cons_of_ne hc, List.length_modifyHead, ih, List.count_cons_of_ne hc]

theorem dropReturn_cons_of_ne_nil (c : Char) {l : Line} (h : l ≠ []) :
    dropReturn (c :: l) = c :: dropReturn l := by
  obtain ⟨d, l, rfl⟩ := List.exists_cons_of_ne_nil h
  unfold dropReturn
  rw [List.getLast?_cons_cons]
  split <;> rfl

theorem dropReturn_cons {c : Char} (h : c ≠ '\r') (l : Line) : dropReturn (c :: l) = c :: dropReturn l := by
  by_cases hl : l = []
  · simp [hl, dropReturn, h]
  · exact dropReturn_cons_of_ne_nil c hl

theorem dropReturn_isPrefix (l : Line) : dropReturn l <+: l := by
  unfold dropReturn
  split
  · exact List.dropLast_prefix l
  · exact List.prefix_rfl

theorem dropReturn_append_return (l : Line) : dropReturn (l ++ ['\r']) = l := by
  simp [dropReturn]

/-- A line is what is left of it, with the carriage return that was dropped behind it if there was one. -/
theorem eq_dropReturn_or (l : Line) : l = dropReturn l ∨ l = dropReturn l ++ ['\r'] := by
  unfold dropReturn
  split
  · rename_i h
    obtain ⟨front, rfl⟩ := List.getLast?_eq_some_iff.mp h
    exact .inr (by rw [List.dropLast_concat])
  · exact .inl rfl

theorem mem_of_mem_dropReturn {l : Line} {c : Char} (h : c ∈ dropReturn l) : c ∈ l :=
  (dropReturn_isPrefix l).subset h

/-! ## Lines put together -/

/-- Lines with a line feed behind each. -/
def terminated (ls : List Line) : List Char := ls.flatMap (· ++ ['\n'])

theorem terminated_cons (l : Line) (ls : List Line) :
    terminated (l :: ls) = l ++ '\n' :: terminated ls := by
  simp [terminated]

theorem unlines_cons (l : Line) {ls : List Line} (h : ls ≠ []) :
    unlines (l :: ls) = l ++ '\n' :: unlines ls := by
  rw [unlines, List.intercalate_cons_of_ne_nil h, List.append_assoc]
  rfl

theorem unlines_append (xs : List Line) {ys : List Line} (h : ys ≠ []) :
    unlines (xs ++ ys) = terminated xs ++ unlines ys := by
  induction xs with
  | nil => rfl
  | cons l xs ih =>
      have hne : xs ++ ys ≠ [] := by simp [h]
      rw [List.cons_append, unlines_cons l hne, ih, terminated_cons, List.append_assoc, List.cons_append]

theorem terminated_eq_unlines {ls : List Line} (h : ls ≠ []) : terminated ls = unlines ls ++ ['\n'] := by
  induction ls with
  | nil => exact absurd rfl h
  | cons l ls ih =>
      by_cases hls : ls = []
      · rw [hls]
        simp [terminated, unlines]
      · rw [terminated_cons, ih hls, unlines_cons l hls, List.append_assoc, List.cons_append]

/-- Two texts of lines, one below the other. -/
theorem unlines_append_of_ne_nil {xs ys : List Line} (hx : xs ≠ []) (hy : ys ≠ []) :
    unlines (xs ++ ys) = unlines xs ++ '\n' :: unlines ys := by
  rw [unlines_append xs hy, terminated_eq_unlines hx, List.append_assoc, List.singleton_append]

theorem terminated_append (xs ys : List Line) : terminated (xs ++ ys) = terminated xs ++ terminated ys :=
  List.flatMap_append

/-- A line of a text stands behind the line feed of the one above; what follows it starts with a line feed,
if anything does. -/
theorem exists_unlines (xs : List Line) (l : Line) (ys : List Line) :
    ∃ behind, (behind = [] ∨ ∃ rest, behind = '\n' :: rest) ∧
      unlines (xs ++ l :: ys) = terminated xs ++ l ++ behind := by
  rw [unlines_append xs (List.cons_ne_nil l ys)]
  by_cases hys : ys = []
  · subst hys
    exact ⟨[], .inl rfl, by simp [unlines]⟩
  · exact ⟨'\n' :: unlines ys, .inr ⟨_, rfl⟩, by rw [unlines_cons l hys, List.append_assoc]⟩

end ScriptRunner.Text
