import ScriptRunner.Proofs.Text.Split

/-! Lines of a text for those who take a carriage return for the end of a line too, with the line feed after
it or without. Each carriage return that no line feed follows makes one line more. -/

namespace ScriptRunner.Text

/-- The lines of a text if a line ends at a line feed, at a carriage return, or at both together. -/
def physicalLines (s : List Char) : List Line := lines (unifyNewlines s)

/-- How many carriage returns there are that no line feed follows. -/
def loneReturns : List Char → Nat
  | [] => 0
  | '\r' :: '\n' :: rest => loneReturns rest
  | '\r' :: rest => loneReturns rest + 1
  | _ :: rest => loneReturns rest

theorem unifyNewlines_cons_of_ne {c : Char} (h : c ≠ '\r') (s : List Char) :
    unifyNewlines (c :: s) = c :: unifyNewlines s :=
  unifyNewlines.eq_4 c s (fun _ hc _ => h hc) h

theorem unifyNewlines_append_of_notMem {start : List Char} (h : '\r' ∉ start) (s : List Char) :
    unifyNewlines (start ++ s) = start ++ unifyNewlines s := by
  induction start with
  | nil => rfl
  | cons c start ih =>
      have hc : c ≠ '\r' := fun e => h (by simp [e])
      rw [List.cons_append, unifyNewlines_cons_of_ne hc,
        ih (fun hs => h (List.mem_cons_of_mem _ hs)), List.cons_append]

theorem physicalLines_append {start : List Char} (hr : '\r' ∉ start) (hn : '\n' ∉ start)
    (s : List Char) : physicalLines (start ++ s) = (physicalLines s).modifyHead (start ++ ·) := by
  rw [physicalLines, unifyNewlines_append_of_notMem hr, lines_append_of_notMem hn, physicalLines]

/-- A line feed takes the carriage return before it along. -/
theorem unifyNewlines_append_newline (start s : List Char) :
    unifyNewlines (start ++ '\n' :: s) = unifyNewlines (dropReturn start) ++ '\n' :: unifyNewlines s := by
  fun_induction unifyNewlines start with
  | case1 => rfl
  | case2 rest ih =>
      rw [dropReturn_cons_of_ne_nil _ (List.cons_ne_nil _ _), dropReturn_cons (by decide), List.cons_append,
        List.cons_append, unifyNewlines, unifyNewlines, ih, List.cons_append]
  | case3 rest hrest ih =>
      cases rest with
      | nil => rfl
      | cons c rest =>
          have hc : c ≠ '\n' := fun he => hrest rest (by rw [he])
          have hkept : ∀ t, dropReturn (c :: rest) ≠ '\n' :: t := by
            intro t ht
            have hfront := dropReturn_isPrefix (c :: rest)
            rw [ht, List.cons_prefix_cons] at hfront
            exact hc hfront.1.symm
          rw [dropReturn_cons_of_ne_nil _ (List.cons_ne_nil _ _), List.cons_append,
            unifyNewlines.eq_3 _ (by simpa using fun t => hrest t), ih, unifyNewlines.eq_3 _ hkept,
            List.cons_append]
  | case4 c rest _ hr ih =>
      rw [List.cons_append, unifyNewlines_cons_of_ne hr, ih, dropReturn_cons hr, unifyNewlines_cons_of_ne hr,
        List.cons_append]

theorem physicalLines_append_newline (start s : List Char) :
    physicalLines (start ++ '\n' :: s) = physicalLines (dropReturn start) ++ physicalLines s := by
  rw [physicalLines, unifyNewlines_append_newline, lines_append_newline]
  rfl

theorem physicalLines_ne_nil (s : List Char) : physicalLines s ≠ [] := List.splitOn_ne_nil '\n' _

theorem count_unifyNewlines (s : List Char) :
    (unifyNewlines s).count '\n' = s.count '\n' + loneReturns s := by
  fun_induction loneReturns s with
  | case1 => rfl
  | case2 rest ih => simp [unifyNewlines, ih, Nat.add_right_comm]
  | case3 rest hrest ih => simp [unifyNewlines, ih, Nat.add_assoc]
  | case4 c rest hfirst hsecond ih =>
      rw [unifyNewlines_cons_of_ne hsecond, List.count_cons, List.count_cons, ih, Nat.add_right_comm]

theorem length_physicalLines (s : List Char) :
    (physicalLines s).length = (lines s).length + loneReturns s := by
  rw [physicalLines, length_lines, length_lines, count_unifyNewlines, Nat.add_right_comm]

end ScriptRunner.Text
