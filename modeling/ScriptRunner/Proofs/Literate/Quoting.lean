import ScriptRunner.Proofs.Literate.Blocks
import ScriptRunner.Proofs.Machine.Launches
import ScriptRunner.Proofs.Text.RawLiteral

/-! Shell blocks. Between their fences stand lines that become one raw literal, the argument of one call.
Main statement: the literal holds these lines as they are exactly if no three quotes stand among them where
a literal would end, and then one process is launched with them. -/

namespace ScriptRunner

namespace Text

theorem trimBy_cons {p : Char → Bool} {c : Char} (h : p c = true) (s : List Char) :
    trimBy p (c :: s) = trimBy p s := by
  rw [trimBy, List.dropWhile_cons_of_pos h, trimBy]

theorem trimBy_concat {p : Char → Bool} {c : Char} (h : p c = true) (s : List Char) :
    trimBy p (s ++ [c]) = trimBy p s := by
  rw [trimBy, trimBy, List.dropWhile_append]
  split
  · rename_i hs
    rw [List.dropWhile_cons_of_pos h, List.isEmpty_iff.mp hs]
    rfl
  · rw [trimEndBy, trimEndBy, List.reverse_append, List.reverse_singleton, List.singleton_append,
      List.dropWhile_cons_of_pos h]

end Text

namespace Literate

open Text Dialect

/-- What the literal of a shell block is to hold: the lines between the fences, each on a line of its
own. -/
def quotedBody (body : List Line) : List Char := '\n' :: terminated body

/-- A literal that is closed behind the body ends there, unless it ends in the body already. -/
theorem rawLiteral_quotedBody (body : List Line) (behind : List Char) :
    RawLiteral (quotedBody body ++ quotes ++ behind) (quotedBody body) behind ↔
      ¬ HasQuotes (unlines body) := by
  rw [← rawLiteral?_eq_none_iff, ← rawLiteral?_eq_some_iff]
  by_cases hb : body = []
  · subst hb
    exact ⟨fun _ => rfl, fun _ => rfl⟩
  · have htext : quotedBody body ++ quotes ++ behind =
        [] ++ '\n' :: (unlines body ++ '\n' :: (quotes ++ behind)) := by
      simp [quotedBody, terminated_eq_unlines hb]
    rw [htext, rawLiteral?_line_feed [], rawLiteral?_line_feed (unlines body), rawLiteral?_quotes]
    cases h : rawLiteral? (unlines body) with
    | none => simp [rawLiteral?, quotedBody, terminated_eq_unlines hb]
    | some l =>
        obtain ⟨value, after⟩ := l
        -- The literal that ends in the body is shorter than the body.
        have hlen := congrArg List.length (readWhole_of_rawLiteral? h).2
        have hne : value ≠ terminated body := by
          rintro rfl
          rw [terminated_eq_unlines hb] at hlen
          simp at hlen
        simp [rawLiteral?, quotedBody, hne]

/-- The command that a shell runs is the body without the line feeds around it. -/
theorem clean_quotedBody (body : List Line) :
    Shell.clean (String.ofList (quotedBody body)) =
      String.ofList (trimBy (· = '\n') (unlines body)) := by
  rw [Shell.clean, String.toList_ofList, quotedBody, trimBy_cons (by decide)]
  by_cases hb : body = []
  · rw [hb]
    rfl
  · rw [terminated_eq_unlines hb, trimBy_concat (by decide)]

namespace Dialect

variable {d : Dialect}

/-- A shell block is framed, and leaves prose as it was. -/
theorem advanceAll_shell {c : Cursor} (hc : c.mode = .prose) {tag : Line} {body : List Line}
    (htag : d.fenceMode? (fence ++ tag) = some FenceKind.shell.mode) (h : fence ∉ body) :
    d.advanceAll c ((fence ++ tag) :: body ++ [fence]) =
      (c, d.shellOpen :: body ++ [d.shellClose]) := by
  obtain ⟨_, flag⟩ := c
  subst hc
  have hrun : ¬ (flag && startsRun (fence ++ tag)) = true := by simp [startsRun, fence]
  have hopen := d.advance_prose_fence flag hrun htag
  have hbody : d.advanceAll ⟨.fencedShell, flag⟩ body = (⟨.fencedShell, flag⟩, body.map id) :=
    d.advanceAll_of_stays fun line hline =>
      d.advance_fenced_of_ne flag .shell fun e => h (e ▸ hline)
  have hclose := d.advance_fenced_fence flag .shell
  rw [List.cons_append, advanceAll_cons, hopen, advanceAll_append]
  simp only [FenceKind.mode] at hclose ⊢
  rw [hbody, advanceAll_cons, hclose, List.map_id]
  rfl

end Dialect

/-- The body of a shell block is the raw literal of one call, whatever stands around the block. The literal
ends at the line that closes the block exactly if no three quotes stand in the body that are not skipped;
and a shell that is called with it launches one process, with the body without the line feeds around it. -/
theorem shell_block_delivered {source : List Char} {document body after : List Line} {tag : Line}
    (hsource : documentLines source = document ++ ((fence ++ tag) :: body ++ [fence]) ++ after)
    (htag : tag = "sh".toList ∨ tag = "bash".toList) (hfence : fence ∉ body)
    (hprose : (python.advanceAll {} document).1.mode = .prose) :
    ∃ behind, (behind = [] ∨ ∃ rest, behind = '\n' :: rest) ∧
      extract python source = terminated (python.advanceAll {} document).2 ++ "sh(r".toList ++ quotes ++
        (quotedBody body ++ quotes ++ (')' :: behind)) ∧
      (RawLiteral (quotedBody body ++ quotes ++ (')' :: behind)) (quotedBody body) (')' :: behind) ↔
        ¬ HasQuotes (unlines body)) ∧
      ∀ (s : Shell) (m : Machine),
        (s.run (String.ofList (quotedBody body)) m).2.launches = m.launches ++
          [[s.binary, "-c", s.commandPrefix ++ String.ofList (trimBy (· = '\n') (unlines body))]] := by
  have hshell : python.fenceMode? (fence ++ tag) = some FenceKind.shell.mode := by
    rcases htag with rfl | rfl <;> decide
  have hblock := advanceAll_shell hprose hshell hfence
  have hemitted : (python.advanceAll {} (documentLines source)).2 =
      ((python.advanceAll {} document).2 ++ (python.shellOpen :: body)) ++
        python.shellClose :: (python.advanceAll (python.advanceAll {} document).1 after).2 := by
    rw [hsource, advanceAll_append, advanceAll_append, hblock]
    simp
  obtain ⟨behind, hbehind, htext⟩ := exists_unlines
    ((python.advanceAll {} document).2 ++ (python.shellOpen :: body)) python.shellClose
    (python.advanceAll (python.advanceAll {} document).1 after).2
  refine ⟨behind, hbehind, ?_, rawLiteral_quotedBody body _, fun s m => ?_⟩
  · have hscript : extract python source = unlines (python.advanceAll {} (documentLines source)).2 := rfl
    have hopen : python.shellOpen = "sh(r".toList ++ quotes := rfl
    have hclose : python.shellClose = quotes ++ [')'] := rfl
    rw [hscript, hemitted, htext, terminated_append, terminated_cons, hopen, hclose]
    simp [quotedBody]
  · rw [Shell.launches_run, clean_quotedBody]
    rfl

/-- A backslash at the end of a line, a quote that is skipped with two behind it, and empty lines around. -/
def hardBody : List Line := [[], "echo \"\" \\".toList, "\\\"\"\"x".toList, []]

theorem shell_block_delivered_hard :
    ∃ behind, extract python "Intro\n```sh\n\necho \"\" \\\n\\\"\"\"x\n\n```\nend".toList =
        "# Intro\nsh(r\"\"\"".toList ++ (quotedBody hardBody ++ quotes ++ (')' :: behind)) ∧
      RawLiteral (quotedBody hardBody ++ quotes ++ (')' :: behind)) (quotedBody hardBody)
        (')' :: behind) ∧
      (Shell.run {} (String.ofList (quotedBody hardBody)) { pending := [.ended {}] }).2.launches =
        [["/bin/bash", "-c", "echo \"\" \\\n\\\"\"\"x"]] := by
  have hsource : documentLines "Intro\n```sh\n\necho \"\" \\\n\\\"\"\"x\n\n```\nend".toList =
      ["Intro".toList] ++ ((fence ++ "sh".toList) :: hardBody ++ [fence]) ++ ["end".toList] := by
    decide
  obtain ⟨behind, -, hscript, hliteral, hshell⟩ :=
    shell_block_delivered hsource (.inl rfl) (by decide) (by decide)
  have hquotes : ¬ HasQuotes (unlines hardBody) := rawLiteral?_eq_none_iff.mp (by decide)
  exact ⟨behind, hscript, hliteral.mpr hquotes, hshell {} { pending := [.ended {}] }⟩

end Literate
end ScriptRunner
