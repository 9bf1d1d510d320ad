import ScriptRunner.Proofs.Compilation.Commands
import ScriptRunner.Proofs.FileTree.Removal
import ScriptRunner.Proofs.Machine.Frame

/-! Compilations by what becomes of the compiler: it runs and leaves a script, it runs and leaves none, or
it does not run. -/

namespace ScriptRunner

/-- The tree after a program that ended has written. -/
def Machine.treeAfter (m : Machine) (r : ToolResult) : FileTree := (m.tree.writeAll m.cwd r.writes).1

/-- A compilation that comes to nothing leaves what was written, except at the output path of a
compiler that says itself that it has failed. -/
def Machine.leftovers (m : Machine) (output : Path) (r : ToolResult) : FileTree :=
  if r.code = 0 then m.treeAfter r
  else ((m.treeAfter r).discard m.cwd (.ofPath output)).toOption.getD (m.treeAfter r)

namespace Transpiler

open Machine

/-- The compiler is launched on a source, with a place for its output, and ends. -/
structure Runs (t : Transpiler) (source : Path) (m : Machine) (output : Path) (r : ToolResult) :
    Prop where
  output_eq : outputPath source = .ok output
  shown : m.console.status (t.progress source) = .ok ()
  ends : ∃ argv, t.argv source = .ok argv ∧ m.NextEnds argv r

variable {t : Transpiler} {source output : Path} {m : Machine} {r : ToolResult}

theorem frame_abandon (t : Transpiler) (output : Path) (r : ToolResult) (m : Machine) :
    Frame m (t.abandon output r m).2 := by
  unfold abandon
  split
  · exact .refl m
  · exact frame_tree m _

theorem frame_launch (t : Transpiler) (source : Path) (argv : List String) (m : Machine) :
    Frame m (t.launch source argv m).2 := by
  unfold launch
  split
  · exact .refl m
  · exact m.frame_launch argv

theorem frame_compile (t : Transpiler) (source : Path) (m : Machine) :
    Frame m (t.compile source m).2 := by
  unfold compile
  split
  · exact .refl m
  · exact .refl m
  · rename_i output argv _ _
    have hl := (m.frame_log ("Compiling " ++ source.toString ++ " with " ++
      " ".intercalate argv)).trans (t.frame_launch source argv _)
    dsimp only
    split
    · rename_i f m₁ he
      rwa [he] at hl
    · rename_i r m₁ he
      rw [he] at hl
      split
      · exact hl.trans (t.frame_abandon output r m₁)
      · split <;> exact hl

/-- A compiler that runs has written what it writes before anything is looked at. -/
theorem exists_compile_of_runs (h : t.Runs source m output r) :
    ∃ m₁, m₁.tree = m.treeAfter r ∧ m₁.cwd = m.cwd ∧ t.compile source m =
      if r.code ≠ 0 then t.abandon output r m₁
      else
        match m₁.tree.exists? m₁.cwd (.ofPath output) with
        | .ok true => (.ok output, m₁)
        | .ok false => (.error (.compilation (.noOutput t.name output)), m₁)
        | .error fault => (.error (.ofFault output.toString fault), m₁) := by
  obtain ⟨argv, hargv, hends⟩ := h.ends
  let mlog := m.log ("Compiling " ++ source.toString ++ " with " ++ " ".intercalate argv)
  obtain ⟨m₁, hl, ht⟩ := launch_of_nextEnds (m := mlog) ⟨hends.allowed, hends.written⟩
  have hframe := mlog.frame_launch argv
  rw [hl] at hframe
  have hlaunch : t.launch source argv mlog = (.ok r, m₁) := by
    rw [launch, show mlog.console.status (t.progress source) = .ok () from h.shown]
    exact hl
  refine ⟨m₁, ht, hframe.cwd_eq, ?_⟩
  generalize hc : t.compile source m = result
  unfold compile at hc
  simp only [h.output_eq, hargv, show m.log _ = mlog from rfl, hlaunch] at hc
  exact hc.symm

/-- The compiler has left something at its output path, and is content with it. -/
structure Produces (t : Transpiler) (source : Path) (m : Machine) (output : Path)
    (r : ToolResult) : Prop extends t.Runs source m output r where
  code_eq : r.code = 0
  exists_eq : (m.treeAfter r).exists? m.cwd (.ofPath output) = .ok true

theorem compile_of_produces (h : t.Produces source m output r) :
    ∃ m₁, t.compile source m = (.ok output, m₁) ∧ m₁.tree = m.treeAfter r := by
  obtain ⟨m₁, ht, hcwd, hc⟩ := exists_compile_of_runs h.toRuns
  refine ⟨m₁, ?_, ht⟩
  rw [hc, if_neg (by simp [h.code_eq]), ht, hcwd, h.exists_eq]

/-- A compiler that runs and leaves no script fails. -/
theorem compile_of_runs_of_not_produces (h : t.Runs source m output r)
    (hp : ¬ t.Produces source m output r) :
    ∃ f m₁, t.compile source m = (.error f, m₁) ∧
      m₁.tree = m.leftovers output r := by
  obtain ⟨m₁, ht, hcwd, hc⟩ := exists_compile_of_runs h
  unfold Machine.leftovers
  by_cases hcode : r.code = 0
  · rw [if_neg (by simp [hcode]), ht, hcwd] at hc
    rw [if_pos hcode]
    split at hc
    · rename_i he
      exact absurd ⟨h, hcode, he⟩ hp
    · exact ⟨_, m₁, hc, ht⟩
    · exact ⟨_, m₁, hc, ht⟩
  · rw [if_pos hcode] at hc
    rw [if_neg hcode, hc, ← ht, ← hcwd]
    unfold abandon
    cases m₁.tree.discard m₁.cwd (.ofPath output) with
    | error fault => exact ⟨_, _, rfl, rfl⟩
    | ok tree => exact ⟨_, _, rfl, rfl⟩

/-- Without a compiler that runs no file changes, unless a launch that fails writes something. -/
theorem compile_of_not_runs (h : ∀ output r, ¬ t.Runs source m output r) :
    ∃ f m₁, t.compile source m = (.error f, m₁) ∧ (m.Writable → m₁.tree = m.tree) := by
  unfold compile
  split
  · exact ⟨_, _, rfl, fun _ => rfl⟩
  · exact ⟨_, _, rfl, fun _ => rfl⟩
  · rename_i output argv houtput hargv
    let mlog := m.log ("Compiling " ++ source.toString ++ " with " ++ " ".intercalate argv)
    have hlaunch : ∃ f m₁, t.launch source argv mlog = (.error f, m₁) ∧
        (m.Writable → m₁.tree = m.tree) := by
      unfold launch
      cases hs : m.console.status (t.progress source) with
      | error f =>
          rw [show mlog.console.status (t.progress source) = .error f from hs]
          exact ⟨_, _, rfl, fun _ => rfl⟩
      | ok u =>
          have hnot : ∀ r, ¬ mlog.NextEnds argv r := fun r hr =>
            h output r ⟨houtput, hs, argv, hargv, hr.allowed, hr.written⟩
          obtain ⟨f, m₁, hl, ht⟩ := launch_of_not_nextEnds hnot
          rw [show mlog.console.status (t.progress source) = .ok () from hs]
          exact ⟨f, m₁, hl, fun hw => ht ⟨hw.ended, hw.refused⟩⟩
    obtain ⟨f, m₁, hl, ht⟩ := hlaunch
    dsimp only
    rw [hl]
    exact ⟨_, _, rfl, ht⟩

/-- A compilation that succeeds is one whose compiler produced the script. -/
theorem produces_of_compile {m₁ : Machine} (h : t.compile source m = (.ok output, m₁)) :
    ∃ r, t.Produces source m output r ∧ m₁.tree = m.treeAfter r := by
  by_cases hr : ∃ output r, t.Runs source m output r
  · obtain ⟨output', r, hr⟩ := hr
    by_cases hp : t.Produces source m output' r
    · obtain ⟨m₂, hc, ht⟩ := compile_of_produces hp
      rw [h] at hc
      obtain ⟨ho, rfl⟩ := Prod.mk.inj hc
      cases ho
      exact ⟨r, hp, ht⟩
    · obtain ⟨f, m₂, hc, -⟩ := compile_of_runs_of_not_produces hr hp
      rw [h] at hc
      cases hc
  · obtain ⟨f, m₂, hc, -⟩ := compile_of_not_runs (fun output r hrun => hr ⟨output, r, hrun⟩)
    rw [h] at hc
    cases hc

end Transpiler
end ScriptRunner
