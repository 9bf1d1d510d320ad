import Mathlib
import ScriptRunner.Proofs.Resolution.Loading
import ScriptRunner.Proofs.Resolution.Preparation

/-! What a resolution leaves behind: the files from before if no compiler ran, and else those that the
compiler left, without its output. -/

namespace ScriptRunner.Resolver

open Machine

variable {r : Resolver} {s : Source} {m m₁ : Machine}

/-- A script that was there before is run on the files from before. -/
theorem RemovedItself.of_frame {path : Path} {m' : Machine} (h : r.RemovedItself path m₁ m')
    (hframe : Frame m m₁) (htree : m₁.tree = m.tree) : r.RemovedItself path m m' where
  readable := htree ▸ hframe.cwd_eq ▸ h.readable
  tree_eq := by rw [h.tree_eq, htree, hframe.cwd_eq]
  loaded := hframe.calls_eq ▸ h.loaded

/-- Without a compiler the files are what they were, unless a script removes itself. -/
theorem tree_resolve_of_idle (hr : r.registry.lookup scriptExtension = none)
    (hplain : r.RunsNoCommands) (hw : m.Writable)
    (hidle : ∀ output tool, ¬ r.ToolRuns s m output tool) :
    (r.resolve s m).2.tree = m.tree ∨ r.RemovedItself s.label m (r.resolve s m).2 := by
  have hp := r.preparation_prepare s m
  generalize hprepare : r.prepare s m = prepared at hp
  cases hp with
  | refused _ _ htree =>
      rw [resolve_of_prepare_error hr hprepare]
      exact .inl (htree hw)
  | script _ _ hframe htree =>
      rw [resolve_of_prepare hr hprepare, runArtifact_of_not_held r _ _ rfl]
      rcases r.tree_execute hplain (.ofPath s.label s.origin) _ with h | h
      · exact .inl (h.trans htree)
      · exact .inr (h.of_frame hframe htree)
  | written _ _ hcreated _ =>
      rw [resolve_of_prepare hr hprepare]
      have hfile := hcreated.get?_eq
      have hrun := runArtifact_of_held hplain s.origin hcreated.held hcreated.locate (by simp [hfile])
      exact .inl (hrun.2.trans hcreated.without_eq)
  | compiled hstep htool _ _ => exact absurd ⟨_, hstep, htool.toRuns⟩ (hidle _ _)
  | uncompiled htool _ _ _ => exact absurd htool (hidle _ _)

theorem tree_leftovers {output : Path} {tool : ToolResult}
    (hnone : tool.code = 0 → (m.treeAfter tool).exists? m.cwd (.ofPath output) ≠ .ok true) :
    ((m.treeAfter tool).entryAt m.cwd output ≠ some .directory ∧
      m.leftovers output tool = (m.treeAfter tool).without m.cwd output) ∨
    (((m.treeAfter tool).entryAt m.cwd output = some .directory ∨
        ∃ target, (m.treeAfter tool).entryAt m.cwd output = some (.link target)) ∧
      m.leftovers output tool = m.treeAfter tool) := by
  unfold Machine.leftovers
  split
  · rename_i hcode
    cases he : (m.treeAfter tool).entryAt m.cwd output with
    | none => exact .inl ⟨by simp, (FileTree.without_of_entryAt_eq_none he).symm⟩
    | some e =>
        cases e with
        | link target => exact .inr ⟨.inr ⟨target, rfl⟩, rfl⟩
        | directory => exact .inr ⟨.inl rfl, rfl⟩
        | file data => exact absurd (FileTree.exists_of_entryAt he (by simp)) (hnone hcode)
  · by_cases hd : (m.treeAfter tool).entryAt m.cwd output = some .directory
    · refine .inr ⟨.inl hd, ?_⟩
      rw [FileTree.discard_of_directory hd]
      rfl
    · exact .inl ⟨hd, FileTree.discard_getD hd⟩

/-- What a compiler left is there afterwards, but not its output; only a directory stays in that place,
or a link that leads nowhere. -/
theorem tree_resolve_of_toolRuns {output : Path} {tool : ToolResult}
    (hr : r.registry.lookup scriptExtension = none) (hplain : r.RunsNoCommands)
    (htool : r.ToolRuns s m output tool) :
    ((m.treeAfter tool).entryAt m.cwd output ≠ some .directory ∧
      (r.resolve s m).2.tree = (m.treeAfter tool).without m.cwd output) ∨
    (((m.treeAfter tool).entryAt m.cwd output = some .directory ∨
        ∃ target, (m.treeAfter tool).entryAt m.cwd output = some (.link target)) ∧
      (r.resolve s m).2.tree = m.treeAfter tool) := by
  have hp := r.preparation_prepare s m
  generalize hprepare : r.prepare s m = prepared at hp
  cases hp with
  | refused hidle _ _ => exact absurd htool (hidle _ _)
  | written _ hidle _ _ => exact absurd htool (hidle _ _)
  | script _ hstep _ _ =>
      obtain ⟨t, hstep', -⟩ := htool
      cases hstep.symm.trans hstep'
  | compiled hstep hproduces hframe htree =>
      obtain ⟨rfl, rfl⟩ := ToolRuns.unique htool ⟨_, hstep, hproduces.toRuns⟩
      obtain ⟨l, hl⟩ := FileTree.exists_locate_of_exists hproduces.exists_eq
      rw [resolve_of_prepare hr hprepare]
      by_cases hd : (m.treeAfter tool).entryAt m.cwd output = some .directory
      · rw [← htree, ← hframe.cwd_eq] at hd ⊢
        exact .inr ⟨.inl hd, tree_runArtifact_of_directory hplain s.origin hd⟩
      · refine .inl ⟨hd, ?_⟩
        rw [FileTree.entryAt_of_locate hl] at hd
        rw [← htree] at hd
        rw [← htree, ← hframe.cwd_eq] at hl ⊢
        exact (runArtifact_of_held hplain s.origin rfl hl hd).2
  | uncompiled htool' hnone _ htree =>
      obtain ⟨rfl, rfl⟩ := htool.unique htool'
      rw [resolve_of_prepare_error hr hprepare, htree]
      exact tree_leftovers hnone

section Standard

/-- The standard compilers, and scripts that do nothing. -/
def standard : Resolver where
  names := .lettered ⟨[], 'a', ['b'], by decide⟩
  loader _ := {}

theorem classify_standard {p : Path} {t : Transpiler} (h : (p.suffix, t) ∈ Registry.standard) :
    classify standard.registry (.ofPath p) = .ok (.normalize (.transpiled t)) := by
  simp only [Registry.standard, List.mem_cons, Prod.mk.injEq, List.not_mem_nil, or_false] at h
  have hlower : Text.lower p.suffix = p.suffix := by
    rcases h with ⟨h, -⟩ | ⟨h, -⟩ <;> rw [h] <;> decide
  have hext : (Source.ofPath p).extension = p.suffix := by simp [Source.extension, Source.ofPath, hlower]
  simp only [classify, hext]
  rcases h with ⟨h, rfl⟩ | ⟨h, rfl⟩ <;> rw [h] <;> rfl

theorem classify_hy {p : Path} (h : p.suffix = ".hy") :
    classify standard.registry (.ofPath p) = .ok (.normalize (.transpiled .hy)) :=
  classify_standard (by simp [h, Registry.standard])

/-- A compiler that writes the script `a.py`. -/
def writing : ToolResult where
  writes := [.file ⟨.none, ["a.py"]⟩ [49]]

def uncompiled : Machine where
  tree := ⟨[(["a.hy"], .file [49])]⟩
  pending := [.ended writing]

theorem writeAll_uncompiled : uncompiled.tree.writeAll uncompiled.cwd writing.writes =
    (⟨[(["a.py"], .file [49]), (["a.hy"], .file [49])]⟩, none) := by
  cbv

theorem toolRuns_uncompiled :
    standard.ToolRuns (.ofPath ⟨.none, ["a.hy"]⟩) uncompiled ⟨.none, ["a.py"]⟩ writing :=
  ⟨.hy, classify_hy (by decide), rfl, rfl, _, Transpiler.argv_hy rfl, rfl, _, rfl,
    congrArg Prod.snd writeAll_uncompiled⟩

end Standard

end ScriptRunner.Resolver
