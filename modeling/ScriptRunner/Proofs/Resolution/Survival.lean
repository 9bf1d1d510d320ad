import ScriptRunner.Proofs.Resolution.Cleanup

/-! Files from before a resolution, and whether they are there after it. A compiler that wrote nothing does
not keep the file that stands at its output path from being removed. -/

namespace ScriptRunner.Resolver

open Machine

variable {r : Resolver} {s : Source} {m : Machine} {l : Location} {data : Bytes}

theorem get?_without_of_ne {t : FileTree} {cwd : Location} {p : Path}
    (h : t.locate cwd .entry (.ofPath p) ≠ .ok l) (hfile : t.get? l = some (.file data))
    (hd : t.entryAt cwd p ≠ some .directory) : (t.without cwd p).get? l = some (.file data) := by
  cases hp : t.locate cwd .entry (.ofPath p) with
  | error fault => simpa [FileTree.without, hp] using hfile
  | ok place =>
      rw [FileTree.entryAt_of_locate hp] at hd
      have hne : l ≠ place := fun he => h (by rw [hp, he])
      rw [FileTree.without_of_locate hp, FileTree.get?_erase t (FileTree.ne_nil_of_get? hd),
        if_neg hne, hfile]

/-- A file that is not written to is lost to a compilation exactly if it stands at the output path. -/
theorem get?_resolve_of_toolRuns {output : Path} {tool : ToolResult}
    (hr : r.registry.lookup scriptExtension = none) (hplain : r.RunsNoCommands)
    (htool : r.ToolRuns s m output tool)
    (hfile : (m.treeAfter tool).get? l = some (.file data)) :
    (r.resolve s m).2.tree.get? l = some (.file data) ↔
      (m.treeAfter tool).locate m.cwd .entry (.ofPath output) ≠ .ok l := by
  rcases tree_resolve_of_toolRuns hr hplain htool with ⟨hd, htree⟩ | ⟨hstays, htree⟩
  · rw [htree]
    refine ⟨fun hkept hl => ?_, fun hl => get?_without_of_ne hl hfile hd⟩
    have hne := FileTree.ne_nil_of_get? (t := m.treeAfter tool) (l := l) (by simp [hfile])
    rw [FileTree.without_of_locate hl, FileTree.get?_erase _ hne, if_pos rfl] at hkept
    cases hkept
  · rw [htree]
    refine ⟨fun _ hl => ?_, fun _ => hfile⟩
    rw [FileTree.entryAt_of_locate hl, hfile] at hstays
    simp at hstays

theorem get?_resolve_of_idle (hr : r.registry.lookup scriptExtension = none)
    (hplain : r.RunsNoCommands) (hw : m.Writable)
    (hidle : ∀ output tool, ¬ r.ToolRuns s m output tool)
    (hfile : m.tree.get? l = some (.file data))
    (hloader : ∀ call, (r.resolve s m).2.calls = m.calls ++ [call] →
      (r.loader call).removesItself = true →
      m.tree.locate m.cwd .entry (.ofPath call.path) ≠ .ok l) :
    (r.resolve s m).2.tree.get? l = some (.file data) := by
  rcases tree_resolve_of_idle hr hplain hw hidle with htree | h
  · rw [htree, hfile]
  · obtain ⟨call, hcalls, hpath, hself⟩ := h.loaded
    obtain ⟨content, hread⟩ := h.readable
    have hl := hloader call hcalls hself
    rw [hpath] at hl
    rw [h.tree_eq]
    exact get?_without_of_ne hl hfile (FileTree.entryAt_ne_directory_of_read hread)

/-- A file that was there, and that neither a compiler has written nor the loader has removed, survives
exactly if it does not stand where a compiler that ran was to put its output. -/
theorem file_survives_iff (hr : r.registry.lookup scriptExtension = none)
    (hplain : r.RunsNoCommands) (s : Source) (hw : m.Writable)
    (hfile : m.tree.get? l = some (.file data))
    (hkept : ∀ output tool, r.ToolRuns s m output tool →
      (m.treeAfter tool).get? l = some (.file data))
    (hloader : ∀ call, (r.resolve s m).2.calls = m.calls ++ [call] →
      (r.loader call).removesItself = true →
      m.tree.locate m.cwd .entry (.ofPath call.path) ≠ .ok l) :
    (r.resolve s m).2.tree.get? l = some (.file data) ↔
      ¬ ∃ output tool, r.ToolRuns s m output tool ∧
        (m.treeAfter tool).locate m.cwd .entry (.ofPath output) = .ok l := by
  by_cases hruns : ∃ output tool, r.ToolRuns s m output tool
  · obtain ⟨output, tool, htool⟩ := hruns
    rw [get?_resolve_of_toolRuns hr hplain htool (hkept output tool htool)]
    constructor
    · rintro hl ⟨output', tool', htool', hl'⟩
      obtain ⟨rfl, rfl⟩ := htool.unique htool'
      exact hl hl'
    · exact fun h hl => h ⟨output, tool, htool, hl⟩
  · have hidle : ∀ output tool, ¬ r.ToolRuns s m output tool :=
      fun output tool htool => hruns ⟨output, tool, htool⟩
    refine ⟨fun _ h => ?_, fun _ => get?_resolve_of_idle hr hplain hw hidle hfile hloader⟩
    obtain ⟨output, tool, htool, -⟩ := h
    exact hidle output tool htool

section HandWritten

/-- A compiler that fails before it writes anything. -/
def failing : ToolResult where
  code := 1
  stderr := "boom"

/-- A script that was written by hand beside a source of the same stem. -/
def handWritten : Machine where
  tree := ⟨[(["app.hy"], .file [40]), (["app.py"], .file [49])]⟩
  pending := [.ended failing]

def app : Source := .ofPath ⟨.none, ["app.hy"]⟩

theorem toolRuns_app : standard.ToolRuns app handWritten ⟨.none, ["app.py"]⟩ failing :=
  ⟨.hy, classify_hy (by decide), rfl, rfl, _, Transpiler.argv_hy rfl, rfl, _, rfl, rfl⟩

theorem locate_app : (handWritten.treeAfter failing).locate handWritten.cwd .entry
    (.ofPath ⟨.none, ["app.py"]⟩) = .ok ["app.py"] :=
  FileTree.locate_eq_ok_iff.mpr ⟨by decide, by cbv⟩

theorem app_survives :
    (standard.resolve app handWritten).2.tree.get? ["app.hy"] = some (.file [40]) := by
  have hw : handWritten.Writable :=
    ⟨fun tool rest h => by cases h; rfl, fun f writes rest h => by cases h⟩
  refine (file_survives_iff rfl (fun _ => rfl) app hw rfl (fun output tool htool => ?_)
    fun call _ hself => ?_).mpr ?_
  · obtain ⟨rfl, rfl⟩ := toolRuns_app.unique htool
    rfl
  · cases hself
  · rintro ⟨output, tool, htool, hl⟩
    obtain ⟨rfl, rfl⟩ := toolRuns_app.unique htool
    exact absurd (Except.ok.inj (locate_app.symm.trans hl)) (by decide)

/-- Nobody has removed the script, but it is gone. -/
theorem hand_written_script_lost :
    standard.registry.lookup scriptExtension = none ∧ (∀ call, standard.loader call = {}) ∧
      handWritten.pending = [.ended failing] ∧ failing.writes = [] ∧
      handWritten.tree.get? ["app.py"] = some (.file [49]) ∧
      (standard.resolve app handWritten).2.tree.get? ["app.py"] = none := by
  refine ⟨rfl, fun _ => rfl, rfl, rfl, rfl, ?_⟩
  have hentry : (handWritten.treeAfter failing).entryAt handWritten.cwd ⟨.none, ["app.py"]⟩ =
      some (.file [49]) :=
    FileTree.entryAt_of_locate locate_app
  rcases tree_resolve_of_toolRuns rfl (fun _ => rfl) toolRuns_app with
    ⟨-, htree⟩ | ⟨he | ⟨target, he⟩, -⟩
  · rw [htree, FileTree.without_of_locate locate_app]
    rfl
  · cases hentry.symm.trans he
  · cases hentry.symm.trans he

end HandWritten

end ScriptRunner.Resolver
