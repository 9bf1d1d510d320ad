import ScriptRunner.Proofs.Resolution.Pipeline

/-! Loading: the loader is called once, with what can be read at the path of the script, and of the files
at most the script itself is gone afterwards. -/

namespace ScriptRunner.Resolver

open Machine

/-- Scripts do nothing to the files but remove themselves: they run no commands. -/
def RunsNoCommands (r : Resolver) : Prop := ∀ call, (r.loader call).commands = []

/-- Scripts do nothing to the files at all. -/
def OnlyReads (r : Resolver) : Prop :=
  ∀ call, (r.loader call).removesItself = false ∧ (r.loader call).commands = []

/-- The tree when the loader is done with a call and the script has run no commands. -/
def treeAfterLoad (r : Resolver) (call : Call) (m : Machine) : FileTree :=
  if call.content.isSome ∧ (r.loader call).removesItself = true then m.tree.without m.cwd call.path
  else m.tree

/-- What the loader itself returns or raises, if the script has run no commands. -/
def outcomeOfLoad (r : Resolver) (call : Call) (m : Machine) : Except Failure Value :=
  match m.tree.read m.cwd (.ofPath call.path) with
  | .error fault => .error (.ofFault call.path.toString fault)
  | .ok _ => (r.loader call).outcome

variable {r : Resolver} {path filename : Path} {m : Machine}

theorem load_of_unreadable {fault : FileFault} (h : m.tree.read m.cwd (.ofPath path) = .error fault) :
    r.load path filename m =
      (.error (.ofFault path.toString fault), m.record (.loaded (r.callOf path filename m))) := by
  have hrecorded : (m.record (.loaded (r.callOf path filename m))).tree.read
      (m.record (.loaded (r.callOf path filename m))).cwd
      (.ofPath (r.callOf path filename m).path) = .error fault := h
  rw [load, loadWith, behave, hrecorded]
  rfl

/-- A call of the loader is recorded before the script does anything. -/
theorem load_of_read {data : Bytes} (h : m.tree.read m.cwd (.ofPath path) = .ok data) :
    r.load path filename m =
      match r.shell.runAll (r.loader (r.callOf path filename m)).commands
        { m.record (.loaded (r.callOf path filename m)) with
          tree := r.treeAfterLoad (r.callOf path filename m) m } with
      | (.error e, m₁) => (.error e, m₁)
      | (.ok (), m₁) => ((r.loader (r.callOf path filename m)).outcome, m₁) := by
  have hrecorded : (m.record (.loaded (r.callOf path filename m))).tree.read
      (m.record (.loaded (r.callOf path filename m))).cwd
      (.ofPath (r.callOf path filename m).path) = .ok data := h
  have hunlink : (m.record (.loaded (r.callOf path filename m))).tree.unlink
      (m.record (.loaded (r.callOf path filename m))).cwd
      (.ofPath (r.callOf path filename m).path) = .ok (m.tree.without m.cwd path) :=
    FileTree.unlink_of_read h
  have htree : r.treeAfterLoad (r.callOf path filename m) m =
      if (r.loader (r.callOf path filename m)).removesItself then m.tree.without m.cwd path
      else m.tree := by
    simp [treeAfterLoad, callOf, h, Except.toOption]
  rw [load, loadWith, behave, hrecorded, hunlink, htree]
  rfl

/-- The loader is called once, whatever the script does. -/
theorem load_frame (r : Resolver) (path filename : Path) (m : Machine) :
    Frame (m.record (.loaded (r.callOf path filename m))) (r.load path filename m).2 := by
  cases h : m.tree.read m.cwd (.ofPath path) with
  | error fault =>
      rw [load_of_unreadable h]
      exact .refl _
  | ok data =>
      have hrun := (frame_tree (m.record (.loaded (r.callOf path filename m)))
        (r.treeAfterLoad (r.callOf path filename m) m)).trans (r.shell.frame_runAll
          (r.loader (r.callOf path filename m)).commands _)
      rw [load_of_read h]
      split <;> simp_all

theorem calls_load (r : Resolver) (path filename : Path) (m : Machine) :
    (r.load path filename m).2.calls = m.calls ++ [r.callOf path filename m] := by
  rw [(r.load_frame path filename m).calls_eq, calls_record_loaded]

theorem load_of_commands_eq_nil (h : (r.loader (r.callOf path filename m)).commands = []) :
    (r.load path filename m).1 = r.outcomeOfLoad (r.callOf path filename m) m ∧
      (r.load path filename m).2.tree = r.treeAfterLoad (r.callOf path filename m) m := by
  cases hread : m.tree.read m.cwd (.ofPath path) with
  | error fault =>
      rw [load_of_unreadable hread]
      simp [outcomeOfLoad, treeAfterLoad, callOf, hread, Except.toOption, record]
  | ok data =>
      rw [load_of_read hread, h]
      simp [Shell.runAll, outcomeOfLoad, callOf, hread]

/-! ## Running a script as the file that it appears as -/

variable {s : Source}

theorem executeWith_of_realPath {loader : Loader}
    (h : m.tree.realPath (.ofLocation m.cwd) s.origin = .ok filename) :
    r.executeWith loader s m = r.loadWith loader s.label filename m := by
  rw [executeWith, h]

theorem executeWith_of_realPath_error {loader : Loader} {e : FileTree.RealPathError}
    (h : m.tree.realPath (.ofLocation m.cwd) s.origin = .error e) :
    r.executeWith loader s m = (.error (.ofRealPath e), m) := by
  rw [executeWith, h]

theorem execute_of_realPath (h : m.tree.realPath (.ofLocation m.cwd) s.origin = .ok filename) :
    r.execute s m = r.load s.label filename m := executeWith_of_realPath h

theorem execute_of_realPath_error {e : FileTree.RealPathError}
    (h : m.tree.realPath (.ofLocation m.cwd) s.origin = .error e) :
    r.execute s m = (.error (.ofRealPath e), m) := executeWith_of_realPath_error h

/-- The script was loaded and has removed itself. -/
structure RemovedItself (r : Resolver) (path : Path) (m m' : Machine) : Prop where
  readable : ∃ data, m.tree.read m.cwd (.ofPath path) = .ok data
  tree_eq : m'.tree = m.tree.without m.cwd path
  loaded : ∃ call, m'.calls = m.calls ++ [call] ∧ call.path = path ∧
    (r.loader call).removesItself = true

/-- Between the start of a script and its end nothing happens to the files, unless it removes
itself. -/
theorem tree_execute (hr : r.RunsNoCommands) (s : Source) (m : Machine) :
    (r.execute s m).2.tree = m.tree ∨ r.RemovedItself s.label m (r.execute s m).2 := by
  cases hp : m.tree.realPath (.ofLocation m.cwd) s.origin with
  | error e => exact .inl (by rw [execute_of_realPath_error hp])
  | ok filename =>
      rw [execute_of_realPath hp, (load_of_commands_eq_nil (hr _)).2, treeAfterLoad]
      split
      · rename_i hs
        obtain ⟨hread, hself⟩ := hs
        refine .inr ⟨?_, ?_, _, r.calls_load _ _ _, rfl, hself⟩
        · cases hd : m.tree.read m.cwd (.ofPath s.label) with
          | error fault => simp [callOf, hd, Except.toOption] at hread
          | ok data => exact ⟨data, rfl⟩
        · rw [(load_of_commands_eq_nil (hr _)).2, treeAfterLoad, if_pos ⟨hread, hself⟩]
          rfl
      · exact .inl rfl

theorem execute_frame (r : Resolver) (s : Source) (m : Machine) :
    (r.execute s m).2.cwd = m.cwd ∧ (r.execute s m).2.issued = m.issued := by
  cases hp : m.tree.realPath (.ofLocation m.cwd) s.origin with
  | error e => simp [execute_of_realPath_error hp]
  | ok filename =>
      have hload := r.load_frame s.label filename m
      rw [execute_of_realPath hp]
      exact ⟨hload.cwd_eq, hload.issued_eq⟩

/-- A script that only reads changes no file. The loader is handed what can be read at its path. -/
theorem execute_of_onlyReads (hr : r.OnlyReads) (s : Source) (m : Machine) :
    (r.execute s m).2.tree = m.tree ∧ (r.execute s m).2.cwd = m.cwd ∧
      ∃ calls, (r.execute s m).2.calls = m.calls ++ calls ∧
        (∀ call ∈ calls, call.content = (m.tree.read m.cwd (.ofPath s.label)).toOption) ∧
        ∀ filename, m.tree.realPath (.ofLocation m.cwd) s.origin = .ok filename → calls ≠ [] := by
  refine ⟨?_, (r.execute_frame s m).1, ?_⟩
  · rcases r.tree_execute (fun call => (hr call).2) s m with htree | hself
    · exact htree
    · obtain ⟨call, -, -, hremoves⟩ := hself.loaded
      exact absurd hremoves (by simp [(hr call).1])
  · cases hp : m.tree.realPath (.ofLocation m.cwd) s.origin with
    | error e => exact ⟨[], by simp [execute_of_realPath_error hp], by simp, by simp⟩
    | ok filename =>
        rw [execute_of_realPath hp]
        exact ⟨_, r.calls_load s.label filename m, by simp [callOf], by simp⟩

/-! ## Leaving a script that was run -/

theorem leave_of_not_held {α : Type} {a : Artifact} (outcome : Except Failure α) (ha : a.held = false) :
    a.leave outcome m = (outcome, m) := by
  simp [Artifact.leave, ha]

theorem frame_leave {α : Type} (a : Artifact) (outcome : Except Failure α) (m : Machine) :
    Frame m (a.leave outcome m).2 := by
  unfold Artifact.leave
  split
  · split
    · exact .refl m
    · exact (frame_tree m _).trans (frame_log _ _)
  · exact .refl m

theorem leave_of_discard {α : Type} {a : Artifact} {t : FileTree} (outcome : Except Failure α)
    (ha : a.held = true) (h : m.tree.discard m.cwd (.ofPath a.path) = .ok t) :
    (a.leave outcome m).1 = outcome ∧ (a.leave outcome m).2.tree = t := by
  unfold Artifact.leave
  rw [if_pos ha, h]
  exact ⟨rfl, rfl⟩

theorem leave_of_discard_error {α : Type} {a : Artifact} {fault : FileFault}
    (outcome : Except Failure α) (h : m.tree.discard m.cwd (.ofPath a.path) = .error fault) :
    (a.leave outcome m).2 = m := by
  unfold Artifact.leave
  split
  · rw [h]
  · rfl

section Run

variable {a : Artifact}

theorem frame_runArtifact_execute (r : Resolver) (a : Artifact) (origin : Path) (m : Machine) :
    Frame (r.execute (.ofPath a.path origin) m).2 (r.runArtifact a origin m).2 :=
  frame_leave a _ _

theorem discard_execute (hr : r.RunsNoCommands) (origin : Path) {l : Location}
    (hl : m.tree.locate m.cwd .entry (.ofPath a.path) = .ok l)
    (hd : m.tree.get? l ≠ some .directory) :
    (r.execute (.ofPath a.path origin) m).2.tree.discard
        (r.execute (.ofPath a.path origin) m).2.cwd (.ofPath a.path) =
      .ok (m.tree.without m.cwd a.path) := by
  rw [(r.execute_frame _ m).1]
  rcases r.tree_execute hr (.ofPath a.path origin) m with ht | ht
  · rw [ht, FileTree.discard_of_locate hl hd, FileTree.without_of_locate hl]
  · obtain ⟨data, hread⟩ := ht.readable
    rw [ht.tree_eq]
    exact FileTree.discard_without_of_read hread

/-- What was made for the run is gone afterwards, and the outcome of the run is passed on. -/
theorem runArtifact_of_held (hr : r.RunsNoCommands) (origin : Path) (ha : a.held = true)
    {l : Location} (hl : m.tree.locate m.cwd .entry (.ofPath a.path) = .ok l)
    (hd : m.tree.get? l ≠ some .directory) :
    (r.runArtifact a origin m).1 = (r.execute (.ofPath a.path origin) m).1 ∧
      (r.runArtifact a origin m).2.tree = m.tree.without m.cwd a.path :=
  leave_of_discard _ ha (discard_execute hr origin hl hd)

/-- A directory in place of a script cannot be run, and stays. -/
theorem tree_runArtifact_of_directory (hr : r.RunsNoCommands) (origin : Path)
    (hd : m.tree.entryAt m.cwd a.path = some .directory) :
    (r.runArtifact a origin m).2.tree = m.tree := by
  have ht : (r.execute (.ofPath a.path origin) m).2.tree = m.tree := by
    rcases r.tree_execute hr (.ofPath a.path origin) m with ht | ht
    · exact ht
    · obtain ⟨data, hread⟩ := ht.readable
      exact absurd hd (FileTree.entryAt_ne_directory_of_read hread)
  have hdiscard : (r.execute (.ofPath a.path origin) m).2.tree.discard
      (r.execute (.ofPath a.path origin) m).2.cwd (.ofPath a.path) = .error .isDirectory := by
    rw [(r.execute_frame _ m).1, ht]
    exact FileTree.discard_of_directory hd
  have hkept : (r.runArtifact a origin m).2 = (r.execute (.ofPath a.path origin) m).2 :=
    leave_of_discard_error _ hdiscard
  rw [hkept, ht]

/-- What was there before the run is not removed after it. -/
theorem runArtifact_of_not_held (r : Resolver) (origin : Path) (m : Machine) (ha : a.held = false) :
    r.runArtifact a origin m = r.execute (.ofPath a.path origin) m := leave_of_not_held _ ha

end Run

end ScriptRunner.Resolver
