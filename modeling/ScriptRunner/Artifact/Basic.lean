import ScriptRunner.Machine

/-! Artifacts: files that are made on the way to a running script and removed after it. An artifact
that holds text gets a name that nothing else has. -/

namespace ScriptRunner

/-- The start of an artifact's path, as it is written: a directory and a stem with a dash. A stem
that is a path of its own stands for itself. -/
def artifactBase (cwd : Location) (directory stem : String) : String :=
  let directory := ((Path.ofLocation cwd).seenFrom (.ofString directory)).collapsed.toString
  if stem.toList.head? = some '/' then stem ++ "-"
  else if directory.toList.getLast? = some '/' then directory ++ stem ++ "-"
  else directory ++ "/" ++ stem ++ "-"

/-- The path that begins with `base` and is completed by a token. -/
def artifactPath (base : Path) (token : String) : Path :=
  base.parent.child (base.name ++ token ++ scriptExtension)

/-- A supply of names for temporary files: a token that completes the start of a path. -/
structure TempNames where
  /-- The token for a tree, for the paths that were handed out before, and for the start of a
  path. -/
  token : FileTree → List Path → Path → String
  token_ne_empty : ∀ t issued base, token t issued base ≠ ""
  slash_notMem_token : ∀ t issued base, '/' ∉ (token t issued base).toList
  get?_eq_none : ∀ (t : FileTree) issued base (cwd l : Location),
    t.locate cwd .entry (.ofPath (artifactPath base (token t issued base))) = .ok l → t.get? l = none
  /-- The path is none that was handed out before, however that was written. -/
  plainPlace_ne : ∀ t issued base, ∀ p ∈ issued,
    p.plainPlace ≠ (artifactPath base (token t issued base)).plainPlace

theorem TempNames.notMem_issued (names : TempNames) (t : FileTree) (issued : List Path) (base : Path) :
    artifactPath base (names.token t issued base) ∉ issued :=
  fun h => names.plainPlace_ne t issued base _ h rfl

structure Artifact where
  path : Path
  /-- Whether it is still to be removed. -/
  held : Bool := true
  deriving DecidableEq, Repr

namespace Artifact

/-- Writes data to a file with a new name. -/
def create (names : TempNames) (data : Bytes) (stem directory : String) (m : Machine) :
    Except Failure Artifact × Machine :=
  let written := artifactBase m.cwd directory stem
  let base := Path.ofString written
  let token := names.token m.tree m.issued base
  let path := artifactPath base token
  match m.tree.add m.cwd (.ofPath path) (.file data) with
  | .error fault => (.error (.ofFault (written ++ token ++ scriptExtension) fault), m)
  | .ok t =>
    (.ok { path },
      { m with tree := t, issued := path :: m.issued }.log ("Materialized " ++ path.toString))

/-- Removes the file, if it is there and was not removed before, and passes the outcome on. Only a
failure to remove the file takes its place. -/
def leave {α : Type} (a : Artifact) (outcome : Except Failure α) (m : Machine) :
    Except Failure α × Machine :=
  if a.held then
    match m.tree.discard m.cwd (.ofPath a.path) with
    | .error fault => (.error (.ofFault a.path.toString fault), m)
    | .ok t => (outcome, { m with tree := t }.log ("Removed " ++ a.path.toString))
  else (outcome, m)

theorem suffix_artifactPath (names : TempNames) (t : FileTree) (issued : List Path) (base : Path) :
    (artifactPath base (names.token t issued base)).suffix = scriptExtension := by
  have hne := names.token_ne_empty t issued base
  have hl : (base.name ++ names.token t issued base).toList ≠ [] := by simp [hne]
  have hname : (artifactPath base (names.token t issued base)).name =
      String.ofList ((base.name ++ names.token t issued base).toList ++ '.' :: "py".toList) := by
    simp [artifactPath, scriptExtension, ← String.toList_inj]
  exact Path.suffix_of_name hname hl (by decide) (by decide)

/-- A new artifact is a script, and no program is launched to make it. -/
theorem suffix_of_create {names : TempNames} {data : Bytes} {stem directory : String}
    {m m' : Machine} {a : Artifact} (h : create names data stem directory m = (.ok a, m')) :
    a.path.suffix = scriptExtension ∧ m'.pending = m.pending := by
  unfold create at h
  dsimp only at h
  split at h
  · simp at h
  · simp only [Prod.mk.injEq, Except.ok.injEq] at h
    obtain ⟨rfl, rfl⟩ := h
    exact ⟨suffix_artifactPath .., rfl⟩

end Artifact
end ScriptRunner
