import ScriptRunner.Machine

/-! Compilation: a transpiler is launched on a source and must leave a script beside it. A line on the
console tells of it in the meantime. -/

namespace ScriptRunner

/-- Removes what a compiler that failed has left at the output path, and reports it. -/
def Transpiler.abandon (t : Transpiler) (output : Path) (r : ToolResult) (m : Machine) :
    Except Failure Path × Machine :=
  match m.tree.discard m.cwd (.ofPath output) with
  | .error fault => (.error (.ofFault output.toString fault), m)
  | .ok tree => (.error (.compilation (.exited t.name r.code r.stdout r.stderr)), { m with tree })

/-- The line that tells of a compilation. -/
def Transpiler.progress (t : Transpiler) (source : Path) : String :=
  "Compiling " ++ source.name ++ " with " ++ t.name

/-- Launches the compiler while the line that tells of it is shown. -/
def Transpiler.launch (t : Transpiler) (source : Path) (argv : List String) (m : Machine) :
    Except Failure ToolResult × Machine :=
  match m.console.status (t.progress source) with
  | .error f => (.error f, m)
  | .ok () => m.launch argv

/-- An error of the operating system at the launch is a failed compilation; any other stays as it
is. -/
def Transpiler.launchFailure (t : Transpiler) (f : Failure) : Failure :=
  match f.osError? with
  | some e => .compilation (.notLaunched t.name e)
  | none => f

/-- Runs the compiler on a source: the path of the script that it is taken to have written. -/
def Transpiler.compile (t : Transpiler) (source : Path) (m : Machine) :
    Except Failure Path × Machine :=
  match Transpiler.outputPath source, t.argv source with
  | .error e, _ | _, .error e => (.error (.command e), m)
  | .ok output, .ok argv =>
    let m := m.log ("Compiling " ++ source.toString ++ " with " ++ " ".intercalate argv)
    match t.launch source argv m with
    | (.error f, m) => (.error (t.launchFailure f), m)
    | (.ok r, m) =>
      if r.code ≠ 0 then t.abandon output r m
      else
        match m.tree.exists? m.cwd (.ofPath output) with
        | .ok true => (.ok output, m)
        | .ok false => (.error (.compilation (.noOutput t.name output)), m)
        | .error fault => (.error (.ofFault output.toString fault), m)

theorem Machine.pending_write (m : Machine) (ws : List Writing) :
    (m.write ws).1.pending = m.pending := by
  induction ws generalizing m with
  | nil => rfl
  | cons w ws ih =>
    simp only [Machine.write]
    split
    · exact ih _
    · rfl

/-- A launch that succeeds uses up one outcome. -/
theorem Machine.length_pending_of_launch {m m' : Machine} {argv : List String} {r : ToolResult}
    (h : m.launch argv = (.ok r, m')) : m'.pending.length + 1 = m.pending.length := by
  unfold Machine.launch at h
  dsimp only [Machine.record] at h
  split at h
  · simp at h
  · simp at h
  · simp at h
  · next r' rest _ hp =>
    split at h
    · next m₁ hw =>
      simp only [Prod.mk.injEq] at h
      obtain ⟨-, rfl⟩ := h
      have := Machine.pending_write
        { m with done := .launched argv :: m.done, pending := rest } r'.writes
      simp only [hw] at this
      simp [this, hp]
    · simp at h

theorem Transpiler.length_pending_of_launch {t : Transpiler} {source : Path} {argv : List String}
    {m m' : Machine} {r : ToolResult} (h : t.launch source argv m = (.ok r, m')) :
    m'.pending.length + 1 = m.pending.length := by
  unfold Transpiler.launch at h
  split at h
  · simp at h
  · exact Machine.length_pending_of_launch h

/-- A compilation that succeeds has launched one program. -/
theorem Transpiler.length_pending_of_compile {t : Transpiler} {source output : Path}
    {m m' : Machine} (h : t.compile source m = (.ok output, m')) :
    m'.pending.length + 1 = m.pending.length := by
  unfold Transpiler.compile at h
  split at h
  · simp at h
  · simp at h
  · dsimp only at h
    split at h
    · simp at h
    · next r m₁ hl =>
      have := Transpiler.length_pending_of_launch hl
      dsimp only [Machine.log, Machine.record] at this
      split at h
      · unfold Transpiler.abandon at h
        split at h <;> simp at h
      · split at h
        · simp only [Prod.mk.injEq] at h
          obtain ⟨-, rfl⟩ := h
          exact this
        · simp at h
        · simp at h

end ScriptRunner
