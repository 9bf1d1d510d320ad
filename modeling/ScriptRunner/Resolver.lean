import ScriptRunner.Artifact.Basic
import ScriptRunner.Compilation
import ScriptRunner.Literate.Document
import ScriptRunner.Shell.Run
import ScriptRunner.Source

/-! Resolution: a source is normalized until it is a script, the script is handed to the loader as
the file that the source appears as, and what was made on the way is removed. -/

namespace ScriptRunner

/-- What a script does when it is loaded: it may remove its own file, then runs commands, then
ends. -/
structure Behaviour where
  removesItself : Bool := false
  commands : List String := []
  outcome : Except Failure Value := .ok .null

/-- What is called with a script that is ready to run: what it returns or raises, and the machine that
it leaves. -/
abbrev Loader := Call → Machine → Except Failure Value × Machine

structure Resolver where
  registry : Registry := .standard
  /-- The directory for artifacts; that of the system if there is none. -/
  tempDir : String := ""
  systemTemp : String := "/tmp"
  names : TempNames
  /-- The words after the name of the script. -/
  argv : List String := []
  /-- The names that the script is given. -/
  globals : List String := []
  shell : Shell := {}
  loader : Call → Behaviour

/-- The bytes of a source. -/
def Source.read (s : Source) (m : Machine) : Except Failure Bytes :=
  match s.body with
  | .text content => .ok content
  | .file path => (m.tree.read m.cwd (.ofPath path)).mapError (.ofFault path.toString)

/-- The script in the bytes of a document. -/
def Literate.extractBytes (document : Bytes) : Except Failure Bytes :=
  match Utf8.decode document with
  | .ok text => .ok (Utf8.encode (Literate.extract .python text))
  | .error e => .error (.undecodable e)

namespace Resolver

def artifactDirectory (r : Resolver) : String := if r.tempDir = "" then r.systemTemp else r.tempDir

/-- Writes the script that was made of a source. -/
def materialize (r : Resolver) (s : Source) (data : Except Failure Bytes) (m : Machine) :
    Except Failure Artifact × Machine :=
  match data with
  | .ok data => Artifact.create r.names data s.stem r.artifactDirectory m
  | .error e => (.error e, m)

/-- Takes a source one step closer to running. -/
def produce (r : Resolver) (n : Normalization) (s : Source) (m : Machine) :
    Except Failure Artifact × Machine :=
  match n with
  | .raw => r.materialize s (s.read m) m
  | .literate => r.materialize s ((s.read m).bind Literate.extractBytes) m
  | .transpiled t =>
    match t.compile s.label m with
    | (.ok output, m) => (.ok { path := output }, m)
    | (.error e, m) => (.error e, m)

/-- The call of the loader with the script at a path. -/
def callOf (r : Resolver) (path filename : Path) (m : Machine) : Call :=
  ⟨path, filename, filename.parent, r.argv, r.globals, r.shell,
    (m.tree.read m.cwd (.ofPath path)).toOption⟩

/-- The loader that reads a script and then does what the script does. -/
def behave (r : Resolver) : Loader := fun call m =>
  match m.tree.read m.cwd (.ofPath call.path) with
  | .error fault => (.error (.ofFault call.path.toString fault), m)
  | .ok _ =>
    let behaviour := r.loader call
    let tree :=
      if behaviour.removesItself then
        (m.tree.unlink m.cwd (.ofPath call.path)).toOption.getD m.tree
      else m.tree
    match r.shell.runAll behaviour.commands { m with tree } with
    | (.error e, m) => (.error e, m)
    | (.ok (), m) => (behaviour.outcome, m)

/-- Hands a script to a loader. -/
def loadWith (r : Resolver) (loader : Loader) (path filename : Path) (m : Machine) :
    Except Failure Value × Machine :=
  loader (r.callOf path filename m) (m.record (.loaded (r.callOf path filename m)))

def load (r : Resolver) : Path → Path → Machine → Except Failure Value × Machine :=
  r.loadWith r.behave

/-- Runs a script as the file that it appears as. -/
def executeWith (r : Resolver) (loader : Loader) (s : Source) (m : Machine) :
    Except Failure Value × Machine :=
  match m.tree.realPath (.ofLocation m.cwd) s.origin with
  | .error e => (.error (.ofRealPath e), m)
  | .ok filename => r.loadWith loader s.label filename m

def execute (r : Resolver) : Source → Machine → Except Failure Value × Machine :=
  r.executeWith r.behave

/-- Whether a source is not a script yet. -/
def distance (s : Source) : Nat := if s.extension = scriptExtension then 0 else 1

theorem distance_of_suffix {p origin : Path} (h : p.suffix = scriptExtension) :
    distance (.ofPath p origin) = 0 := by
  have : Text.lower scriptExtension = scriptExtension := by decide
  simp [distance, Source.extension, Source.ofPath, h, this]

theorem suffix_of_materialize {r : Resolver} {s : Source} {data : Except Failure Bytes}
    {m m' : Machine} {a : Artifact} (h : r.materialize s data m = (.ok a, m')) :
    a.path.suffix = scriptExtension ∧ m'.pending = m.pending := by
  unfold materialize at h
  split at h
  · exact Artifact.suffix_of_create h
  · simp at h

/-- Every step launches a program, or makes a script of something that was none. -/
theorem lt_of_produce {r : Resolver} {n : Normalization} {s : Source} {m m' : Machine}
    {a : Artifact} (origin : Path) (hc : classify r.registry s = .ok (.normalize n))
    (h : r.produce n s m = (.ok a, m')) :
    m'.pending.length < m.pending.length ∨
      m'.pending.length = m.pending.length ∧
        distance (.ofPath a.path origin) < distance s := by
  cases n with
  | raw =>
    obtain ⟨hs, hp⟩ := suffix_of_materialize h
    have := extension_of_classify_raw hc
    refine .inr ⟨by rw [hp], ?_⟩
    rw [distance_of_suffix hs, distance, if_neg (by rw [this]; decide)]
    exact Nat.one_pos
  | literate =>
    obtain ⟨hs, hp⟩ := suffix_of_materialize h
    have := extension_of_classify_literate hc
    refine .inr ⟨by rw [hp], ?_⟩
    rw [distance_of_suffix hs, distance, if_neg (by rw [this]; decide)]
    exact Nat.one_pos
  | transpiled t =>
    refine .inl ?_
    unfold produce at h
    dsimp only at h
    split at h
    · next output m₁ hl =>
      have := Transpiler.length_pending_of_compile hl
      simp only [Prod.mk.injEq] at h
      obtain ⟨-, rfl⟩ := h
      omega
    · simp at h

/-- Normalizes a source and runs the script that comes of it, by any loader. -/
def resolveWith (r : Resolver) (loader : Loader) (s : Source) (m : Machine) :
    Except Failure Value × Machine :=
  match _hc : classify r.registry s with
  | .error e => (.error e, m)
  | .ok .execute =>
    r.executeWith loader s (m.log (s.label.toString ++ " -> " ++ Step.execute.name))
  | .ok (.normalize n) =>
    match _hp : r.produce n s (m.log (s.label.toString ++ " -> " ++ (Step.normalize n).name)) with
    | (.error e, m) => (.error e, m)
    | (.ok a, m) =>
      let (outcome, m) := r.resolveWith loader (.ofPath a.path s.origin) m
      a.leave outcome m
  termination_by (m.pending.length, distance s)
  decreasing_by
    rcases lt_of_produce s.origin _hc _hp with h | ⟨h, hd⟩
    · exact Prod.Lex.left _ _ h
    · exact h ▸ Prod.Lex.right _ hd

def resolve (r : Resolver) : Source → Machine → Except Failure Value × Machine :=
  r.resolveWith r.behave

end Resolver
end ScriptRunner
