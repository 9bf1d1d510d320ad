import ScriptRunner.Artifact.Basic

/-! Sessions: artifacts that are created, lost and left one by one, in any order. -/

namespace ScriptRunner.Artifact

structure Session where
  machine : Machine
  /-- All artifacts created so far, in order. -/
  artifacts : List Artifact := []

namespace Session

/-- Steps name artifacts by an index; a negative one counts from the last artifact back. -/
inductive Step where
  | create (data : Bytes) (stem directory : String)
  /-- Leaves an artifact with an outcome. -/
  | leave (index : Int) (outcome : Except Failure Unit)
  /-- Someone removes the file of an artifact. -/
  | lose (index : Int)

/-- Why a step fails. -/
inductive Fault where
  | noArtifact
  | failed (f : Failure)
  deriving Repr

def Fault.message : Fault → String
  | .noArtifact => "list index out of range"
  | .failed f => f.message

/-- The artifact that an index means, and its place. -/
def artifact? (s : Session) (index : Int) : Option (Nat × Artifact) :=
  match if index < 0 then index + s.artifacts.length else index with
  | .ofNat place => s.artifacts[place]?.map fun a => (place, a)
  | .negSucc _ => none

/-- Takes a step: the outcome and the next session. An artifact is left with whatever comes of it,
and there is nothing left to remove after that. -/
def step (names : TempNames) (s : Session) : Step → Except Fault Unit × Session
  | .create data stem directory =>
    match Artifact.create names data stem directory s.machine with
    | (.ok a, m) => (.ok (), { machine := m, artifacts := s.artifacts ++ [a] })
    | (.error f, m) => (.error (.failed f), { s with machine := m })
  | .leave index outcome =>
    match s.artifact? index with
    | none => (.error .noArtifact, s)
    | some (place, a) =>
      let (outcome, m) := a.leave outcome s.machine
      (outcome.mapError .failed,
        { machine := m, artifacts := s.artifacts.set place { a with held := false } })
  | .lose index =>
    match s.artifact? index with
    | none => (.error .noArtifact, s)
    | some (_, a) =>
      match s.machine.tree.unlink s.machine.cwd (.ofPath a.path) with
      | .ok t => (.ok (), { s with machine := { s.machine with tree := t } })
      | .error fault => (.error (.failed (.ofFault a.path.toString fault)), s)

end Session
end ScriptRunner.Artifact
