import ScriptRunner.FileTree.Access

/-! Real paths: absolute, without dots and without links. Names that lead nowhere are kept. -/

namespace ScriptRunner.FileTree

/-- Where a path leads, or the path as far as it was followed when a link led back to itself, with
the names that were left. -/
inductive Destination where
  | found (p : Path)
  | loop (p : Path)
  deriving DecidableEq, Repr

/-- Links and the paths that they were found to lead to. -/
abbrev Resolved := List (Path × Path)

/-- Follows names from a path, and adds to the links that are resolved. The links at the paths in
`pending` are being followed already; a link that is resolved is not followed again. At most `depth`
links are followed inside one another. -/
def destination (t : FileTree) (cwd : Path) (depth : Nat) (pending : List Path)
    (resolved : Resolved) (at_ : Path) : List String → Destination × Resolved
  | [] => (.found at_, resolved)
  | n :: rest =>
    if n = "" || n = "." then t.destination cwd depth pending resolved at_ rest
    else if n = ".." then t.destination cwd depth pending resolved at_.above rest
    else
      let next := at_.child n
      match t.get? (cwd.seenFrom next).collapsed.names with
      | some (.link target) =>
        match resolved.lookup next with
        | some p => t.destination cwd depth pending resolved p rest
        | none =>
          if next ∈ pending then (.loop (next.join rest), resolved)
          else
            match depth with
            | 0 => (.loop (next.join rest), resolved)
            | inner + 1 =>
              let route := Route.ofString target
              let start := if route.absolute then ⟨.slash, []⟩ else at_
              match t.destination cwd inner (next :: pending) resolved start route.names with
              | (.found p, resolved) =>
                t.destination cwd (inner + 1) pending ((next, p) :: resolved) p rest
              | (.loop p, resolved) => (.loop (p.join rest), resolved)
      | _ => t.destination cwd depth pending resolved next rest
  termination_by names => (depth, names.length)

/-- How many links are followed inside one another. -/
def maxDepth : Nat := 1000

/-- The path, made absolute without another look at the files. -/
def Destination.path (cwd : Path) : Destination → Path
  | .found p | .loop p => (cwd.seenFrom p).collapsed

inductive RealPathError where
  | nullCharacter
  | linkLoop (p : Path)
  deriving DecidableEq, Repr

/-- The real path of a path that is seen from a directory. A loop of links that is still there at its
end is an error. -/
def realPath (t : FileTree) (cwd p : Path) : Except RealPathError Path :=
  if p.hasNull then .error .nullCharacter
  else
    let route := Route.ofString p.toString
    let start : Path := ⟨if route.absolute then .slash else .none, []⟩
    let real := (t.destination cwd maxDepth [] [] start route.names).1.path cwd
    match t.status cwd.collapsed.names (.ofPath real) with
    | .error .tooManyLinks => .error (.linkLoop real)
    | .error .nullCharacter => .error .nullCharacter
    | _ => .ok real

end ScriptRunner.FileTree
