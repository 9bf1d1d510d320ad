import ScriptRunner.FileTree.Route

/-! Reading and changing a tree by routes from a current directory. -/

namespace ScriptRunner.FileTree

/-- What stands at the end of a route, links followed. -/
def status (t : FileTree) (cwd : Location) (r : Route) : Except FileFault Entry := do
  let l ← t.locate cwd .target r
  match t.get? l with
  | some e => return e
  | none => throw .notFound

/-- Whether anything stands at the end of a route. One that leads nowhere has no end; only names that
are too long leave the question open. -/
def exists? (t : FileTree) (cwd : Location) (r : Route) : Except FileFault Bool :=
  match t.status cwd r with
  | .ok _ => .ok true
  | .error .nameTooLong => .error .nameTooLong
  | .error _ => .ok false

def isDirectory (t : FileTree) (cwd : Location) (r : Route) : Bool :=
  (t.status cwd r).toOption = some .directory

def read (t : FileTree) (cwd : Location) (r : Route) : Except FileFault Bytes := do
  match ← t.status cwd r with
  | .file data => return data
  | _ => throw .isDirectory

/-- Writes a file, new or not, through a link if one stands there. -/
def write (t : FileTree) (cwd : Location) (r : Route) (data : Bytes) :
    Except FileFault FileTree := do
  let l ← t.locate cwd .file r
  match t.get? l with
  | some .directory => throw .isDirectory
  | _ => return t.set l (.file data)

/-- Puts an entry where nothing stands, not even a link. -/
def add (t : FileTree) (cwd : Location) (r : Route) (e : Entry) : Except FileFault FileTree := do
  let l ← t.locate cwd .entry r
  match t.get? l with
  | some _ => throw .alreadyExists
  | none => return t.set l e

/-- Removes a file or a link. -/
def unlink (t : FileTree) (cwd : Location) (r : Route) : Except FileFault FileTree := do
  let l ← t.locate cwd .entry r
  match t.get? l with
  | some .directory => throw .isDirectory
  | some _ => return t.erase l
  | none => throw .notFound

/-- Removes a file or a link if it is there. -/
def discard (t : FileTree) (cwd : Location) (r : Route) : Except FileFault FileTree :=
  match t.unlink cwd r with
  | .error .notFound => .ok t
  | result => result

/-- A refused operation on a path. -/
abbrev Refusal := FileFault × Path

/-- Sees to it that a directory stands at a path whose parent is there. -/
def ensureDirectory (t : FileTree) (cwd : Location) (p : Path) : Except Refusal FileTree :=
  match t.add cwd (.ofPath p) .directory with
  | .ok t => .ok t
  | .error fault =>
    if fault ≠ .notFound && t.isDirectory cwd (.ofPath p) then .ok t else .error (fault, p)

/-- The tree that is left when something was done to it, and what was refused, if anything was. -/
abbrev Outcome := FileTree × Option Refusal

/-- Goes on with the tree unless something was refused. -/
def Outcome.andThen (o : Outcome) (next : FileTree → Except Refusal FileTree) : Outcome :=
  match o with
  | (t, some refusal) => (t, some refusal)
  | (t, none) =>
    match next t with
    | .ok t => (t, none)
    | .error refusal => (t, some refusal)

/-- Sees to it that a directory stands at the path of these names, read from the last one up, and
at all paths above it. -/
def ensureAbove (t : FileTree) (cwd : Location) (root : Root) : List String → Outcome
  | [] => Outcome.andThen (t, none) (·.ensureDirectory cwd ⟨root, []⟩)
  | n :: above =>
    let p : Path := ⟨root, (n :: above).reverse⟩
    match t.ensureDirectory cwd p with
    | .ok t => (t, none)
    | .error (.notFound, _) => (t.ensureAbove cwd root above).andThen (·.ensureDirectory cwd p)
    | .error refusal => (t, some refusal)

def ensureDirectories (t : FileTree) (cwd : Location) (p : Path) : Outcome :=
  t.ensureAbove cwd p.root p.names.reverse

/-- Writes a file and makes the directories above it, which stay even if the file is refused. -/
def writeUnder (t : FileTree) (cwd : Location) (p : Path) (data : Bytes) : Outcome :=
  (t.ensureDirectories cwd p.parent).andThen fun t =>
    (t.write cwd (.ofPath p) data).mapError fun fault => (fault, p)

end ScriptRunner.FileTree
