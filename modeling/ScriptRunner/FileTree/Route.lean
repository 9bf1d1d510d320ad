import ScriptRunner.FileTree.Basic
import ScriptRunner.OsError

/-! Routes: names to be followed through a tree, where two dots lead to the parent directory and
links lead to their targets. -/

namespace ScriptRunner

/-- Names to follow from the root or from the current directory. Empty names and single dots stay
in place; what they stand in must be a directory. -/
structure Route where
  absolute : Bool
  names : List String
  deriving DecidableEq, Repr

/-- What is looked for at the end of a route. -/
inductive Aim where
  /-- What stands there, even a link. -/
  | entry
  /-- What the links that stand there lead to. -/
  | target
  /-- The same, to be written as a file. A slash behind its name is refused. -/
  | file
  deriving DecidableEq, Repr

/-- The largest number of bytes in a name. -/
def maxNameSize : Nat := 255

/-- The largest number of bytes in a route. -/
def maxRouteSize : Nat := 4095

namespace Route

def ofString (s : String) : Route :=
  let names := (s.toList.splitOn '/').map String.ofList
  if s.toList.head? = some '/' then ⟨true, names.drop 1⟩ else ⟨false, names⟩

def ofPath (p : Path) : Route := ⟨p.isAbsolute, p.names⟩

def start (cwd : Location) (r : Route) : Location := if r.absolute then [] else cwd

def hasNull (r : Route) : Bool := r.names.any (·.toList.contains '\x00')

/-- The route of an empty text leads nowhere. -/
def isVoid (r : Route) : Bool := !r.absolute && r.names == [""]

/-- The number of bytes that the route is written with. -/
def size (r : Route) : Nat :=
  (if r.absolute then 1 else 0) + ("/".intercalate r.names).utf8ByteSize

end Route

namespace FileTree

/-- Whether nothing but slashes follows a name. -/
def isTrailing (rest : List String) : Bool := !rest.isEmpty && rest.all (· = "")

/-- Follows names from a place. At most `links` links are followed; one under the last name only if
the aim is what it leads to. The place arrived at may be vacant if all names but the last are
directories. -/
def walk (t : FileTree) (aim : Aim) (links : Nat) (at_ : Location) :
    List String → Except FileFault Location
  | [] => .ok at_
  | n :: rest =>
    match t.get? at_ with
    | none => .error .notFound
    | some (.file _) | some (.link _) => .error .notDirectory
    | some .directory =>
      if n = "" || n = "." then t.walk aim links at_ rest
      else if n = ".." then t.walk aim links at_.dropLast rest
      else if aim = .file && isTrailing rest then .error .isDirectory
      else if maxNameSize < n.utf8ByteSize then .error .nameTooLong
      else
        match t.get? (at_ ++ [n]) with
        | some (.link target) =>
          if rest.isEmpty && aim = .entry then .ok (at_ ++ [n])
          else
            match links with
            | 0 => .error .tooManyLinks
            | links + 1 =>
              let route := Route.ofString target
              t.walk aim links (route.start at_) (route.names ++ rest)
        | _ => t.walk aim links (at_ ++ [n]) rest
  termination_by names => (links, names.length)

/-- How many links are followed on one route. -/
def maxLinks : Nat := 40

/-- The place that a route leads to. -/
def locate (t : FileTree) (cwd : Location) (aim : Aim) (r : Route) : Except FileFault Location :=
  if r.hasNull then .error .nullCharacter
  else if r.isVoid then .error .notFound
  else if maxRouteSize < r.size then .error .nameTooLong
  else t.walk aim maxLinks (r.start cwd) r.names

end FileTree
end ScriptRunner
