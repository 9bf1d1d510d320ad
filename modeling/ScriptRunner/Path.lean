import ScriptRunner.Text.Quoted

/-! Paths: a root and names. Repeated slashes and single dots vanish when a path is read; two dots
stay, since what they mean depends on the files. -/

namespace ScriptRunner

/-- What a path starts with. Exactly two slashes are a root of their own. -/
inductive Root where
  | none
  | slash
  | doubleSlash
  deriving DecidableEq, Repr

namespace Root

def ofChars : List Char → Root
  | '/' :: '/' :: '/' :: _ => .slash
  | '/' :: '/' :: _ => .doubleSlash
  | '/' :: _ => .slash
  | _ => .none

def text : Root → String
  | .none => ""
  | .slash => "/"
  | .doubleSlash => "//"

end Root

/-- The stem and the suffix of a name. The suffix starts at the last dot, unless that dot is the
first or the last character. -/
def splitSuffix (name : List Char) : List Char × List Char :=
  let ending := (name.reverse.takeWhile (· != '.')).reverse
  let front := ((name.reverse.dropWhile (· != '.')).drop 1).reverse
  if ending.isEmpty || front.isEmpty then (name, []) else (front, '.' :: ending)

/-- The names between slashes. -/
def slashNames (s : List Char) : List String :=
  ((s.splitOn '/').map String.ofList).filter fun n => n != "" && n != "."

structure Path where
  root : Root
  names : List String
  deriving DecidableEq, Repr

/-- The names from the root directory down to a place, with no dots among them. -/
abbrev Location := List String

namespace Path

def ofString (s : String) : Path := ⟨Root.ofChars s.toList, slashNames s.toList⟩

def toString (p : Path) : String :=
  match p.root, p.names with
  | .none, [] => "."
  | root, names => root.text ++ "/".intercalate names

instance : ToString Path := ⟨toString⟩

def ofLocation (l : Location) : Path := ⟨.slash, l⟩

def isAbsolute (p : Path) : Bool := p.root != .none

/-- The last name, or the empty text. -/
def name (p : Path) : String := p.names.getLast?.getD ""

def stem (p : Path) : String := String.ofList (splitSuffix p.name.toList).1

def suffix (p : Path) : String := String.ofList (splitSuffix p.name.toList).2

/-- Every ending of the name that starts at a dot, each up to the next dot. Dots at the front of the
name start none, and a dot at its end leaves no suffix at all. -/
def suffixes (p : Path) : List String :=
  let name := p.name.toList
  if name.getLast? = some '.' then []
  else (((name.dropWhile (· = '.')).splitOn '.').drop 1).map fun s => String.ofList ('.' :: s)

def parent (p : Path) : Path := { p with names := p.names.dropLast }

def child (p : Path) (name : String) : Path := { p with names := p.names ++ [name] }

/-- The path with another suffix, if it has a name to carry it. -/
def withSuffix? (p : Path) (suffix : String) : Option Path :=
  if p.name = "" then none else some (p.parent.child (p.stem ++ suffix))

/-- How a path is shown where its kind matters. -/
def shown (p : Path) : String := "PosixPath(" ++ Text.quoted p.toString ++ ")"

def hasNull (p : Path) : Bool := p.names.any (·.toList.contains '\x00')

/-- The path one name up, without a look at the files: a path that is out of names, or has gone up
already, goes up by two dots. -/
def above (p : Path) : Path :=
  if p.isAbsolute then p.parent
  else if p.names.getLast?.getD ".." = ".." then p.child ".." else p.parent

/-- The path with names written behind it. If what is written starts with a slash, it takes the place
of the path. -/
def join (p : Path) (rest : List String) : Path :=
  let q := ofString ("/".intercalate rest)
  if q.isAbsolute then q else { p with names := p.names ++ q.names }

/-- A path is absolute just if its text starts with a slash. -/
theorem isAbsolute_ofString (s : String) :
    (ofString s).isAbsolute = decide (s.toList.head? = some '/') := by
  unfold ofString isAbsolute
  dsimp only
  cases s.toList with
  | nil => rfl
  | cons c cs =>
    unfold Root.ofChars
    split <;> simp_all

theorem splitSuffix_append {front ending : List Char} (hf : front ≠ []) (he : ending ≠ [])
    (hdot : '.' ∉ ending) : splitSuffix (front ++ '.' :: ending) = (front, '.' :: ending) := by
  have hall : ∀ c ∈ ending.reverse, (c != '.') = true := by
    intro c hc
    have : c ∈ ending := by simpa using hc
    grind
  simp [splitSuffix, List.takeWhile_append_of_pos hall, List.dropWhile_append_of_pos hall, hf, he]

@[simp] theorem name_child (p : Path) (name : String) : (p.child name).name = name := by
  simp [Path.name, child]

theorem suffix_of_name {p : Path} {front ending : List Char}
    (h : p.name = String.ofList (front ++ '.' :: ending)) (hf : front ≠ []) (he : ending ≠ [])
    (hdot : '.' ∉ ending) : p.suffix = String.ofList ('.' :: ending) := by
  simp [suffix, h, splitSuffix_append hf he hdot]

end Path

/-- The path without dots, and without a look at the files: two dots take the last name back. -/
def Path.collapsed (p : Path) : Path :=
  p.names.foldl (fun q n => if n = ".." then q.above else if n = "." then q else q.child n)
    ⟨p.root, []⟩

/-- The place one name further on, without a look at the files. -/
def Location.next (l : Location) (n : String) : Location :=
  if n = "" || n = "." then l else if n = ".." then l.dropLast else l ++ [n]

/-- The place that an absolute path leads to if there are no links on its way. -/
def Path.plainPlace (p : Path) : Location := p.names.foldl Location.next []

/-- The path as it is seen from a directory. -/
def Path.seenFrom (directory p : Path) : Path :=
  if p.isAbsolute then p else { directory with names := directory.names ++ p.names }

end ScriptRunner
