import ScriptRunner.Path
import ScriptRunner.Text.Quoted

/-! What a template can show: a path, and whatever can be reached from it by names and numbers. -/

namespace ScriptRunner.Template

/-- A kind of thing, and the module that it belongs to. -/
structure Kind where
  name : String
  home : String := "builtins"
  deriving DecidableEq, Repr

/-- The kind as it is shown, with its module unless it is a kind that everyone knows. -/
def Kind.shown (k : Kind) : String :=
  "<class '" ++ (if k.home = "builtins" then k.name else k.home ++ "." ++ k.name) ++ "'>"

/-- The kind of paths. -/
def pathKind : Kind := ⟨"PosixPath", "pathlib"⟩

/-- A value that a template can show. -/
inductive Item where
  | path (p : Path)
  | text (s : String)
  /-- Texts in a row; it is `fixed` if it cannot grow. -/
  | row (fixed : Bool) (texts : List String)
  /-- The paths above a path, the nearest one first. -/
  | parents (p : Path)
  /-- Something that can be done with a path, or with paths in general if there is none; it is known
  under a name to all things of a kind. -/
  | operation (owner name : String) (p : Option Path)
  | kind (k : Kind)
  deriving DecidableEq, Repr

namespace Item

def kindOf : Item → Kind
  | .path _ => pathKind
  | .text _ => ⟨"str", "builtins"⟩
  | .row true _ => ⟨"tuple", "builtins"⟩
  | .row false _ => ⟨"list", "builtins"⟩
  | .parents _ => ⟨"_PathParents", "pathlib"⟩
  | .operation .. => ⟨"method", "builtins"⟩
  | .kind _ => ⟨"type", "builtins"⟩

/-- What can be done with a path, by the kind that it is known to. -/
def operations : List (String × List String) :=
  [("PurePath",
      ["__bytes__", "__eq__", "__fspath__", "__ge__", "__gt__", "__hash__", "__le__", "__lt__",
        "__reduce__", "__repr__", "__rtruediv__", "__str__", "__truediv__", "_make_child",
        "as_posix", "as_uri", "is_absolute", "is_relative_to", "is_reserved", "joinpath", "match",
        "relative_to", "with_name", "with_stem", "with_suffix"]),
    ("Path",
      ["__enter__", "__exit__", "_make_child_relpath", "_scandir", "absolute", "chmod", "exists",
        "expanduser", "glob", "group", "hardlink_to", "is_block_device", "is_char_device",
        "is_dir", "is_fifo", "is_file", "is_mount", "is_socket", "is_symlink", "iterdir",
        "lchmod", "link_to", "lstat", "mkdir", "open", "owner", "read_bytes", "read_text",
        "readlink", "rename", "replace", "resolve", "rglob", "rmdir", "samefile", "stat",
        "symlink_to", "touch", "unlink", "write_bytes", "write_text"])]

/-- What can be done with paths in general. -/
def generalOperations : List (String × List String) :=
  [("PurePath", ["_format_parsed_parts", "_from_parsed_parts", "_from_parts", "_parse_args"]),
    ("Path", ["cwd", "home"])]

/-- The kind that knows something under a name, if one does. -/
def ownerOf? (known : List (String × List String)) (name : String) : Option String :=
  (known.find? (·.2.contains name)).map (·.1)

/-- What the kind of paths says of itself. -/
def pathDescription : String :=
  "Path subclass for non-Windows systems.\n\n    On a POSIX system, instantiating a Path should " ++
    "return this object.\n    "

/-- The root of a path, if it has one, and its names. -/
def partsOf (p : Path) : List String := if p.isAbsolute then p.root.text :: p.names else p.names

/-- What the kind of paths tells about itself under a name. -/
def ofPathKind? (name : String) : Option Item :=
  if name = "__doc__" then some (.text pathDescription)
  else (ownerOf? generalOperations name).map fun owner => .operation owner name none

/-- What a path tells about itself under a name. -/
def ofPath? (p : Path) : String → Option Item
  | "name" => some (.text p.name)
  | "stem" => some (.text p.stem)
  | "suffix" => some (.text p.suffix)
  | "suffixes" => some (.row false p.suffixes)
  | "parent" => some (.path p.parent)
  | "parents" => some (.parents p)
  | "parts" => some (.row true (partsOf p))
  | "_parts" | "_cparts" => some (.row false (partsOf p))
  | "anchor" | "root" | "_root" => some (.text p.root.text)
  | "drive" | "_drv" => some (.text "")
  | "__module__" => some (.text pathKind.home)
  | "__slots__" => some (.row true [])
  | name =>
    ((ownerOf? operations name).map fun owner => .operation owner name (some p)).or
      (ofPathKind? name)

/-- What an operation tells about itself under a name. -/
def ofOperation? (owner name : String) (p : Option Path) : String → Option Item
  | "__name__" => some (.text name)
  | "__qualname__" => some (.text (owner ++ "." ++ name))
  | "__module__" => some (.text pathKind.home)
  | "__self__" => some (p.elim (.kind pathKind) .path)
  | _ => none

/-- What a kind tells about itself under a name. -/
def ofKind? (k : Kind) : String → Option Item
  | "__name__" | "__qualname__" => some (.text k.name)
  | "__module__" => some (.text k.home)
  | name => if k = pathKind then ofPathKind? name else none

/-- What a value tells about itself under a name. -/
def attribute? (v : Item) (name : String) : Option Item :=
  if name = "__class__" then some (.kind v.kindOf)
  else match v with
    | .path p => ofPath? p name
    | .operation owner own p => ofOperation? owner own p name
    | .kind k => ofKind? k name
    | _ => none

/-- What a value without some attribute is called. -/
def holder : Item → String
  | .kind k => "type object '" ++ k.name ++ "'"
  | .operation .. => "'function' object"
  | v => "'" ++ v.kindOf.name ++ "' object"

/-- What a value without parts is called. -/
def whole : Item → String
  | .kind k => "type '" ++ k.name ++ "'"
  | v => "'" ++ v.kindOf.name ++ "' object"

/-- The part of a value under a number: a character, a text or a path above a path. -/
def part? (n : Nat) : Item → Option Item
  | .text s => s.toList[n]?.map fun c => .text c.toString
  | .row _ texts => texts[n]?.map .text
  | .parents p =>
    if n < p.names.length then
      some (.path { p with names := p.names.take (p.names.length - (n + 1)) })
    else none
  | _ => none

/-- Whether a value has parts. -/
def hasParts : Item → Bool
  | .text _ | .row .. | .parents _ => true
  | _ => false

/-- Texts in a row as they are shown; a fixed row of one text has a comma behind it. -/
def shownRow (quote : String → String) (fixed : Bool) (texts : List String) : String :=
  let inside := ", ".intercalate (texts.map quote)
  if fixed then "(" ++ inside ++ (if texts.length = 1 then ",)" else ")") else "[" ++ inside ++ "]"

/-- A path as it is shown where its kind matters. -/
def shownPath (quote : String → String) (p : Path) : String :=
  pathKind.name ++ "(" ++ quote p.toString ++ ")"

/-- The value as it is shown where its kind matters, with its texts quoted by `quote`. -/
def shown (quote : String → String) : Item → String
  | .path p => shownPath quote p
  | .text s => quote s
  | .row fixed texts => shownRow quote fixed texts
  | .parents _ => "<" ++ pathKind.name ++ ".parents>"
  | .operation owner name p =>
    "<bound method " ++ owner ++ "." ++ name ++ " of " ++
      p.elim pathKind.shown (shownPath quote) ++ ">"
  | .kind k => k.shown

def toString : Item → String
  | .path p => p.toString
  | .text s => s
  | v => v.shown Text.quoted

end Item
end ScriptRunner.Template
