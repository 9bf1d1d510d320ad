import ScriptRunner.Failure
import ScriptRunner.FileUrl

/-! The argument that names a script: a file URL, an absolute path, or one from the current
directory. -/

namespace ScriptRunner.CommandLine

/-- The path that an argument names. Links are resolved only in a path from the current
directory. -/
def scriptPath (t : FileTree) (cwd : Path) (arg : String) : Except Failure Path :=
  match FileUrl.path? arg.toList with
  | some path => .ok (.ofString (String.ofList path))
  | none =>
    let p := Path.ofString arg
    if p.isAbsolute then .ok p
    else
      (t.realPath cwd p).mapError .ofRealPath

end ScriptRunner.CommandLine
