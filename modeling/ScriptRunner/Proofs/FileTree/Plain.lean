import ScriptRunner.Proofs.FileTree.Shape

/-! Trees whose links lead to no directories. In them the place of a path can be told from its names
alone, so that two paths lead to one place only if they come to the same without a look at the files. -/

namespace ScriptRunner.FileTree

variable {t : FileTree} {aim : Aim} {links : Nat} {at_ l : Location} {n : String} {names rest : List String}

end ScriptRunner.FileTree
