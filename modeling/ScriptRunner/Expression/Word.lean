/-! Words that have a meaning of their own. -/

namespace ScriptRunner.Expression

/-- The words that are no names. -/
def keywords : List String :=
  ["False", "None", "True", "and", "as", "assert", "async", "await", "break", "class", "continue",
    "def", "del", "elif", "else", "except", "finally", "for", "from", "global", "if", "import", "in",
    "is", "lambda", "nonlocal", "not", "or", "pass", "raise", "return", "try", "while", "with",
    "yield"]

/-- Names that have a meaning of their own in some places only. -/
def softWords : List String := ["_", "case", "match"]

end ScriptRunner.Expression
