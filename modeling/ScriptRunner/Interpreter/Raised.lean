import ScriptRunner.Interpreter.Name

/-! What a script raises. -/

namespace ScriptRunner.Interpreter

/-- The kinds of errors that every script knows. -/
def errorKinds : List String :=
  ["ArithmeticError", "AssertionError", "AttributeError", "BaseException", "BaseExceptionGroup",
    "BlockingIOError", "BrokenPipeError", "BufferError", "BytesWarning", "ChildProcessError",
    "ConnectionAbortedError", "ConnectionError", "ConnectionRefusedError", "ConnectionResetError",
    "DeprecationWarning", "EOFError", "EncodingWarning", "Exception", "ExceptionGroup",
    "FileExistsError", "FileNotFoundError", "FloatingPointError", "FutureWarning",
    "GeneratorExit", "ImportError", "ImportWarning", "IndentationError", "IndexError",
    "InterruptedError", "IsADirectoryError", "KeyError", "KeyboardInterrupt", "LookupError",
    "MemoryError", "ModuleNotFoundError", "NameError", "NotADirectoryError",
    "NotImplementedError", "OSError", "OverflowError", "PendingDeprecationWarning",
    "PermissionError", "ProcessLookupError", "RecursionError", "ReferenceError",
    "ResourceWarning", "RuntimeError", "RuntimeWarning", "StopAsyncIteration", "StopIteration",
    "SyntaxError", "SyntaxWarning", "SystemError", "SystemExit", "TabError", "TimeoutError",
    "TypeError", "UnboundLocalError", "UnicodeDecodeError", "UnicodeEncodeError", "UnicodeError",
    "UnicodeTranslateError", "UnicodeWarning", "UserWarning", "ValueError", "Warning",
    "ZeroDivisionError"]

/-- The kind of errors that a name stands for in every script. Errors of the operating system have older
names too. -/
def errorKind? (name : String) : Option String :=
  if errorKinds.contains name then some name
  else if name = "EnvironmentError" || name = "IOError" then some OsError.generalKind
  else none

/-- What comes of raising an error of a kind that is made of a value. The kind is looked up first, then
the names in the value; without a kind the value itself is raised. -/
def raised (names : Namespace) (kind : String) (v : Value) : Failure :=
  let name := nameOf kind
  let bound? := names.find? name
  if kind ≠ "" && bound?.isNone && (errorKind? name).isNone then .undefinedName name
  else
    match names.unbound? v, bound?, errorKind? name with
    | some n, _, _ => .undefinedName n
    | none, some b, _ => .unraisable (.notCallable b.kind)
    | none, none, some kind => .ofRaised kind [v]
    | none, none, none => .unraisable .noError

end ScriptRunner.Interpreter
