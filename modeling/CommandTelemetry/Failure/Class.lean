/-!
# Classes of failures

Every failure belongs to a class, and the general classes form a tree. A failure of a class counts
as one of every class above it. Failures below `Exception` are ordinary: they are classified and
reported. The others end the program.
-/

namespace CommandTelemetry.Failure

/-- The general classes, each with the one above it. -/
def parents : List (String × String) :=
  [("Exception", "BaseException"), ("GeneratorExit", "BaseException"),
   ("KeyboardInterrupt", "BaseException"), ("SystemExit", "BaseException"),
   ("BaseExceptionGroup", "BaseException"), ("ArithmeticError", "Exception"),
   ("AssertionError", "Exception"), ("AttributeError", "Exception"), ("BufferError", "Exception"),
   ("EOFError", "Exception"), ("ImportError", "Exception"), ("LookupError", "Exception"),
   ("MemoryError", "Exception"), ("NameError", "Exception"), ("OSError", "Exception"),
   ("ReferenceError", "Exception"), ("RuntimeError", "Exception"),
   ("StopAsyncIteration", "Exception"), ("StopIteration", "Exception"),
   ("SyntaxError", "Exception"), ("SystemError", "Exception"), ("TypeError", "Exception"),
   ("ValueError", "Exception"), ("Warning", "Exception"),
   ("FloatingPointError", "ArithmeticError"), ("OverflowError", "ArithmeticError"),
   ("ZeroDivisionError", "ArithmeticError"), ("ModuleNotFoundError", "ImportError"),
   ("IndexError", "LookupError"), ("KeyError", "LookupError"), ("UnboundLocalError", "NameError"),
   ("BlockingIOError", "OSError"), ("ChildProcessError", "OSError"),
   ("ConnectionError", "OSError"), ("FileExistsError", "OSError"),
   ("FileNotFoundError", "OSError"), ("InterruptedError", "OSError"),
   ("IsADirectoryError", "OSError"), ("NotADirectoryError", "OSError"),
   ("PermissionError", "OSError"), ("ProcessLookupError", "OSError"), ("TimeoutError", "OSError"),
   ("BrokenPipeError", "ConnectionError"), ("ConnectionAbortedError", "ConnectionError"),
   ("ConnectionRefusedError", "ConnectionError"), ("ConnectionResetError", "ConnectionError"),
   ("NotImplementedError", "RuntimeError"), ("RecursionError", "RuntimeError"),
   ("IndentationError", "SyntaxError"), ("TabError", "IndentationError"),
   ("UnicodeError", "ValueError"), ("UnicodeDecodeError", "UnicodeError"),
   ("UnicodeEncodeError", "UnicodeError"), ("UnicodeTranslateError", "UnicodeError"),
   ("BytesWarning", "Warning"), ("DeprecationWarning", "Warning"),
   ("EncodingWarning", "Warning"), ("FutureWarning", "Warning"), ("ImportWarning", "Warning"),
   ("PendingDeprecationWarning", "Warning"), ("ResourceWarning", "Warning"),
   ("RuntimeWarning", "Warning"), ("SyntaxWarning", "Warning"), ("UnicodeWarning", "Warning"),
   ("UserWarning", "Warning")]

/-- A class whose failures are made of more than a message: what makes them, and of how many
parts. -/
structure Maker where
  className : String
  name : String := "function"
  parts : Nat
  deriving DecidableEq, Repr

/-- The makers of the classes that need more than a message. They make the failures of the classes
below as well. -/
def makers : List Maker :=
  [{ className := "UnicodeDecodeError", parts := 5 },
   { className := "UnicodeEncodeError", parts := 5 },
   { className := "UnicodeTranslateError", parts := 4 },
   { className := "BaseExceptionGroup", name := "BaseExceptionGroup.__new__()", parts := 2 }]

/-- Other names of general classes. -/
def canonicalName (name : String) : String :=
  if name = "IOError" ∨ name = "EnvironmentError" then "OSError" else name

/-- A class and those above it, as far as `steps` reach. -/
def ancestorsFrom : (steps : Nat) → String → List String
  | 0, name => [name]
  | steps + 1, name =>
    match parents.lookup name with
    | some parent => name :: ancestorsFrom steps parent
    | none => [name]

/-- A general class and all those above it; the tree is six levels deep. -/
def ancestors (name : String) : List String :=
  if name = "ExceptionGroup" then
    ["ExceptionGroup", "BaseExceptionGroup", "Exception", "BaseException"]
  else ancestorsFrom 6 (canonicalName name)

end CommandTelemetry.Failure
