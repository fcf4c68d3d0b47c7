import ChannelSerde.Program.Hint

/-!
# What every program has

The built-in classes and the standard type hints, which every module can name without defining or
importing them. The table gives each class with those it derives from; a class is listed after its
bases.
-/

namespace ChannelSerde.Standard

/-- A built-in class by its short name, with the short names of its bases. -/
def table : List (String × List String) :=
  ["object", "type", "int", "float", "complex", "str", "bytes", "bytearray", "list", "dict",
    "tuple", "set", "frozenset", "range", "slice", "memoryview", "enumerate", "zip", "map",
    "filter", "reversed", "property", "classmethod", "staticmethod", "super", "BaseException"].map (·, [])
  ++ [("bool", ["int"]), ("Exception", ["BaseException"]),
    ("BaseExceptionGroup", ["BaseException"]),
    ("ExceptionGroup", ["BaseExceptionGroup", "Exception"])]
  ++ ["GeneratorExit", "KeyboardInterrupt", "SystemExit"].map (·, ["BaseException"])
  ++ ["ArithmeticError", "AssertionError", "AttributeError", "BufferError", "EOFError",
    "ImportError", "LookupError", "MemoryError", "NameError", "OSError", "ReferenceError",
    "RuntimeError", "StopAsyncIteration", "StopIteration", "SyntaxError", "SystemError", "TypeError", "ValueError",
    "Warning"].map (·, ["Exception"])
  ++ ["FloatingPointError", "OverflowError", "ZeroDivisionError"].map (·, ["ArithmeticError"])
  ++ ["BlockingIOError", "ChildProcessError", "ConnectionError", "FileExistsError",
    "FileNotFoundError", "InterruptedError", "IsADirectoryError", "NotADirectoryError",
    "PermissionError", "ProcessLookupError", "TimeoutError"].map (·, ["OSError"])
  ++ ["BrokenPipeError", "ConnectionAbortedError", "ConnectionRefusedError",
    "ConnectionResetError"].map (·, ["ConnectionError"])
  ++ ["BytesWarning", "DeprecationWarning", "EncodingWarning", "FutureWarning", "ImportWarning",
    "PendingDeprecationWarning", "ResourceWarning", "RuntimeWarning", "SyntaxWarning",
    "UnicodeWarning", "UserWarning"].map (·, ["Warning"])
  ++ [("ModuleNotFoundError", ["ImportError"]), ("IndexError", ["LookupError"]),
    ("KeyError", ["LookupError"]), ("UnboundLocalError", ["NameError"]),
    ("NotImplementedError", ["RuntimeError"]), ("RecursionError", ["RuntimeError"]),
    ("IndentationError", ["SyntaxError"]), ("TabError", ["IndentationError"]),
    ("UnicodeError", ["ValueError"]), ("UnicodeDecodeError", ["UnicodeError"]),
    ("UnicodeEncodeError", ["UnicodeError"]), ("UnicodeTranslateError", ["UnicodeError"])]

/-- A built-in class of a table; the fuel bounds the length of the chain to the root. -/
def classIn (table : List (String × List String)) : Nat → String → Option ClassDef
  | 0, _ => none
  | fuel + 1, name =>
    (lookupEntry name table).map fun bases =>
      .standard ("builtins." ++ name) (bases.filterMap (classIn table fuel))

/-- The usual name of a built-in class that has two. -/
def usualName : String → String
  | "IOError" | "EnvironmentError" => "OSError"
  | name => name

/-- **The built-in class of a name.** -/
def classNamed (name : String) : Option ClassDef := classIn table table.length (usualName name)

/-- A built-in class that is there. -/
def builtIn (name : String) : ClassDef := .standard ("builtins." ++ name) []

/-- What can be iterated over when nothing has to be waited for. -/
def iterable : ClassDef := .standard "collections.abc.Iterable" []

/-- What can be waited for item by item. -/
def asyncIterable : ClassDef := .standard "collections.abc.AsyncIterable" []

/-- What waits for one item after the other. -/
def asyncIterator : ClassDef := .standard "collections.abc.AsyncIterator" [asyncIterable]

/-- **The standard hint of a name.** A container has a second name, under which it is a type with
arguments even if none are given. -/
def hint : String → Option Hint
  | "typing.Any" => some (.ofClass (.standard "typing.Any" []))
  | "typing.Generic" => some (.generic true .ofGenerics [])
  | "typing.Protocol" => some (.ofClass .ofProtocols)
  | "typing.Union" => some (.form .union)
  | "typing.Optional" => some (.form .optional)
  | "typing.Callable" => some (.generic true Hint.ofCallables [])
  | "typing.List" => some (.generic true (builtIn "list") [])
  | "typing.Dict" => some (.generic true (builtIn "dict") [])
  | "typing.Tuple" => some (.generic true (builtIn "tuple") [])
  | "typing.Set" => some (.generic true (builtIn "set") [])
  | "typing.FrozenSet" => some (.generic true (builtIn "frozenset") [])
  | "typing.Type" => some (.generic true (builtIn "type") [])
  | "typing.Iterable" => some (.generic true iterable [])
  | "typing.AsyncIterable" => some (.generic true asyncIterable [])
  | "typing.AsyncIterator" => some (.generic true asyncIterator [])
  | name => (classNamed name).map .ofClass

/-- **What a name means where nothing defines it.** -/
def meaning (name : String) : Option Hint :=
  if name = "None" then some .nothing else (classNamed name).map .ofClass

end ChannelSerde.Standard
