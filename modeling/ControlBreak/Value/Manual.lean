import ControlBreak.Value.Basic

/-!
# What the host says about kinds

Every value is of a kind of the host. A kind has a name, and it may have a home
among the host's packages and a text that explains it.
-/

namespace ControlBreak

namespace Value

/-- The host's name for the kind of a value. -/
def kindName : Value → String
  | .nil => "NoneType"
  | .bool _ => "bool"
  | .num (.int _) => "int"
  | .num (.float _) => "float"
  | .num (.dec _) => "Decimal"
  | .num (.frac _) => "Fraction"
  | .str _ => "str"
  | .list _ => "list"
  | .tuple _ => "tuple"
  | .dict _ => "dict"
  | .bytes _ => "bytes"
  | .date _ => "date"
  | .time _ => "time"
  | .moment _ => "datetime"
  | .duration _ => "timedelta"
  | .object _ => "SimpleNamespace"
  | .row _ => "Row"
  | .slots _ bare _ => if bare then "OneSlot" else "Slotted"
  | .priced .. => "Priced"
  | .entity _ kind _ _ _ => kind
  | .sealed .. => "Opaque"
  | .native .. => "Native"
  | .member sort _ _ => sort.name
  | .layered .. => "ChainMap"
  | .fieldRef _ => "FieldRef"
  | .relatedRef .. => "RelationshipFieldRef"
  | .explicitRef .. => "ExplicitFieldRef"
  | .literal _ => "Literal"
  | .call .. => "Call"
  | .hostCall _ => "NativeFunction"
  | .absent => "Nil"

/-- The package that a value shows as the home of its kind. -/
def kindHome? : Value → Option String
  | .num (.dec _) => some "decimal"
  | .num (.frac _) => some "fractions"
  | .row _ => some "__main__"
  | .slots .. => some "__main__"
  | .priced .. => some "__main__"
  | .entity .. => some "__main__"
  | .sealed .. => some "__main__"
  | .native .. => some "__main__"
  | v => if v.isNode then some "banded_reports.expressions" else none

/-- The home of the kind of a value, which only some values show; the kinds at home
    nowhere else are built into the host. -/
def kindPackage (v : Value) : String :=
  match v with
  | .date _ | .time _ | .moment _ | .duration _ => "datetime"
  | .object _ => "types"
  | v => v.kindHome?.getD "builtins"

/-- The name of the kind of a value, after its home unless it is built in. -/
def kindPath (v : Value) : String :=
  if v.kindPackage = "builtins" then v.kindName else v.kindPackage ++ "." ++ v.kindName

/-- The text that explains the kind of a value; records and functions have none. -/
def kindText? : Value → Option String
  | .bool _ => some (
    "bool(x) -> bool\n\nReturns True when the argument x is true, False otherwise.\n" ++
    "The builtins True and False are the only two instances of the class bool.\n" ++
    "The class bool is a subclass of the class int, and cannot be subclassed.")
  | .num (.int _) => some (
    "int([x]) -> integer\nint(x, base=10) -> integer\n\n" ++
    "Convert a number or string to an integer, or return 0 if no arguments\n" ++
    "are given.  If x is a number, return x.__int__().  For floating point\n" ++
    "numbers, this truncates towards zero.\n\n" ++
    "If x is not a number or if base is given, then x must be a string,\n" ++
    "bytes, or bytearray instance representing an integer literal in the\n" ++
    "given base.  The literal can be preceded by '+' or '-' and be surrounded\n" ++
    "by whitespace.  The base defaults to 10.  Valid bases are 0 and 2-36.\n" ++
    "Base 0 means to interpret the base from the string as an integer literal.\n" ++
    ">>> int('0b100', base=0)\n4")
  | .num (.float _) => some "Convert a string or number to a floating point number, if possible."
  | .num (.dec _) => some (
    "Construct a new Decimal object. 'value' can be an integer, string, tuple,\n" ++
    "or another Decimal object. If no value is given, return Decimal('0'). The\n" ++
    "context does not affect the conversion and is only passed to determine if\n" ++
    "the InvalidOperation trap is active.\n\n")
  | .num (.frac _) => some (
    "This class implements rational numbers.\n\n" ++
    "    In the two-argument form of the constructor, Fraction(8, 6) will\n" ++
    "    produce a rational number equivalent to 4/3. Both arguments must\n" ++
    "    be Rational. The numerator defaults to 0 and the denominator\n" ++
    "    defaults to 1 so that Fraction(3) == 3 and Fraction() == 0.\n\n" ++
    "    Fractions can also be constructed from:\n\n" ++
    "      - numeric strings similar to those accepted by the\n" ++
    "        float constructor (for example, '-2.3' or '1e10')\n\n" ++
    "      - strings of the form '123/456'\n\n      - float and Decimal instances\n\n" ++
    "      - other Rational instances (including integers)\n\n    ")
  | .str _ => some (
    "str(object='') -> str\nstr(bytes_or_buffer[, encoding[, errors]]) -> str\n\n" ++
    "Create a new string object from the given object. If encoding or\n" ++
    "errors is specified, then the object must expose a data buffer\n" ++
    "that will be decoded using the given encoding and error handler.\n" ++
    "Otherwise, returns the result of object.__str__() (if defined)\nor repr(object).\n" ++
    "encoding defaults to sys.getdefaultencoding().\nerrors defaults to 'strict'.")
  | .list _ => some (
    "Built-in mutable sequence.\n\n" ++
    "If no argument is given, the constructor creates a new empty list.\n" ++
    "The argument must be an iterable if specified.")
  | .tuple _ => some (
    "Built-in immutable sequence.\n\n" ++
    "If no argument is given, the constructor returns an empty tuple.\n" ++
    "If iterable is specified the tuple is initialized from iterable's items.\n\n" ++
    "If the argument is a tuple, the return value is the same object.")
  | .bytes _ => some (
    "bytes(iterable_of_ints) -> bytes\nbytes(string, encoding[, errors]) -> bytes\n" ++
    "bytes(bytes_or_buffer) -> immutable copy of bytes_or_buffer\n" ++
    "bytes(int) -> bytes object of size given by the parameter initialized with null " ++
    "bytes\nbytes() -> empty bytes object\n\n" ++
    "Construct an immutable array of bytes from:\n" ++
    "  - an iterable yielding integers in range(256)\n" ++
    "  - a text string encoded using the specified encoding\n" ++
    "  - any object implementing the buffer API.\n  - an integer")
  | .date _ => some "date(year, month, day) --> date object"
  | .time _ => some (
    "time([hour[, minute[, second[, microsecond[, tzinfo]]]]]) --> a time object\n\n" ++
    "All arguments are optional. tzinfo may be None, or an instance of\n" ++
    "a tzinfo subclass. The remaining arguments may be ints.\n")
  | .moment _ => some (
    "datetime(year, month, day[, hour[, minute[, second[, microsecond[,tzinfo]]]]])\n\n" ++
    "The year, month and day arguments are required. tzinfo may be None, or an\n" ++
    "instance of a tzinfo subclass. The remaining arguments may be ints.\n")
  | .duration _ => some (
    "Difference between two datetime values.\n\n" ++
    "timedelta(days=0, seconds=0, microseconds=0, milliseconds=0, minutes=0, hours=0, " ++
    "weeks=0)\n\nAll arguments are optional and default to 0.\n" ++
    "Arguments may be integers or floats, and may be positive or negative.")
  | .object _ => some "A simple attribute-based namespace.\n\nSimpleNamespace(**kwargs)"
  | .fieldRef _ => some "Direct field access on the record: record.name."
  | .relatedRef .. => some "Relationship traversal: record.path[0]...path[-1].field."
  | .explicitRef .. =>
    some "Explicit single-hop relationship field: record.relationship.field."
  | .literal _ => some "A constant value, returned unchanged."
  | .call .. => some "An operator or function call: +, -, *, /, if, or a registered function."
  | .hostCall _ => some "A host callable invoked with the record."
  | .absent => some "The absent value."
  | _ => none

end Value

end ControlBreak
