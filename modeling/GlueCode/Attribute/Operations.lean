import GlueCode.Json.Basic
/-! # Operations of values

What is known of the classes of values: their names, their documentation, and the names of the
operations that their values have. Most of these names are plain words; names between double
underscores belong to the language of templates and patterns itself. Wrapped operations are those
that stand for a sign or a word of that language. The documentation of the operations is left out.
-/
namespace GlueCode

inductive ValueClass where
  | text
  | integer
  | float
  | truth
  | null
  | list
  | tuple
  | dictionary
  | operation
  | wrappedOperation
  | classes
  | object
deriving DecidableEq, Repr, Inhabited

namespace ValueClass

def name : ValueClass → String
  | .text => "str"
  | .integer => "int"
  | .float => "float"
  | .truth => "bool"
  | .null => "NoneType"
  | .list => "list"
  | .tuple => "tuple"
  | .dictionary => "dict"
  | .operation => "builtin_function_or_method"
  | .wrappedOperation => "method-wrapper"
  | .classes => "type"
  | .object => "object"

def base? : ValueClass → Option ValueClass
  | .object => none
  | .truth => some .integer
  | _ => some .object

def lineage : ValueClass → List ValueClass
  | .object => [.object]
  | .truth => [.truth, .integer, .object]
  | c => [c, .object]

def documentationLines : ValueClass → List String
  | .text =>
    ["str(object='') -> str", "str(bytes_or_buffer[, encoding[, errors]]) -> str", "",
      "Create a new string object from the given object. If encoding or",
      "errors is specified, then the object must expose a data buffer",
      "that will be decoded using the given encoding and error handler.",
      "Otherwise, returns the result of object.__str__() (if defined)", "or repr(object).",
      "encoding defaults to sys.getdefaultencoding().", "errors defaults to 'strict'."]
  | .integer =>
    ["int([x]) -> integer", "int(x, base=10) -> integer", "",
      "Convert a number or string to an integer, or return 0 if no arguments",
      "are given.  If x is a number, return x.__int__().  For floating point",
      "numbers, this truncates towards zero.", "",
      "If x is not a number or if base is given, then x must be a string,",
      "bytes, or bytearray instance representing an integer literal in the",
      "given base.  The literal can be preceded by '+' or '-' and be surrounded",
      "by whitespace.  The base defaults to 10.  Valid bases are 0 and 2-36.",
      "Base 0 means to interpret the base from the string as an integer literal.",
      ">>> int('0b100', base=0)", "4"]
  | .float => ["Convert a string or number to a floating point number, if possible."]
  | .truth =>
    ["bool(x) -> bool", "", "Returns True when the argument x is true, False otherwise.",
      "The builtins True and False are the only two instances of the class bool.",
      "The class bool is a subclass of the class int, and cannot be subclassed."]
  | .list =>
    ["Built-in mutable sequence.", "",
      "If no argument is given, the constructor creates a new empty list.",
      "The argument must be an iterable if specified."]
  | .tuple =>
    ["Built-in immutable sequence.", "",
      "If no argument is given, the constructor returns an empty tuple.",
      "If iterable is specified the tuple is initialized from iterable's items.", "",
      "If the argument is a tuple, the return value is the same object."]
  | .dictionary =>
    ["dict() -> new empty dictionary",
      "dict(mapping) -> new dictionary initialized from a mapping object's",
      "    (key, value) pairs", "dict(iterable) -> new dictionary initialized as if via:",
      "    d = \x7b\x7d", "    for k, v in iterable:", "        d[k] = v",
      "dict(**kwargs) -> new dictionary initialized with the name=value pairs",
      "    in the keyword argument list.  For example:  dict(one=1, two=2)"]
  | .classes =>
    ["type(object) -> the object's type", "type(name, bases, dict, **kwds) -> a new type"]
  | .object =>
    ["The base class of the class hierarchy.", "",
      "When called, it accepts no arguments and returns a new featureless",
      "instance that has no instance attributes and cannot be given any.", ""]
  | _ => []

def documentation (c : ValueClass) : Json :=
  match c.documentationLines with
  | [] => .null
  | lines => .str (String.ofList (Text.joinWith ['\n'] (lines.map String.toList)))

def commonOperations : List String :=
  ["__dir__", "__format__", "__getstate__", "__init_subclass__", "__new__", "__reduce__",
    "__reduce_ex__", "__sizeof__", "__subclasshook__"]

def commonWrapped : List String :=
  ["__delattr__", "__eq__", "__ge__", "__getattribute__", "__gt__", "__init__", "__le__",
    "__lt__", "__ne__", "__repr__", "__setattr__", "__str__"]

def integerOperations : List String :=
  ["__ceil__", "__floor__", "__getnewargs__", "__round__", "__trunc__", "as_integer_ratio",
    "bit_count", "bit_length", "conjugate", "from_bytes", "to_bytes"]

def integerWrapped : List String :=
  ["__abs__", "__add__", "__and__", "__bool__", "__divmod__", "__float__", "__floordiv__",
    "__hash__", "__index__", "__int__", "__invert__", "__lshift__", "__mod__", "__mul__",
    "__neg__", "__or__", "__pos__", "__pow__", "__radd__", "__rand__", "__rdivmod__",
    "__rfloordiv__", "__rlshift__", "__rmod__", "__rmul__", "__ror__", "__rpow__",
    "__rrshift__", "__rshift__", "__rsub__", "__rtruediv__", "__rxor__", "__sub__",
    "__truediv__", "__xor__"]

def ownOperations : ValueClass → List String
  | .text =>
    ["__getnewargs__", "capitalize", "casefold", "center", "count", "encode", "endswith",
      "expandtabs", "find", "format", "format_map", "index", "isalnum", "isalpha", "isascii",
      "isdecimal", "isdigit", "isidentifier", "islower", "isnumeric", "isprintable", "isspace",
      "istitle", "isupper", "join", "ljust", "lower", "lstrip", "maketrans", "partition",
      "removeprefix", "removesuffix", "replace", "rfind", "rindex", "rjust", "rpartition",
      "rsplit", "rstrip", "split", "splitlines", "startswith", "strip", "swapcase", "title",
      "translate", "upper", "zfill"]
  | .integer => integerOperations
  | .truth => integerOperations
  | .float =>
    ["__ceil__", "__floor__", "__getformat__", "__getnewargs__", "__round__", "__trunc__",
      "as_integer_ratio", "conjugate", "fromhex", "hex", "is_integer"]
  | .list =>
    ["__class_getitem__", "__getitem__", "__reversed__", "append", "clear", "copy", "count",
      "extend", "index", "insert", "pop", "remove", "reverse", "sort"]
  | .tuple => ["__class_getitem__", "__getnewargs__", "count", "index"]
  | .dictionary =>
    ["__class_getitem__", "__contains__", "__getitem__", "__reversed__", "clear", "copy",
      "fromkeys", "get", "items", "keys", "pop", "popitem", "setdefault", "update", "values"]
  | .classes => ["mro"]
  | _ => []

def ownWrapped : ValueClass → List String
  | .text =>
    ["__add__", "__contains__", "__getitem__", "__hash__", "__iter__", "__len__", "__mod__",
      "__mul__", "__rmod__", "__rmul__"]
  | .integer => integerWrapped
  | .truth => integerWrapped
  | .float =>
    ["__abs__", "__add__", "__bool__", "__divmod__", "__float__", "__floordiv__", "__hash__",
      "__int__", "__mod__", "__mul__", "__neg__", "__pos__", "__pow__", "__radd__",
      "__rdivmod__", "__rfloordiv__", "__rmod__", "__rmul__", "__rpow__", "__rsub__",
      "__rtruediv__", "__sub__", "__truediv__"]
  | .null => ["__bool__", "__hash__"]
  | .object => ["__hash__"]
  | .list =>
    ["__add__", "__contains__", "__delitem__", "__iadd__", "__imul__", "__iter__", "__len__",
      "__mul__", "__rmul__", "__setitem__"]
  | .tuple =>
    ["__add__", "__contains__", "__getitem__", "__hash__", "__iter__", "__len__", "__mul__",
      "__rmul__"]
  | .dictionary =>
    ["__delitem__", "__ior__", "__iter__", "__len__", "__or__", "__ror__", "__setitem__"]
  | _ => ["__call__", "__hash__"]

def hasOperation (c : ValueClass) (key : String) : Bool :=
  c.ownOperations.contains key || commonOperations.contains key

def hasWrapped (c : ValueClass) (key : String) : Bool :=
  c.ownWrapped.contains key || commonWrapped.contains key

end ValueClass

end GlueCode
