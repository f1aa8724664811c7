import FeedWatch.Text.Quoted

/-!
# Parts of a value

A field of a template names a text, and may go on to a part of it: a character, the kind that the
text is of, or one of the operations on texts.  Every part has a written form, and a text that
stands for itself has two: plain and quoted.
-/

namespace FeedWatch.Text

/-- The kinds that a part can be of. -/
inductive Kind
  | text
  | row
  | kind
  | anything
deriving DecidableEq

namespace Kind

/-- The name of a kind. -/
def name : Kind → String
  | text => "str"
  | row => "tuple"
  | kind => "type"
  | anything => "object"

/-- A kind and all that it is a special case of, itself first. -/
def line : Kind → List Kind
  | anything => [anything]
  | k => [k, anything]

/-- A kind in writing. -/
def written (k : Kind) : String := "<class '" ++ k.name ++ "'>"

/-- What is told about a kind. -/
def about : Kind → String
  | text =>
    "str(object='') -> str\nstr(bytes_or_buffer[, encoding[, errors]]) -> str\n\n" ++
    "Create a new string object from the given object. If encoding or\n" ++
    "errors is specified, then the object must expose a data buffer\n" ++
    "that will be decoded using the given encoding and error handler.\n" ++
    "Otherwise, returns the result of object.__str__() (if defined)\nor repr(object).\n" ++
    "encoding defaults to sys.getdefaultencoding().\nerrors defaults to 'strict'."
  | row =>
    "Built-in immutable sequence.\n\n" ++
    "If no argument is given, the constructor returns an empty tuple.\n" ++
    "If iterable is specified the tuple is initialized from iterable's items.\n\n" ++
    "If the argument is a tuple, the return value is the same object."
  | kind => "type(object) -> the object's type\ntype(name, bases, dict, **kwds) -> a new type"
  | anything =>
    "The base class of the class hierarchy.\n\n" ++
    "When called, it accepts no arguments and returns a new featureless\n" ++
    "instance that has no instance attributes and cannot be given any.\n"

end Kind

/-- What a field denotes before it is laid out. -/
inductive Part
  | text (s : List Char)
  | kind (k : Kind)
  | row (items : List Kind)
  /-- An operation on the text `subject`. -/
  | operation (name : String) (subject : List Char)
deriving DecidableEq

/-- The operations on texts that are spelled as operators. -/
def operatorNames : List String := [
  "__add__", "__contains__", "__delattr__", "__eq__", "__ge__", "__getattribute__", "__getitem__",
  "__gt__", "__hash__", "__init__", "__iter__", "__le__", "__len__", "__lt__", "__mod__",
  "__mul__", "__ne__", "__repr__", "__rmod__", "__rmul__", "__setattr__", "__str__"
]

/-- The operations on texts that are called by their names. -/
def operationNames : List String := [
  "__dir__", "__format__", "__getnewargs__", "__getstate__", "__init_subclass__", "__new__",
  "__reduce__", "__reduce_ex__", "__sizeof__", "__subclasshook__", "capitalize", "casefold",
  "center", "count", "encode", "endswith", "expandtabs", "find", "format", "format_map", "index",
  "isalnum", "isalpha", "isascii", "isdecimal", "isdigit", "isidentifier", "islower", "isnumeric",
  "isprintable", "isspace", "istitle", "isupper", "join", "ljust", "lower", "lstrip", "maketrans",
  "partition", "removeprefix", "removesuffix", "replace", "rfind", "rindex", "rjust", "rpartition",
  "rsplit", "rstrip", "split", "splitlines", "startswith", "strip", "swapcase", "title",
  "translate", "upper", "zfill"
]

namespace Part

private def ofName (s : String) : Part := .text s.toList

/-- The part that a name picks; none when there is no such part. -/
def byName? (name : String) : Part → Option Part
  | .text s =>
    if name = "__class__" then some (.kind .text)
    else if name = "__doc__" then some (ofName Kind.text.about)
    else if operatorNames.contains name || operationNames.contains name then
      some (.operation name s)
    else none
  | .kind k =>
    if name = "__class__" then some (.kind .kind)
    else if name = "__name__" || name = "__qualname__" then some (ofName k.name)
    else if name = "__module__" then some (ofName "builtins")
    else if name = "__doc__" then some (ofName k.about)
    else if name = "__mro__" then some (.row k.line)
    else if name = "__bases__" then some (.row (k.line.drop 1))
    else if name = "__base__" then (k.line[1]?).map .kind
    else none
  | .row _ =>
    if name = "__class__" then some (.kind .row)
    else if name = "__doc__" then some (ofName Kind.row.about)
    else none
  | .operation own subject =>
    if name = "__name__" then some (ofName own)
    else if name = "__qualname__" then some (ofName ("str." ++ own))
    else if name = "__self__" then some (.text subject)
    else none

/-- The written form of a part, in which a text stands for itself. -/
def written : Part → List Char
  | .text s => s
  | .kind k => k.written.toList
  | .row [k] => ("(" ++ k.written ++ ",)").toList
  | .row items => ("(" ++ ", ".intercalate (items.map Kind.written) ++ ")").toList
  | .operation name _ =>
    (if operatorNames.contains name then "<method-wrapper '" ++ name ++ "' of str object>"
    else "<built-in method " ++ name ++ " of str object>").toList

/-- The written form of a part, in which a text is quoted. -/
def shown : Part → List Char
  | .text s => quotedChars s
  | p => p.written

end Part

end FeedWatch.Text
