import PrivacyScan.Text.Quoted

/-!
What can go wrong, as causes. `Fault.message` gives each its wording.
-/

namespace PrivacyScan

/-- The kinds of value that a loosely typed input can hold, by the word that messages use. -/
inductive ValueKind where
  | none | bool | int | float | text | bytes | list | object | complex | ellipsis | path
  | finding | taint | scriptNode
  | dated (kind : Dating)
  /-- A part of a syntax tree, by the word for its form. -/
  | tree (form : String)
deriving Repr, DecidableEq

def ValueKind.word : ValueKind → String
  | .none => "NoneType"
  | .bool => "bool"
  | .int => "int"
  | .float => "float"
  | .text => "str"
  | .bytes => "bytes"
  | .list => "list"
  | .object => "dict"
  | .complex => "complex"
  | .ellipsis => "ellipsis"
  | .path => "PosixPath"
  | .finding => "Finding"
  | .taint => "TaintInfo"
  | .scriptNode => "Node"
  | .dated .date => "datetime.date"
  | .dated .time => "datetime.time"
  | .dated .dateTime => "datetime.datetime"
  | .tree form => form

inductive Fault where
  | malformedSource
  | noMember (kind : ValueKind) (member : String)
  | notIterable (kind : ValueKind)
  /-- A value of this kind was searched for another one. -/
  | noContents (kind : ValueKind)
  /-- A text was searched for a value of this kind. -/
  | notSearchable (kind : ValueKind)
  | noLength (kind : ValueKind)
  | notHashable (kind : ValueKind)
  | noItems (kind : ValueKind)
  | noItemAssignment (kind : ValueKind)
  /-- An item of a list or text was asked for by a text. -/
  | indexedByText (kind : ValueKind)
  | notAPattern
  | expectedText (kind : ValueKind)
  | joinedNonText (position : Nat) (kind : ValueKind)
  | bytesStart
  /-- A text was asked whether it ends in a value of this kind. -/
  | notAnEnding (kind : ValueKind)
  | notSerializable (kind : ValueKind)
  | notAPath (kind : ValueKind)
  | notANumber (kind : ValueKind)
  /-- A value of this kind was to be written with a fixed number of places. -/
  | notFormattable (kind : ValueKind)
  | notJoinable
  | unexpectedArgument (operation argument : String)
  | cannotCompare (symbol : String) (left right : ValueKind)
  | cannotCombine (symbol : String) (left right : ValueKind)
  | indexOutOfRange
  | moduloByZero
  | unknownSeverity (text : String)
  | unknownFormat (code : Char) (kind : ValueKind)
  | notAnInteger (text : String)
  | overlongNumber
  /-- A whole number was to be read from more digits than the limit allows. -/
  | overlongDigits (count : Nat)
  | excessiveRepetition
  | clashingFlags
  | malformedAddress
  | malformedFutureAddress
  | bracketedAddress
  | notAnAddress (text : String)
  | ambiguousHost (text : String)
  | backslashInField
  | missingKey (key : String)
  | missingFile (path : String)
  | notADirectory (path : String)
  | isADirectory (path : String)
  /-- The ending of a path without a name was to be replaced. -/
  | namelessPath (path : String)
deriving Repr, DecidableEq, Inhabited

namespace Fault

def message : Fault → String
  | malformedSource => ""
  | noMember kind member => "'" ++ kind.word ++ "' object has no attribute '" ++ member ++ "'"
  | notIterable kind => "'" ++ kind.word ++ "' object is not iterable"
  | noContents kind => "argument of type '" ++ kind.word ++ "' is not iterable"
  | notSearchable kind => "'in <string>' requires string as left operand, not " ++ kind.word
  | noLength kind => "object of type '" ++ kind.word ++ "' has no len()"
  | notHashable kind => "unhashable type: '" ++ kind.word ++ "'"
  | noItems kind => "'" ++ kind.word ++ "' object is not subscriptable"
  | indexedByText kind =>
    if kind == .list then "list indices must be integers or slices, not str"
    else "string indices must be integers, not 'str'"
  | noItemAssignment kind => "'" ++ kind.word ++ "' object does not support item assignment"
  | notAPattern => "first argument must be string or compiled pattern"
  | expectedText kind => "expected string or bytes-like object, got '" ++ kind.word ++ "'"
  | joinedNonText position kind =>
    "sequence item " ++ toString position ++ ": expected str instance, " ++ kind.word ++ " found"
  | bytesStart => "startswith first arg must be bytes or a tuple of bytes, not str"
  | notAnEnding kind => "endswith first arg must be str or a tuple of str, not " ++ kind.word
  | notSerializable kind => "Object of type " ++ kind.word ++ " is not JSON serializable"
  | notAPath kind => "expected str, bytes or os.PathLike object, not " ++ kind.word
  | notANumber kind =>
    "int() argument must be a string, a bytes-like object or a real number, not '" ++
    kind.word ++ "'"
  | notFormattable kind => "unsupported format string passed to " ++ kind.word ++ ".__format__"
  | notJoinable => "can only join an iterable"
  | unexpectedArgument operation argument =>
    operation ++ "() got an unexpected keyword argument '" ++ argument ++ "'"
  | cannotCompare symbol left right =>
    "'" ++ symbol ++ "' not supported between instances of '" ++ left.word ++ "' and '" ++
      right.word ++ "'"
  | cannotCombine symbol left right =>
    "unsupported operand type(s) for " ++ symbol ++ ": '" ++ left.word ++ "' and '" ++ right.word ++
      "'"
  | indexOutOfRange => "list index out of range"
  | moduloByZero => "integer modulo by zero"
  | unknownSeverity text => Text.quotedText text ++ " is not a valid Severity"
  | unknownFormat code kind =>
    "Unknown format code '" ++ code.toString ++ "' for object of type '" ++ kind.word ++ "'"
  | notAnInteger text => "invalid literal for int() with base 10: " ++ Text.quotedText text
  | overlongNumber =>
    "Exceeds the limit (4300 digits) for integer string conversion; " ++
      "use sys.set_int_max_str_digits() to increase the limit"
  | overlongDigits count =>
    "Exceeds the limit (4300 digits) for integer string conversion: value has " ++ toString count ++
      " digits; use sys.set_int_max_str_digits() to increase the limit"
  | excessiveRepetition => "the repetition number is too large"
  | clashingFlags => "ASCII and UNICODE flags are incompatible"
  | malformedAddress => "Invalid IPv6 URL"
  | malformedFutureAddress => "IPvFuture address is invalid"
  | bracketedAddress => "An IPv4 address cannot be in brackets"
  | notAnAddress text => Text.quotedText text ++ " does not appear to be an IPv4 or IPv6 address"
  | ambiguousHost text =>
    "netloc '" ++ text ++ "' contains invalid characters under NFKC normalization"
  | backslashInField => "Unable to avoid backslash in f-string expression part"
  | missingKey key => Text.quotedText key
  | missingFile path => "[Errno 2] No such file or directory: " ++ Text.quotedText path
  | notADirectory path => "[Errno 20] Not a directory: " ++ Text.quotedText path
  | isADirectory path => "[Errno 21] Is a directory: " ++ Text.quotedText path
  | namelessPath path => "PosixPath(" ++ Text.quotedText path ++ ") has an empty name"

end Fault

/-- A result, or the cause of there being none. -/
abbrev Outcome := Except Fault

end PrivacyScan
