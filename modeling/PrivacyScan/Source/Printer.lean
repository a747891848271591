import PrivacyScan.Source.Constant

/-!
Expressions as source text, in one spelling for each: blanks around operators, and parentheses only
where the ranks of operators ask for them.
-/

namespace PrivacyScan.Source

open Text

mutual

def Node.depth : Node → Nat
  | .mk _ _ parts => depthOfGroups parts + 1

def depthOfGroups : List (List Node) → Nat
  | [] => 0
  | group :: rest => max (depthOfList group) (depthOfGroups rest)

def depthOfList : List Node → Nat
  | [] => 0
  | node :: rest => max node.depth (depthOfList rest)

end

/-- How tightly an operator binds. An expression stands in parentheses where more is asked than it
has. -/
inductive Rank where
  | named | tuple | yielding | test | or | and | not | compare | bitOr | bitXor | bitAnd | shift
  | sum | term | factor | power | awaiting | atom
deriving Repr, DecidableEq

namespace Rank

def all : List Rank :=
  [named, tuple, yielding, test, or, and, not, compare, bitOr, bitXor, bitAnd, shift, sum, term,
    factor, power, awaiting, atom]

def level (rank : Rank) : Nat := all.idxOf rank

/-- The next tighter rank; nothing is tighter than an atom. -/
def next (rank : Rank) : Rank := all.getD (rank.level + 1) atom

end Rank

def BinaryOperator.symbol : BinaryOperator → String
  | add => "+"
  | sub => "-"
  | mult => "*"
  | matMult => "@"
  | div => "/"
  | mod => "%"
  | pow => "**"
  | leftShift => "<<"
  | rightShift => ">>"
  | bitOr => "|"
  | bitXor => "^"
  | bitAnd => "&"
  | floorDiv => "//"

def BinaryOperator.rank : BinaryOperator → Rank
  | add | sub => .sum
  | mult | matMult | div | mod | floorDiv => .term
  | pow => .power
  | leftShift | rightShift => .shift
  | bitOr => .bitOr
  | bitXor => .bitXor
  | bitAnd => .bitAnd

def CompareOperator.symbol : CompareOperator → String
  | eq => "=="
  | notEq => "!="
  | lt => "<"
  | ltE => "<="
  | gt => ">"
  | gtE => ">="
  | is => "is"
  | isNot => "is not"
  | isIn => "in"
  | notIn => "not in"

def Conversion.letter : Conversion → String
  | plain => ""
  | ofStr => "!s"
  | ofRepr => "!r"
  | ofAscii => "!a"

/-- A fractional number; one beyond all numbers is written so that it reads as such again. -/
def floatSource (value : Float) : String :=
  replace (replace (Number.floatText value) "inf" "1e309") "nan" "(1e309-1e309)"

def imaginarySource (value : Float) : String :=
  replace (replace (Constant.imaginaryText value) "inf" "1e309") "nan" "(1e309-1e309)"

def constantSource : Constant → String
  | .none => "None"
  | .bool true => "True"
  | .bool false => "False"
  | .int value => toString value
  | .float value => floatSource value
  | .imaginary value => imaginarySource value
  | .text value => quotedText value
  | .bytes value => quotedBytes value
  | .ellipsis => "..."

def allQuotes : List String := ["'", "\"", "\"\"\"", "'''"]

/-- What a quoting puts between quotes, and the quotes that suit it. A line end or tab may stay as
it is, and then needs quotes that can hold it. When no quotes suit, everything is escaped. -/
def quotable (text : String) (quotes : List String) (escapesBlanks : Bool) : String × List String :=
  let shown (c : Char) : List Char :=
    if !escapesBlanks && (c == '\n' || c == '\t') then [c] else shownChar c
  let escaped := String.ofList (text.toList.flatMap shown)
  let wide := if contains escaped "\n" then quotes.filter (3 ≤ length ·) else quotes
  let suitable := wide.filter fun quote => !contains escaped quote
  match suitable with
  | [] =>
    let literal := quotedList text.toList
    let mark := literal.headD '\''
    let quote := (quotes.find? fun quote => quote.toList.contains mark).getD mark.toString
    (String.ofList ((literal.drop 1).dropLast), [quote])
  | _ =>
    match escaped.toList.getLast? with
    | none => (escaped, suitable)
    | some last =>
      let clashes (quote : String) := quote.toList.head? == some last
      let ordered := suitable.filter (!clashes ·) ++ suitable.filter clashes
      if ordered.head?.any clashes then
        (String.ofList (escaped.toList.dropLast ++ ['\\', last]), ordered)
      else (escaped, ordered)

/-- A text without backslashes where that can be done. -/
def plainestLiteral (text : String) : String :=
  let (inner, quotes) := quotable text allQuotes false
  let quote := quotes.headD ""
  quote ++ inner ++ quote

/-- The parts of a formatted text with the quotes that suit all of them. A part marked `true` is
plain, and may have its blanks escaped. -/
def quoteParts (parts : List (String × Bool)) : Option (String × String) :=
  let step (state : Option (List String × List String)) (part : String × Bool) :=
    state.bind fun (done, quotes) =>
      let (inner, suitable) := quotable part.1 quotes part.2
      if suitable.any quotes.contains then some (done ++ [inner], suitable) else none
  (parts.foldl step (some ([], allQuotes))).map fun (done, quotes) =>
    (join "" done, quotes.headD "")

/-- A formatted text between quotes; three single ones and escapes when nothing else suits. -/
def formattedLiteral (parts : List (String × Bool)) : String :=
  match quoteParts parts with
  | some (inner, quote) => quote ++ inner ++ quote
  | none =>
    let escaped (text : String) : String :=
      String.ofList (((quotedList ('"' :: text.toList)).drop 2).dropLast)
    "'''" ++ join "" (parts.map fun part => escaped part.1) ++ "'''"

def isConstant : Node → Bool
  | .constant .. => true
  | _ => false

/-- Items with commas between them; a single one has a comma of its own. -/
def tupleItems : List String → String
  | [item] => item ++ ","
  | items => join ", " items

def inParentheses (needed : Bool) (text : String) : String :=
  if needed then "(" ++ text ++ ")" else text

/-- How expressions further in are printed: with or without backslashes in texts, and where at least
a rank is asked for. -/
abbrev Printing := (plain : Bool) → Rank → Node → Outcome String

def doubledBraces (text : String) : String :=
  replace (replace text "\x7b" "\x7b\x7b") "\x7d" "\x7d\x7d"

/-- The source of a part of a formatted text, before quoting: nested to the depth of its format
specifications. -/
def fieldSource (print : Printing) : (depth : Nat) → Node → Outcome String
  | 0, _ => .ok ""
  | depth + 1, node =>
    match node with
    | .joinedText _ values => do return join "" (← values.mapM (fieldSource print depth))
    | .constant _ (.text value) _ => .ok (doubledBraces value)
    | .formattedValue _ conversion value formatSpec => do
      let inner ← print true .or value
      if contains inner "\\" then throw .backslashInField
      let blank := if startsWith inner "\x7b" then " " else ""
      let specification ← formatSpec.mapM (fieldSource print depth)
      let shown := specification.map (":" ++ ·)
      return "\x7b" ++ blank ++ inner ++ conversion.letter ++ join "" shown ++ "\x7d"
    | _ => .ok ""

variable (print : Printing) (plain : Bool)

def joinedSource (depth : Nat) (values : List Node) : Outcome String := do
  let sources ← values.mapM (fieldSource print depth)
  if plain then return "f" ++ plainestLiteral (join "" sources)
  return "f" ++ formattedLiteral (sources.zip (values.map isConstant))

def comprehensionSource : Node → Outcome String
  | .comprehension isAsync target iterable conditions => do
    let start := if isAsync then " async for " else " for "
    let target ← print plain .tuple target
    let iterable ← print plain .or iterable
    let conditions ← conditions.mapM (print plain .or)
    return start ++ target ++ " in " ++ iterable ++ join "" (conditions.map (" if " ++ ·))
  | _ => .ok ""

def comprehended (element : String) (generators : List Node) : Outcome String := do
  let clauses ← generators.mapM (comprehensionSource print plain)
  return element ++ join "" clauses

def parameterSource : Node → Outcome String
  | .parameter _ id hint => do
    let hint ← hint.mapM (print plain .test)
    return id ++ join "" (hint.map (": " ++ ·))
  | _ => .ok ""

def parametersSource : Node → Outcome String
  | .parameters positionalOnly ordinary rest keywordOnly keywordDefaults keywordRest defaults => do
    let positional := positionalOnly ++ ordinary
    let absentCount := positional.length - defaults.length
    let defaultOf (node : Node) : Outcome String := do
      if node.isAbsent then return ""
      return "=" ++ (← print plain .test node)
    let withDefault (pair : Node × Node) : Outcome String := do
      let parameter ← parameterSource print plain pair.1
      return parameter ++ (← defaultOf pair.2)
    let defaults := List.replicate absentCount Node.absent ++ defaults
    let shown ← (positional.zip defaults).mapM withDefault
    let slash := if positionalOnly.isEmpty then [] else ["/"]
    let shown := shown.take positionalOnly.length ++ slash ++ shown.drop positionalOnly.length
    let restShown ← rest.mapM (parameterSource print plain)
    let star :=
      if rest.isEmpty then (if keywordOnly.isEmpty then [] else ["*"]) else restShown.map ("*" ++ ·)
    let keywordShown ← (keywordOnly.zip keywordDefaults).mapM withDefault
    let keywordRestShown ← keywordRest.mapM (parameterSource print plain)
    return join ", " (shown ++ star ++ keywordShown ++ keywordRestShown.map ("**" ++ ·))
  | _ => .ok ""

def keywordSource : Node → Outcome String
  | .keyword _ id value => do
    let value ← print plain .test value
    return (match id with | some id => id ++ "=" | none => "**") ++ value
  | _ => .ok ""

def isIntConstant : Node → Bool
  | .constant _ (.int _) _ | .constant _ (.bool _) _ => true
  | _ => false

/-- Each operand of `and` and `or` binds tighter than the one before it. -/
def boolOperands : Rank → List Node → Outcome (List String)
  | _, [] => .ok []
  | rank, value :: rest => do
    let first ← print plain rank.next value
    let others ← boolOperands rank.next rest
    return first :: others

/-- One level of an expression; `print` prints the levels further in. -/
def expressionSource (rank : Rank) (node : Node) : Outcome String :=
  let wrap (own : Rank) (text : String) := inParentheses (decide (own.level < rank.level)) text
  let inner := print plain
  match node with
  | .named _ target value => do
    return wrap .named ((← inner .atom target) ++ " := " ++ (← inner .atom value))
  | .awaiting _ value => do return wrap .awaiting ("await " ++ (← inner .atom value))
  | .yielding _ value => do
    let value ← value.mapM (inner .atom)
    return wrap .yielding ("yield" ++ join "" (value.map (" " ++ ·)))
  | .yieldingFrom _ value => do return wrap .yielding ("yield from " ++ (← inner .atom value))
  | .joinedText _ values => joinedSource print plain node.depth values
  | .formattedValue .. => do return (← fieldSource print node.depth node)
  | .name _ id => .ok id
  | .constant _ content isMarked =>
    let mark := if isMarked then "u" else ""
    match content with
    | .text value => .ok (mark ++ if plain then plainestLiteral value else quotedText value)
    | content => .ok (mark ++ constantSource content)
  | .list _ elements => do return "[" ++ join ", " (← elements.mapM (inner .test)) ++ "]"
  | .listComp _ element generators => do
    return "[" ++ (← comprehended print plain (← inner .test element) generators) ++ "]"
  | .generator _ element generators => do
    return "(" ++ (← comprehended print plain (← inner .test element) generators) ++ ")"
  | .setComp _ element generators => do
    return "\x7b" ++ (← comprehended print plain (← inner .test element) generators) ++ "\x7d"
  | .dictComp _ key value generators => do
    let key ← inner .test key
    let value ← inner .test value
    return "\x7b" ++ (← comprehended print plain (key ++ ": " ++ value) generators) ++ "\x7d"
  | .conditional _ test body orElse => do
    let body ← inner .or body
    let test ← inner .or test
    let orElse ← inner .test orElse
    return wrap .test (body ++ " if " ++ test ++ " else " ++ orElse)
  | .set _ elements => do
    return "\x7b" ++ join ", " (← elements.mapM (inner .test)) ++ "\x7d"
  | .dict _ keys values => do
    let entries ← (keys.zip values).mapM fun (key, value) => do
      if key.isAbsent then return "**" ++ (← inner .bitOr value)
      let key ← inner .test key
      return key ++ ": " ++ (← inner .test value)
    return "\x7b" ++ join ", " entries ++ "\x7d"
  | .tuple _ elements => do
    let items ← elements.mapM (inner .test)
    return inParentheses (elements.isEmpty || decide (Rank.tuple.level < rank.level))
      (tupleItems items)
  | .unaryOp _ operator operand =>
    match operator with
    | .not => do return wrap .not ("not " ++ (← inner .not operand))
    | .invert => do return wrap .factor ("~" ++ (← inner .factor operand))
    | .plus => do return wrap .factor ("+" ++ (← inner .factor operand))
    | .minus => do return wrap .factor ("-" ++ (← inner .factor operand))
  | .binOp _ operator left right => do
    let own := operator.rank
    let joinsRight := operator == .pow
    let left ← inner (if joinsRight then own.next else own) left
    let right ← inner (if joinsRight then own else own.next) right
    return wrap own (left ++ " " ++ operator.symbol ++ " " ++ right)
  | .compare _ operators left comparators => do
    let left ← inner .bitOr left
    let rest ← (operators.zip comparators).mapM fun (operator, comparator) => do
      return " " ++ operator.symbol ++ " " ++ (← inner .bitOr comparator)
    return wrap .compare (left ++ join "" rest)
  | .boolOp _ operator values => do
    let own : Rank := match operator with | .and => .and | .or => .or
    let word := match operator with | .and => " and " | .or => " or "
    return wrap own (join word (← boolOperands print plain own values))
  | .member _ id value => do
    let blank := if isIntConstant value then " " else ""
    return (← inner .atom value) ++ blank ++ "." ++ id
  | .call _ function inputs keywords => do
    let function ← inner .atom function
    let inputs ← inputs.mapM (inner .test)
    let keywords ← keywords.mapM (keywordSource print plain)
    return function ++ "(" ++ join ", " (inputs ++ keywords) ++ ")"
  | .subscript _ value index => do
    let value ← inner .atom value
    let index ←
      match index with
      | .tuple _ (first :: rest) => do
        pure (tupleItems (← (first :: rest).mapM (inner .test)))
      | index => inner .test index
    return value ++ "[" ++ index ++ "]"
  | .starred _ value => do return "*" ++ (← inner .bitOr value)
  | .slice _ lower upper step => do
    let lower ← lower.mapM (inner .test)
    let upper ← upper.mapM (inner .test)
    let step ← step.mapM (inner .test)
    return join "" lower ++ ":" ++ join "" upper ++ join "" (step.map (":" ++ ·))
  | .lambda _ inputs body => do
    let inputs ← parametersSource print plain inputs
    let blank := if inputs.isEmpty then "" else " "
    let body ← inner .test body
    return wrap .test ("lambda" ++ blank ++ inputs ++ ": " ++ body)
  | _ => .ok ""

def expressionSourceAt : (depth : Nat) → Printing
  | 0 => fun _ _ _ => .ok ""
  | depth + 1 => fun plain rank node => expressionSource (expressionSourceAt depth) plain rank node

def Node.source (node : Node) : Outcome String :=
  expressionSourceAt (node.depth + 1) false .test node

/-- A text for the simplest expressions: names, members, calls, subscripts, sums and lists; any
other has none. -/
def roughSource : (depth : Nat) → Node → String
  | 0, _ => ""
  | depth + 1, node =>
    let inner := roughSource depth
    match node with
    | .name _ id => id
    | .constant _ content _ => content.shown
    | .member _ id value => inner value ++ "." ++ id
    | .call _ function inputs _ => inner function ++ "(" ++ join ", " (inputs.map inner) ++ ")"
    | .subscript _ value index => inner value ++ "[" ++ inner index ++ "]"
    | .binOp _ operator left right =>
      let symbol := if operator == .bitOr then "|" else "+"
      inner left ++ " " ++ symbol ++ " " ++ inner right
    | .list _ elements => "[" ++ join ", " (elements.map inner) ++ "]"
    | .tuple _ elements => "(" ++ join ", " (elements.map inner) ++ ")"
    | _ => ""

def Node.roughSource (node : Node) : String := Source.roughSource (node.depth + 1) node

end PrivacyScan.Source
