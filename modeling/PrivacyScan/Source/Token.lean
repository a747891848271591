import PrivacyScan.Text.Normal
import PrivacyScan.Text.Search

/-!
Tokens of Python source: names, keywords, literals and operators, with the line ends and changes of
indentation that structure a module.
-/

namespace PrivacyScan.Source

open Text

inductive TokenKind where
  | name
  | keyword
  | number
  | text
  | operator
  | newline
  | indent
  | dedent
  | endOfInput
deriving Repr, DecidableEq

structure Token where
  kind : TokenKind
  text : String
  line : Nat
  /-- The offset in bytes from the start of the line. -/
  column : Nat
  endLine : Nat
deriving Repr, DecidableEq

def Token.is (token : Token) (kind : TokenKind) (text : String) : Bool :=
  token.kind == kind && token.text == text

def keywords : List String :=
  ["False", "None", "True", "and", "as", "assert", "async", "await", "break", "class", "continue",
    "def", "del", "elif", "else", "except", "finally", "for", "from", "global", "if",
    "import", "in",
    "is", "lambda", "nonlocal", "not", "or", "pass", "raise", "return", "try", "while", "with",
    "yield"]

def operators3 : List (List Char) := ["**=", "//=", ">>=", "<<=", "..."].map String.toList

def operators2 : List (List Char) :=
  ["!=", "%=", "&=", "**", "*=", "+=", "-=", "->", "//", "/=", ":=", "<<", "<=", "==", ">=", ">>",
    "@=", "^=", "|="].map String.toList

def operators1 : List Char := "%&()*+,-./:;<=>@[]^\x7b|\x7d~".toList

/-- What has been read so far: the rest of the text, where it starts, the widths of the enclosing
blocks (with tabs up to the next eighth column, and with tabs as single columns), the open brackets
and the tokens, last first. -/
structure Scan where
  rest : List Char
  line : Nat
  column : Nat := 0
  atLineStart : Bool := true
  indents : List (Nat × Nat) := []
  brackets : List Char := []
  tokens : List Token := []

namespace Scan

def moveOver (scan : Scan) (taken : List Char) : Scan :=
  taken.foldl (fun scan c =>
    let rest := scan.rest.drop 1
    if c == '\n' then { scan with rest, line := scan.line + 1, column := 0 }
    else { scan with rest, column := scan.column + c.utf8Size }) scan

def push (scan : Scan) (kind : TokenKind) (text : String) (start : Scan) : Scan :=
  { scan with
    tokens :=
      { kind, text, line := start.line, column := start.column, endLine := scan.line }
        :: scan.tokens }

def take (scan : Scan) (kind : TokenKind) (taken : List Char) : Scan :=
  (scan.moveOver taken).push kind (String.ofList taken) scan

end Scan

def isNameChar (c : Char) : Bool := c.isAlphanum || c == '_' || !isAscii c

/-- Digits with single underscores between them; the flag tells whether a digit came before. -/
def takeDigits (isDigit : Char → Bool) (afterDigit : Bool) :
    List Char → Option (List Char × List Char)
  | [] => some ([], [])
  | '_' :: c :: rest =>
    if afterDigit then
      if isDigit c then (takeDigits isDigit true rest).map fun (taken, rest) =>
        ('_' :: c :: taken, rest)
      else none
    else some ([], '_' :: c :: rest)
  | c :: rest =>
    if isDigit c then (takeDigits isDigit true rest).map fun (taken, rest) => (c :: taken, rest)
    else if c == '_' && afterDigit then none
    else some ([], c :: rest)

/-- A number may be followed by a keyword that starts right behind it, but by no other name. -/
def endsNumber (rest : List Char) : Bool :=
  match rest with
  | [] => true
  | c :: _ =>
    !isNameChar c
      || ["and", "else", "for", "if", "in", "is", "or", "not"].any fun word =>
        word.toList.isPrefixOf rest

/-- A number in base 16, 8 or 2 after its two letters: at least one digit, an underscore may come
first. -/
def takeBased (isDigit : Char → Bool) (text : List Char) : Option (List Char × List Char) :=
  let (lead, text) :=
    match text with
    | '_' :: rest => (['_'], rest)
    | _ => ([], text)
  match takeDigits isDigit false text with
  | some (c :: taken, rest) =>
    if endsNumber rest && !rest.head?.any Char.isDigit then some (lead ++ c :: taken, rest)
      else none
  | _ => none

def isHexadecimal (c : Char) : Bool := (hexDigit? c).isSome

def takeExponent (text : List Char) : Option (List Char × List Char) :=
  match text with
  | e :: sign :: rest =>
    if e == 'e' || e == 'E' then
      if sign == '+' || sign == '-' then
        match takeDigits Char.isDigit false rest with
        | some (c :: digits, rest) => some (e :: sign :: c :: digits, rest)
        | _ => none
      else
        match takeDigits Char.isDigit false (sign :: rest) with
        | some (c :: digits, rest) => some (e :: c :: digits, rest)
        | some ([], _) => if endsNumber text then some ([], text) else none
        | none => none
    else some ([], text)
  | _ => some ([], text)

def takeFraction (text : List Char) : Option (List Char × List Char) :=
  match text with
  | '.' :: rest =>
    (takeDigits Char.isDigit false rest).map fun (digits, rest) => ('.' :: digits, rest)
  | _ => some ([], text)

/-- A decimal number. A whole number that is not zero does not start with a zero. -/
def takeDecimal (text : List Char) : Option (List Char × List Char) := do
  let (whole, rest) ← takeDigits Char.isDigit false text
  let (fraction, rest) ← takeFraction rest
  let (exponent, rest) ← takeExponent rest
  let (unit, rest) :=
    match rest with
    | c :: after => if c == 'j' || c == 'J' then ([c], after) else ([], rest)
    | [] => ([], rest)
  let plain := fraction.isEmpty && exponent.isEmpty && unit.isEmpty
  if plain && whole.head? == some '0' && whole.any fun c => c != '0' && c != '_' then none
  else if endsNumber rest then some (whole ++ fraction ++ exponent ++ unit, rest)
  else none

def takeNumber (text : List Char) : Option (List Char × List Char) :=
  match text with
  | '0' :: mark :: rest =>
    let based (isDigit : Char → Bool) :=
      (takeBased isDigit rest).map fun (taken, rest) => ('0' :: mark :: taken, rest)
    match mark with
    | 'x' | 'X' => based isHexadecimal
    | 'o' | 'O' => based fun c => decide ('0' ≤ c) && decide (c ≤ '7')
    | 'b' | 'B' => based fun c => c == '0' || c == '1'
    | _ => takeDecimal text
  | _ => takeDecimal text

/-- The rest of a quoted text after its opening quotes: up to `size` closing quotes in a row, of
which `seen` have just been passed. A text in single quotes ends on its line, unless the line end is
escaped. -/
def takeQuoted (quote : Char) (size : Nat) (seen : Nat) : List Char → Option (List Char × List Char)
  | [] => none
  | '\\' :: c :: rest =>
    (takeQuoted quote size 0 rest).map fun (taken, rest) => ('\\' :: c :: taken, rest)
  | c :: rest =>
    if c == quote then
      if seen + 1 == size then some ([c], rest)
      else (takeQuoted quote size (seen + 1) rest).map fun (taken, rest) => (c :: taken, rest)
    else if c == '\n' && size == 1 then none
    else (takeQuoted quote size 0 rest).map fun (taken, rest) => (c :: taken, rest)

/-- A text literal from its first quote on. -/
def takeText (text : List Char) : Option (List Char × List Char) :=
  match text with
  | quote :: rest =>
    match rest with
    | second :: third :: inner =>
      if second == quote && third == quote then
        (takeQuoted quote 3 0 inner).map fun (taken, rest) =>
          (quote :: quote :: quote :: taken, rest)
      else if second == quote then some ([quote, quote], third :: inner)
      else (takeQuoted quote 1 0 rest).map fun (taken, rest) => (quote :: taken, rest)
    | [second] => if second == quote then some ([quote, quote], []) else none
    | [] => none
  | [] => none

/-- The letters that may stand before a text literal, in lower case. -/
def textMarks : List (List Char) :=
  ["b", "u", "r", "f", "br", "rb", "fr", "rf"].map String.toList

/-- The number of letters before a quote when they mark a text literal. -/
def textMarkLength? (text : List Char) : Option Nat :=
  let isQuote (c : Char) := c == '\'' || c == '"'
  match text with
  | c :: rest =>
    if isQuote c then some 0
    else
      match rest with
      | d :: rest =>
        if isQuote d then (if textMarks.contains [c.toLower] then some 1 else none)
        else
          match rest with
          | e :: _ =>
            if isQuote e && textMarks.contains [c.toLower, d.toLower] then some 2 else none
          | [] => none
      | [] => none
  | [] => none

def isIdentifierList : List Char → Bool
  | [] => false
  | c :: rest => isIdentifierStart c && rest.all isIdentifierContinue

/-- The columns of the blanks that start a line, where a backslash joins the next line. The result
is the width, the width with tabs as single columns, and what was passed over. -/
def measureIndent (width flatWidth : Nat) (joined : Option Nat) :
    List Char → Option (Nat × Nat × List Char)
  | ' ' :: rest =>
    (measureIndent (width + 1) (flatWidth + 1) joined rest).map fun (w, f, taken) =>
      (w, f, ' ' :: taken)
  | '\t' :: rest =>
    (measureIndent ((width / 8 + 1) * 8) (flatWidth + 1) joined rest).map fun (w, f, taken) =>
      (w, f, '\t' :: taken)
  | '\\' :: '\n' :: rest =>
    if rest.isEmpty then none
    else
      let joined := if joined.getD 0 == 0 then some width else joined
      (measureIndent width flatWidth joined rest).map fun (w, f, taken) =>
        (w, f, '\\' :: '\n' :: taken)
  | c :: rest =>
    if c.toNat == 12 then
      (measureIndent 0 0 joined rest).map fun (w, f, taken) => (w, f, c :: taken)
    else
      match joined with
      | some (k + 1) => some (k + 1, k + 1, [])
      | _ => some (width, flatWidth, [])
  | [] =>
    match joined with
    | some (k + 1) => some (k + 1, k + 1, [])
    | _ => some (width, flatWidth, [])

namespace Scan

def dedentTo (width flatWidth : Nat) (scan : Scan) : List (Nat × Nat) → Option Scan
  | (w, f) :: outer =>
    if width < w then dedentTo width flatWidth (scan.push .dedent "" scan) outer
    else if width == w && flatWidth == f then some { scan with indents := (w, f) :: outer }
    else none
  | [] => if width == 0 && flatWidth == 0 then some { scan with indents := [] } else none

/-- Compares the width of a new line with the innermost block. Both ways to count tabs must agree on
the outcome. -/
def indentTo (width flatWidth : Nat) (scan : Scan) : Option Scan :=
  let (w, f) := scan.indents.head?.getD (0, 0)
  if width == w then if flatWidth == f then some scan else none
  else if w < width then
    if f < flatWidth && scan.indents.length + 1 < 100 then
      some ({ scan with indents := (width, flatWidth) :: scan.indents }.push .indent "" scan)
    else none
  else dedentTo width flatWidth scan scan.indents

/-- Start of a line: blank lines and lines with only a comment count for nothing. -/
def startLine (scan : Scan) : Option Scan := do
  let (width, flatWidth, taken) ← measureIndent 0 0 none scan.rest
  let scan := scan.moveOver taken
  match scan.rest with
  | '\n' :: _ => some (scan.moveOver ['\n'])
  | '#' :: _ => some (scan.moveOver (scan.rest.takeWhile (· != '\n') ++ ['\n']))
  | _ =>
    let scan := { scan with atLineStart := false }
    if scan.brackets.isEmpty then scan.indentTo width flatWidth else some scan

def closes (opening closing : Char) : Bool :=
  (opening == '(' && closing == ')') || (opening == '[' && closing == ']')
    || (opening == '\x7b' && closing == '\x7d')

def bracket (scan : Scan) (c : Char) : Option Scan :=
  if c == '(' || c == '[' || c == '\x7b' then
    if scan.brackets.length < 200 then some { scan with brackets := c :: scan.brackets } else none
  else if c == ')' || c == ']' || c == '\x7d' then
    match scan.brackets with
    | opening :: outer => if closes opening c then some { scan with brackets := outer } else none
    | [] => none
  else some scan

def takeOperator (scan : Scan) : Option Scan :=
  let three := scan.rest.take 3
  let two := scan.rest.take 2
  if operators3.contains three then some (scan.take .operator three)
  else if operators2.contains two then some (scan.take .operator two)
  else
    match scan.rest with
    | c :: _ => if operators1.contains c then (scan.bracket c).map (·.take .operator [c]) else none
    | [] => none

def takeName (scan : Scan) : Option Scan :=
  let taken := scan.rest.takeWhile isNameChar
  if !isIdentifierList taken then none
  else
    let word := String.ofList taken
    if keywords.contains word then some (scan.take .keyword taken)
    else some ((scan.moveOver taken).push .name (normalize word) scan)

def step (scan : Scan) : Option Scan :=
  match scan.rest with
  | [] => none
  | c :: rest =>
    if c == ' ' || c == '\t' || c.toNat == 12 then some (scan.moveOver [c])
    else if c == '#' then some (scan.moveOver (scan.rest.takeWhile (· != '\n')))
    else if c == '\n' then
      let after := { scan.moveOver ['\n'] with atLineStart := true }
      if scan.brackets.isEmpty then
        some { after with
          tokens :=
            { kind := .newline, text := "", line := scan.line, column := scan.column,
              endLine := scan.line } :: after.tokens }
      else some after
    else if c == '\\' then
      match rest with
      | '\n' :: next :: _ => let _ := next; some (scan.moveOver ['\\', '\n'])
      | _ => none
    else
      match textMarkLength? scan.rest with
      | some count =>
        (takeText (scan.rest.drop count)).map fun (taken, _) =>
          scan.take .text (scan.rest.take count ++ taken)
      | none =>
        if c.isDigit || (c == '.' && rest.head?.any Char.isDigit) then
          (takeNumber scan.rest).map fun (taken, _) => scan.take .number taken
        else if isNameChar c then scan.takeName
        else scan.takeOperator

/-- Reads to the end; every step moves on, so `fuel` is not used up. -/
def run : (fuel : Nat) → Scan → Option (List Token)
  | 0, _ => none
  | fuel + 1, scan =>
    if scan.rest.isEmpty then
      if scan.brackets.isEmpty then
        (dedentTo 0 0 scan scan.indents).map fun scan =>
          (scan.push .endOfInput "" scan).tokens.reverse
      else none
    else
      match (if scan.atLineStart then scan.startLine else scan.step) with
      | some next => run fuel next
      | none => none

end Scan

/-- The tokens of a text whose first line has the given number. A text that does not end its last
line is read as if it did. Characters that end a line elsewhere are not line ends here. -/
def tokens? (text : List Char) (line column : Nat) : Option (List Token) :=
  let text := unifyLineEnds text
  let text := if text.isEmpty || text.getLast? == some '\n' then text else text ++ ['\n']
  if text.contains '\x00' then none
  else Scan.run (2 * text.length + 4) { rest := text, line, column }

end PrivacyScan.Source
