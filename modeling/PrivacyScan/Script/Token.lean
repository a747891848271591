import PrivacyScan.Pattern.Parser

/-!
Tokens of ECMAScript source. What a slash or a closing brace begins depends on the place, so tokens
are read one at a time: `lex` for the ordinary ones, `lexPattern` where a slash begins a pattern.
-/

namespace PrivacyScan.Script

open Text

inductive TokenKind where
  | boolean
  | null
  | keyword
  | identifier
  | number
  | text
  | punctuator
  | template
  | pattern
  | endOfInput
deriving Repr, DecidableEq

structure Token where
  kind : TokenKind
  /-- The spelling; of a name the name it stands for, of a text its value. -/
  value : String
  /-- What a text has between its quotes, as it is written. -/
  raw : String := ""
  /-- The line on which the token starts. -/
  startLine : Nat
  /-- The line on which the token ends. -/
  line : Nat
  /-- A number or text with an octal escape of the old kind. -/
  isOctal : Bool := false
  isHead : Bool := false
  isTail : Bool := false
deriving Repr

def Token.is (token : Token) (kind : TokenKind) (value : String) : Bool :=
  token.kind == kind && token.value == value

/-- The rest of the source, its line, and the open braces, innermost first: `true` for one that
opens a template's substitution. -/
structure Scanner where
  rest : List Char
  line : Nat := 1
  braces : List Bool := []
  atStart : Bool := true
deriving Repr

def isLineTerminator (c : Char) : Bool :=
  c == '\n' || c == '\r' || c.toNat == 0x2028 || c.toNat == 0x2029

def isBlank (c : Char) : Bool :=
  [0x09, 0x0B, 0x0C, 0x20, 0xA0, 0x1680, 0x180E, 0x202F, 0x205F, 0x3000, 0xFEFF].contains c.toNat ||
    decide (0x2000 ≤ c.toNat ∧ c.toNat ≤ 0x200A)

def isLetterLike (c : Char) : Bool :=
  (category c).isLetter || category c == .letterNumber

/-- A backslash starts an escaped character of a name. -/
def isNameStart (c : Char) : Bool := c == '$' || c == '_' || c == '\\' || isLetterLike c

def isNamePart (c : Char) : Bool :=
  isNameStart c || c.toNat == 0x200C || c.toNat == 0x200D ||
    [.mark, .spacing, .digit, .connector].contains (category c)

inductive BlankMode where
  | code
  | lineComment
  | blockComment
deriving DecidableEq

/-- Passes blanks and comments; an open comment is refused. `-->` begins a comment where nothing but
blanks stands before it on its line. -/
def skipBlanks : (mode : BlankMode) → (fresh : Bool) → (line : Nat) → List Char →
    Option (List Char × Nat)
  | .blockComment, _, _, [] => none
  | _, _, line, [] => some ([], line)
  | .blockComment, fresh, line, c :: rest =>
    match c, rest with
    | '*', '/' :: after => skipBlanks .code fresh line after
    | '\r', '\n' :: after => skipBlanks .blockComment fresh (line + 1) after
    | c, rest => skipBlanks .blockComment fresh (if isLineTerminator c then line + 1 else line) rest
  | .lineComment, fresh, line, c :: rest =>
    match c, rest with
    | '\r', '\n' :: after => skipBlanks .code fresh (line + 1) after
    | c, rest =>
      if isLineTerminator c then skipBlanks .code fresh (line + 1) rest
      else skipBlanks .lineComment fresh line rest
  | .code, fresh, line, c :: rest =>
    match c, rest with
    | '\r', '\n' :: after => skipBlanks .code true (line + 1) after
    | '/', '/' :: after => skipBlanks .lineComment true line after
    | '/', '*' :: after => skipBlanks .blockComment fresh line after
    | '-', '-' :: '>' :: after =>
      if fresh then skipBlanks .lineComment fresh line after else some (c :: rest, line)
    | '<', '!' :: '-' :: '-' :: after => skipBlanks .lineComment fresh line after
    | c, rest =>
      if isBlank c then skipBlanks .code fresh line rest
      else if isLineTerminator c then skipBlanks .code true (line + 1) rest
      else some (c :: rest, line)

def isHex (c : Char) : Bool := (hexDigit? c).isSome

def hexEscape? (count : Nat) (input : List Char) : Option (Char × List Char) :=
  let digits := input.take count
  if digits.length == count && digits.all isHex then
    some (Char.ofNat (hexNumber digits), input.drop count)
  else none

def bracedEscape? (input : List Char) : Option (Char × List Char) :=
  let digits := input.takeWhile isHex
  match input.drop digits.length with
  | '\x7d' :: rest =>
    let code := hexNumber digits
    if digits.isEmpty || 0x10FFFF < code then none else some (Char.ofNat code, rest)
  | _ => none

/-- The characters of a name, and whether one was written as an escape. -/
def takeName : (fuel : Nat) → (isFirst : Bool) → List Char → Option (List Char × Bool × List Char)
  | 0, _, _ => none
  | _, _, [] => some ([], false, [])
  | fuel + 1, isFirst, c :: rest =>
    if c == '\\' then
      match rest with
      | 'u' :: '\x7b' :: digits => do
        let (escaped, rest) ← bracedEscape? digits
        let (name, _, rest) ← takeName fuel false rest
        return (escaped :: name, true, rest)
      | 'u' :: digits => do
        let (escaped, rest) ← hexEscape? 4 digits
        let fits := if isFirst then isNameStart escaped else isNamePart escaped
        if escaped == '\\' || !fits then none
        else
          let (name, _, rest) ← takeName fuel false rest
          return (escaped :: name, true, rest)
      | _ => none
    else if isNamePart c then do
      let (name, hasEscape, rest) ← takeName fuel false rest
      return (c :: name, hasEscape, rest)
    else some ([], false, c :: rest)

def keywords : List String :=
  ["if", "in", "do", "var", "for", "new", "try", "let", "this", "else", "case", "void", "with",
    "enum", "while", "break", "catch", "throw", "const", "yield", "class", "super", "return",
    "typeof", "delete", "switch", "export", "import", "default", "finally", "extends", "function",
    "continue", "debugger", "instanceof"]

def strictWords : List String :=
  ["implements", "interface", "package", "private", "protected", "public", "static", "yield", "let"]

/-- Names that strict code does not let be bound. -/
def restrictedWords : List String := ["eval", "arguments"]

def nameKind (name : String) : TokenKind :=
  if keywords.contains name then .keyword
  else if name == "null" then .null
  else if name == "true" || name == "false" then .boolean
  else .identifier

def Scanner.token (scanner : Scanner) (kind : TokenKind) (value : String) (rest : List Char) :
    Token × Scanner :=
  ({ kind, value, startLine := scanner.line, line := scanner.line },
    { scanner with rest, atStart := false })

def lexName (bound : Nat) (scanner : Scanner) : Option (Token × Scanner) := do
  let (name, hasEscape, rest) ← takeName (bound + 1) true scanner.rest
  let name := String.ofList name
  let kind := nameKind name
  if hasEscape && kind != .identifier then none
  else return scanner.token kind name rest

def punctuators : List (List Char) :=
  [">>>=", "===", "!==", ">>>", "<<=", ">>=", "**=", "...", "&&", "||", "==", "!=",
    "+=", "-=", "*=",
    "/=", "++", "--", "<<", ">>", "&=", "|=", "^=", "%=", "<=", ">=", "=>", "**", "(", ")", "\x7b",
    "\x7d", ".", ";", ",", "[", "]", ":", "?", "~", "<", ">", "=", "!", "+", "-", "*",
    "%", "&", "|", "^", "/"].map String.toList

def lexPunctuator (scanner : Scanner) : Option (Token × Scanner) := do
  let spelling ← punctuators.find? (·.isPrefixOf scanner.rest)
  let (token, after) :=
    scanner.token .punctuator (String.ofList spelling) (scanner.rest.drop spelling.length)
  match spelling with
  | ['\x7b'] => return (token, { after with braces := false :: after.braces })
  | ['\x7d'] => return (token, { after with braces := after.braces.drop 1 })
  | _ => return (token, after)

def isOctalDigit (c : Char) : Bool := decide ('0' ≤ c) && decide (c ≤ '7')

/-- No name and, if `noDigit`, no digit may follow a number directly. -/
def endsNumber (noDigit : Bool) : List Char → Bool
  | [] => true
  | c :: _ => !isNameStart c && !(noDigit && c.isDigit)

def lexDigits (scanner : Scanner) (isDigit : Char → Bool) (noDigit : Bool) :
    Option (Token × Scanner) :=
  let digits := (scanner.rest.drop 2).takeWhile isDigit
  let rest := scanner.rest.drop (2 + digits.length)
  if digits.isEmpty || !endsNumber noDigit rest then none
  else some (scanner.token .number "" rest)

def lexDecimal (scanner : Scanner) : Option (Token × Scanner) :=
  let whole := scanner.rest.takeWhile Char.isDigit
  let rest := scanner.rest.drop whole.length
  let rest :=
    match rest with
    | '.' :: after => after.dropWhile Char.isDigit
    | _ => rest
  let exponent? : Option (List Char) :=
    match rest with
    | c :: after =>
      if c == 'e' || c == 'E' then
        let digits :=
          match after with
          | sign :: digits => if sign == '+' || sign == '-' then digits else after
          | [] => []
        if (digits.head?.any Char.isDigit) then some (digits.dropWhile Char.isDigit) else none
      else some rest
    | [] => some rest
  match exponent? with
  | some rest => if endsNumber false rest then some (scanner.token .number "" rest) else none
  | none => none

def lexNumber (scanner : Scanner) : Option (Token × Scanner) :=
  match scanner.rest with
  | '0' :: c :: _ =>
    if c == 'x' || c == 'X' then lexDigits scanner isHex false
    else if c == 'b' || c == 'B' then lexDigits scanner (fun d => d == '0' || d == '1') true
    else if c == 'o' || c == 'O' then lexDigits scanner isOctalDigit true
    else
      let digits := (scanner.rest.drop 1).takeWhile isOctalDigit
      let rest := scanner.rest.drop (1 + digits.length)
      let isOctal := isOctalDigit c && rest.head? != some '8' && rest.head? != some '9'
      if isOctal then
        if endsNumber true rest then
          let (token, after) := scanner.token .number "" rest
          some ({ token with isOctal := true }, after)
        else none
      else lexDecimal scanner
  | _ => lexDecimal scanner

def controlEscape? : Char → Option Char
  | 'n' => some '\n'
  | 'r' => some '\r'
  | 't' => some '\t'
  | 'b' => some (Char.ofNat 8)
  | 'f' => some (Char.ofNat 12)
  | 'v' => some (Char.ofNat 11)
  | _ => none

structure TextScan where
  value : List Char
  raw : List Char
  line : Nat
  isOctal : Bool
  rest : List Char

/-- The characters up to the closing quote. A line end may only stand behind a backslash. -/
def takeText (quote : Char) : (fuel : Nat) → TextScan → Option TextScan
  | 0, _ => none
  | fuel + 1, scan =>
    let proceed (value : List Char) (passed : Nat) (isOctal : Bool := false) (lines : Nat := 0) :=
      takeText quote fuel
        { value := value ++ scan.value
          raw := (scan.rest.take passed).reverse ++ scan.raw
          line := scan.line + lines
          isOctal := scan.isOctal || isOctal
          rest := scan.rest.drop passed }
    match scan.rest with
    | [] => none
    | '\\' :: c :: after =>
      if isLineTerminator c then
        proceed [] (if c == '\r' && after.head? == some '\n' then 3 else 2) false 1
      else
        match controlEscape? c with
        | some escaped => proceed [escaped] 2
        | none =>
          if c == 'u' then
            match after with
            | '\x7b' :: digits => do
              let (escaped, rest) ← bracedEscape? digits
              proceed [escaped] (scan.rest.length - rest.length)
            | _ => do
              let (escaped, _) ← hexEscape? 4 after
              proceed [escaped] 6
          else if c == 'x' then do
            let (escaped, _) ← hexEscape? 2 after
            proceed [escaped] 4
          else if c == '8' || c == '9' then none
          else if isOctalDigit c then
            let limit := if c ≤ '3' then 2 else 1
            let digits := c :: (after.take limit).takeWhile isOctalDigit
            let code := digits.foldl (fun code d => code * 8 + (d.toNat - 48)) 0
            proceed [Char.ofNat code] (1 + digits.length) (c != '0' || 1 < digits.length)
          else proceed [c] 2
    | c :: _ =>
      if c == quote then some { scan with rest := scan.rest.drop 1 }
      else if isLineTerminator c || c == '\\' then none
      else proceed [c] 1

def lexText (bound : Nat) (quote : Char) (scanner : Scanner) : Option (Token × Scanner) := do
  let start : TextScan :=
    { value := [], raw := [], line := scanner.line, isOctal := false, rest := scanner.rest.drop 1 }
  let scan ← takeText quote (bound + 1) start
  return ({ kind := .text, value := String.ofList scan.value.reverse,
            raw := String.ofList scan.raw.reverse, startLine := scanner.line, line := scan.line,
            isOctal := scan.isOctal },
    { scanner with rest := scan.rest, line := scan.line, atStart := false })

/-- The characters of a template up to its end or the next substitution: whether it ends, the line
and the rest. -/
def takeTemplate : (fuel line : Nat) → List Char → Option (Bool × Nat × List Char)
  | 0, _, _ => none
  | fuel + 1, line, input =>
    match input with
    | [] => none
    | '\x60' :: rest => some (true, line, rest)
    | '$' :: '\x7b' :: rest => some (false, line, rest)
    | ['\\'] => none
    | '\\' :: c :: after =>
      if isLineTerminator c then
        let after := if c == '\r' && after.head? == some '\n' then after.drop 1 else after
        takeTemplate fuel (line + 1) after
      else if c == 'u' then
        match after with
        | '\x7b' :: digits => do
          let (_, rest) ← bracedEscape? digits
          takeTemplate fuel line rest
        | _ => takeTemplate fuel line after
      else if c == 'x' then do
        let (_, rest) ← hexEscape? 2 after
        takeTemplate fuel line rest
      else if c == '0' then
        if after.head?.any Char.isDigit then none else takeTemplate fuel line after
      else if isOctalDigit c then none
      else takeTemplate fuel line after
    | '\r' :: '\n' :: rest => takeTemplate fuel (line + 1) rest
    | c :: rest => takeTemplate fuel (if isLineTerminator c then line + 1 else line) rest

def lexTemplate (bound : Nat) (scanner : Scanner) : Option (Token × Scanner) := do
  let isHead := scanner.rest.head? == some '\x60'
  let (isTail, line, rest) ← takeTemplate (bound + 1) scanner.line (scanner.rest.drop 1)
  let outer := if isHead then scanner.braces else scanner.braces.drop 1
  return ({ kind := .template, value := "", startLine := scanner.line, line, isHead, isTail },
    { rest, line, braces := if isTail then outer else true :: outer, atStart := false })

/-- The next token, blanks and comments passed. `bound` is at least the length of the rest. -/
def lex (bound : Nat) (scanner : Scanner) : Option (Token × Scanner) := do
  let (rest, line) ← skipBlanks .code scanner.atStart scanner.line scanner.rest
  let scanner := { scanner with rest, line }
  match rest with
  | [] => return scanner.token .endOfInput "" []
  | c :: after =>
    if isNameStart c then lexName bound scanner
    else if c == '\'' || c == '"' then lexText bound c scanner
    else if c == '.' then
      if after.head?.any Char.isDigit then lexNumber scanner else lexPunctuator scanner
    else if c.isDigit then lexNumber scanner
    else if c == '\x60' || (c == '\x7d' && scanner.braces.head? == some true) then
      lexTemplate bound scanner
    else lexPunctuator scanner

/-- The characters of a pattern up to the closing slash; in brackets a slash does not close it. -/
def takePattern (inBrackets : Bool) : List Char → Option (List Char × List Char)
  | [] => none
  | '\\' :: c :: rest =>
    if isLineTerminator c then none
    else (takePattern inBrackets rest).map fun (body, rest) => ('\\' :: c :: body, rest)
  | c :: rest =>
    if isLineTerminator c || c == '\\' then none
    else if c == '/' && !inBrackets then some ([], rest)
    else
      let inBrackets := if inBrackets then c != ']' else c == '['
      (takePattern inBrackets rest).map fun (body, rest) => (c :: body, rest)

/-- Escapes of code points in braces as the characters themselves, or as one of them beyond the
sixteenth bit; a number that is no code point is refused. -/
def plainEscapes : (fuel : Nat) → List Char → Option (List Char)
  | 0, _ => none
  | _, [] => some []
  | fuel + 1, '\\' :: 'u' :: '\x7b' :: digits =>
    let number := digits.takeWhile isHex
    match digits.drop number.length with
    | '\x7d' :: rest =>
      if number.isEmpty then (plainEscapes fuel digits).map ('\\' :: 'u' :: '\x7b' :: ·)
      else
        let code := hexNumber number
        if 0x10FFFF < code then none
        else
          let shown := if 0xFFFF < code then Char.ofNat 0xFFFF else Char.ofNat code
          (plainEscapes fuel rest).map (shown :: ·)
    | _ => (plainEscapes fuel digits).map ('\\' :: 'u' :: '\x7b' :: ·)
  | fuel + 1, c :: rest => (plainEscapes fuel rest).map (c :: ·)

/-- A pattern between slashes, with its flags. The pattern has to be one that `Pattern.parse?`
reads. -/
def lexPattern (scanner : Scanner) : Option (Token × Scanner) := do
  let (body, rest) ← takePattern false (scanner.rest.drop 1)
  let flags := rest.takeWhile isNamePart
  let rest := rest.drop flags.length
  if flags.contains '\\' then none
  else
    let body ← if flags.contains 'u' then plainEscapes (body.length + 1) body else some body
    let _ ← Pattern.parse? (String.ofList body)
    return scanner.token .pattern "" rest

end PrivacyScan.Script
