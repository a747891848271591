import PrivacyScan.Number.Whole
import PrivacyScan.Path

/-!
The options of the command line. An argument that starts with a hyphen is an option, unless it looks
like a negative number or holds a blank; long options may be shortened as far as one can tell them
apart, and a value follows an option or stands behind an equals sign. Nothing else is accepted.
-/

namespace PrivacyScan.CommandLine

inductive OptionName where
  | help
  | root
  | out
  | exclude
  | maxWorkers
  | maxFiles
  | format
  | debug
  | quiet
  | verbose
  | init
deriving Repr, DecidableEq

namespace OptionName

def all : List OptionName :=
  [help, root, out, exclude, maxWorkers, maxFiles, format, debug, quiet, verbose, init]

def spelling : OptionName → String
  | help => "--help"
  | root => "--root"
  | out => "--out"
  | exclude => "--exclude"
  | maxWorkers => "--max-workers"
  | maxFiles => "--max-files"
  | format => "--format"
  | debug => "--debug"
  | quiet => "--quiet"
  | verbose => "--verbose"
  | init => "--init"

def takesValue : OptionName → Bool
  | root | out | exclude | maxWorkers | maxFiles | format => true
  | _ => false

def ofSpelling? (text : String) : Option OptionName := all.find? (·.spelling == text)

/-- The options that a shortened spelling may stand for. -/
def startingWith (text : String) : List OptionName :=
  all.filter fun name => Text.startsWith name.spelling text

end OptionName

/-- The formats of reports. The standard format gives way to one that the name of the report asks
for. -/
inductive Format where
  | standard
  | markdown
  | json
  | html
  | sarif
deriving Repr, DecidableEq

def Format.ofText? : String → Option Format
  | "md" => some .standard
  | "markdown" => some .markdown
  | "json" => some .json
  | "html" => some .html
  | "sarif" => some .sarif
  | _ => none

/-- What the command line asks for. Without a root, the working directory is scanned. -/
structure Options where
  root : Option Path := none
  out : String := "scan_results.md"
  exclude : List String := []
  maxWorkers : Int := 8
  maxFiles : Option Int := none
  format : Format := .standard
  debug : Bool := false
  quiet : Bool := false
  verbose : Bool := false
  init : Bool := false
deriving Repr, DecidableEq

inductive Refusal where
  | helpWanted
  | misused
deriving Repr, DecidableEq

inductive Token where
  | value (text : String)
  | option (name : OptionName) (given : Option String)
  | unknownOption
  /-- Short options that cannot stand together. -/
  | malformed
  | separator
deriving Repr, DecidableEq

namespace Token

/-- Short options may stand together. There is only one, `-h`, and what follows it otherwise is left
aside. -/
def ofShort : List Char → Token
  | [] => .option .help none
  | 'h' :: rest => ofShort rest
  | '-' :: _ | '=' :: _ => .malformed
  | _ :: _ => .option .help none

def isDigit (c : Char) : Bool := (Text.decimalValue? c).isSome

def isNumber (chars : List Char) : Bool :=
  let chars := if chars.getLast? == some '\n' then chars.dropLast else chars
  match chars.dropWhile isDigit with
  | [] => !chars.isEmpty
  | '.' :: fraction => !fraction.isEmpty && fraction.all isDigit
  | _ :: _ => false

def ofOther (text : String) : Token :=
  if isNumber (text.toList.drop 1) || Text.contains text " " then .value text else .unknownOption

/-- A text that starts with two hyphens; nothing when several options fit. -/
def ofLong? (text : String) : Option Token :=
  let (name, given) := match Text.cut? text "=" with
    | some (name, given) => (name, some given)
    | none => (text, none)
  match OptionName.ofSpelling? name, OptionName.startingWith name with
  | some name, _ => some (.option name given)
  | none, [name] => some (.option name given)
  | none, [] => some (ofOther text)
  | none, _ :: _ :: _ => none

def ofText? (text : String) : Option Token :=
  match text.toList with
  | '-' :: '-' :: _ => ofLong? text
  | '-' :: 'h' :: rest => some (ofShort rest)
  | '-' :: _ :: _ => some (ofOther text)
  | _ => some (.value text)

/-- The tokens of arguments. Behind two lone hyphens there are values only. -/
def ofTexts? : List String → Option (List Token)
  | [] => some []
  | "--" :: rest => some (.separator :: rest.map .value)
  | text :: rest => do
    let token ← ofText? text
    return token :: (← ofTexts? rest)

end Token

namespace Options

def withValue? (options : Options) (name : OptionName) (text : String) : Option Options :=
  match name with
  | .root => some { options with root := some (Path.ofText text) }
  | .out => some { options with out := text }
  | .exclude => some { options with exclude := options.exclude ++ [text] }
  | .maxWorkers => (Number.wholeNumber? text).map fun number =>
      { options with maxWorkers := number }
  | .maxFiles => (Number.wholeNumber? text).map fun number =>
      { options with maxFiles := some number }
  | .format => (Format.ofText? text).map fun format => { options with format }
  | _ => none

def withFlag (options : Options) (name : OptionName) : Except Refusal Options :=
  match name with
  | .help => .error .helpWanted
  | .debug => .ok { options with debug := true }
  | .quiet => .ok { options with quiet := true }
  | .verbose => .ok { options with verbose := true }
  | .init => .ok { options with init := true }
  | _ => .error .misused

/-- Reads tokens from left to right. Values without an option and unknown options are refused only
at the end, so that a wish for help before it is heard. -/
def ofTokens (options : Options) (isRefused : Bool) : List Token → Except Refusal Options
  | [] => if isRefused then .error .misused else .ok options
  | .option name given :: rest =>
    if !name.takesValue then
      match given with
      | some _ => .error .misused
      | none =>
        match options.withFlag name with
        | .ok options => ofTokens options isRefused rest
        | .error refusal => .error refusal
    else
      match given, rest with
      | some text, rest =>
        match options.withValue? name text with
        | some options => ofTokens options isRefused rest
        | none => .error .misused
      | none, .value text :: rest =>
        match options.withValue? name text with
        | some options => ofTokens options isRefused rest
        | none => .error .misused
      | none, _ => .error .misused
  | .malformed :: _ => .error .misused
  | .value _ :: rest => ofTokens options true rest
  | .unknownOption :: rest => ofTokens options true rest
  | .separator :: rest => ofTokens options true rest

def parse (arguments : List String) : Except Refusal Options :=
  match Token.ofTexts? arguments with
  | some tokens => ofTokens {} false tokens
  | none => .error .misused

end Options

def helpText : String :=
  "Scans a project for personal data and writes a report.\n\n" ++
  "  --root DIRECTORY       the directory to scan (the working directory)\n" ++
  "  --out FILE             where to write the report (scan_results.md)\n" ++
  "  --exclude PATTERN      files to leave out; may be given several times\n" ++
  "  --max-workers NUMBER   how many workers to use at most (8)\n" ++
  "  --max-files NUMBER     how many files to scan at most\n" ++
  "  --format FORMAT        json, markdown, md, html or sarif (md)\n" ++
  "  --debug, --quiet, --verbose\n" ++
  "  --init                 start an ignore file\n" ++
  "  -h, --help             show this text\n"

end PrivacyScan.CommandLine
