import PrivacyScan.Document.Basic
import PrivacyScan.Text.Ranges

/-!
Reading documents from JSON text. The order of fields is kept, and a number is whole unless it has a
fraction or an exponent.
-/

namespace PrivacyScan.Document

open Text

def isJsonBlank (c : Char) : Bool := c == ' ' || c == '\n' || c == '\r' || c == '\t'

def skipBlanks (input : List Char) : List Char := input.dropWhile isJsonBlank

def takeHex4? (input : List Char) : Option (Nat × List Char) :=
  let digits := input.take 4
  if digits.length == 4 && digits.all fun c => (hexDigit? c).isSome then
    some (hexNumber digits, input.drop 4)
  else none

/-- The rest of a quoted text, `done` reversed. Two surrogates make one character. -/
def readQuoted (done : List Char) : (fuel : Nat) → List Char → Option (String × List Char)
  | 0, _ => none
  | fuel + 1, input =>
    match input with
    | [] => none
    | '"' :: rest => some (String.ofList done.reverse, rest)
    | '\\' :: 'u' :: rest =>
      match takeHex4? rest with
      | none => none
      | some (unit, rest) =>
        if 0xD800 ≤ unit ∧ unit < 0xDC00 then
          match rest with
          | '\\' :: 'u' :: low =>
            match takeHex4? low with
            | some (lowUnit, lowRest) =>
              if 0xDC00 ≤ lowUnit ∧ lowUnit < 0xE000 then
                let code := 0x10000 + (unit - 0xD800) * 0x400 + (lowUnit - 0xDC00)
                readQuoted (Char.ofNat code :: done) fuel lowRest
              else readQuoted (Char.ofNat 0xFFFD :: done) fuel rest
            | none => none
          | _ => readQuoted (Char.ofNat 0xFFFD :: done) fuel rest
        else if 0xDC00 ≤ unit ∧ unit < 0xE000 then readQuoted (Char.ofNat 0xFFFD :: done) fuel rest
        else readQuoted (Char.ofNat unit :: done) fuel rest
    | '\\' :: c :: rest =>
      match c with
      | '"' | '\\' | '/' => readQuoted (c :: done) fuel rest
      | 'b' => readQuoted (Char.ofNat 8 :: done) fuel rest
      | 'f' => readQuoted (Char.ofNat 12 :: done) fuel rest
      | 'n' => readQuoted ('\n' :: done) fuel rest
      | 'r' => readQuoted ('\r' :: done) fuel rest
      | 't' => readQuoted ('\t' :: done) fuel rest
      | _ => none
    | c :: rest => readQuoted (c :: done) fuel rest

def numberOf (negative : Bool) (whole : List Char) (fraction : Option (List Char))
    (exponent : Option (Bool × List Char)) : Document :=
  match fraction, exponent with
  | none, none =>
    let value : Int := decimalNumber whole
    .int (if negative then -value else value)
  | _, _ =>
    let places := fraction.getD []
    let mantissa := decimalNumber (whole ++ places)
    let (down, digits) := exponent.getD (false, [])
    let shift : Int :=
      (if down then -(decimalNumber digits : Int) else decimalNumber digits) - places.length
    let magnitude := Float.ofScientific mantissa (decide (shift < 0)) shift.natAbs
    .float (if negative then -magnitude else magnitude)

def readNumber (input : List Char) : Option (Document × List Char) :=
  let (negative, input) :=
    match input with
    | '-' :: rest => (true, rest)
    | _ => (false, input)
  let whole := input.takeWhile Char.isDigit
  let input := input.drop whole.length
  if whole.isEmpty then none
  else
    let (fraction, input) :=
      match input with
      | '.' :: rest =>
        let digits := rest.takeWhile Char.isDigit
        if digits.isEmpty then (none, input) else (some digits, rest.drop digits.length)
      | _ => (none, input)
    let (exponent, input) :=
      match input with
      | c :: rest =>
        if c == 'e' || c == 'E' then
          let (down, rest) :=
            match rest with
            | '-' :: rest => (true, rest)
            | '+' :: rest => (false, rest)
            | _ => (false, rest)
          let digits := rest.takeWhile Char.isDigit
          if digits.isEmpty then (none, input) else (some (down, digits), rest.drop digits.length)
        else (none, input)
      | [] => (none, input)
    some (numberOf negative whole fraction exponent, input)

def dropWord? (word : String) (input : List Char) : Option (List Char) :=
  if word.toList.isPrefixOf input then some (input.drop word.length) else none

mutual

def readValue : (fuel : Nat) → List Char → Option (Document × List Char)
  | 0, _ => none
  | fuel + 1, input =>
    match skipBlanks input with
    | '"' :: rest =>
      (readQuoted [] (rest.length + 1) rest).map fun (value, rest) => (.text value, rest)
    | '[' :: rest =>
      match skipBlanks rest with
      | ']' :: rest => some (.list [], rest)
      | rest => readItems fuel [] rest
    | '\x7b' :: rest =>
      match skipBlanks rest with
      | '\x7d' :: rest => some (.object [], rest)
      | rest => readFields fuel [] rest
    | 'n' :: rest => (dropWord? "ull" rest).map fun rest => (.null, rest)
    | 't' :: rest => (dropWord? "rue" rest).map fun rest => (.bool true, rest)
    | 'f' :: rest => (dropWord? "alse" rest).map fun rest => (.bool false, rest)
    | rest => readNumber rest

def readItems : (fuel : Nat) → List Document → List Char → Option (Document × List Char)
  | 0, _, _ => none
  | fuel + 1, done, input =>
    match readValue fuel input with
    | none => none
    | some (item, rest) =>
      match skipBlanks rest with
      | ',' :: rest => readItems fuel (item :: done) rest
      | ']' :: rest => some (.list (item :: done).reverse, rest)
      | _ => none

def readFields : (fuel : Nat) → List (String × Document) → List Char →
    Option (Document × List Char)
  | 0, _, _ => none
  | fuel + 1, done, input =>
    match skipBlanks input with
    | '"' :: rest =>
      match readQuoted [] (rest.length + 1) rest with
      | none => none
      | some (name, rest) =>
        match skipBlanks rest with
        | ':' :: rest =>
          match readValue fuel rest with
          | none => none
          | some (value, rest) =>
            match skipBlanks rest with
            | ',' :: rest => readFields fuel ((name, value) :: done) rest
            | '\x7d' :: rest => some (.object ((name, value) :: done).reverse, rest)
            | _ => none
        | _ => none
    | _ => none

end

def parse? (input : String) : Option Document :=
  match readValue (2 * input.toList.length + 2) input.toList with
  | some (document, rest) => if (skipBlanks rest).isEmpty then some document else none
  | none => none

end PrivacyScan.Document
