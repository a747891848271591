import PrivacyScan.Source.Token
import PrivacyScan.Source.Tree

/-!
The values of literals: numbers, and texts with their escapes.
-/

namespace PrivacyScan.Source

open Text

def numberInBase (base : Nat) (digits : List Char) : Nat :=
  (digits.filterMap hexDigit?).foldl (fun number digit => number * base + digit) 0

def decimalFloat (text : List Char) : Float :=
  let mantissa := text.takeWhile fun c => c != 'e' && c != 'E'
  let exponent := text.drop (mantissa.length + 1)
  let whole := mantissa.takeWhile (· != '.')
  let fraction := mantissa.drop (whole.length + 1)
  let shift : Int :=
    (if exponent.head? == some '-' then -(decimalNumber exponent : Int) else decimalNumber exponent)
      - fraction.length
  let digits := decimalNumber (whole ++ fraction)
  -- No such number is above `10 ^ 309` or, when it is not zero, below `10 ^ -400`.
  if digits == 0 then 0
  else if 400 < shift then 1.0 / 0.0
  else if shift < -(400 + whole.length + fraction.length : Nat) then 0
  else Float.ofScientific digits (decide (shift < 0)) shift.natAbs

/-- The value of a number token. A decimal whole number has at most 4300 digits. -/
def numberValue? (text : String) : Option Constant :=
  let characters := text.toList.filter (· != '_')
  match characters with
  | '0' :: 'x' :: digits | '0' :: 'X' :: digits => some (.int (numberInBase 16 digits))
  | '0' :: 'o' :: digits | '0' :: 'O' :: digits => some (.int (numberInBase 8 digits))
  | '0' :: 'b' :: digits | '0' :: 'B' :: digits => some (.int (numberInBase 2 digits))
  | _ =>
    match characters.reverse with
    | 'j' :: digits | 'J' :: digits => some (.imaginary (decimalFloat digits.reverse))
    | _ =>
      if characters.all Char.isDigit then
        if characters.length ≤ 4300 then some (.int (decimalNumber characters)) else none
      else some (.float (decimalFloat characters))

/-- A text literal taken apart: what its letters say, and what stands between its quotes. -/
structure QuotedText where
  isBytes : Bool
  isRaw : Bool
  isFormatted : Bool
  /-- Written with a small `u`. -/
  isMarked : Bool
  content : List Char
deriving Repr

def QuotedText.ofToken (text : String) : QuotedText :=
  let marks := text.toList.takeWhile Char.isAlpha
  let body := text.toList.drop marks.length
  let size :=
    match body with
    | a :: b :: c :: _ => if a == b && b == c && 6 ≤ body.length then 3 else 1
    | _ => 1
  let lower := marks.map Char.toLower
  { isBytes := lower.contains 'b'
    isRaw := lower.contains 'r'
    isFormatted := lower.contains 'f'
    isMarked := marks.head? == some 'u'
    content := (body.drop size).take (body.length - 2 * size) }

/-- The character of an escape. A surrogate is no character here and is replaced by U+FFFD. -/
def escapedChar (code : Nat) : Char :=
  if 0xD800 ≤ code ∧ code < 0xE000 then Char.ofNat 0xFFFD else Char.ofNat code

def isOctal (c : Char) : Bool := decide ('0' ≤ c) && decide (c ≤ '7')

def simpleEscape? : Char → Option Char
  | '\\' => some '\\'
  | '\'' => some '\''
  | '"' => some '"'
  | 'a' => some (Char.ofNat 7)
  | 'b' => some (Char.ofNat 8)
  | 'f' => some (Char.ofNat 12)
  | 'n' => some '\n'
  | 'r' => some '\r'
  | 't' => some '\t'
  | 'v' => some (Char.ofNat 11)
  | _ => none

/-- Replaces escapes. An unknown one stands for itself; one that is cut short is refused. In bytes
only escapes of bytes exist. The names of characters are not looked up: each of them, also one that
no character has, stands for U+FFFD. -/
def unescape (isBytes : Bool) : (fuel : Nat) → List Char → Option (List Char)
  | 0, _ => none
  | fuel + 1, text =>
    match text with
    | [] => some []
    | ['\\'] => some ['\\']
    | '\\' :: '\n' :: rest => unescape isBytes fuel rest
    | '\\' :: c :: rest =>
      match simpleEscape? c with
      | some escaped => (unescape isBytes fuel rest).map (escaped :: ·)
      | none =>
        if isOctal c then
          let digits := c :: (rest.take 2).takeWhile isOctal
          let code := numberInBase 8 digits
          let code := if isBytes then code % 256 else code
          (unescape isBytes fuel (rest.drop (digits.length - 1))).map (Char.ofNat code :: ·)
        else
          let hexadecimal (count : Nat) :=
            let digits := (rest.take count).takeWhile isHexadecimal
            let code := hexNumber digits
            if digits.length == count && code < 0x110000 then
              (unescape isBytes fuel (rest.drop count)).map (escapedChar code :: ·)
            else none
          if c == 'x' then hexadecimal 2
          else if c == 'u' && !isBytes then hexadecimal 4
          else if c == 'U' && !isBytes then hexadecimal 8
          else if c == 'N' && !isBytes then
            match rest with
            | '\x7b' :: inner =>
              let name := inner.takeWhile (· != '\x7d')
              if name.isEmpty || name.length == inner.length then none
              else
                (unescape isBytes fuel (inner.drop (name.length + 1))).map (Char.ofNat 0xFFFD :: ·)
            | _ => none
          else (unescape isBytes fuel rest).map fun tail => '\\' :: c :: tail
    | c :: rest => (unescape isBytes fuel rest).map (c :: ·)

def literalText? (isRaw isBytes : Bool) (content : List Char) : Option (List Char) :=
  if isRaw then some content else unescape isBytes (content.length + 1) content

/-- The bytes of a literal, which is written in ASCII. -/
def literalBytes? (quoted : QuotedText) : Option (List UInt8) :=
  if quoted.content.all isAscii then
    (literalText? quoted.isRaw true quoted.content).map fun text => text.map fun c =>
      c.toNat.toUInt8
  else none

end PrivacyScan.Source
