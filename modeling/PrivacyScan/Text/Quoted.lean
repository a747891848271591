import PrivacyScan.Text.Search
import PrivacyScan.Document.Printer

/-!
Texts and bytes as literals in single quotes, or in double quotes when only that avoids an escape.
-/

namespace PrivacyScan.Text

open PrivacyScan (Document)

/-- The escape of a character that cannot be shown, with as few digits as its code point needs. -/
def numericEscape (c : Char) : List Char :=
  let code := c.toNat
  if code < 0x100 then '\\' :: 'x' :: Document.hexDigits code 2
  else if code < 0x10000 then '\\' :: 'u' :: Document.hexDigits code 4
  else '\\' :: 'U' :: Document.hexDigits code 8

/-- The escape of a backslash or of a character that cannot be shown; all others stand for
themselves. -/
def shownChar (c : Char) : List Char :=
  match c with
  | '\\' => ['\\', '\\']
  | '\n' => ['\\', 'n']
  | '\r' => ['\\', 'r']
  | '\t' => ['\\', 't']
  | c => if isPrintable c then [c] else numericEscape c

/-- Single quotes, unless the text holds one and no double quote. -/
def quoteFor (text : List Char) : Char :=
  if text.contains '\'' && !text.contains '"' then '"' else '\''

def quotedList (text : List Char) : List Char :=
  let quote := quoteFor text
  quote :: text.flatMap (fun c => if c == quote then ['\\', c] else shownChar c) ++ [quote]

def quotedText (text : String) : String := String.ofList (quotedList text.toList)

/-- A byte shows as its ASCII character or as two digits. -/
def quotedBytes (bytes : List UInt8) : String :=
  let characters := bytes.map fun byte => Char.ofNat byte.toNat
  let quote := quoteFor characters
  let shown (c : Char) : List Char :=
    if c == quote then ['\\', c] else if isAscii c then shownChar c else numericEscape c
  String.ofList ('b' :: quote :: characters.flatMap shown ++ [quote])

end PrivacyScan.Text
