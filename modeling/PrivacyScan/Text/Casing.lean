import PrivacyScan.Text.CaseTable
import PrivacyScan.Text.Category

/-!
Upper, lower and title case of texts. The full mappings are used, so the upper case of a character
may be several characters, and a capital sigma becomes final at the end of a word.
-/

namespace PrivacyScan.Text

def lowerTable : SpanTable (List Nat) where
  entries := lowerEntries.toArray

/-- The upper case of what is the lower case of a capital letter. Some signs have the lower case of
a letter and are not meant. -/
def upperTable : SpanTable (List Nat) where
  entries :=
    let capitals := lowerEntries.filter fun (span, _) =>
      !List.contains [0x3F4, 0x2126, 0x212B] span.first
    let smalls := capitals.map fun (span, targets) =>
      let first := targets.headD 0
      ({ span with first, last := first + (span.last - span.first) }, [span.first])
    (smalls.mergeSort fun (span, _) (other, _) => decide (span.first ≤ other.first)).toArray

def upperExceptionTable : SpanTable (List Nat) := SpanTable.ofMap upperExceptions

def titleTable : SpanTable (List Nat) := SpanTable.ofMap titleMap

def capitalSigma : Char := Char.ofNat 0x3A3

def finalSigma : Char := Char.ofNat 0x3C2

/-- The lower case of one character as one character. -/
def lowerChar (c : Char) : Char :=
  if isAscii c then c.toLower
  else
    match lowerTable.image? c.toNat with
    | some [code] => Char.ofNat code
    | _ => c

/-- The lower case of one character: a capital I with a dot keeps the dot as a mark. -/
def lowerExpansion (c : Char) : List Char :=
  if c.toNat == 0x130 then ['i', Char.ofNat 0x307] else [lowerChar c]

def upperExpansion (c : Char) : List Char :=
  if isAscii c then [c.toUpper]
  else
    match upperExceptionTable.image? c.toNat with
    | some codes => codes.map Char.ofNat
    | none =>
      match upperTable.image? c.toNat with
      | some codes => codes.map Char.ofNat
      | none => [c]

def titleExpansion (c : Char) : List Char :=
  if isAscii c then [c.toUpper]
  else
    match titleTable.image? c.toNat with
    | some codes => codes.map Char.ofNat
    | none => upperExpansion c

/-- A sigma is final after a cased letter and not before one, marks between them apart. -/
def sigmaIsFinal (before after : List Char) : Bool :=
  (match before.dropWhile isCaseIgnorable with
    | c :: _ => isCased c
    | [] => false)
  && (match after.dropWhile isCaseIgnorable with
    | c :: _ => !isCased c
    | [] => true)

/-- Lower case of `rest`, where `before` is the reversed text in front of it. -/
def lowerList (before : List Char) : (rest : List Char) → List Char
  | [] => []
  | c :: rest =>
    (if c == capitalSigma then
      (if sigmaIsFinal before rest then [finalSigma] else [lowerChar c])
    else lowerExpansion c) ++ lowerList (c :: before) rest

def lower (text : String) : String := String.ofList (lowerList [] text.toList)

def upper (text : String) : String := String.ofList (text.toList.flatMap upperExpansion)

/-- Title case of `rest`: a cased character that follows a cased one is lowered. -/
def titleList (afterCased : Bool) (before : List Char) : (rest : List Char) → List Char
  | [] => []
  | c :: rest =>
    (if afterCased then
      (if c == capitalSigma then
        (if sigmaIsFinal before rest then [finalSigma] else [lowerChar c])
      else lowerExpansion c)
    else titleExpansion c) ++ titleList (isCased c) (c :: before) rest

def title (text : String) : String := String.ofList (titleList false [] text.toList)

/-- Some character has upper case and none has lower or title case. -/
def isAllUppercase (text : String) : Bool :=
  text.toList.any isUppercase && !text.toList.any (fun c => isLowercase c || isTitlecase c)

end PrivacyScan.Text
