import PrivacyScan.Fault
import PrivacyScan.Text.Normal

/-!
The host part of an address on the network, between the two slashes and the path.
-/

namespace PrivacyScan.Url

def isSchemeChar (c : Char) : Bool := c.isAlphanum || c == '+' || c == '-' || c == '.'

def dropScheme (url : List Char) : List Char :=
  match url.span (· != ':') with
  | (first :: rest, ':' :: behind) =>
    if first.isAlpha && rest.all isSchemeChar then behind else url
  | _ => url

/-- A number of one byte without leading zeros. -/
def isOctet (text : List Char) : Bool :=
  !text.isEmpty && text.all Char.isDigit && text.length ≤ 3 &&
    (text == ['0'] || text.head? != some '0') && Text.decimalNumber text ≤ 255

def isAddress4 (text : String) : Bool :=
  let octets := Text.split text "."
  octets.length == 4 && octets.all (isOctet ·.toList)

def isHexGroup (text : String) : Bool :=
  !text.isEmpty && Text.length text ≤ 4 && text.toList.all fun c => (Text.hexDigit? c).isSome

/-- Eight groups, of which a run may be left out between two colons. -/
def areGroups (groups : List String) : Bool :=
  let inner := (groups.drop 1).dropLast
  match inner.count "" with
  | 0 => groups.length == 8 && groups.all isHexGroup
  | 1 =>
    let high := groups.take (inner.idxOf "" + 1)
    let low := groups.drop (high.length + 1)
    let shownHigh := if high.head? == some "" then high.drop 1 else high
    let shownLow := if low.getLast? == some "" then low.dropLast else low
    shownHigh.length + shownLow.length ≤ 7 && shownHigh.all isHexGroup && shownLow.all isHexGroup &&
      (high.head? != some "" || shownHigh.isEmpty) && (low.getLast? != some "" || shownLow.isEmpty)
  | _ => false

def isAddress6 (text : String) : Bool :=
  let (address, zoneIsFine) := match Text.cut? text "%" with
    | some (address, zone) => (address, !zone.isEmpty && !Text.contains zone "%")
    | none => (text, true)
  let groups := Text.split address ":"
  let last := groups.getLast?.getD ""
  let wholeGroups := if Text.contains last "." then groups.dropLast ++ ["0", "0"] else groups
  zoneIsFine && !Text.contains text "/" && 3 ≤ groups.length && wholeGroups.length ≤ 9 &&
    (!Text.contains last "." || isAddress4 last) && areGroups wholeGroups

/-- What stands in brackets has to be an address of the newer kinds. -/
def checkBracketed (text : String) : Outcome Unit :=
  if Text.startsWith text "v" then
    let digits := (text.toList.drop 1).takeWhile fun c => (Text.hexDigit? c).isSome
    let behind := text.toList.drop (1 + digits.length)
    if !digits.isEmpty && behind.head? == some '.' && 2 ≤ behind.length &&
      !behind.contains '\n' then
      .ok ()
    else .error .malformedFutureAddress
  else if isAddress4 text then .error .bracketedAddress
  else if isAddress6 text then .ok ()
  else .error (.notAnAddress text)

def checkBrackets (host : String) : Outcome Unit :=
  match Text.contains host "[", Text.contains host "]" with
  | true, true => checkBracketed (Text.before (((Text.cut? host "[").map (·.2)).getD "") "]")
  | false, false => .ok ()
  | _, _ => .error .malformedAddress

/-- Refuses a host that would gain a delimiter when its characters are put into normal form. -/
def checkNormal (host : String) : Outcome Unit :=
  let bare := String.ofList (host.toList.filter fun c => !(['@', ':', '#', '?'].contains c))
  let normal := Text.normalize bare
  if bare != normal && normal.toList.any ['/', '?', '#', '@', ':'].contains then
    .error (.ambiguousHost host)
  else .ok ()

/-- The host of an address, with its user and port; empty when the address names none. -/
def host (url : String) : Outcome String := do
  let visible := (url.toList.dropWhile fun c => c.toNat ≤ 0x20).filter fun c =>
    c != '\t' && c != '\r' && c != '\n'
  match dropScheme visible with
  | '/' :: '/' :: rest =>
    let host := String.ofList (rest.takeWhile fun c => c != '/' && c != '?' && c != '#')
    checkBrackets host
    checkNormal host
    return host
  | _ => return ""

end PrivacyScan.Url
