/-!
Decimal text of binary floating point numbers: the fewest digits that read back, a fixed number of
places, and rounding to places. All digits come from exact arithmetic on natural numbers.
-/

namespace PrivacyScan.Number

/-- A positive finite number as `mantissa * 2 ^ (raised - lowered)`. -/
structure Binary where
  mantissa : Nat
  raised : Nat
  lowered : Nat
deriving Repr, DecidableEq

def Binary.ratio (number : Binary) : Nat × Nat :=
  (number.mantissa * Nat.pow 2 number.raised, Nat.pow 2 number.lowered)

def binaryOf (x : Float) : Binary :=
  let bits := x.toBits.toNat
  let fraction := bits % Nat.pow 2 52
  let exponent := bits / Nat.pow 2 52 % 2048
  let mantissa := if exponent == 0 then fraction else fraction + Nat.pow 2 52
  let shift := if exponent == 0 then 1 else exponent
  { mantissa, raised := shift - 1075, lowered := 1075 - shift }

def isNegative (x : Float) : Bool := decide (Nat.pow 2 63 ≤ x.toBits.toNat)

/-- Nearest whole number to a quotient; a half goes to the even neighbour. -/
def roundHalfEven (numerator denominator : Nat) : Nat :=
  let quotient := numerator / denominator
  let twice := 2 * (numerator % denominator)
  if twice < denominator then quotient
  else if denominator < twice then quotient + 1
  else if quotient % 2 == 0 then quotient
  else quotient + 1

/-- Decimal digits with a point before position `point`: the number is `0.digits * 10 ^ point`. -/
structure Digits where
  digits : Nat
  count : Nat
  point : Int
deriving Repr, DecidableEq

/-- The least `k` with `numerator < denominator * 10 ^ k`, starting from `k`. -/
def magnitudeFrom (numerator denominator : Nat) : (fuel k : Nat) → Nat
  | 0, k => k
  | fuel + 1, k =>
    if numerator < denominator * Nat.pow 10 k then k
    else magnitudeFrom numerator denominator fuel (k + 1)

/-- The `k` with `10 ^ (k - 1) ≤ numerator / denominator < 10 ^ k`. -/
def magnitude (numerator denominator : Nat) : Int :=
  if denominator ≤ numerator then (magnitudeFrom numerator denominator 400 1 : Nat)
  else 1 - (magnitudeFrom denominator numerator 400 0 : Nat) + (if denominator ==
    numerator * Nat.pow 10 (magnitudeFrom denominator numerator 400 0 - 1) then 1 else 0)

/-- The grid point with `count` digits nearest to the number, if one of its two neighbours lies
between `low` and `high`. All four numbers share the denominator. -/
def onGrid? (low value high denominator : Nat) (inclusive : Bool) (point : Int) (count : Nat) :
    Option Nat :=
  let up := (count - point).toNat
  let down := (point - count).toNat
  let scale n := n * Nat.pow 10 up
  let unit := denominator * Nat.pow 10 down
  let below := scale value / unit
  let fits n :=
    if inclusive then decide (scale low ≤ n * unit) && decide (n * unit ≤ scale high)
    else decide (scale low < n * unit) && decide (n * unit < scale high)
  match fits below, fits (below + 1) with
  | true, true => some (roundHalfEven (scale value) unit)
  | true, false => some below
  | false, true => some (below + 1)
  | false, false => none

/-- The first of `counts` digit counts on whose grid the number has a neighbour that reads back. -/
def shortestFrom (low value high denominator : Nat) (inclusive : Bool) (point : Int) :
    (fuel count : Nat) → Digits
  | 0, count => { digits := 0, count, point }
  | fuel + 1, count =>
    match onGrid? low value high denominator inclusive point count with
    | some digits =>
      if digits == Nat.pow 10 count then { digits := 1, count := 1, point := point + 1 }
      else { digits, count, point }
    | none => shortestFrom low value high denominator inclusive point fuel (count + 1)

/-- The fewest digits that read back as the number, which is positive and finite. -/
def shortest (x : Float) : Digits :=
  let number := binaryOf x
  let (numerator, denominator) := number.ratio
  -- The spacing below a power of two is half the spacing above it.
  let narrow := number.mantissa == Nat.pow 2 52 && number.raised + 1074 != number.lowered
  let half := Nat.pow 2 number.raised
  let value := 4 * numerator
  let low := value - (if narrow then half else 2 * half)
  let high := value + 2 * half
  shortestFrom low value high (4 * denominator) (number.mantissa % 2 == 0)
    (magnitude numerator denominator) 18 1

def digitText (digits : Digits) : List Char :=
  let text := (toString digits.digits).toList
  List.replicate (digits.count - text.length) '0' ++ text

def dropTrailingZeros (text : List Char) : List Char :=
  match (text.reverse.dropWhile (· == '0')).reverse with
  | [] => ['0']
  | rest => rest

/-- Numbers from `10 ^ -4` up to `10 ^ 16` are written positionally, with a digit after the point;
others with an exponent of a sign and at least two digits. -/
def floatText (x : Float) : String :=
  if x.isNaN then "nan"
  else if x.isInf then (if isNegative x then "-inf" else "inf")
  else
    let sign := if isNegative x then "-" else ""
    if x == 0 then sign ++ "0.0"
    else
      let digits := shortest x
      let text := dropTrailingZeros (digitText digits)
      let size : Int := text.length
      if -4 < digits.point ∧ digits.point ≤ 16 then
        if digits.point ≤ 0 then
          sign ++ "0." ++ String.ofList (List.replicate (-digits.point).toNat '0' ++ text)
        else if size ≤ digits.point then
          sign ++ String.ofList (text ++ List.replicate (digits.point - size).toNat '0') ++ ".0"
        else
          let whole := digits.point.toNat
          sign ++ String.ofList (text.take whole) ++ "." ++ String.ofList (text.drop whole)
      else
        let exponent := digits.point - 1
        let exponentDigits := toString exponent.natAbs
        let padded := if exponentDigits.length < 2 then "0" ++ exponentDigits else exponentDigits
        let fraction := if text.length ≤ 1 then "" else "." ++ String.ofList (text.drop 1)
        sign ++ String.ofList (text.take 1) ++ fraction ++ "e" ++
          (if exponent < 0 then "-" else "+")
          ++ padded

def scaled (x : Float) (places : Nat) : Nat :=
  let (numerator, denominator) := (binaryOf x).ratio
  roundHalfEven (numerator * Nat.pow 10 places) denominator

def fixedText (x : Float) (places : Nat) : String :=
  if x.isNaN then "nan"
  else if x.isInf then (if isNegative x then "-inf" else "inf")
  else
    let digits := (toString (scaled x places)).toList
    let padded := List.replicate (places + 1 - digits.length) '0' ++ digits
    let whole := padded.take (padded.length - places)
    let fraction := padded.drop (padded.length - places)
    (if isNegative x then "-" else "") ++ String.ofList whole
      ++ (if places == 0 then "" else "." ++ String.ofList fraction)

def roundTo (x : Float) (places : Nat) : Float :=
  if x.isNaN || x.isInf then x
  else
    let magnitude := Float.ofScientific (scaled x places) true places
    if isNegative x then -magnitude else magnitude

end PrivacyScan.Number
