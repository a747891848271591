import PrivacyScan.Text.Search

/-!
Whole numbers in texts: digits of any script with single underscores between them, a sign before
them and blanks around.
-/

namespace PrivacyScan.Number

/-- The number that digits spell; `afterDigit` tells whether an underscore may come. -/
def digitsFrom? (number : Nat) (afterDigit : Bool) : List Char → Option Nat
  | [] => if afterDigit then some number else none
  | '_' :: rest => if afterDigit then digitsFrom? number false rest else none
  | c :: rest =>
    (Text.decimalValue? c).bind fun digit => digitsFrom? (number * 10 + digit) true rest

def wholeNumber? (text : String) : Option Int :=
  match (Text.trim text).toList with
  | '-' :: rest => (digitsFrom? 0 false rest).map fun number => -(number : Int)
  | '+' :: rest => (digitsFrom? 0 false rest).map Int.ofNat
  | digits => (digitsFrom? 0 false digits).map Int.ofNat

end PrivacyScan.Number
