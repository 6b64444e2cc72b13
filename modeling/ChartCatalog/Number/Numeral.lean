import ChartCatalog.Number.Binary64
import ChartCatalog.Text.AsciiCase
import ChartCatalog.Text.Digits

/-!
# Decimal numerals

`Binary64.ofText?` reads the numerals that stand for ratings outside of JSON: an
optional sign, digits with at most one point among or beside them, an optional
exponent; or the name of an infinity or of `nan` in any letter case. The
number is the binary one nearest to what is written, so a numeral may have any
number of digits. No blanks are allowed.
-/

namespace ChartCatalog.Number

open Text

/-- The digits at the start of the text. -/
def leadingDigits (s : List Char) : List Char := s.takeWhile Char.isDigit

/-- What follows the digits at the start of the text. -/
def afterDigits (s : List Char) : List Char := s.dropWhile Char.isDigit

/-- A whole text of ASCII digits, at least one, as a number. -/
def wholeNumber? (s : List Char) : Option Nat :=
  if s ≠ [] ∧ s.all Char.isDigit then some (numberOf s) else none

/-- A sign and what follows it: is the number negative? -/
def splitSign : List Char → Bool × List Char
  | '+' :: s => (false, s)
  | '-' :: s => (true, s)
  | s => (false, s)

/-- A point and the digits after it, with what follows them. -/
def splitFraction : List Char → List Char × List Char
  | '.' :: s => (leadingDigits s, afterDigits s)
  | s => ([], s)

/-- The exponent that ends a numeral, zero if there is none. -/
def exponent? : List Char → Option Int
  | [] => some 0
  | c :: s =>
    if c = 'e' ∨ c = 'E' then
      let (negative, body) := splitSign s
      (wholeNumber? body).map fun e => if negative then -(e : Int) else e
    else none

/-- Digits with at most one point and an exponent. -/
def ofDigits? (negative : Bool) (s : List Char) : Option Binary64 :=
  let whole := leadingDigits s
  let (fraction, rest) := splitFraction (afterDigits s)
  if whole = [] ∧ fraction = [] then none
  else (exponent? rest).map fun e =>
    .ofDecimal negative (numberOf (whole ++ fraction)) (e - fraction.length)

/-- The names of the numbers that are not finite. -/
def ofName? (negative : Bool) (s : List Char) : Option Binary64 :=
  let name := asciiLower s
  if name = "inf".toList ∨ name = "infinity".toList then some (.infinite negative)
  else if name = "nan".toList then some .nan
  else none

/-- The number written by a numeral. -/
def Binary64.ofText? (s : List Char) : Option Binary64 :=
  let (negative, body) := splitSign s
  (ofDigits? negative body).or (ofName? negative body)

end ChartCatalog.Number
