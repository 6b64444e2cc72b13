import ChartCatalog.Number.Scaled
import ChartCatalog.Number.Shortest
import ChartCatalog.Text.Digits

/-!
# Number literals

A number in a JSON document is kept as it is written, because a whole number
and the same number with a point are not accepted in the same places. A literal
is read as a natural number (`toNat?`) or as a rating (`toBinary64?`), and both
kinds of number have one literal that is written for them.
-/

namespace ChartCatalog.Json

open Number Text

/-- A number literal: sign, digits before and after the point, and the sign and
digits of an exponent. Without a point there are no digits after it. -/
structure Literal where
  negative : Bool
  whole : List Char
  fraction : List Char
  exponent : Option (Bool × List Char)
  deriving DecidableEq

namespace Literal

/-- The exponent's text. Its sign is always written. -/
def exponentText : Option (Bool × List Char) → List Char
  | none => []
  | some (negative, digits) => ['e', if negative then '-' else '+'] ++ digits

/-- The literal's text. -/
def text (literal : Literal) : List Char :=
  signText literal.negative ++ literal.whole ++
    (if literal.fraction = [] then [] else '.' :: literal.fraction) ++
    exponentText literal.exponent

/-! ## Natural numbers -/

/-- The literal of a natural number. -/
def ofNat (n : Nat) : Literal := ⟨false, digits n, [], none⟩

/-- The natural number of a literal without sign, point and exponent. -/
def toNat? (literal : Literal) : Option Nat :=
  if literal.negative = false ∧ literal.fraction = [] ∧ literal.exponent = none then
    some (numberOf literal.whole)
  else none

/-! ## Ratings -/

/-- The first significand that does not fit a word. -/
def significandLimit : Nat := UInt64.size

/-- The significand continued by digits as long as it fits, and the digits that
did not. -/
def continueSignificand (significand : Nat) : List Char → Nat × List Char
  | [] => (significand, [])
  | c :: s =>
    let next := Nat.ofDigitChars 10 [c] significand
    if next < significandLimit then continueSignificand next s else (significand, c :: s)

/-- The value of an exponent. -/
def exponentValue : Option (Bool × List Char) → Int
  | none => 0
  | some (negative, digits) =>
    if negative then -(numberOf digits : Int) else (numberOf digits : Int)

/-- The rating of a literal, unless it is beyond the finite numbers. Digits
before the point that do not fit only count as places; digits after the point
that do not fit are left out. -/
def toBinary64? (literal : Literal) : Option Binary64 :=
  let (significand, surplus) := continueSignificand 0 literal.whole
  let (significand, ignored) := continueSignificand significand literal.fraction
  let places : Int := literal.fraction.length - ignored.length
  Binary64.scaled? literal.negative significand
    (surplus.length - places + exponentValue literal.exponent)

/-- A decimal with the point among its digits, at least one digit after it. -/
def plain (negative : Bool) (d : Decimal) : Literal :=
  let shown := d.significantDigits
  if d.point ≤ 0 then
    ⟨negative, ['0'], List.replicate (-d.point).toNat '0' ++ shown, none⟩
  else if shown.length ≤ d.point.toNat then
    ⟨negative, shown ++ List.replicate (d.point.toNat - shown.length) '0', ['0'], none⟩
  else ⟨negative, shown.take d.point.toNat, shown.drop d.point.toNat, none⟩

/-- A decimal with one digit before the point and an exponent. -/
def scientific (negative : Bool) (d : Decimal) : Literal :=
  let shown := d.significantDigits
  ⟨negative, shown.take 1, shown.drop 1,
    some (d.point < 1, digits (d.point - 1).natAbs)⟩

/-- The literal of a finite number: its shortest decimal, halfway cases to the
even digit, with an exponent where more than four zeros would follow the point
or more than sixteen digits would stand before it. -/
def ofFinite (negative : Bool) (units : Nat) : Literal :=
  if units = 0 then ⟨negative, ['0'], ['0'], none⟩
  else
    let d := shortest .toEven units
    if -4 ≤ d.point ∧ d.point ≤ 16 then plain negative d else scientific negative d

end Literal

end ChartCatalog.Json
