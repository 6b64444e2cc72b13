import ChartCatalog.Number.Binary64
import ChartCatalog.Text.Digits

/-!
# The shortest decimal

A finite number is written with the fewest significant digits that read back as
the same number, and among decimals of that length with the nearest one.
`shortest` looks at lengths from one digit up and tests the two decimals of the
length around the number by reading them (`readsBack`); the exact decimal
expansion, which always reads back, stands at the end of the search.

`positionalText` lays the digits out with a decimal point and never uses an
exponent.
-/

namespace ChartCatalog.Number

open Text

/-- A positive decimal `coefficient · 10 ^ exponent`. -/
structure Decimal where
  coefficient : Nat
  exponent : Int
  deriving DecidableEq

/-- Does the decimal denote the number of `units`? -/
def Decimal.readsBack (d : Decimal) (units : Nat) : Bool :=
  match Binary64.ofDecimal false d.coefficient d.exponent with
  | .finite _ read _ => read == units
  | _ => false

/-- The exponent of the leading decimal digit of a positive number of units. -/
def leadingExponent (units : Nat) : Int :=
  if unitsPerOne ≤ units then (digits (units / unitsPerOne)).length - 1
  else -((digits ((unitsPerOne - 1) / units)).length : Int)

/-- The decimal with the given exponent that is nearest to the number, and the
one on the other side of it. -/
def neighbours (tie : Tie) (units : Nat) (exponent : Int) : Decimal × Decimal :=
  let (n, d) := match exponent with
    | .ofNat e => (units, unitsPerOne * powerOfTen e)
    | .negSucc e => (units * powerOfTen (e + 1), unitsPerOne)
  let near := roundDiv tie n d
  let far := if near = n / d then near + 1 else n / d
  (⟨near, exponent⟩, ⟨far, exponent⟩)

/-- A decimal of the given length that reads back, the nearer one first. -/
def ofLength? (tie : Tie) (units length : Nat) : Option Decimal :=
  -- the last of `length` digits has this exponent
  let (near, far) := neighbours tie units (leadingExponent units + 1 - length)
  if near.readsBack units then some near
  else if far.readsBack units then some far
  else none

/-- The exact decimal expansion: a unit is `5 ^ 1074 · 10 ^ -1074`, so that the
division leaves no rest. -/
def exactDecimal (units : Nat) : Decimal := ⟨units * (powerOfTen 1074 / unitsPerOne), -1074⟩

/-- The shortest decimal that denotes the number of `units`. -/
def shortest (tie : Tie) (units : Nat) : Decimal :=
  ((List.range 17).findSome? fun i => ofLength? tie units (i + 1)).getD (exactDecimal units)

/-! ## Layout -/

/-- The significant digits of a decimal: none for zero. -/
def Decimal.significantDigits (d : Decimal) : List Char :=
  ((digits d.coefficient).reverse.dropWhile (· == '0')).reverse

/-- How many digits stand before the decimal point, counted from the leading
digit; zero or less if zeros follow the point. -/
def Decimal.point (d : Decimal) : Int :=
  (digits d.coefficient).length + d.exponent

/-- A decimal without an exponent: digits, and a point only if digits other than
zero follow it. -/
def Decimal.positional (d : Decimal) : List Char :=
  let shown := d.significantDigits
  if d.coefficient = 0 then ['0']
  else if d.point ≤ 0 then "0.".toList ++ List.replicate (-d.point).toNat '0' ++ shown
  else if shown.length ≤ d.point.toNat then
    shown ++ List.replicate (d.point.toNat - shown.length) '0'
  else shown.take d.point.toNat ++ ['.'] ++ shown.drop d.point.toNat

/-- The minus of a negative number; a negative zero has one. -/
def signText (negative : Bool) : List Char := if negative then ['-'] else []

/-- The number in digits with a decimal point where one is needed, never an
exponent. Halfway cases go up. -/
def Binary64.positionalText : Binary64 → List Char
  | .finite negative units _ => signText negative ++ (shortest .up units).positional
  | .infinite negative => signText negative ++ "inf".toList
  | .nan => "NaN".toList

end ChartCatalog.Number
