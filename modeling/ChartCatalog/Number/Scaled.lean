import ChartCatalog.Number.Binary64

/-!
# Reading by scaling

Numbers in records are not rounded from their exact decimal value. The leading
digits, as many as fit a word of 64 bits, are rounded to a binary number, which
is then multiplied or divided by a power of ten that is rounded itself. For
numbers of up to fifteen digits near one the result is the nearest binary number
all the same; for others it can be off by a unit in the last place. A power
beyond the largest one is divided out in steps.
-/

namespace ChartCatalog.Number

/-- The exponent of the largest power of ten that is a finite number. -/
def largestPower : Nat := 308

/-- A power of ten in units, rounded. -/
def powerUnits (e : Nat) : Nat := Binary64.nearestUnits (powerOfTen e * unitsPerOne) 1

/-- Units divided by a power of ten, in steps of the largest power. Nothing is
left to divide once the units are used up. -/
def divideByPower (units e : Nat) : Nat :=
  if e ≤ largestPower then Binary64.nearestUnits (units * unitsPerOne) (powerUnits e)
  else if units = 0 then 0
  else divideByPower (Binary64.nearestUnits (units * unitsPerOne) (powerUnits largestPower))
    (e - largestPower)
termination_by e
decreasing_by simp only [largestPower] at *; omega

/-- The number for `significand · 10 ^ exponent` by scaling; `none` if it is
beyond the finite numbers. -/
def Binary64.scaled? (negative : Bool) (significand : Nat) (exponent : Int) :
    Option Binary64 :=
  let units := nearestUnits (significand * unitsPerOne) 1
  let scaled :=
    if units = 0 then zero negative
    else match exponent with
      | .ofNat e =>
        if e ≤ largestPower then ofUnits negative (units * powerUnits e) unitsPerOne
        else .infinite negative
      | .negSucc e => ofUnits negative (divideByPower units (e + 1)) 1
  if scaled.isFinite then some scaled else none

end ChartCatalog.Number
