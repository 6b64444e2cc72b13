import ChartCatalog.Comparison
import ChartCatalog.Number.Shortest

/-!
# Ratings

A rating is a fine adjustment around a chart's level, in levels. It enters
filters in three ways: as a number, as a text of at most six decimal places
(`Rating.text`, by which ratings are equal or not), and as the half of a level
it falls into (`HalfLevel.ofRating`).
-/

namespace ChartCatalog

open Number Text

namespace Rating

/-- How many decimal places of a rating count. -/
def places : Nat := 6

/-- The rating in millionths, a tie going to the even neighbour. -/
def millionths (units : Nat) : Nat := roundDiv .toEven (units * powerOfTen places) unitsPerOne

/-- The last `places` digits of a number of millionths, without trailing zeros. -/
def fractionDigits (millionths : Nat) : List Char :=
  let shown := digits (millionths % powerOfTen places)
  let padded := List.replicate (places - shown.length) '0' ++ shown
  (padded.reverse.dropWhile (· == '0')).reverse

/-- A number of millionths as a decimal, without a point if it is whole. -/
def millionthsText (millionths : Nat) : List Char :=
  let fraction := fractionDigits millionths
  digits (millionths / powerOfTen places) ++ (if fraction = [] then [] else '.' :: fraction)

/-- The rating as characters. -/
def textChars : Binary64 → List Char
  | .finite negative units _ =>
    signText (negative && millionths units != 0) ++ millionthsText (millionths units)
  | .infinite negative => signText negative ++ ['i', 'n', 'f']
  | .nan => ['N', 'a', 'N']

/-- The rating rounded to six decimal places, without trailing zeros. Ratings
with the same text count as equal; zero never has a sign. -/
def text (rating : Binary64) : String := String.ofList (textChars rating)

end Rating

/-- The part of a level that a rating falls into. -/
inductive HalfLevel
  | easier
  | middle
  | harder
  deriving DecidableEq

namespace HalfLevel

/-- The place in ascending order. -/
def rank : HalfLevel → Nat
  | easier => 0
  | middle => 1
  | harder => 2

/-- The letter after a level: `40e`, `40m`, `40h`. -/
def letter : HalfLevel → Char
  | easier => 'e'
  | middle => 'm'
  | harder => 'h'

/-- The part of a letter. -/
def ofLetter? : Char → Option HalfLevel
  | 'e' => some easier
  | 'm' => some middle
  | 'h' => some harder
  | _ => none

/-- One half of either sign, where the parts meet. -/
def half (negative : Bool) : Binary64 := .nearest negative 1 2

/-- The part for a rating: the outer parts include the halves themselves, and
what has no order is in the middle. -/
def ofRating (rating : Binary64) : HalfLevel :=
  if Comparison.le.holds (rating.compare? (half true)) then easier
  else if Comparison.ge.holds (rating.compare? (half false)) then harder
  else middle

@[simp] theorem ofLetter?_letter (h : HalfLevel) : ofLetter? h.letter = some h := by
  cases h <;> rfl

end HalfLevel

end ChartCatalog
