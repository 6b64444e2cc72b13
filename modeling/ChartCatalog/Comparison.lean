/-!
# Comparisons

A clause compares a chart's field with a value. Fields with an order take all
six comparisons (`Comparison`); fields that are only equal or not take two
(`Equality`); a level together with its half takes the three that include
equality (`HalfComparison`). Each has a sign, and `ofSign?` reads exactly the
signs of its own kind.

A comparison is decided by the order of its two sides. The order of ratings is
partial, so it comes as an `Option`: two sides without an order are unequal and
satisfy no other comparison.
-/

namespace ChartCatalog

/-- A comparison of values that have an order. -/
inductive Comparison
  | eq
  | ne
  | gt
  | ge
  | lt
  | le
  deriving DecidableEq

namespace Comparison

/-- The sign of the comparison. -/
def sign : Comparison → String
  | eq => "="
  | ne => "!="
  | gt => ">"
  | ge => ">="
  | lt => "<"
  | le => "<="

/-- The comparison of a sign. -/
def ofSign? : String → Option Comparison
  | "=" => some eq
  | "!=" => some ne
  | ">" => some gt
  | ">=" => some ge
  | "<" => some lt
  | "<=" => some le
  | _ => none

/-- Does the comparison hold of two sides in the given order? -/
def holds : Comparison → Option Ordering → Bool
  | eq, order => order == some .eq
  | ne, order => order != some .eq
  | gt, order => order == some .gt
  | ge, order => order == some .gt || order == some .eq
  | lt, order => order == some .lt
  | le, order => order == some .lt || order == some .eq

theorem ofSign?_eq_some_iff {s : String} {c : Comparison} : ofSign? s = some c ↔ s = c.sign := by
  constructor
  · intro h
    unfold ofSign? at h
    split at h <;> cases h <;> rfl
  · rintro rfl
    cases c <;> rfl

end Comparison

/-- A comparison of values that are only equal or not. -/
inductive Equality
  | eq
  | ne
  deriving DecidableEq

namespace Equality

/-- The sign of the comparison. -/
def sign : Equality → String
  | eq => "="
  | ne => "!="

/-- The comparison of a sign. -/
def ofSign? : String → Option Equality
  | "=" => some eq
  | "!=" => some ne
  | _ => none

/-- `=` keeps what matches, `!=` what does not. -/
def keeps : Equality → Bool → Bool
  | eq, isMatch => isMatch
  | ne, isMatch => !isMatch

theorem ofSign?_eq_some_iff {s : String} {c : Equality} : ofSign? s = some c ↔ s = c.sign := by
  constructor
  · intro h
    unfold ofSign? at h
    split at h <;> cases h <;> rfl
  · rintro rfl
    cases c <;> rfl

end Equality

/-- A comparison of levels with their halves. -/
inductive HalfComparison
  | eq
  | ge
  | le
  deriving DecidableEq

namespace HalfComparison

/-- The sign of the comparison. -/
def sign : HalfComparison → String
  | eq => "="
  | ge => ">="
  | le => "<="

/-- The comparison of a sign. -/
def ofSign? : String → Option HalfComparison
  | "=" => some eq
  | ">=" => some ge
  | "<=" => some le
  | _ => none

/-- Does the comparison hold of two sides in the given order? -/
def holds : HalfComparison → Ordering → Bool
  | eq, order => order == .eq
  | ge, order => order != .lt
  | le, order => order != .gt

theorem ofSign?_eq_some_iff {s : String} {c : HalfComparison} :
    ofSign? s = some c ↔ s = c.sign := by
  constructor
  · intro h
    unfold ofSign? at h
    split at h <;> cases h <;> rfl
  · rintro rfl
    cases c <;> rfl

end HalfComparison

end ChartCatalog
