/-!
# Sets of characters

The character properties that decide how text is read are finite unions of code
point intervals. `CharSet` is such a union, written in ascending order; the
tables of single properties (blanks, decimal digits, letter case, ...) live in
modules of their own, each under the property's name. They follow version 17 of
the Unicode character database, except for the decimal digits, which are those of
version 16.
-/

namespace ChartCatalog.Text

/-- A set of characters: closed intervals of code points, ascending and
disjoint. -/
abbrev CharSet := List (Nat × Nat)

/-- Membership in some interval of the set. -/
def CharSet.contains (set : CharSet) (c : Char) : Bool :=
  set.any fun (low, high) => low ≤ c.toNat && c.toNat ≤ high

theorem CharSet.contains_iff {set : CharSet} {c : Char} :
    set.contains c = true ↔ ∃ r ∈ set, r.1 ≤ c.toNat ∧ c.toNat ≤ r.2 := by
  simp [CharSet.contains]

end ChartCatalog.Text
