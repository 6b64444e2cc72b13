import ChartCatalog.Text.DecimalDigit
import ChartCatalog.Text.Digits
import ChartCatalog.Text.Split

/-!
# Tempo displays

The game shows a chart's tempo as free text: `150`, `100-200`, `90/180, 45`.
Only the numbers in it matter. `values` cuts the text into runs of decimal
digits of any script and keeps those that are written in ASCII and fit 32 bits.
A tempo is bugged when it divides 3600, because the notes then visibly jitter.
-/

namespace ChartCatalog.Tempo

open Text

/-- The maximal runs of decimal digits. -/
def runs (s : List Char) : List (List Char) :=
  (splitWhere (!isDecimalDigit ·) s).filter (· ≠ [])

/-- The first number that a tempo cannot be. -/
def valueLimit : Nat := UInt32.size

/-- The tempo of a run: its value, if it is in ASCII digits and below the limit. -/
def runValue? (run : List Char) : Option Nat :=
  if run.all Char.isDigit ∧ numberOf run < valueLimit then some (numberOf run) else none

/-- The tempos of a display, in order of appearance. -/
def values (display : String) : List Nat := (runs display.toList).filterMap runValue?

/-- The number of beats a minute at which notes move by whole steps. -/
def steadyRate : Nat := 3600

/-- Does the tempo divide the steady rate? Zero divides nothing. -/
def isBugged (tempo : Nat) : Bool := tempo != 0 && steadyRate % tempo == 0

/-- Is some tempo of the display bugged? -/
def hasBugged (display : String) : Bool := (values display).any isBugged

/-- Does the display show more than one tempo? -/
def hasChanges (display : String) : Bool := 1 < (values display).length

theorem isBugged_iff {tempo : Nat} : isBugged tempo = true ↔ tempo ≠ 0 ∧ tempo ∣ steadyRate := by
  simp [isBugged, Nat.dvd_iff_mod_eq_zero]

end ChartCatalog.Tempo
