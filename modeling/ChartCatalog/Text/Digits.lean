/-!
# Numbers in ASCII digits

Natural numbers are written with `Nat.toDigits 10`, without leading zeros.
Levels, folders and level codes are read by `shortNumber?`: one or two ASCII
digits, leading zeros allowed. `shortNumber?_digits` says that a number below
one hundred is read back.
-/

namespace ChartCatalog.Text

/-- The number in decimal digits. -/
def digits (n : Nat) : List Char := Nat.toDigits 10 n

/-- The value of a run of ASCII digits. -/
def numberOf (s : List Char) : Nat := Nat.ofDigitChars 10 s 0

@[simp] theorem numberOf_digits (n : Nat) : numberOf (digits n) = n :=
  Nat.ofDigitChars_ten_toDigits

/-- The number written by one or two ASCII digits. -/
def shortNumber? (s : List Char) : Option Nat :=
  if s ≠ [] ∧ s.length ≤ 2 ∧ s.all Char.isDigit then some (numberOf s) else none

theorem shortNumber?_eq_some_iff {s : List Char} {n : Nat} :
    shortNumber? s = some n ↔
      (s ≠ [] ∧ s.length ≤ 2 ∧ s.all Char.isDigit) ∧ numberOf s = n := by
  unfold shortNumber?
  split
  next h => exact ⟨fun e => ⟨h, Option.some.inj e⟩, fun e => congrArg some e.2⟩
  next h => exact ⟨(nomatch ·), fun e => absurd e.1 h⟩

/-- Numbers below one hundred are read back from their digits. -/
theorem shortNumber?_digits (n : Nat) (h : n < 100) : shortNumber? (digits n) = some n := by
  have all : ∀ m : Fin 100, shortNumber? (digits m) = some m.val := by decide +kernel
  exact all ⟨n, h⟩

end ChartCatalog.Text
