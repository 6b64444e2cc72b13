import ChartCatalog.Number.PowerOfTen
import ChartCatalog.Number.Rounding

/-!
# Binary numbers of 64 bits

Ratings are binary floating point numbers of 64 bits. Every finite one is a
whole multiple of the unit `2 ^ -1074`, so `Binary64` keeps a sign and a number
of units; the order is then the order of whole numbers and rounding is division
with remainder. A number of units is `Representable` when it lies below the
largest exponent and its binary digits, trailing zeros aside, are at most 53.

`nearest` rounds an exact fraction, a tie going to the even neighbour; `ofBits`
and `toBits` give the interchange format; `compare?` is the order, in which
`nan` takes no part and the two zeros are equal.
-/

namespace ChartCatalog.Number

/-- How many units make one. -/
def unitsPerOne : Nat := 1 <<< 1074

/-- The most zeros that follow the 53 binary digits of a significand. -/
def largestShift : Nat := 2045

/-- The first number of units beyond the format: `2 ^ 1024`. -/
def unitLimit : Nat := (1 <<< 53) <<< largestShift

/-- A number of units that the format holds exactly: below the limit, and zero
in all but the leading 53 binary digits. -/
structure Representable (units : Nat) : Prop where
  lt_limit : units < unitLimit
  aligned : 1 <<< (units.log2 - 52) ∣ units

instance (units : Nat) : Decidable (Representable units) :=
  decidable_of_iff (units < unitLimit ∧ 1 <<< (units.log2 - 52) ∣ units)
    ⟨fun h => ⟨h.1, h.2⟩, fun h => ⟨h.1, h.2⟩⟩

/-- A binary floating point number of 64 bits. A zero keeps its sign; the many
encodings of `nan` count as one. -/
inductive Binary64
  | finite (negative : Bool) (units : Nat) (representable : Representable units)
  | infinite (negative : Bool)
  | nan
  deriving DecidableEq

/-- Up to 53 binary digits, shifted, are representable. -/
theorem representable_shiftLeft {m s : Nat} (hm : m ≤ 1 <<< 53) (hlt : m <<< s < unitLimit) :
    Representable (m <<< s) := by
  refine ⟨hlt, ?_⟩
  simp only [Nat.shiftLeft_eq, Nat.one_mul] at hm ⊢
  by_cases h0 : m = 0
  · simp [h0]
  have hne : m * 2 ^ s ≠ 0 := Nat.mul_ne_zero h0 (Nat.ne_of_gt (Nat.two_pow_pos s))
  rcases Nat.lt_or_eq_of_le hm with hlt' | rfl
  · -- at most 53 binary digits before the shift
    have hlog : (m * 2 ^ s).log2 < 53 + s := by
      rw [Nat.log2_lt hne, Nat.pow_add]
      exact Nat.mul_lt_mul_of_pos_right hlt' (Nat.two_pow_pos s)
    exact Nat.dvd_trans (Nat.pow_dvd_pow 2 (by omega)) (Nat.dvd_mul_left _ _)
  · -- a power of two
    rw [← Nat.pow_add, Nat.log2_two_pow]
    exact Nat.pow_dvd_pow 2 (by omega)

theorem unitLimit_pos : 0 < unitLimit := by
  simp only [unitLimit, Nat.shiftLeft_eq]
  exact Nat.mul_pos (by decide) (Nat.two_pow_pos _)

theorem representable_zero : Representable 0 := ⟨unitLimit_pos, by simp⟩

/-- A significand of 53 digits under the largest exponent stays below the limit. -/
theorem shiftLeft_lt_limit {m s : Nat} (hm : m < 1 <<< 53) (hs : s ≤ largestShift) :
    m <<< s < unitLimit := by
  simp only [unitLimit, Nat.shiftLeft_eq] at hm ⊢
  exact Nat.lt_of_lt_of_le (Nat.mul_lt_mul_of_pos_right hm (Nat.two_pow_pos s))
    (Nat.mul_le_mul_left _ (Nat.pow_le_pow_right (by decide) hs))

namespace Binary64

/-- Zero, of either sign. -/
def zero (negative : Bool) : Binary64 := .finite negative 0 representable_zero

/-- Neither infinite nor `nan`. -/
def isFinite : Binary64 → Bool
  | .finite .. => true
  | _ => false

/-! ## Order -/

/-- The place of a number on the line of whole units; the infinities lie just
beyond the finite numbers, and `nan` has no place. -/
def place? : Binary64 → Option Int
  | .finite negative units _ => some (if negative then -units else units)
  | .infinite negative => some (if negative then -unitLimit else unitLimit)
  | .nan => none

/-- The order of two numbers, `none` when one of them is `nan`. -/
def compare? (x y : Binary64) : Option Ordering :=
  match x.place?, y.place? with
  | some a, some b => some (compare a b)
  | _, _ => none

/-! ## Rounding -/

/-- The representable number of units nearest to `n / d` units, without regard
to the limit. -/
def nearestUnits (n d : Nat) : Nat :=
  let shift := (n / d).log2 - 52
  roundDiv .toEven n (d <<< shift) <<< shift

/-- What is kept of a quotient has at most 53 binary digits. -/
theorem nearestUnits_significand_le (n d : Nat) :
    roundDiv .toEven n (d <<< ((n / d).log2 - 52)) ≤ 1 <<< 53 := by
  refine Nat.le_trans (roundDiv_le_div_add_one _ _ _) ?_
  simp only [Nat.shiftLeft_eq, Nat.one_mul]
  rw [← Nat.div_div_eq_div_mul]
  have hlt : n / d < 2 ^ (53 + ((n / d).log2 - 52)) := by
    by_cases h0 : n / d = 0
    · rw [h0]; exact Nat.two_pow_pos _
    · rw [← Nat.log2_lt h0]; omega
  rw [Nat.pow_add] at hlt
  exact Nat.div_lt_of_lt_mul (by rwa [Nat.mul_comm])

/-- The number nearest to `n / d` units, infinite from the limit on. -/
def ofUnits (negative : Bool) (n d : Nat) : Binary64 :=
  if h : nearestUnits n d < unitLimit then
    .finite negative (nearestUnits n d)
      (representable_shiftLeft (nearestUnits_significand_le n d) h)
  else .infinite negative

/-- The number nearest to the fraction `n / d`. -/
def nearest (negative : Bool) (n d : Nat) : Binary64 :=
  ofUnits negative (n * unitsPerOne) d

/-- The number nearest to `coefficient · 10 ^ exponent`. Beyond the two outer
bounds the answer is known without forming the power. -/
def ofDecimal (negative : Bool) (coefficient : Nat) (exponent : Int) : Binary64 :=
  if coefficient = 0 then zero negative
  else if 400 < exponent then .infinite negative
  else if exponent < -(400 + coefficient.log2) then zero negative
  else match exponent with
    | .ofNat e => nearest negative (coefficient * powerOfTen e) 1
    | .negSucc e => nearest negative coefficient (powerOfTen (e + 1))

/-! ## Interchange format -/

/-- The significand of a finite word: the fraction, with the leading bit that is
not written unless the exponent field is zero. -/
def significand (field fraction : Nat) : Nat :=
  if field = 0 then fraction else (1 <<< 52) + fraction

theorem representable_word {field fraction : Nat} (hfield : field < 1 <<< 11)
    (hfinite : field ≠ 2047) (hfraction : fraction < 1 <<< 52) :
    Representable (significand field fraction <<< (field - 1)) := by
  have hlt : significand field fraction < 1 <<< 53 := by
    unfold significand; split <;> omega
  have hshift : field - 1 ≤ largestShift := by unfold largestShift; omega
  exact representable_shiftLeft (Nat.le_of_lt hlt) (shiftLeft_lt_limit hlt hshift)

/-- The number whose sign bit, exponent field and fraction field are those of
the word. -/
def ofBits (word : UInt64) : Binary64 :=
  let negative := word.toNat >>> 63 == 1
  let field := (word.toNat >>> 52) % (1 <<< 11)
  let fraction := word.toNat % (1 <<< 52)
  if h : field = 2047 then (if fraction = 0 then .infinite negative else .nan)
  else .finite negative (significand field fraction <<< (field - 1))
    (representable_word (Nat.mod_lt _ (by decide)) h (Nat.mod_lt _ (by decide)))

/-- The word of a number. The exponent field and the fraction field are
neighbours, so the leading bit of a significand carries into the field. -/
def toBits : Binary64 → UInt64
  | .finite negative units _ =>
    let shift := units.log2 - 52
    UInt64.ofNat ((if negative then 1 <<< 63 else 0) + (shift <<< 52) + (units >>> shift))
  | .infinite negative => UInt64.ofNat ((if negative then 1 <<< 63 else 0) + (2047 <<< 52))
  | .nan => UInt64.ofNat ((2047 <<< 52) + (1 <<< 51))

end Binary64

end ChartCatalog.Number
