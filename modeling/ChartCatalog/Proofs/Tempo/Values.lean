import ChartCatalog.Proofs.Number.Positional
import ChartCatalog.Proofs.Tempo.Runs

/-!
# The tempos of a display

The tempos are the numbers of the maximal runs that are in ASCII digits alone and fit 32
bits, and a display changes its tempo or has a bugged one if these runs say so
(`values_maximalRuns`). Numbers that are written with anything between them are read back
(`values_of_printed`).

Read digit by digit into a word of 32 bits, a number is given up at the first digit for
which there is no room. Zeros before it need none, so this is the same as a bound on the
number (`foldlM_pushDigit?`). No tempo is ever divided by if it is zero
(`hasBuggedWord?_eq`).
-/

namespace ChartCatalog.Tempo

open Number Text

variable {s run : List Char} {c : Char}

/-! ## Runs that are tempos -/

/-- The run is in ASCII digits, and its number fits 32 bits. -/
def IsTempo (run : List Char) : Prop := IsDigits run ∧ numberOf run ≤ 4294967295

instance (run : List Char) : Decidable (IsTempo run) :=
  inferInstanceAs (Decidable (_ ∧ _))

theorem runValue?_eq (run : List Char) :
    runValue? run = if IsTempo run then some (numberOf run) else none := by
  have hiff : run.all Char.isDigit ∧ numberOf run < valueLimit ↔ IsTempo run :=
    and_congr isDigits_iff_all.symm Nat.lt_succ_iff
  unfold runValue?
  simp only [hiff]

theorem filterMap_runValue? (runs : List (List Char)) :
    runs.filterMap runValue? = (runs.filter IsTempo).map numberOf := by
  induction runs with
  | nil => rfl
  | cons run runs ih =>
    rw [List.filterMap_cons, runValue?_eq]
    by_cases h : IsTempo run
    · simp [h, ih]
    · simp [h, ih]

theorem values_eq (display : String) :
    values display = ((runs display.toList).filter IsTempo).map numberOf :=
  filterMap_runValue? _

theorem hasChanges_iff {display : String} :
    hasChanges display = true ↔ 2 ≤ ((runs display.toList).filter IsTempo).length := by
  rw [hasChanges, decide_eq_true_iff, values_eq, List.length_map]
  rfl

theorem hasBugged_iff {display : String} : hasBugged display = true ↔
    ∃ run ∈ runs display.toList, IsTempo run ∧ 0 < numberOf run ∧ numberOf run ∣ 3600 := by
  rw [hasBugged, List.any_eq_true, values_eq]
  constructor
  · rintro ⟨tempo, htempo, hbugged⟩
    obtain ⟨run, hrun, rfl⟩ := List.mem_map.mp htempo
    obtain ⟨hmem, hvalid⟩ := List.mem_filter.mp hrun
    obtain ⟨hne, hdvd⟩ := isBugged_iff.mp hbugged
    exact ⟨run, hmem, of_decide_eq_true hvalid, Nat.pos_of_ne_zero hne, hdvd⟩
  · rintro ⟨run, hmem, hvalid, hpos, hdvd⟩
    refine ⟨numberOf run, List.mem_map_of_mem (List.mem_filter.mpr ⟨hmem, ?_⟩), ?_⟩
    · exact decide_eq_true hvalid
    · exact isBugged_iff.mpr ⟨Nat.ne_of_gt hpos, hdvd⟩

/-! ## Displays that are put together -/

theorem values_append (a b : String) (hc : isDecimalDigit c = false) :
    values (a ++ String.singleton c ++ b) = values a ++ values b := by
  unfold values
  rw [String.toList_append, String.toList_append, String.toList_singleton, List.append_assoc,
    List.singleton_append, runs_append _ hc, List.filterMap_append]

theorem runs_gap_append {gap : List Char} (h : ∀ c ∈ gap, isDecimalDigit c = false) :
    runs (gap ++ s) = runs s := by
  induction gap with
  | nil => rfl
  | cons c gap ih =>
    simp only [List.forall_mem_cons] at h
    have hfirst := runs_append [] h.1 (gap ++ s)
    rw [List.nil_append, runs_nil, List.nil_append, ih h.2] at hfirst
    exact hfirst

/-- The numbers are written one after the other, between each two of them some text
without digits. -/
inductive Printed : List UInt32 → List Char → Prop
  | nil : Printed [] []
  | single (n : UInt32) : Printed [n] (digits n.toNat)
  | cons (n : UInt32) {separator : List Char} {numbers : List UInt32} {s : List Char} :
    separator ≠ [] → (∀ c ∈ separator, isDecimalDigit c = false) → Printed numbers s →
      Printed (n :: numbers) (digits n.toNat ++ separator ++ s)

theorem runs_digits (n : Nat) : runs (digits n) = [digits n] :=
  runs_of_digits Nat.toDigits_ne_nil
    fun c hc => isDecimalDigit_of_isDigit (isDigits_digits n c hc)

theorem runs_of_printed {numbers : List UInt32} (h : Printed numbers s) :
    runs s = numbers.map fun n => digits n.toNat := by
  induction h with
  | nil => rfl
  | single n => exact runs_digits n.toNat
  | @cons n separator numbers s hne hseparator _ ih =>
    cases separator with
    | nil => exact absurd rfl hne
    | cons c separator =>
      simp only [List.forall_mem_cons] at hseparator
      rw [List.append_assoc, List.cons_append, runs_append _ hseparator.1, runs_digits,
        runs_gap_append hseparator.2, ih]
      rfl

theorem isTempo_digits (n : UInt32) : IsTempo (digits n.toNat) := by
  refine ⟨isDigits_digits _, ?_⟩
  rw [numberOf_digits]
  exact Nat.le_of_lt_succ n.toNat_lt

/-- Numbers that are written are read back. -/
theorem values_of_printed {numbers : List UInt32} (h : Printed numbers s) :
    values (String.ofList s) = numbers.map UInt32.toNat := by
  have hall : (numbers.map fun n => digits n.toNat).filter IsTempo =
      numbers.map fun n => digits n.toNat := by
    rw [List.filter_eq_self]
    intro run hrun
    obtain ⟨n, -, rfl⟩ := List.mem_map.mp hrun
    exact decide_eq_true (isTempo_digits n)
  rw [values_eq, String.toList_ofList, runs_of_printed h, hall, List.map_map]
  exact List.map_congr_left fun n _ => numberOf_digits n.toNat

/-! ## Words of 32 bits -/

/-- The number in the word with one more digit behind it, if there is room for it. -/
def pushDigit? (word : UInt32) (digit : Char) : Option UInt32 :=
  let n := 10 * word.toNat + (digit.toNat - '0'.toNat)
  if n < UInt32.size then some (UInt32.ofNat n) else none

/-- The word of a run, read digit by digit. -/
def wordOf? (run : List Char) : Option UInt32 :=
  if run.all Char.isDigit then run.foldlM pushDigit? 0 else none

/-- The tempos of a display as words. -/
def words (display : String) : List UInt32 := (runs display.toList).filterMap wordOf?

/-- The remainder, which there is none of for a division by zero. -/
def remainder? (n d : UInt32) : Option UInt32 := if d = 0 then none else some (n % d)

/-- Is the tempo bugged? Only a tempo other than zero is divided by. -/
def isBuggedWord? (tempo : UInt32) : Option Bool :=
  if tempo = 0 then some false else (remainder? 3600 tempo).map (· == 0)

/-- Is some tempo of the display bugged, as far as this can be computed in words? -/
def hasBuggedWord? (display : String) : Option Bool := (words display).anyM isBuggedWord?

/-- Digits are read as long as there is room, which is up to the end if there is room for
the number. -/
theorem foldlM_pushDigit? (s : List Char) (word : UInt32) :
    s.foldlM pushDigit? word =
      if Nat.ofDigitChars 10 s word.toNat < UInt32.size then
        some (UInt32.ofNat (Nat.ofDigitChars 10 s word.toNat))
      else none := by
  induction s generalizing word with
  | nil =>
    rw [Nat.ofDigitChars_nil, if_pos word.toNat_lt, UInt32.ofNat_toNat]
    rfl
  | cons c s ih =>
    rw [List.foldlM_cons, Nat.ofDigitChars_cons, pushDigit?]
    generalize 10 * word.toNat + (c.toNat - '0'.toNat) = n
    by_cases hroom : n < UInt32.size
    · have hrest := ih (UInt32.ofNat n)
      rw [UInt32.toNat_ofNat_of_lt' hroom] at hrest
      rw [if_pos hroom]
      exact hrest
    · -- without room for the digits so far there is none for all of them
      have hall := le_ofDigitChars s n
      rw [if_neg hroom, if_neg (by omega)]
      rfl

theorem map_toNat_wordOf? (run : List Char) :
    (wordOf? run).map UInt32.toNat = runValue? run := by
  have hword : run.foldlM pushDigit? 0 =
      if numberOf run < UInt32.size then some (UInt32.ofNat (numberOf run)) else none :=
    foldlM_pushDigit? run 0
  unfold wordOf? runValue?
  rw [hword]
  by_cases hdigits : run.all Char.isDigit = true
  · by_cases hroom : numberOf run < UInt32.size
    · rw [if_pos hdigits, if_pos hroom, if_pos ⟨hdigits, hroom⟩, Option.map_some,
        UInt32.toNat_ofNat_of_lt' hroom]
    · rw [if_pos hdigits, if_neg hroom, if_neg fun h => hroom h.2]
      rfl
  · rw [if_neg hdigits, if_neg fun h => hdigits h.1]
    rfl

theorem map_toNat_words (display : String) :
    (words display).map UInt32.toNat = values display := by
  unfold words values
  rw [List.map_filterMap, funext map_toNat_wordOf?]

theorem isBuggedWord?_eq (tempo : UInt32) :
    isBuggedWord? tempo = some (isBugged tempo.toNat) := by
  unfold isBuggedWord? remainder?
  by_cases hzero : tempo = 0
  · rw [if_pos hzero, hzero]
    rfl
  · rw [if_neg hzero, if_neg hzero, Option.map_some]
    have hne : tempo.toNat ≠ 0 := fun h => hzero (UInt32.toNat_inj.mp h)
    have hremainder : (3600 % tempo == 0) = (3600 % tempo.toNat == 0) := by
      rw [Bool.eq_iff_iff, beq_iff_eq, beq_iff_eq, ← UInt32.toNat_inj, UInt32.toNat_mod]
      rfl
    rw [hremainder, isBugged, bne_iff_ne.mpr hne, Bool.true_and]
    rfl

/-- There is always a result. -/
theorem hasBuggedWord?_eq (display : String) :
    hasBuggedWord? display = some (hasBugged display) := by
  rw [hasBuggedWord?, hasBugged, ← map_toNat_words]
  induction words display with
  | nil => rfl
  | cons tempo tempos ih =>
    rw [List.anyM, isBuggedWord?_eq, List.map_cons, List.any_cons]
    cases isBugged tempo.toNat with
    | true => rfl
    | false => exact ih

/-! ## What the tempos are -/

/-- The tempos are the numbers of the maximal runs that are tempos, from left to right, and
nothing else. So they are those on both sides of a character that is no digit, and numbers
that are written are read back. In words of 32 bits the same tempos and the same answer are
computed, with no digit that is pushed out and no division by zero. -/
theorem values_maximalRuns :
    (∀ display : String, ∃ placed, PlacedRuns display.toList placed ∧
      values display = (placed.filter fun p => IsTempo p.2).map (fun p => numberOf p.2) ∧
      (hasChanges display = true ↔ 2 ≤ (placed.filter fun p => IsTempo p.2).length) ∧
      (hasBugged display = true ↔
        ∃ p ∈ placed, IsTempo p.2 ∧ 0 < numberOf p.2 ∧ numberOf p.2 ∣ 3600)) ∧
    (∀ (a b : String) (c : Char), isDecimalDigit c = false →
      values (a ++ String.singleton c ++ b) = values a ++ values b) ∧
    (∀ numbers s, Printed numbers s →
      values (String.ofList s) = numbers.map UInt32.toNat) ∧
    ∀ display, (words display).map UInt32.toNat = values display ∧
      hasBuggedWord? display = some (hasBugged display) := by
  refine ⟨fun display => ?_, fun a b c hc => values_append a b hc,
    fun numbers s h => values_of_printed h,
    fun display => ⟨map_toNat_words display, hasBuggedWord?_eq display⟩⟩
  obtain ⟨placed, hplaced, hruns⟩ := exists_placedRuns display.toList
  refine ⟨placed, hplaced, ?_, ?_, ?_⟩
  · rw [values_eq, ← hruns, List.filter_map, List.map_map]
    rfl
  · rw [hasChanges_iff, ← hruns, List.filter_map, List.length_map]
    rfl
  · rw [hasBugged_iff, ← hruns]
    constructor
    · rintro ⟨run, hrun, htempo⟩
      obtain ⟨p, hp, rfl⟩ := List.mem_map.mp hrun
      exact ⟨p, hp, htempo⟩
    · rintro ⟨p, hp, htempo⟩
      exact ⟨p.2, List.mem_map_of_mem hp, htempo⟩

/-- Zeros before a number do not count, the digit in another script spoils its run, and the
number after it is too large by one. -/
theorem values_maximalRuns_slash :
    isDecimalDigit '/' = false ∧
      values ("0150" ++ String.singleton '/' ++ "4５-4294967296") = [150] ∧
      Printed [150, 4294967295] "150 - 4294967295".toList ∧
      values (String.ofList "150 - 4294967295".toList) = [150, 4294967295] := by
  obtain ⟨-, happend, hprinted, -⟩ := values_maximalRuns
  have hslash : isDecimalDigit '/' = false := by decide
  have hnumbers : Printed [150, 4294967295] "150 - 4294967295".toList :=
    @Printed.cons 150 " - ".toList _ _ (by decide) (forall_mem_of_all (by decide))
      (.single 4294967295)
  refine ⟨hslash, ?_, hnumbers, hprinted _ _ hnumbers⟩
  rw [happend _ _ _ hslash]
  decide +kernel

end ChartCatalog.Tempo
