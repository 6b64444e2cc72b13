import ChartCatalog.Difficulty
import ChartCatalog.Flag
import ChartCatalog.Folder
import ChartCatalog.Proofs.Text.CharClass
import ChartCatalog.SranLevel

/-!
# Spellings of single fields

Which texts name a sran level, a flag, a flag clause or a folder, stated apart
from the functions that read them: sran levels by the list of their spellings,
the others by a relation. Each reader is then shown to accept exactly these and
to give the value that is spelled (`SranLevel.ofSpelling?_eq_some_iff`,
`FlagClause.ofToken?_eq_some_iff`, `Folder.ofTag?_eq_some_iff`).
-/

namespace ChartCatalog

open Text

/-! ## Numbers of one or two digits -/

/-- The number in one or two ASCII digits. -/
structure ShortNumber (s : List Char) (n : Nat) : Prop where
  ne_nil : s ≠ []
  length_le : s.length ≤ 2
  digits : IsDigits s
  numberOf_eq : numberOf s = n

theorem shortNumber?_eq_some {s : List Char} {n : Nat} :
    shortNumber? s = some n ↔ ShortNumber s n := by
  rw [shortNumber?_eq_some_iff, ← isDigits_iff_all]
  constructor
  · rintro ⟨⟨hne, hlength, hdigits⟩, hn⟩
    exact ⟨hne, hlength, hdigits, hn⟩
  · intro h
    exact ⟨⟨h.ne_nil, h.length_le, h.digits⟩, h.numberOf_eq⟩

/-- The texts of a number below one hundred: its digits, and a zero before a
single one. -/
def shortTexts (n : Nat) : List (List Char) :=
  if n < 10 then [digits n, '0' :: digits n] else [digits n]

theorem ShortNumber.mem_shortTexts {s : List Char} {n : Nat} (h : ShortNumber s n) :
    s ∈ shortTexts n := by
  have hdigits := h.digits
  have hlength := h.length_le
  rw [← h.numberOf_eq]
  match s, hdigits, hlength with
  | [], _, _ => exact absurd rfl h.ne_nil
  | [c], hdigits, _ =>
    have all : ∀ n : Fin 10, [Char.ofNat (48 + n.val)] ∈
        shortTexts (numberOf [Char.ofNat (48 + n.val)]) := by decide
    have hc := hdigits c List.mem_cons_self
    exact forall_isDigit (p := fun c => [c] ∈ shortTexts (numberOf [c])) all hc
  | [c, d], hdigits, _ =>
    have all : ∀ m n : Fin 10, [Char.ofNat (48 + m.val), Char.ofNat (48 + n.val)] ∈
        shortTexts (numberOf [Char.ofNat (48 + m.val), Char.ofNat (48 + n.val)]) := by
      decide +kernel
    have hc := hdigits c List.mem_cons_self
    have hd := hdigits d (List.mem_cons_of_mem _ List.mem_cons_self)
    refine forall_isDigit (p := fun c => [c, d] ∈ shortTexts (numberOf [c, d])) ?_ hc
    intro m
    exact forall_isDigit (p := fun d => [_, d] ∈ shortTexts (numberOf [_, d])) (all m) hd

/-! ## Sran levels -/

namespace SranLevel

/-- The marks of a sublevel. -/
def sublevelMarks : Option Sublevel → List (List Char)
  | none => [[]]
  | some .lower => [['a'], ['-'], ['弱']]
  | some .upper => [['b'], ['+'], ['強']]

/-- All texts that name the level: its number with or without a leading zero,
and a mark if the number has sublevels. -/
def spellings (level : SranLevel) : List (List Char) :=
  (shortTexts level.number).flatMap fun number =>
    (sublevelMarks level.sublevel?).map fun mark => number ++ mark

theorem ofParts?_eq_some_iff {n : Nat} {sublevel : Option Sublevel} {level : SranLevel} :
    ofParts? n sublevel = some level ↔ level.number = n ∧ level.sublevel? = sublevel := by
  constructor
  · intro h
    unfold ofParts? at h
    split at h
    · cases h
      decide
    · cases h
      decide
    · cases h
      decide
    · cases h
      decide
    · split at h
      · cases h
        simp only [number, sublevel?]
        rw [if_neg (by omega), if_pos (by omega)]
        exact ⟨by omega, rfl⟩
      · exact absurd h (by simp)
    · exact absurd h (by simp)
  · rintro ⟨rfl, rfl⟩
    have all : ∀ rank : Fin 21,
        ofParts? (number ⟨rank⟩) (sublevel? ⟨rank⟩) = some ⟨rank⟩ := by decide
    exact all level.rank

theorem markLetter_of_isDigit {c : Char} (h : (markLetter c).isDigit = true) :
    markLetter c = c := by
  unfold markLetter at h ⊢
  split at h
  · exact absurd h (by decide)
  · rename_i hlower
    split at h
    · exact absurd h (by decide)
    · rename_i hupper
      rw [if_neg hlower, if_neg hupper]

theorem map_markLetter_of_isDigits {s : List Char} (h : IsDigits (s.map markLetter)) :
    s.map markLetter = s := by
  have hid : ∀ c ∈ s, markLetter c = c := by
    intro c hc
    exact markLetter_of_isDigit (h _ (List.mem_map_of_mem hc))
  rw [List.map_congr_left hid, List.map_id']

/-- What is left of a spelling without its mark. -/
theorem splitSublevel_concat (s : List Char) (c : Char) :
    splitSublevel ((s ++ [c]).map markLetter) =
      if markLetter c = 'a' then (s.map markLetter, some .lower)
      else if markLetter c = 'b' then (s.map markLetter, some .upper)
      else ((s ++ [c]).map markLetter, none) := by
  rw [List.map_append, List.map_singleton]
  generalize s.map markLetter = number
  generalize markLetter c = letter
  simp only [splitSublevel, List.getLast?_concat, List.dropLast_concat]
  split
  · rename_i h
    rw [if_pos (Option.some.inj h)]
  · rename_i h
    rw [Option.some.inj h, if_neg (by decide), if_pos rfl]
  · rename_i hlower hupper
    rw [if_neg fun h => hlower (by rw [h]), if_neg fun h => hupper (by rw [h])]

theorem singleton_mem_sublevelMarks {c : Char} :
    (markLetter c = 'a' → [c] ∈ sublevelMarks (some .lower)) ∧
      (markLetter c = 'b' → [c] ∈ sublevelMarks (some .upper)) := by
  unfold markLetter
  constructor
  · intro h
    split at h
    · rename_i hc
      rcases hc with rfl | rfl <;> decide
    · split at h
      · exact absurd h (by decide)
      · rw [h]
        decide
  · intro h
    split at h
    · exact absurd h (by decide)
    · split at h
      · rename_i hc
        rcases hc with rfl | rfl <;> decide
      · rw [h]
        decide

/-- A text names a level exactly if it is one of its spellings. -/
theorem ofSpelling?_eq_some_iff {s : List Char} {level : SranLevel} :
    ofSpelling? s = some level ↔ s ∈ level.spellings := by
  constructor
  · intro h
    have hparts : ∀ {number mark : List Char} {sublevel : Option Sublevel},
        s = number ++ mark → mark ∈ sublevelMarks sublevel →
        (shortNumber? (number.map markLetter)).bind (ofParts? · sublevel) = some level →
        s ∈ level.spellings := by
      intro number mark sublevel hs hmark hbind
      obtain ⟨n, hn, hlevel⟩ := Option.bind_eq_some_iff.mp hbind
      obtain ⟨rfl, rfl⟩ := ofParts?_eq_some_iff.mp hlevel
      have hshort := shortNumber?_eq_some.mp hn
      rw [map_markLetter_of_isDigits hshort.digits] at hshort
      rw [hs]
      exact List.mem_flatMap.mpr
        ⟨number, hshort.mem_shortTexts, List.mem_map.mpr ⟨mark, hmark, rfl⟩⟩
    rcases List.eq_nil_or_concat s with rfl | ⟨t, c, rfl⟩
    · exact absurd h (by simp [show ofSpelling? [] = none from rfl])
    · rw [List.concat_eq_append] at h hparts ⊢
      unfold ofSpelling? at h
      rw [splitSublevel_concat] at h
      by_cases hlower : markLetter c = 'a'
      · rw [if_pos hlower] at h
        exact hparts rfl (singleton_mem_sublevelMarks.1 hlower) h
      rw [if_neg hlower] at h
      by_cases hupper : markLetter c = 'b'
      · rw [if_pos hupper] at h
        exact hparts rfl (singleton_mem_sublevelMarks.2 hupper) h
      · rw [if_neg hupper] at h
        exact hparts (List.append_nil _).symm List.mem_cons_self h
  · have all : ∀ rank : Fin 21, ∀ s ∈ spellings ⟨rank⟩, ofSpelling? s = some ⟨rank⟩ := by
      decide +kernel
    exact all level.rank s

end SranLevel

/-! ## Flags -/

/-- The names of a flag in clauses. -/
inductive Flag.Spelling : List Char → Flag → Prop
  | name (flag : Flag) : Spelling flag.name.toList flag
  | soflan : Spelling "soflan".toList .tempoChanges

theorem Flag.ofName?_eq_some_iff {s : List Char} {flag : Flag} :
    Flag.ofName? (String.ofList s) = some flag ↔ Flag.Spelling s flag := by
  constructor
  · intro h
    unfold Flag.ofName? at h
    split at h
    · rename_i hsoflan
      cases h
      have hs := congrArg String.toList hsoflan
      rw [String.toList_ofList] at hs
      rw [hs]
      exact .soflan
    · unfold Flag.ofRecordName? at h
      have hfound := List.find?_some h
      have hname : flag.name = String.ofList s := of_decide_eq_true hfound
      have hs := congrArg String.toList hname
      rw [String.toList_ofList] at hs
      rw [← hs]
      exact .name flag
  · intro h
    cases h with
    | name => rw [String.ofList_toList, Flag.ofName?_name]
    | soflan => rfl

/-- A flag with a mark for what is done with it. -/
inductive FlagClause.Spelling : List Char → FlagClause → Prop
  | require {s : List Char} {flag : Flag} : flag.Spelling s → Spelling s ⟨flag, .require⟩
  | allow {s : List Char} {flag : Flag} : flag.Spelling s → Spelling ('+' :: s) ⟨flag, .allow⟩
  | forbid {s : List Char} {flag : Flag} {mark : Char} :
    mark ∈ ['-', '!'] → flag.Spelling s → Spelling (mark :: s) ⟨flag, .forbid⟩

namespace FlagClause

/-- No flag's name begins with a mark. -/
theorem splitMark_of_spelling {s : List Char} {flag : Flag} (h : flag.Spelling s) :
    splitMark s = (.require, s) := by
  cases h with
  | name => cases flag <;> rfl
  | soflan => rfl

theorem ofToken?_eq_some_iff {s : List Char} {clause : FlagClause} :
    ofToken? (String.ofList s) = some clause ↔ Spelling s clause := by
  unfold ofToken?
  rw [String.toList_ofList]
  constructor
  · intro h
    generalize hmark : splitMark s = parts at h
    obtain ⟨polarity, name⟩ := parts
    obtain ⟨flag, hflag, rfl⟩ := Option.map_eq_some_iff.mp h
    rw [Flag.ofName?_eq_some_iff] at hflag
    unfold splitMark at hmark
    split at hmark <;> obtain ⟨rfl, rfl⟩ := Prod.mk.inj hmark
    · exact .allow hflag
    · exact .forbid (by decide) hflag
    · exact .forbid (by decide) hflag
    · exact .require hflag
  · intro h
    cases h with
    | require h =>
      rw [splitMark_of_spelling h]
      exact Option.map_eq_some_iff.mpr ⟨_, Flag.ofName?_eq_some_iff.mpr h, rfl⟩
    | allow h => exact Option.map_eq_some_iff.mpr ⟨_, Flag.ofName?_eq_some_iff.mpr h, rfl⟩
    | forbid hmark h =>
      simp only [List.mem_cons, List.not_mem_nil, or_false] at hmark
      rcases hmark with rfl | rfl
      · exact Option.map_eq_some_iff.mpr ⟨_, Flag.ofName?_eq_some_iff.mpr h, rfl⟩
      · exact Option.map_eq_some_iff.mpr ⟨_, Flag.ofName?_eq_some_iff.mpr h, rfl⟩

end FlagClause

/-! ## Folders -/

/-- The tags of a folder in small letters. -/
inductive Folder.Spelling : List Char → Folder → Prop
  | consumer : Spelling "cs".toList .consumer
  | bemani : Spelling "bemani".toList .bemani
  | version {s : List Char} {n : Nat} : ShortNumber s n → 1 ≤ n → n ≤ Folder.latestVersion →
    Spelling s (.version n)

namespace Folder

/-- Digits have no letter case. -/
theorem asciiLower_of_isDigits {s : List Char} (h : IsDigits s ∨ IsDigits (asciiLower s)) :
    asciiLower s = s := by
  apply asciiLower_of_not_isUpper
  intro c hc
  rcases h with h | h
  · exact forall_isDigit (p := fun d => d.isUpper = false) (by decide) (h c hc)
  · exact isUpper_of_isDigit_toLower (h _ (List.mem_map_of_mem hc))

theorem shortNumber_asciiLower_iff {s : List Char} {n : Nat} :
    ShortNumber (asciiLower s) n ↔ ShortNumber s n := by
  constructor
  · intro h
    rwa [asciiLower_of_isDigits (.inr h.digits)] at h
  · intro h
    rwa [asciiLower_of_isDigits (.inl h.digits)]

theorem ofTag?_eq_some_iff {s : List Char} {folder : Folder} :
    ofTag? s = some folder ↔ Spelling (asciiLower s) folder := by
  constructor
  · intro h
    unfold ofTag? at h
    split at h
    · rename_i hs
      cases h
      rw [hs]
      exact .consumer
    · split at h
      · rename_i hs
        cases h
        rw [hs]
        exact .bemani
      · obtain ⟨n, hn, hfolder⟩ := Option.bind_eq_some_iff.mp h
        split at hfolder
        · rename_i hrange
          cases hfolder
          have hshort := shortNumber_asciiLower_iff.mpr (shortNumber?_eq_some.mp hn)
          exact .version hshort hrange.1 hrange.2
        · exact absurd hfolder (by simp)
  · intro h
    unfold ofTag?
    generalize hlower : asciiLower s = lower at h
    cases h with
    | consumer => rfl
    | bemani => rfl
    | version hshort hlow hhigh =>
      have hcs : lower ≠ consumer.tag := by
        rintro rfl
        exact absurd hshort.digits (by decide)
      have hbemani : lower ≠ bemani.tag := by
        rintro rfl
        exact absurd hshort.digits (by decide)
      rw [← hlower, shortNumber_asciiLower_iff, ← shortNumber?_eq_some] at hshort
      rw [if_neg hcs, if_neg hbemani, hshort]
      exact if_pos ⟨hlow, hhigh⟩

theorem Spelling.ofTag?_eq {s : List Char} {folder : Folder} (h : folder.Spelling s) :
    ofTag? s = some folder := by
  have hlower : asciiLower s = s := by
    cases h with
    | consumer => decide
    | bemani => decide
    | version h => exact asciiLower_of_isDigits (.inl h.digits)
  rw [ofTag?_eq_some_iff, hlower]
  exact h

end Folder

/-! ## Readers with errors -/

theorem Difficulty.parse_eq_ok_iff {s : String} {difficulty : Difficulty} :
    parse s = .ok difficulty ↔ ofText? s = some difficulty := by
  unfold parse
  cases ofText? s <;> simp

theorem SranLevel.parse_eq_ok_iff {s : String} {level : SranLevel} :
    parse s = .ok level ↔ ofText? s = some level := by
  unfold parse
  cases ofText? s <;> simp

theorem SranLevel.parseNumber_eq_ok_iff {n : Nat} {level : SranLevel} :
    parseNumber n = .ok level ↔ ofNumber? n = some level := by
  unfold parseNumber
  cases ofNumber? n <;> simp

theorem Folder.parse_eq_ok_iff {s : String} {folder : Folder} :
    parse s = .ok folder ↔ ofText? s = some folder := by
  unfold parse
  cases ofText? s <;> simp

end ChartCatalog
