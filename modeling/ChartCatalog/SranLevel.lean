import ChartCatalog.Error
import ChartCatalog.Text.Blank
import ChartCatalog.Text.Digits

/-!
# Sran levels

The community's own difficulty scale has nineteen numbers, of which the first
two are split into a lower and an upper sublevel: twenty-one levels in all. A
code is the number in two digits, with `a` or `b` for the sublevel; other
spellings leave out the zero or mark the sublevel by a sign or a word.

`ofText?` reads every spelling; `ofSpelling?_codeText` says that codes are read
back.
-/

namespace ChartCatalog

open Text

/-- The halves of the first two numbers of the scale. -/
inductive Sublevel
  | lower
  | upper
  deriving DecidableEq

/-- A level of the scale, by its place among the twenty-one. -/
structure SranLevel where
  rank : Fin 21
  deriving DecidableEq

namespace SranLevel

/-- The number of the level, from 1 to 19. -/
def number (level : SranLevel) : Nat :=
  if level.rank.val < 4 then level.rank.val / 2 + 1 else level.rank.val - 1

/-- The sublevel, for the numbers that have one. -/
def sublevel? (level : SranLevel) : Option Sublevel :=
  if 4 ≤ level.rank.val then none
  else if level.rank.val % 2 = 0 then some .lower
  else some .upper

/-- The level of a number and a sublevel, if there is one. -/
def ofParts? : Nat → Option Sublevel → Option SranLevel
  | 1, some .lower => some ⟨0⟩
  | 1, some .upper => some ⟨1⟩
  | 2, some .lower => some ⟨2⟩
  | 2, some .upper => some ⟨3⟩
  | n, none => if h : 3 ≤ n ∧ n ≤ 19 then some ⟨⟨n + 1, by omega⟩⟩ else none
  | _, some _ => none

/-- The level of a bare number; the lower sublevel where there are two. -/
def ofNumber? (n : Nat) : Option SranLevel :=
  if n = 1 ∨ n = 2 then ofParts? n (some .lower) else ofParts? n none

/-- The letter of a sublevel in codes. -/
def sublevelText : Option Sublevel → List Char
  | none => []
  | some .lower => ['a']
  | some .upper => ['b']

/-- The code as characters. -/
def codeText (level : SranLevel) : List Char :=
  (if level.number < 10 then ['0'] else []) ++ digits level.number ++ sublevelText level.sublevel?

/-- The code: the number in two digits and the letter of the sublevel. -/
def code (level : SranLevel) : String := String.ofList level.codeText

/-- The letter for which a mark stands: `-` and `弱` are the lower sublevel, `+`
and `強` the upper one. -/
def markLetter (c : Char) : Char :=
  if c = '-' ∨ c = '弱' then 'a'
  else if c = '+' ∨ c = '強' then 'b'
  else c

/-- The number part of a spelling and its sublevel. -/
def splitSublevel (s : List Char) : List Char × Option Sublevel :=
  match s.getLast? with
  | some 'a' => (s.dropLast, some .lower)
  | some 'b' => (s.dropLast, some .upper)
  | _ => (s, none)

/-- The level of a spelling without blanks around it. -/
def ofSpelling? (s : List Char) : Option SranLevel :=
  let (number, sublevel) := splitSublevel (s.map markLetter)
  (shortNumber? number).bind (ofParts? · sublevel)

/-- The level of a spelling, blanks around it aside. -/
def ofText? (s : String) : Option SranLevel := ofSpelling? (trim s.toList)

/-- `ofText?`, with the text as it was given for an error. -/
def parse (s : String) : Except FieldError SranLevel :=
  match ofText? s with
  | some level => .ok level
  | none => .error (.sranLevel s)

/-- `ofNumber?`, with the number for an error. -/
def parseNumber (n : Nat) : Except FieldError SranLevel :=
  match ofNumber? n with
  | some level => .ok level
  | none => .error (.sranLevel (String.ofList (digits n)))

/-- Codes are read back. -/
theorem ofSpelling?_codeText (level : SranLevel) : ofSpelling? level.codeText = some level := by
  obtain ⟨rank⟩ := level
  revert rank
  decide +kernel

end SranLevel

end ChartCatalog
