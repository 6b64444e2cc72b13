import ChartCatalog.Error
import ChartCatalog.Text.AsciiCase
import ChartCatalog.Text.Blank

/-!
# Difficulties

A song is charted in up to four difficulties. They are ordered from easy to
extra, and each has a code for records, a letter for filter clauses and a name
for listings. `ofText?` reads any of the spellings in use, `ofLetter?` only the
letters.
-/

namespace ChartCatalog

open Text

/-- A chart's difficulty. -/
inductive Difficulty
  | easy
  | normal
  | hyper
  | extra
  deriving DecidableEq

namespace Difficulty

/-- All difficulties, ascending. -/
def all : List Difficulty := [easy, normal, hyper, extra]

/-- The place in ascending order. -/
def rank : Difficulty → Nat
  | easy => 0
  | normal => 1
  | hyper => 2
  | extra => 3

instance : LE Difficulty := ⟨fun a b => a.rank ≤ b.rank⟩

instance : LT Difficulty := ⟨fun a b => a.rank < b.rank⟩

instance (a b : Difficulty) : Decidable (a ≤ b) := inferInstanceAs (Decidable (a.rank ≤ b.rank))

instance (a b : Difficulty) : Decidable (a < b) := inferInstanceAs (Decidable (a.rank < b.rank))

instance : Max Difficulty := ⟨fun a b => if a ≤ b then b else a⟩

/-- The code in records: `e`, `n`, `h`, `ex`. -/
def code : Difficulty → String
  | easy => "e"
  | normal => "n"
  | hyper => "h"
  | extra => "ex"

/-- The letter in filter clauses; there every difficulty has one letter, so
extra is `x`. -/
def letter : Difficulty → Char
  | easy => 'e'
  | normal => 'n'
  | hyper => 'h'
  | extra => 'x'

/-- The name in listings. -/
def name : Difficulty → String
  | easy => "EASY"
  | normal => "NORMAL"
  | hyper => "HYPER"
  | extra => "EX"

/-- The difficulty of a letter. -/
def ofLetter? : Char → Option Difficulty
  | 'e' => some easy
  | 'n' => some normal
  | 'h' => some hyper
  | 'x' => some extra
  | _ => none

/-- The difficulty of a code, or of `x`; letter case matters. -/
def ofCode? : String → Option Difficulty
  | "e" => some easy
  | "n" => some normal
  | "h" => some hyper
  | "ex" | "x" => some extra
  | _ => none

/-- The difficulty of any spelling in small letters. -/
def ofSpelling? : String → Option Difficulty
  | "e" | "easy" => some easy
  | "n" | "normal" => some normal
  | "h" | "hyper" => some hyper
  | "ex" | "x" | "extra" => some extra
  | _ => none

/-- The difficulty of a spelling in any ASCII letter case, blanks around it
aside. -/
def ofText? (s : String) : Option Difficulty :=
  ofSpelling? (String.ofList (asciiLower (trim s.toList)))

/-- `ofText?`, with the text as it was given for an error. -/
def parse (s : String) : Except FieldError Difficulty :=
  match ofText? s with
  | some difficulty => .ok difficulty
  | none => .error (.difficulty s)

@[simp] theorem ofLetter?_letter (d : Difficulty) : ofLetter? d.letter = some d := by
  cases d <;> rfl

@[simp] theorem ofCode?_code (d : Difficulty) : ofCode? d.code = some d := by
  cases d <;> rfl

theorem rank_injective {a b : Difficulty} (h : a.rank = b.rank) : a = b := by
  cases a <;> cases b <;> simp_all [rank]

end Difficulty

end ChartCatalog
