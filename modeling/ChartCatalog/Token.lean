import ChartCatalog.Text.Blank
import ChartCatalog.Text.DecimalDigit

/-!
# Tokens of a clause

A clause is cut into tokens before it is understood: comparison signs, words
with an optional mark, numbers, level codes, and folder tags. A shape says how
many characters at the start of a text it takes; `shapes` lists them in order
of precedence, and the first shape that takes anything wins, so the order
decides between `2a` and `2`, or between `40h` and `40`, where a longest match
would not. Text that no shape takes is kept as a token of its own, up to the
next blank or the next token, so that it is refused later on and can be shown.

Tokens never contain blanks and, put together, are the clause without its
blanks.
-/

namespace ChartCatalog.Token

open Text

/-- How many characters at the start of a text a shape takes; zero if the text
does not have the shape. -/
abbrev Shape := List Char → Nat

/-- `!=`, `>=`, `<=`. -/
def longSign : Shape
  | c :: '=' :: _ => if c = '!' ∨ c = '>' ∨ c = '<' then 2 else 0
  | _ => 0

/-- `=`, `>`, `<`. -/
def shortSign : Shape
  | c :: _ => if c = '=' ∨ c = '>' ∨ c = '<' then 1 else 0
  | [] => 0

/-- The marks of a sublevel. -/
def isSublevelMark (c : Char) : Bool :=
  c = 'a' || c = '-' || c = '弱' || c = 'b' || c = '+' || c = '強'

/-- One of the two numbers that have sublevels, and a sublevel mark. -/
def markedNumber : Shape
  | n :: mark :: _ => if (n = '1' ∨ n = '2') ∧ isSublevelMark mark then 2 else 0
  | _ => 0

/-- A level code with a sublevel, as in `2a` or `02-`. -/
def sublevelCode : Shape
  | '0' :: s => if markedNumber s = 0 then 0 else markedNumber s + 1
  | s => markedNumber s

/-- The letters for the parts of a level. -/
def isHalfLetter (c : Char) : Bool := c = 'e' || c = 'm' || c = 'h'

/-- A level with the part of it, as in `40h`: two digits if a letter follows the
second, else one. -/
def halfLevel : Shape
  | d :: e :: s =>
    if isDecimalDigit d then
      match s with
      | letter :: _ =>
        if isDecimalDigit e ∧ isHalfLetter letter then 3
        else if isHalfLetter e then 2
        else 0
      | [] => if isHalfLetter e then 2 else 0
    else 0
  | _ => 0

/-- Digits with a point and perhaps more digits after it, as in `12.5`. -/
def decimal : Shape := fun s =>
  let whole := s.takeWhile isDecimalDigit
  match s.dropWhile isDecimalDigit with
  | '.' :: rest =>
    if whole = [] then 0 else whole.length + 1 + (rest.takeWhile isDecimalDigit).length
  | _ => 0

/-- Folder tags and pairs of digits in any sequence, as in `cs` or `26`. -/
def pairs : Shape
  | c :: d :: s =>
    if (c = 'c' ∧ d = 's') ∨ (isDecimalDigit c ∧ isDecimalDigit d) then pairs s + 2 else 0
  | _ => 0

/-- A small ASCII letter. -/
def isSmallLetter (c : Char) : Bool := 'a' ≤ c && c ≤ 'z'

/-- Small letters. -/
def letters : Shape := fun s => (s.takeWhile isSmallLetter).length

/-- A word with an optional mark, as in `holds`, `-holds`, `+omnimix`, `!ura`. -/
def word : Shape
  | c :: s =>
    if c = '+' ∨ c = '!' ∨ c = '-' then (if letters s = 0 then 0 else letters s + 1)
    else letters (c :: s)
  | [] => 0

/-- The characters of signed decimals. -/
def isNumberChar (c : Char) : Bool := c = '+' || c = '-' || isDecimalDigit c || c = '.'

/-- Signs, digits and points in any sequence. -/
def number : Shape := fun s => (s.takeWhile isNumberChar).length

/-- All shapes, in order of precedence. -/
def shapes : List Shape :=
  [longSign, shortSign, sublevelCode, halfLevel, decimal, pairs, word, number]

/-- How many characters at the start of the text form a token; zero if none do. -/
def length (s : List Char) : Nat := ((shapes.map (· s)).find? (· ≠ 0)).getD 0

/-- A run of text without a shape, as a token unless it is empty. -/
def leftover (run : List Char) : List (List Char) := if run = [] then [] else [run]

/-- The tokens of the text, where `run` is the text without a shape that stands
directly before it. -/
def scanFrom (run : List Char) : List Char → List (List Char)
  | [] => leftover run
  | c :: s =>
    match length (c :: s) with
    -- no token begins here: a blank ends the run, any other character extends it
    | 0 => if isBlank c then leftover run ++ scanFrom [] s else scanFrom (run ++ [c]) s
    | n + 1 => leftover run ++ (c :: s.take n) :: scanFrom [] (s.drop n)
termination_by s => s.length

/-- The tokens of the text. -/
def scan (s : List Char) : List (List Char) := scanFrom [] s

/-- The tokens of a clause, which is expected in lower case. -/
def tokens (clause : String) : List String := (scan clause.toList).map String.ofList

end ChartCatalog.Token
