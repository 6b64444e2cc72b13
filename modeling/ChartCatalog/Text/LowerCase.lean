import ChartCatalog.Text.CaseContext
import ChartCatalog.Text.LowerCaseTable

/-!
# Lower case

Filter clauses are read without regard to case: they are put into lower case
first, by the full Unicode rules. Most letters have one small letter
(`lowerChar`); the dotted capital `İ` becomes two characters; and a capital
sigma becomes `ς` at the end of a word and `σ` anywhere else (`startsCased`), which
is why `lowerCase` runs over the text with the memory of what stood before.
-/

namespace ChartCatalog.Text

/-- The lower case form of one letter, apart from the sigma's final form. -/
def lowerChar (c : Char) : List Char :=
  if c.toNat < 0x80 then [c.toLower]
  else if c = 'İ' then ['i', '\u0307']
  else match caseRuns.find? (·.covers c.toNat) with
    | some run => [Char.ofNat (c.toNat + run.offset).toNat]
    | none => [c]

/-- Does a cased letter follow, case-ignorable characters aside? -/
def startsCased (s : List Char) : Bool :=
  match s.dropWhile isCaseIgnorable with
  | [] => false
  | c :: _ => isCased c

/-- Lower case of `s` where `afterCased` says whether a cased letter stands
before it, case-ignorable characters aside. -/
def lowerFrom (afterCased : Bool) : List Char → List Char
  | [] => []
  | c :: s =>
    let small :=
      if c = 'Σ' then (if afterCased && !startsCased s then ['ς'] else ['σ'])
      else lowerChar c
    small ++ lowerFrom (if isCaseIgnorable c then afterCased else isCased c) s

/-- The text in lower case. -/
def lowerCase (s : List Char) : List Char := lowerFrom false s

@[simp] theorem lowerCase_nil : lowerCase [] = [] := rfl

/-- ASCII letters go to their small letters, all other ASCII characters stay. -/
theorem lowerChar_of_ascii {c : Char} (h : c.toNat < 0x80) : lowerChar c = [c.toLower] := by
  simp [lowerChar, h]

end ChartCatalog.Text
