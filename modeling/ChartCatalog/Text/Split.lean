/-!
# Parts of a text

A filter string is a list of clauses with commas between them, and a tempo
display is a list of numbers with anything else between them. `splitWhere` cuts
a text at every separating character, `join` puts parts together again;
`join_splitOn` says that nothing is lost on the way, and `splitWhere_append`
that the parts on either side of a separator do not depend on each other.
-/

namespace ChartCatalog.Text

/-- The parts of the text between separating characters: always at least one
part, and one more than there are separators. -/
def splitWhere (separates : Char → Bool) : List Char → List (List Char)
  | [] => [[]]
  | c :: s =>
    if separates c then [] :: splitWhere separates s
    else match splitWhere separates s with
      | [] => [[c]]
      | part :: parts => (c :: part) :: parts

/-- The parts of the text between occurrences of one character. -/
def splitOn (separator : Char) : List Char → List (List Char) :=
  splitWhere (· == separator)

/-- The parts with the separator between each two. -/
def join (separator : List Char) : List (List Char) → List Char
  | [] => []
  | [part] => part
  | part :: parts => part ++ separator ++ join separator parts

theorem splitWhere_ne_nil (separates : Char → Bool) (s : List Char) :
    splitWhere separates s ≠ [] := by
  cases s with
  | nil => simp [splitWhere]
  | cons c s =>
    unfold splitWhere
    split
    · simp
    · split <;> simp

/-- The texts on the two sides of a separator are cut on their own. -/
theorem splitWhere_append (separates : Char → Bool) (s t : List Char) {c : Char}
    (hc : separates c = true) :
    splitWhere separates (s ++ c :: t) = splitWhere separates s ++ splitWhere separates t := by
  induction s with
  | nil => simp [splitWhere, hc]
  | cons d s ih =>
    simp only [List.cons_append, splitWhere, ih]
    cases hs : splitWhere separates s with
    | nil => exact absurd hs (splitWhere_ne_nil separates s)
    | cons part parts => split <;> simp

/-- Cutting and joining gives the text back. -/
theorem join_splitOn (separator : Char) (s : List Char) :
    join [separator] (splitOn separator s) = s := by
  unfold splitOn
  induction s with
  | nil => rfl
  | cons c s ih =>
    rw [splitWhere]
    cases hs : splitWhere (· == separator) s with
    | nil => exact absurd hs (splitWhere_ne_nil _ s)
    | cons part parts =>
      rw [hs] at ih
      by_cases hc : c = separator
      · -- a separator begins a new part
        subst hc
        simp [join, ih]
      · -- any other character joins the first part
        cases parts with
        | nil => simpa [hc, join] using ih
        | cons next more => simpa [hc, join] using ih

end ChartCatalog.Text
