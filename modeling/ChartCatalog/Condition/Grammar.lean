import ChartCatalog.Condition.Basic
import ChartCatalog.Number.Numeral
import ChartCatalog.Text.LowerCase
import ChartCatalog.Token

/-!
# The grammar of clauses

Which clauses are conditions. A clause is put into lower case and cut into
tokens; the grammar proper is a list of clause shapes over tokens,
`clauseShapes`, of which the first that accepts the tokens decides.
`Condition.parse` answers with the condition, or with the clause and its tokens
if no shape accepts them.
-/

namespace ChartCatalog.Condition

open Number Text

/-! ## Operands -/

/-- A level in one or two digits, within the range of levels. -/
def levelOf? (s : List Char) : Option UInt8 :=
  (shortNumber? s).bind fun n =>
    if lowestLevel.toNat ≤ n ∧ n ≤ highestLevel.toNat then some (UInt8.ofNat n) else none

/-- A level and the letter of a part of it, with nothing between them. -/
def halfLevelOf? (s : List Char) : Option (UInt8 × HalfLevel) := do
  let half ← s.getLast?.bind HalfLevel.ofLetter?
  let level ← levelOf? s.dropLast
  some (level, half)

/-- A finite number. -/
def ratingOf? (s : List Char) : Option Binary64 :=
  (Binary64.ofText? s).filter Binary64.isFinite

/-- Letters of difficulties, each kept once. -/
def difficultiesOf? (s : List Char) : Option (List Difficulty) :=
  (s.mapM Difficulty.ofLetter?).map distinct

/-! ## Shapes -/

/-- A shape of clause: the condition of a list of tokens that has the shape. -/
abbrev ClauseShape := List String → Option Condition

/-- `diff=`, `ver=`, `folder=`: a field that is compared with nothing. -/
def neverShape : ClauseShape
  | [field, "="] =>
    if field = "diff" ∨ field = "ver" ∨ field = "folder" then some never else none
  | _ => none

/-- A field with a sign and an operand behind it. The shapes of this kind differ in the names
of the field, in the signs that they take and in how they read the operand. -/
def comparedShape {κ α : Type} (fields : List String) (sign? : String → Option κ)
    (operand? : String → Option α) (condition : κ → α → Condition) : ClauseShape
  | [field, sign, operand] =>
    if field ∈ fields then do
      let comparison ← sign? sign
      let value ← operand? operand
      some (condition comparison value)
    else none
  | _ => none

/-- `lv>=40`. -/
def levelShape : ClauseShape :=
  comparedShape ["lv"] Comparison.ofSign? (levelOf? ·.toList) level

/-- `lv>=40h`. -/
def halfLevelShape : ClauseShape :=
  comparedShape ["lv"] HalfComparison.ofSign? (halfLevelOf? ·.toList)
    fun comparison (value, half) => halfLevel comparison value half

/-- `rat>0.3`. -/
def ratingShape : ClauseShape :=
  comparedShape ["rat"] Comparison.ofSign? (ratingOf? ·.toList) rating

/-- `srlv<=05`. -/
def sranLevelShape : ClauseShape :=
  comparedShape ["srlv"] Comparison.ofSign? SranLevel.ofText? sranLevel

/-- `diff=enh`. -/
def difficultyShape : ClauseShape :=
  comparedShape ["diff"] Equality.ofSign? (difficultiesOf? ·.toList) difficulty

/-- `holds`, `-buggedbpm`, `+omnimix`. -/
def flagShape : ClauseShape
  | [token] => (FlagClause.ofToken? token).map flag
  | _ => none

/-- `ver=cs`, `folder!=26`. -/
def folderShape : ClauseShape :=
  comparedShape ["ver", "folder"] Equality.ofSign? Folder.ofText? folder

/-- All clause shapes, in order of precedence. -/
def clauseShapes : List ClauseShape :=
  [neverShape, levelShape, halfLevelShape, ratingShape, sranLevelShape, difficultyShape,
    flagShape, folderShape]

/-- The condition of a list of tokens. -/
def ofTokens? (tokens : List String) : Option Condition := clauseShapes.findSome? (· tokens)

/-! ## Clauses -/

/-- The tokens of a clause in any letter case. -/
def clauseTokens (clause : String) : List String :=
  Token.tokens (String.ofList (lowerCase clause.toList))

/-- The condition of a clause in any letter case. An error shows the clause as
it was given, without the blanks around it, and its tokens. -/
def parse (clause : String) : Except CatalogError Condition :=
  -- only the tokens are in lower case; the error keeps the clause's own letters
  let tokens := clauseTokens clause
  match ofTokens? tokens with
  | some condition => .ok condition
  | none => .error (.invalidCondition (trimString clause) tokens)

end ChartCatalog.Condition
