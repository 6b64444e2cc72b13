import ChartCatalog.Json.Document

/-!
# Layout of documents

A value is written either compactly, without any blanks, or spread over lines,
one item or member a line and indented by two spaces for each open container.
Empty containers stay on one line in both layouts.
-/

namespace ChartCatalog.Json

open Text

/-- The value without blanks. -/
def compactChars (value : Json) : List Char := value.tokens.flatMap Token.text

/-- The value without blanks. -/
def compact (value : Json) : String := String.ofList value.compactChars

/-- A new line in a container at this depth. -/
def newLine (depth : Nat) : List Char := '\n' :: List.replicate (2 * depth) ' '

/-- The tokens spread over lines, where `depth` containers are open. -/
def spread (depth : Nat) : List Token → List Char
  | [] => []
  | .openBracket :: .closeBracket :: rest => ['[', ']'] ++ spread depth rest
  | .openBrace :: .closeBrace :: rest => ['\x7b', '\x7d'] ++ spread depth rest
  | .openBracket :: rest => ['['] ++ newLine (depth + 1) ++ spread (depth + 1) rest
  | .openBrace :: rest => ['\x7b'] ++ newLine (depth + 1) ++ spread (depth + 1) rest
  | .closeBracket :: rest => newLine (depth - 1) ++ [']'] ++ spread (depth - 1) rest
  | .closeBrace :: rest => newLine (depth - 1) ++ ['\x7d'] ++ spread (depth - 1) rest
  | .comma :: rest => [','] ++ newLine depth ++ spread depth rest
  | .colon :: rest => [':', ' '] ++ spread depth rest
  | token :: rest => token.text ++ spread depth rest

/-- The value spread over lines. -/
def pretty (value : Json) : String := String.ofList (spread 0 value.tokens)

end ChartCatalog.Json
