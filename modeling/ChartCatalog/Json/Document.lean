import ChartCatalog.Json.Token

/-!
# Documents

A document is one value, written as a sequence of tokens. `Json.tokens` lists
the tokens of a value. Going back, a machine takes the tokens one by one
(`step`): its mode says what may come next, and its stack holds the containers
that are still open. `Json.parse?` runs the machine over the tokens of a text
and accepts when a value is complete and no container is open.
-/

namespace ChartCatalog

namespace Json

/-! ## The tokens of a value -/

mutual

/-- The tokens of a value. -/
def tokens : Json → List Token
  | .null => [.null]
  | .bool value => [.bool value]
  | .number literal => [.number literal]
  | .string text => [.string text]
  | .array items => .openBracket :: itemTokens true items
  | .object members => .openBrace :: memberTokens true members

/-- The tokens of the items of an array with its closing bracket; a comma stands
before each item but the first. -/
def itemTokens (first : Bool) : List Json → List Token
  | [] => [.closeBracket]
  | item :: items =>
    (if first then [] else [.comma]) ++ tokens item ++ itemTokens false items

/-- The tokens of the members of an object with its closing brace. -/
def memberTokens (first : Bool) : List (Option String × Json) → List Token
  | [] => [.closeBrace]
  | (name, value) :: members =>
    (if first then [] else [.comma]) ++ [.string name, .colon] ++ tokens value ++
      memberTokens false members

end

/-! ## The machine -/

/-- A container that is still open: the items or members before the value that
comes next, in reverse order, and the name of that member. -/
inductive Frame
  | items (before : List Json)
  | members (before : List (Option String × Json)) (name : Option String)

/-- What comes next. -/
inductive Mode
  /-- A value. -/
  | value
  /-- The first item of an array, or the end of it. -/
  | firstItem
  /-- The first name of an object, or the end of it. -/
  | firstName
  /-- Another name of an object with these members, in reverse order. -/
  | nextName (before : List (Option String × Json))
  /-- The colon after a name. -/
  | colon (before : List (Option String × Json)) (name : Option String)
  /-- The continuation after a complete value. -/
  | after (value : Json)

/-- The machine between two tokens. -/
structure Machine where
  mode : Mode
  stack : List Frame

/-- The machine before the first token. -/
def Machine.start : Machine := ⟨.value, []⟩

/-- A token where a value is due. -/
def beginValue (stack : List Frame) : Token → Option Machine
  | .null => some ⟨.after .null, stack⟩
  | .bool value => some ⟨.after (.bool value), stack⟩
  | .number literal => some ⟨.after (.number literal), stack⟩
  | .string text => some ⟨.after (.string text), stack⟩
  | .openBracket => some ⟨.firstItem, stack⟩
  | .openBrace => some ⟨.firstName, stack⟩
  | _ => none

/-- A token after a complete value. -/
def continueAfter (value : Json) : List Frame → Token → Option Machine
  | .items before :: stack, .comma => some ⟨.value, .items (value :: before) :: stack⟩
  | .items before :: stack, .closeBracket =>
    some ⟨.after (.array (value :: before).reverse), stack⟩
  | .members before name :: stack, .comma => some ⟨.nextName ((name, value) :: before), stack⟩
  | .members before name :: stack, .closeBrace =>
    some ⟨.after (.object ((name, value) :: before).reverse), stack⟩
  | _, _ => none

/-- The machine after a token, if the token may stand there. -/
def step (machine : Machine) (token : Token) : Option Machine :=
  match machine.mode, token with
  | .value, token => beginValue machine.stack token
  | .firstItem, .closeBracket => some ⟨.after (.array []), machine.stack⟩
  | .firstItem, token => beginValue (.items [] :: machine.stack) token
  | .firstName, .closeBrace => some ⟨.after (.object []), machine.stack⟩
  | .firstName, .string name => some ⟨.colon [] name, machine.stack⟩
  | .nextName before, .string name => some ⟨.colon before name, machine.stack⟩
  | .colon before name, .colon => some ⟨.value, .members before name :: machine.stack⟩
  | .after value, token => continueAfter value machine.stack token
  | _, _ => none

/-- The value of a machine that may stop. -/
def Machine.result? : Machine → Option Json
  | ⟨.after value, []⟩ => some value
  | _ => none

/-- The value of a sequence of tokens. -/
def ofTokens? (tokens : List Token) : Option Json :=
  (tokens.foldlM step .start).bind Machine.result?

/-- The value of a document. -/
def parse? (text : String) : Option Json := (tokens? text.toList).bind ofTokens?

end Json

end ChartCatalog
