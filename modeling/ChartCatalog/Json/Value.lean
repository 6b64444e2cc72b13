import ChartCatalog.Json.Literal

/-!
# JSON values

A document is a value made of values. `Json` keeps what a document says, down to
the order and repetition of members: whether a repeated name is an error is for
the reader of a record to decide. A string can escape half of a surrogate pair;
it then denotes no text, which is an error only where its text is wanted.
-/

namespace ChartCatalog

open Number

/-- A JSON value. A string without a text is `none`. -/
inductive Json
  | null
  | bool (value : Bool)
  | number (literal : Json.Literal)
  | string (text : Option String)
  | array (items : List Json)
  | object (members : List (Option String × Json))

namespace Json

/-- The value of a text. -/
def ofString (text : String) : Json := .string (some text)

/-- The value of a natural number. -/
def ofNat (n : Nat) : Json := .number (.ofNat n)

/-- The value of a rating; `null` if it is not finite. -/
def ofBinary64 : Binary64 → Json
  | .finite negative units _ => .number (.ofFinite negative units)
  | _ => .null

/-- The value that may be missing. -/
def ofOption {α : Type} (encode : α → Json) : Option α → Json
  | some a => encode a
  | none => .null

/-- The value of a list. -/
def ofList {α : Type} (encode : α → Json) (l : List α) : Json := .array (l.map encode)

/-- The value of a record: its members in order. -/
def ofRecord (members : List (String × Json)) : Json :=
  .object (members.map fun (name, value) => (some name, value))

end Json

end ChartCatalog
