import ChartCatalog.Json.Value

/-!
# Reading records

A record is an object with fixed names, or an array of the fields in their fixed
order. In an object the order is free, names that are not the record's are
skipped, and a name of the record must not be repeated; in an array fields may
be missing at the end only.

What a missing field means depends on the field: it is an error (`required`),
stands for no value in an object (`optional`), or has a default (`defaulted`).
-/

namespace ChartCatalog

namespace Json

open Number

/-! ## Plain values -/

/-- A string with a text. -/
def text? : Json → Option String
  | .string text => text
  | _ => none

/-- A truth value. -/
def bool? : Json → Option Bool
  | .bool value => some value
  | _ => none

/-- A natural number below a limit. -/
def natBelow? (limit : Nat) : Json → Option Nat
  | .number literal => literal.toNat?.filter (· < limit)
  | _ => none

/-- A natural number of 8 bits. -/
def uint8? (value : Json) : Option UInt8 := (value.natBelow? UInt8.size).map UInt8.ofNat

/-- A natural number of 32 bits. -/
def uint32? (value : Json) : Option UInt32 := (value.natBelow? UInt32.size).map UInt32.ofNat

/-- A rating: any number that is not beyond the finite ones. -/
def binary64? : Json → Option Binary64
  | .number literal => literal.toBinary64?
  | _ => none

/-- A name that stands for itself: a string, or an object that gives the name
nothing. -/
def name? : Json → Option String
  | .string text => text
  | .object [(name, .null)] => name
  | _ => none

/-- A list of values. -/
def list? {α : Type} (decode : Json → Option α) : Json → Option (List α)
  | .array items => items.mapM decode
  | _ => none

/-- A value or `null`. -/
def nullable? {α : Type} (decode : Json → Option α) : Json → Option (Option α)
  | .null => some none
  | value => (decode value).map some

/-! ## Records -/

/-- The fields of a record that are given, and whether they were given by their
places alone. -/
structure Record where
  positional : Bool
  fields : List (String × Json)

namespace Record

/-- The fields of a value that is a record with these names. -/
def ofJson? (names : List String) : Json → Option Record
  | .object members => do
    let members ← members.mapM fun (name, value) => name.map (·, value)
    let known := members.filter fun (name, _) => names.contains name
    if (known.map (·.1)).Nodup then some ⟨false, known⟩ else none
  | .array items => if items.length ≤ names.length then some ⟨true, names.zip items⟩ else none
  | _ => none

variable {α : Type}

/-- A field that must be given. -/
def required (record : Record) (name : String) (decode : Json → Option α) : Option α :=
  (record.fields.lookup name).bind decode

/-- A field that may be missing from an object. -/
def optional (record : Record) (name : String) (decode : Json → Option α) :
    Option (Option α) :=
  match record.fields.lookup name with
  | some value => nullable? decode value
  | none => if record.positional then none else some none

/-- A field with a default. -/
def defaulted (record : Record) (name : String) (default : α) (decode : Json → Option α) :
    Option α :=
  match record.fields.lookup name with
  | some value => decode value
  | none => some default

end Record

end Json

end ChartCatalog
