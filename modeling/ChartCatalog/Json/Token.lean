import ChartCatalog.Json.Value

/-!
# Tokens of a document

A JSON document is a sequence of brackets, marks, names and literals with blanks
between them. `Token.text` writes a token, `tokens?` reads a text as tokens, and
refuses it if some token is broken: a number without digits after its point, a
string with a raw control character or an unknown escape, a name that is none of
the three.
-/

namespace ChartCatalog.Json

open Text

/-- A token of a document. -/
inductive Token
  | openBracket
  | closeBracket
  | openBrace
  | closeBrace
  | comma
  | colon
  | null
  | bool (value : Bool)
  | number (literal : Literal)
  | string (text : Option String)
  deriving DecidableEq

/-! ## Writing -/

/-- A control character in four hexadecimal digits. -/
def controlEscape (c : Char) : List Char :=
  let shown := Nat.toDigits 16 c.toNat
  ['\\', 'u'] ++ List.replicate (4 - shown.length) '0' ++ shown

/-- One character of a string. Only the quote, the backslash and the control
characters are escaped. -/
def escapedChar (c : Char) : List Char :=
  match c with
  | '"' => ['\\', '"']
  | '\\' => ['\\', '\\']
  | '\x08' => ['\\', 'b']
  | '\x0c' => ['\\', 'f']
  | '\n' => ['\\', 'n']
  | '\r' => ['\\', 'r']
  | '\t' => ['\\', 't']
  | _ => if c.toNat < 0x20 then controlEscape c else [c]

/-- A string between quotes. -/
def stringText (s : List Char) : List Char := ['"'] ++ s.flatMap escapedChar ++ ['"']

/-- The token as text. -/
def Token.text : Token → List Char
  | openBracket => ['[']
  | closeBracket => [']']
  | openBrace => ['\x7b']
  | closeBrace => ['\x7d']
  | comma => [',']
  | colon => [':']
  | null => "null".toList
  | bool true => "true".toList
  | bool false => "false".toList
  | number literal => literal.text
  | string s => stringText (s.getD "").toList

/-! ## Reading strings -/

/-- One item of a string: a character, or a half of a surrogate pair that was
written as an escape. -/
inductive StringItem
  | char (c : Char)
  | surrogate (code : Nat)

/-- The value of a hexadecimal digit. -/
def hexDigit? (c : Char) : Option Nat :=
  if c.isDigit then some (c.toNat - '0'.toNat)
  else if 'a' ≤ c ∧ c ≤ 'f' then some (c.toNat - 'a'.toNat + 10)
  else if 'A' ≤ c ∧ c ≤ 'F' then some (c.toNat - 'A'.toNat + 10)
  else none

/-- The value of four hexadecimal digits. -/
def hexCode? (a b c d : Char) : Option Nat := do
  let a ← hexDigit? a
  let b ← hexDigit? b
  let c ← hexDigit? c
  let d ← hexDigit? d
  some (((a * 16 + b) * 16 + c) * 16 + d)

/-- The item of a code. -/
def itemOfCode (code : Nat) : StringItem :=
  if 0xD800 ≤ code ∧ code ≤ 0xDFFF then .surrogate code else .char (Char.ofNat code)

/-- The character of a one-letter escape. -/
def escapeChar? : Char → Option Char
  | '"' => some '"'
  | '\\' => some '\\'
  | '/' => some '/'
  | 'b' => some '\x08'
  | 'f' => some '\x0c'
  | 'n' => some '\n'
  | 'r' => some '\r'
  | 't' => some '\t'
  | _ => none

/-- The items of a string up to its closing quote, and what follows it. -/
def stringItems? : List Char → Option (List StringItem × List Char)
  | [] => none
  | '"' :: s => some ([], s)
  | '\\' :: 'u' :: a :: b :: c :: d :: s =>
    match hexCode? a b c d, stringItems? s with
    | some code, some (items, rest) => some (itemOfCode code :: items, rest)
    | _, _ => none
  | '\\' :: c :: s =>
    match escapeChar? c, stringItems? s with
    | some c, some (items, rest) => some (.char c :: items, rest)
    | _, _ => none
  | c :: s =>
    if c.toNat < 0x20 ∨ c = '\\' then none
    else match stringItems? s with
      | some (items, rest) => some (.char c :: items, rest)
      | none => none

/-- The character of a surrogate pair. -/
def pairChar? (high low : Nat) : Option Char :=
  if high ≤ 0xDBFF ∧ 0xDC00 ≤ low then
    some (Char.ofNat (0x10000 + (high - 0xD800) * 0x400 + (low - 0xDC00)))
  else none

/-- The text of a string, unless it has half of a surrogate pair on its own. -/
def itemsText? : List StringItem → Option (List Char)
  | [] => some []
  | .char c :: items => (itemsText? items).map (c :: ·)
  | .surrogate high :: .surrogate low :: items =>
    match pairChar? high low, itemsText? items with
    | some c, some text => some (c :: text)
    | _, _ => none
  | .surrogate _ :: _ => none

/-! ## Reading numbers -/

/-- The digits at the start of a text, at least one, and what follows them. -/
def digits? (s : List Char) : Option (List Char × List Char) :=
  if s.takeWhile Char.isDigit = [] then none
  else some (s.takeWhile Char.isDigit, s.dropWhile Char.isDigit)

/-- The digits before the point: a zero, or digits that start with another. -/
def wholeDigits? : List Char → Option (List Char × List Char)
  | '0' :: s => some (['0'], s)
  | s => digits? s

/-- The digits after the point, if there is one. -/
def fractionDigits? : List Char → Option (List Char × List Char)
  | '.' :: s => digits? s
  | s => some ([], s)

/-- The exponent, if there is one. -/
def exponentDigits? : List Char → Option (Option (Bool × List Char) × List Char)
  | [] => some (none, [])
  | c :: s =>
    if c = 'e' ∨ c = 'E' then
      match s with
      | '+' :: s => (digits? s).map fun (digits, rest) => (some (false, digits), rest)
      | '-' :: s => (digits? s).map fun (digits, rest) => (some (true, digits), rest)
      | s => (digits? s).map fun (digits, rest) => (some (false, digits), rest)
    else some (none, c :: s)

/-- The number at the start of a text that follows the sign. -/
def unsigned? (negative : Bool) (s : List Char) : Option (Literal × List Char) := do
  let (whole, s) ← wholeDigits? s
  let (fraction, s) ← fractionDigits? s
  let (exponent, s) ← exponentDigits? s
  some (⟨negative, whole, fraction, exponent⟩, s)

/-- The number at the start of a text. -/
def number? : List Char → Option (Literal × List Char)
  | '-' :: s => unsigned? true s
  | s => unsigned? false s

/-! ## Reading tokens -/

/-- A blank of a document. -/
def isSpace (c : Char) : Bool := c = ' ' || c = '\t' || c = '\n' || c = '\r'

/-- The token at the start of a text and what follows it. -/
def nextToken? : List Char → Option (Token × List Char)
  | '[' :: s => some (.openBracket, s)
  | ']' :: s => some (.closeBracket, s)
  | '\x7b' :: s => some (.openBrace, s)
  | '\x7d' :: s => some (.closeBrace, s)
  | ',' :: s => some (.comma, s)
  | ':' :: s => some (.colon, s)
  | 'n' :: 'u' :: 'l' :: 'l' :: s => some (.null, s)
  | 't' :: 'r' :: 'u' :: 'e' :: s => some (.bool true, s)
  | 'f' :: 'a' :: 'l' :: 's' :: 'e' :: s => some (.bool false, s)
  | '"' :: s =>
    (stringItems? s).map fun (items, rest) => (.string ((itemsText? items).map String.ofList), rest)
  | s => (number? s).map fun (literal, rest) => (.number literal, rest)

/-- Reading a string takes at least its closing quote. -/
theorem length_of_stringItems? {s rest : List Char} {items : List StringItem}
    (h : stringItems? s = some (items, rest)) : rest.length < s.length := by
  fun_induction stringItems? s generalizing items rest with
  | case1 => cases h
  | case2 s =>
    -- the closing quote
    cases h
    exact Nat.lt_succ_self _
  | case3 a b c d s code more tail htail hcode ih =>
    -- an escape by code
    cases h
    have := ih htail
    simp only [List.length_cons]
    omega
  | case4 => cases h
  | case5 c s _ c' more tail htail hc ih =>
    -- an escape by letter
    cases h
    have := ih htail
    simp only [List.length_cons]
    omega
  | case6 => cases h
  | case7 => cases h
  | case8 c s _ _ _ _ more tail htail ih =>
    -- a character that stands for itself
    cases h
    have := ih htail
    simp only [List.length_cons]
    omega
  | case9 => cases h

theorem length_of_digits? {s ds rest : List Char} (h : digits? s = some (ds, rest)) :
    rest.length < s.length := by
  unfold digits? at h
  split at h
  · cases h
  next hne =>
    cases h
    have := congrArg List.length (List.takeWhile_append_dropWhile (p := Char.isDigit) (l := s))
    have hpos := List.length_pos_iff.mpr hne
    simp only [List.length_append] at this
    omega

theorem length_of_wholeDigits? {s ds rest : List Char} (h : wholeDigits? s = some (ds, rest)) :
    rest.length < s.length := by
  unfold wholeDigits? at h
  split at h
  · cases h; simp
  · exact length_of_digits? h

theorem length_of_fractionDigits? {s ds rest : List Char}
    (h : fractionDigits? s = some (ds, rest)) : rest.length ≤ s.length := by
  unfold fractionDigits? at h
  split at h
  · have := length_of_digits? h
    simp only [List.length_cons]; omega
  · cases h; exact Nat.le_refl _

theorem length_of_exponentDigits? {s rest : List Char} {e : Option (Bool × List Char)}
    (h : exponentDigits? s = some (e, rest)) : rest.length ≤ s.length := by
  unfold exponentDigits? at h
  split at h
  · cases h; exact Nat.le_refl _
  · split at h
    · split at h <;>
        (obtain ⟨p, hp, he⟩ := Option.map_eq_some_iff.mp h
         have := length_of_digits? hp
         cases he
         simp only [List.length_cons]; omega)
    · cases h; exact Nat.le_refl _

theorem length_of_number? {s rest : List Char} {literal : Literal}
    (h : number? s = some (literal, rest)) : rest.length < s.length := by
  have key : ∀ negative t, unsigned? negative t = some (literal, rest) →
      rest.length < t.length := by
    intro negative t ht
    unfold unsigned? at ht
    obtain ⟨⟨whole, s1⟩, h1, ht⟩ := Option.bind_eq_some_iff.mp ht
    obtain ⟨⟨fraction, s2⟩, h2, ht⟩ := Option.bind_eq_some_iff.mp ht
    obtain ⟨⟨exponent, s3⟩, h3, ht⟩ := Option.bind_eq_some_iff.mp ht
    cases ht
    have := length_of_wholeDigits? h1
    have := length_of_fractionDigits? h2
    have := length_of_exponentDigits? h3
    omega
  unfold number? at h
  split at h
  · have := key _ _ h
    simp only [List.length_cons]; omega
  · exact key _ _ h

/-- A token takes at least one character. -/
theorem length_of_nextToken? {s rest : List Char} {token : Token}
    (h : nextToken? s = some (token, rest)) : rest.length < s.length := by
  unfold nextToken? at h
  split at h <;> try (cases h; simp; done)
  · cases h; simp only [List.length_cons]; omega
  · cases h; simp only [List.length_cons]; omega
  · cases h; simp only [List.length_cons]; omega
  · obtain ⟨p, hp, he⟩ := Option.map_eq_some_iff.mp h
    have := length_of_stringItems? hp
    cases he
    simp only [List.length_cons]; omega
  · obtain ⟨p, hp, he⟩ := Option.map_eq_some_iff.mp h
    have := length_of_number? hp
    cases he
    exact this

/-- The tokens of a text, blanks aside. -/
def tokens? (s : List Char) : Option (List Token) :=
  match s with
  | [] => some []
  | c :: rest =>
    if isSpace c then tokens? rest
    else match _h : nextToken? (c :: rest) with
      | none => none
      | some (token, rest) => (tokens? rest).map (token :: ·)
termination_by s.length
decreasing_by
  · simp
  · exact length_of_nextToken? _h

end ChartCatalog.Json
