import ChartCatalog.Text.Unprintable

/-!
# Quoted text

Error messages show a text that could not be read between double quotes, with
everything escaped that would not be seen: line ends and tabs by a letter,
controls, odd blanks, fillers and attaching marks by their code point. The single
quote stays as it is.
-/

namespace ChartCatalog.Text

/-- A character by its code point, as in `\u{200b}`. -/
def codePointEscape (c : Char) : List Char :=
  ['\\', 'u', '\x7b'] ++ Nat.toDigits 16 c.toNat ++ ['\x7d']

/-- Does `c` only show on the character before it? -/
def isAttached (c : Char) : Bool := graphemeExtend.contains c && !standingMarks.contains c

/-- Is `c` replaced by its code point? The space prints although it is a
separator. -/
def needsCodePoint (c : Char) : Bool :=
  c != ' ' && (isAttached c || hangulFillers.contains c || unprintable.contains c)

/-- One character of a quoted text. -/
def quotedChar (c : Char) : List Char :=
  match c with
  | '\x00' => ['\\', '0']
  | '\t' => ['\\', 't']
  | '\n' => ['\\', 'n']
  | '\r' => ['\\', 'r']
  | '"' => ['\\', '"']
  | '\\' => ['\\', '\\']
  | _ => if needsCodePoint c then codePointEscape c else [c]

/-- The text between double quotes. -/
def quoted (s : List Char) : List Char :=
  ['"'] ++ s.flatMap quotedChar ++ ['"']

end ChartCatalog.Text
