import FlowScript.Text.Printable

/-!
# Quoted text

How a text is shown inside a message: between single quotes, or between double
quotes if it holds a single quote and no double one. The backslash and the
chosen quote are escaped by a backslash, tab, line feed and carriage return
have short escapes, and a character that is not printable is written by its
code point in two, four or eight hexadecimal digits.
-/

namespace FlowScript.Text

/-- The number in lower-case hexadecimal digits, at least `width` of them. -/
def hex (width n : Nat) : Text :=
  let digits := Nat.toDigits 16 n
  List.replicate (width - digits.length) '0' ++ digits

/-- The quote that a text is shown in. -/
def quoteMark (s : Text) : Char :=
  if s.contains '\'' && !s.contains '"' then '"' else '\''

/-- A character as it is shown between two `mark`s. -/
def quoteChar (mark c : Char) : Text :=
  if c = mark || c = '\\' then ['\\', c]
  else if c = '\t' then ['\\', 't']
  else if c = '\n' then ['\\', 'n']
  else if c = '\r' then ['\\', 'r']
  else if isPrintable c then [c]
  else if c.toNat < 0x100 then '\\' :: 'x' :: hex 2 c.toNat
  else if c.toNat < 0x10000 then '\\' :: 'u' :: hex 4 c.toNat
  else '\\' :: 'U' :: hex 8 c.toNat

/-- The text as it is shown in a message. -/
def quoted (s : Text) : Text :=
  let mark := quoteMark s
  mark :: (s.flatMap (quoteChar mark) ++ [mark])

end FlowScript.Text
