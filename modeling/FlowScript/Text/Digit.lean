import FlowScript.Text.Basic

/-!
# Decimal digits

The decimal digits of all scripts (Unicode 14). They come in runs of ten, zero
first, so a table of the zeros says which characters are digits and what each
is worth. A numeral is a non-empty run of digits, of one script or of several.
-/

namespace FlowScript.Text

/-- The code points of the zeros. -/
def zeros : List Nat :=
  [0x30, 0x660, 0x6F0, 0x7C0, 0x966, 0x9E6, 0xA66, 0xAE6, 0xB66, 0xBE6, 0xC66, 0xCE6, 0xD66, 0xDE6,
    0xE50, 0xED0, 0xF20, 0x1040, 0x1090, 0x17E0, 0x1810, 0x1946, 0x19D0, 0x1A80, 0x1A90, 0x1B50,
    0x1BB0, 0x1C40, 0x1C50, 0xA620, 0xA8D0, 0xA900, 0xA9D0, 0xA9F0, 0xAA50, 0xABF0, 0xFF10, 0x104A0,
    0x10D30, 0x11066, 0x110F0, 0x11136, 0x111D0, 0x112F0, 0x11450, 0x114D0, 0x11650, 0x116C0,
    0x11730, 0x118E0, 0x11950, 0x11C50, 0x11D50, 0x11DA0, 0x16A60, 0x16AC0, 0x16B50, 0x1D7CE,
    0x1D7D8, 0x1D7E2, 0x1D7EC, 0x1D7F6, 0x1E140, 0x1E2F0, 0x1E950, 0x1FBF0]

/-- The worth of a decimal digit. -/
def digitValue? (c : Char) : Option Nat :=
  zeros.findSome? fun z =>
    if z ≤ c.toNat && c.toNat < z + 10 then some (c.toNat - z) else none

/-- A decimal digit of some script. -/
def isDigit (c : Char) : Bool :=
  (digitValue? c).isSome

/-- A non-empty run of decimal digits. -/
def isNumeral (s : Text) : Bool :=
  !s.isEmpty && s.all isDigit

/-- The number that a run of digits denotes; other characters count as zero. -/
def numeralValue (s : Text) : Nat :=
  s.foldl (fun value c => 10 * value + (digitValue? c).getD 0) 0

/-- The leading digits of a text, and the rest. -/
def spanDigits (s : Text) : Text × Text :=
  (s.takeWhile isDigit, s.dropWhile isDigit)

end FlowScript.Text
