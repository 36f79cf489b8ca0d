import FlowScript.Json.Basic
import FlowScript.Text.Quoted

/-!
# Writing JSON

A value as text in ASCII. On one line a comma is followed by a space; indented,
each element and each member has a line of its own, and empty arrays and
objects stay closed.
-/

namespace FlowScript.Json

/-- A `\u` escape of a number below 65536. -/
def unitEscape (n : Nat) : Text :=
  '\\' :: 'u' :: Text.hex 4 n

/-- A character inside a string: escapes for quote, backslash and controls, and
    for all that is not visible ASCII, above 65535 as a pair of surrogates. -/
def escapeChar (c : Char) : Text :=
  if c = '"' || c = '\\' then ['\\', c]
  else if c = '\n' then ['\\', 'n']
  else if c = '\r' then ['\\', 'r']
  else if c = '\t' then ['\\', 't']
  else if c = Char.ofNat 0x0C then ['\\', 'f']
  else if c = Char.ofNat 0x08 then ['\\', 'b']
  else if 0x20 ≤ c.toNat && c.toNat < 0x7F then [c]
  else if c.toNat < 0x10000 then unitEscape c.toNat
  else
    let n := c.toNat - 0x10000
    unitEscape (0xD800 + n / 0x400) ++ unitEscape (0xDC00 + n % 0x400)

/-- A text as a JSON string. -/
def stringText (s : Text) : Text :=
  '"' :: (s.flatMap escapeChar ++ ['"'])

/-- The numbers that JSON has no form for. -/
def specials : Number.Specials :=
  ⟨"NaN".toList, "Infinity".toList⟩

/-- How values are spread over lines. -/
inductive Spread where
  /-- All on one line. -/
  | line
  /-- One element or member a line, each level indented by `step`. -/
  | indented (step : Text)

/-- What stands between the opening bracket and the first element at `level`. -/
def Spread.opening (spread : Spread) (level : Nat) : Text :=
  match spread with
  | line => []
  | indented step => '\n' :: (List.replicate level step).flatten

/-- What stands between two elements at `level`. -/
def Spread.separator (spread : Spread) (level : Nat) : Text :=
  match spread with
  | line => [',', ' ']
  | indented _ => ',' :: spread.opening level

mutual

/-- The text of a value that stands at `level`. -/
def textAt (spread : Spread) (level : Nat) : Json → Text
  | null => "null".toList
  | bool true => "true".toList
  | bool false => "false".toList
  | number n => n.text specials
  | string s => stringText s
  | array [] => ['[', ']']
  | array (v :: rest) =>
    '[' :: (spread.opening (level + 1) ++ textAt spread (level + 1) v
      ++ elementsText spread (level + 1) rest ++ spread.opening level ++ [']'])
  | object [] => ['\x7b', '\x7d']
  | object ((name, v) :: rest) =>
    '\x7b' :: (spread.opening (level + 1) ++ stringText name ++ [':', ' ']
      ++ textAt spread (level + 1) v ++ membersText spread (level + 1) rest
      ++ spread.opening level ++ ['\x7d'])

/-- The text of the elements after the first. -/
def elementsText (spread : Spread) (level : Nat) : List Json → Text
  | [] => []
  | v :: rest =>
    spread.separator level ++ textAt spread level v ++ elementsText spread level rest

/-- The text of the members after the first. -/
def membersText (spread : Spread) (level : Nat) : List (Text × Json) → Text
  | [] => []
  | (name, v) :: rest =>
    spread.separator level ++ stringText name ++ [':', ' '] ++ textAt spread level v
      ++ membersText spread level rest

end

/-- The text of a value. -/
def text (spread : Spread) (v : Json) : Text :=
  textAt spread 0 v

/-! ## Numerals that are too long -/

/-- The most digits that an integer may have in a text. -/
def digitLimit : Nat := 4300

mutual

/-- An integer in the value has more digits than a text may have. -/
def exceedsDigits : Json → Bool
  | number (.int n) => digitLimit < (Text.ofNat n.natAbs).length
  | array elements => elementsExceedDigits elements
  | object members => membersExceedDigits members
  | _ => false

/-- An integer in the elements has too many digits. -/
def elementsExceedDigits : List Json → Bool
  | [] => false
  | v :: rest => exceedsDigits v || elementsExceedDigits rest

/-- An integer in the members has too many digits. -/
def membersExceedDigits : List (Text × Json) → Bool
  | [] => false
  | (_, v) :: rest => exceedsDigits v || membersExceedDigits rest

end

end FlowScript.Json
