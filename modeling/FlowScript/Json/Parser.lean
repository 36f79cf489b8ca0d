import FlowScript.Json.Printer
import FlowScript.Table
import FlowScript.Text.Half

/-!
# Reading JSON

A reader for JSON and the three numbers it has no form for (`NaN`, `Infinity`,
`-Infinity`). It reads from the front, answers with what is left, and stops at
the first character that does not fit. A failure says how many characters were
left there, from which the outermost function tells line and column.

White space is space, tab, line feed and carriage return only. A surrogate
without its partner is a half, and read as its stand-in among the last code points
(`Text.Halves.last`).
-/

namespace FlowScript.Json

/-! ## Failures -/

/-- What does not fit. -/
inductive Problem where
  /-- The text opens with a byte order mark. -/
  | byteOrderMark
  /-- No value starts here. -/
  | value
  /-- No member name starts here. -/
  | name
  /-- No colon after a member name. -/
  | colon
  /-- No comma after an element or a member. -/
  | comma
  /-- More text after the value. -/
  | extra
  /-- A string that opens here does not end. -/
  | unterminated
  /-- A control character inside a string. -/
  | control
  /-- A backslash with a character that it does not escape. -/
  | escape
  /-- A `\u` without four hexadecimal digits. -/
  | unitEscape
  deriving DecidableEq

/-- The problem in words. -/
def Problem.message : Problem → Text
  | byteOrderMark => "Unexpected UTF-8 BOM (decode using utf-8-sig)".toList
  | value => "Expecting value".toList
  | name => "Expecting property name enclosed in double quotes".toList
  | colon => "Expecting ':' delimiter".toList
  | comma => "Expecting ',' delimiter".toList
  | extra => "Extra data".toList
  | unterminated => "Unterminated string starting at".toList
  | control => "Invalid control character at".toList
  | escape => "Invalid \\escape".toList
  | unitEscape => "Invalid \\uXXXX escape".toList

/-- Why reading stopped. -/
inductive Failure where
  /-- A problem, and how many characters were left there. -/
  | problem (what : Problem) (left : Nat)
  /-- An integer of more digits than a text may have. -/
  | longNumeral (digits : Nat)

/-! ## White space and literals -/

/-- White space between tokens. -/
def isSpace (c : Char) : Bool :=
  c == ' ' || c == '\t' || c == '\n' || c == '\r'

/-- What is left after white space. -/
def skipSpace (s : Text) : Text :=
  s.dropWhile isSpace

/-- The literals and their values. -/
def literals : List (Text × Json) :=
  [("null".toList, null), ("true".toList, bool true), ("false".toList, bool false),
    ("NaN".toList, number (.float (0.0 / 0.0))), ("Infinity".toList, number (.float (1.0 / 0.0))),
    ("-Infinity".toList, number (.float (-1.0 / 0.0)))]

/-- The literal at the front, and what is left. -/
def literal? (s : Text) : Option (Json × Text) :=
  literals.findSome? fun (word, v) => (Text.after? word s).map ((v, ·))

/-! ## Strings -/

/-- The worth of a hexadecimal digit. -/
def hexValue? (c : Char) : Option Nat :=
  if '0' ≤ c ∧ c ≤ '9' then some (c.toNat - '0'.toNat)
  else if 'a' ≤ c ∧ c ≤ 'f' then some (c.toNat - 'a'.toNat + 10)
  else if 'A' ≤ c ∧ c ≤ 'F' then some (c.toNat - 'A'.toNat + 10)
  else none

/-- The number of the four hexadecimal digits at the front; something has to
    follow them. -/
def unit? : Text → Option Nat
  | a :: b :: c :: d :: _ :: _ => do
    return (((← hexValue? a) * 16 + (← hexValue? b)) * 16 + (← hexValue? c)) * 16 + (← hexValue? d)
  | _ => none

/-- The character of a backslash and `c`. -/
def escaped? (c : Char) : Option Char :=
  if c = '"' ∨ c = '\\' ∨ c = '/' then some c
  else if c = 'b' then some (Char.ofNat 0x08)
  else if c = 'f' then some (Char.ofNat 0x0C)
  else if c = 'n' then some '\n'
  else if c = 'r' then some '\r'
  else if c = 't' then some '\t'
  else none

/-- The first half of a surrogate pair. -/
def isHighUnit (n : Nat) : Bool :=
  0xD800 ≤ n && n < 0xDC00

/-- The second half of a surrogate pair. -/
def isLowUnit (n : Nat) : Bool :=
  0xDC00 ≤ n && n < 0xE000

/-- The character of a single unit, or the stand-in of a half. -/
def unitChar (n : Nat) : Char :=
  if isHighUnit n || isLowUnit n then Text.Halves.standIn n else Char.ofNat n

/-- What stands where the second half of a surrogate pair may stand. -/
inductive Partner where
  /-- No escape. -/
  | absent
  /-- An escape without four digits. -/
  | broken
  /-- The unit of an escape. -/
  | unit (n : Nat)

/-- The escape at the front, of which something has to be left after the six
    characters. -/
def partner : Text → Partner
  | '\\' :: 'u' :: rest =>
    if rest.length ≤ 4 then .absent
    else
      match unit? rest with
      | none => .broken
      | some n => .unit n
  | _ => .absent

/-- The string at the front, after its opening quote, and what is left;
    `opening` is how much was left at that quote. -/
def readString (opening : Nat) (s : Text) : Except Failure (Text × Text) :=
  let keep (c : Char) (r : Except Failure (Text × Text)) : Except Failure (Text × Text) :=
    r.map fun (s, rest) => (c :: s, rest)
  match s with
  | [] => .error (.problem .unterminated opening)
  | '"' :: rest => .ok ([], rest)
  | ['\\'] => .error (.problem .unterminated opening)
  | '\\' :: 'u' :: rest =>
    match unit? rest with
    | none => .error (.problem .unitEscape (rest.length + 1))
    | some n =>
      if isHighUnit n then
        match partner (rest.drop 4) with
        | .absent => keep (unitChar n) (readString opening (rest.drop 4))
        | .broken => .error (.problem .unitEscape ((rest.drop 4).length - 1))
        | .unit m =>
          if isLowUnit m then
            keep (Char.ofNat (0x10000 + (n - 0xD800) * 0x400 + (m - 0xDC00)))
              (readString opening (rest.drop 10))
          else
            keep (unitChar n) (readString opening (rest.drop 4))
      else
        keep (unitChar n) (readString opening (rest.drop 4))
  | '\\' :: c :: rest =>
    match escaped? c with
    | none => .error (.problem .escape (rest.length + 2))
    | some c => keep c (readString opening rest)
  | c :: rest =>
    if c.toNat < 0x20 then .error (.problem .control (rest.length + 1))
    else keep c (readString opening rest)
termination_by s.length
decreasing_by all_goals (simp only [List.length_cons, List.length_drop]; omega)

/-! ## Numbers -/

/-- The number that a run of ASCII digits denotes. -/
def digitsValue (digits : Text) : Nat :=
  Nat.ofDigitChars 10 digits 0

/-- The fraction digits at the front, after their point: none unless a digit
    follows the point. -/
def spanFraction : Text → Text × Text
  | '.' :: c :: rest =>
    if c.isDigit then ((c :: rest).takeWhile Char.isDigit, (c :: rest).dropWhile Char.isDigit)
    else ([], '.' :: c :: rest)
  | s => ([], s)

/-- The exponent at the front: none unless digits follow the letter and its
    sign. -/
def spanExponent (s : Text) : Option Int × Text :=
  match s with
  | [] => (none, s)
  | c :: rest =>
    if c = 'e' || c = 'E' then
      let (negative, rest) :=
        match rest with
        | '-' :: rest => (true, rest)
        | '+' :: rest => (false, rest)
        | _ => (false, rest)
      let digits := rest.takeWhile Char.isDigit
      if digits.isEmpty then (none, s)
      else
        let n := Int.ofNat (digitsValue digits)
        (some (if negative then -n else n), rest.dropWhile Char.isDigit)
    else
      (none, s)

/-- The number at the front and what is left. A leading zero stands alone; a
    point or an exponent makes it a float. -/
def readNumber? (s : Text) : Option (Except Failure (Number × Text)) :=
  let (negative, body) :=
    match s with
    | '-' :: rest => (true, rest)
    | _ => (false, s)
  let whole :=
    match body with
    | '0' :: _ => ['0']
    | _ => body.takeWhile Char.isDigit
  if whole.isEmpty then none
  else
    let rest := body.drop whole.length
    let (fraction, rest) := spanFraction rest
    let (exponent, rest) := spanExponent rest
    if fraction.isEmpty && exponent.isNone then
      if digitLimit < whole.length then some (.error (.longNumeral whole.length))
      else
        let n := Int.ofNat (digitsValue whole)
        some (.ok (.int (if negative then -n else n), rest))
    else
      let x := Binary64.floatOfDecimal negative (digitsValue (whole ++ fraction))
        (exponent.getD 0 - Int.ofNat fraction.length)
      some (.ok (.float x, rest))

/-! ## Values -/

mutual

/-- The value at the front and what is left. Each call spends one unit of
    `fuel`. -/
def readValue : (fuel : Nat) → Text → Except Failure (Json × Text)
  | 0, s => .error (.problem .value s.length)
  | fuel + 1, s =>
    match s with
    | '"' :: rest => (readString s.length rest).map fun (t, rest) => (string t, rest)
    | '[' :: rest =>
      match skipSpace rest with
      | ']' :: rest => .ok (array [], rest)
      | rest => (readElements fuel rest).map fun (vs, rest) => (array vs, rest)
    | '\x7b' :: rest =>
      match skipSpace rest with
      | '\x7d' :: rest => .ok (object [], rest)
      | rest => (readMembers fuel [] rest).map fun (ms, rest) => (object ms, rest)
    | _ =>
      match literal? s with
      | some answer => .ok answer
      | none =>
        match readNumber? s with
        | some answer => answer.map fun (n, rest) => (number n, rest)
        | none => .error (.problem .value s.length)

/-- The elements at the front, at least one, up to the closing bracket. -/
def readElements : (fuel : Nat) → Text → Except Failure (List Json × Text)
  | 0, s => .error (.problem .value s.length)
  | fuel + 1, s => do
    let (v, rest) ← readValue fuel s
    match skipSpace rest with
    | ']' :: rest => return ([v], rest)
    | ',' :: rest =>
      let (vs, rest) ← readElements fuel (skipSpace rest)
      return (v :: vs, rest)
    | rest => throw (.problem .comma rest.length)

/-- The members at the front, at least one, up to the closing brace, after
    those in `before`. -/
def readMembers : (fuel : Nat) → List (Text × Json) → Text →
    Except Failure (List (Text × Json) × Text)
  | 0, _, s => .error (.problem .value s.length)
  | fuel + 1, before, s =>
    match s with
    | '"' :: rest => do
      let (key, rest) ← readString s.length rest
      match skipSpace rest with
      | ':' :: rest =>
        let (v, rest) ← readValue fuel (skipSpace rest)
        let members := Table.put before key v
        match skipSpace rest with
        | '\x7d' :: rest => return (members, rest)
        | ',' :: rest => readMembers fuel members (skipSpace rest)
        | rest => throw (.problem .comma rest.length)
      | rest => throw (.problem .colon rest.length)
    | _ => .error (.problem .name s.length)

end

/-- The value that a text holds, and nothing but white space around it. A byte
    order mark is refused. Every call reads a character or ends a bracket, so
    the fuel is enough. -/
def read (s : Text) : Except Failure Json := do
  if s.head? = some (Char.ofNat 0xFEFF) then throw (.problem .byteOrderMark s.length)
  let (v, rest) ← readValue (2 * s.length + 2) (skipSpace s)
  match skipSpace rest with
  | [] => return v
  | rest => throw (.problem .extra rest.length)

/-! ## Places -/

/-- Where a character stands: its line and column, counted from one, and its
    offset, counted from zero. -/
structure Place where
  /-- The line. -/
  line : Nat
  /-- The column. -/
  column : Nat
  /-- The offset. -/
  offset : Nat
  deriving DecidableEq

/-- The place in `s` at which `left` characters are left. -/
def Place.of (s : Text) (left : Nat) : Place :=
  let offset := s.length - left
  let before := s.take offset
  ⟨before.count '\n' + 1, (before.reverse.takeWhile (· != '\n')).length + 1, offset⟩

end FlowScript.Json
