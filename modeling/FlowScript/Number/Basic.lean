import FlowScript.Number.Decimal

/-!
# Numbers

A number is an integer of any size or a float, and arithmetic keeps the kind:
integers with integers give an integer, and anything with a float a float. An
integer that meets a float is rounded to the nearest float first, which fails
if there is no finite one.
-/

namespace FlowScript

/-- An integer or a float. -/
inductive Number where
  /-- An integer of any size. -/
  | int (n : Int)
  /-- A float of 64 bits. -/
  | float (x : Float)

namespace Number

/-- The float nearest to an integer; `none` if the integer is too large. -/
def floatOfInt? (n : Int) : Option Float :=
  let bits := Binary64.ofRatio n.natAbs 1
  if bits < Binary64.infinity then
    some (Binary64.toFloat (bits + Binary64.signOf (n < 0)))
  else
    none

/-- The number as a float; `none` for an integer that is too large. -/
def toFloat? : Number → Option Float
  | int n => floatOfInt? n
  | float x => some x

/-- The sum; `none` if an integer is too large to meet a float. -/
def add? : Number → Number → Option Number
  | int m, int n => some (int (m + n))
  | a, b => do return float ((← a.toFloat?) + (← b.toFloat?))

/-- The product; `none` if an integer is too large to meet a float. -/
def mul? : Number → Number → Option Number
  | int m, int n => some (int (m * n))
  | a, b => do return float ((← a.toFloat?) * (← b.toFloat?))

/-- The number with the other sign. -/
def neg : Number → Number
  | int n => int (-n)
  | float x => float (-x)

/-- The number is zero. -/
def isZero : Number → Bool
  | int n => n == 0
  | float x =>
    match Binary64.Value.ofFloat x with
    | .finite _ mantissa _ => mantissa == 0
    | _ => false

/-- The texts of the values that have no digits. -/
structure Specials where
  /-- The text of an undefined result. -/
  nan : Text
  /-- The text of positive infinity; the negative one has a minus in front. -/
  infinity : Text

/-- The text of a float, whose digits `choose` picks from its parts. -/
def floatText (specials : Specials) (choose : Nat → Int → Text) (x : Float) : Text :=
  let signed (negative : Bool) (s : Text) : Text := if negative then '-' :: s else s
  match Binary64.Value.ofFloat x with
  | .nan => specials.nan
  | .infinite negative => signed negative specials.infinity
  | .finite negative mantissa exponent => signed negative (choose mantissa exponent)

/-- The number exactly: integers by all their digits, floats by the fewest
    digits that read back. -/
def text (specials : Specials) : Number → Text
  | int n => Text.ofInt n
  | float x =>
    floatText specials (fun m e => (Decimal.shortest m e).render Decimal.exactStyle) x

/-- A float in at most six digits. -/
def briefText (x : Float) : Text :=
  floatText ⟨['n', 'a', 'n'], ['i', 'n', 'f']⟩
    (fun m e => (Decimal.rounded 6 m e).render Decimal.briefStyle) x

end Number

end FlowScript
