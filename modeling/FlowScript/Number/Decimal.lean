import FlowScript.Number.Binary64
import FlowScript.Text.Basic

/-!
# Decimal texts of floating-point numbers

Two ways to pick decimal digits for a binary number: the fewest digits that
read back as the same number (`shortest`), and a fixed count of digits
(`rounded`). Both work on the exact value, in natural number arithmetic.

How digits are then written is one record (`Style`): from which exponent on
the exponent form is used, and whether a whole number keeps a fraction of zero.
-/

namespace FlowScript

/-- Decimal digits and the exponent of the first: `d.ddd * 10 ^ exponent`. -/
structure Decimal where
  /-- The digits, the first not zero unless it is the only one. -/
  digits : Text
  /-- The power of ten of the first digit. -/
  exponent : Int
  deriving DecidableEq

namespace Decimal

/-- The digits of zero. -/
def zero : Decimal := ⟨['0'], 0⟩

/-- The number `n * 10 ^ power` without trailing zero digits. -/
def ofScaled (n : Nat) (power : Int) : Decimal :=
  let all := Nat.toDigits 10 n
  let kept := (all.reverse.dropWhile (· == '0')).reverse
  ⟨if kept.isEmpty then ['0'] else kept, power + Int.ofNat all.length - 1⟩

/-! ## Choosing digits -/

/-- The power of ten of the first digit of `num / den`, a positive number. -/
def leadingPower (num den : Nat) : Int :=
  if den ≤ num then
    Int.ofNat (Nat.toDigits 10 (num / den)).length - 1
  else
    let places := (Nat.toDigits 10 (den / num)).length
    if den ≤ num * Nat.pow 10 (places - 1) then 1 - Int.ofNat places else -Int.ofNat places

/-- The fraction `num / den` divided by `10 ^ power`. -/
def scaleDown (num den : Nat) (power : Int) : Nat × Nat :=
  if 0 ≤ power then (num, den * Nat.pow 10 power.toNat)
  else (num * Nat.pow 10 (-power).toNat, den)

/-- A number and the interval of those that round to it, over a common
    denominator. -/
structure Target where
  /-- The lower end of the interval. -/
  low : Nat
  /-- The number itself. -/
  value : Nat
  /-- The upper end of the interval. -/
  high : Nat
  /-- The common denominator. -/
  den : Nat
  /-- The ends belong to the interval. -/
  closed : Bool

/-- The target of the finite positive number `mantissa * 2 ^ exponent`. Below
    a power of two the neighbours are half as far away. -/
def Target.ofParts (mantissa : Nat) (exponent : Int) : Target :=
  let unit := if 0 ≤ exponent then Nat.pow 2 exponent.toNat else 1
  let den := if 0 ≤ exponent then 4 else 4 * Nat.pow 2 (-exponent).toNat
  let below := if mantissa = Binary64.normalStep && -1074 < exponent then 1 else 2
  ⟨(4 * mantissa - below) * unit, 4 * mantissa * unit, (4 * mantissa + 2) * unit, den,
    mantissa % 2 == 0⟩

/-- `n * 10 ^ power` lies in the interval. -/
def Target.accepts (t : Target) (n : Nat) (power : Int) : Bool :=
  let (num, den) := scaleDown n 1 (-power)
  let low := t.low * den
  let high := t.high * den
  let point := num * t.den
  (low < point && point < high) || (t.closed && (point == low || point == high))

/-- The point of the grid of multiples of `10 ^ power` that is nearest to the
    value among its two neighbours that lie in the interval. -/
def Target.onGrid? (t : Target) (power : Int) : Option Nat :=
  let (num, den) := scaleDown t.value t.den power
  let near := Binary64.divNearest num den
  let far := if near * den ≤ num then near + 1 else near - 1
  if t.accepts near power then some near
  else if t.accepts far power then some far
  else none

/-- The first grid with a point in the interval, from `count` more digits than
    the leading one down to none more. -/
def Target.search (t : Target) (first : Int) : Nat → Nat → Option Decimal
  | _, 0 => none
  | more, left + 1 =>
    let power := first - Int.ofNat more
    match t.onGrid? power with
    | some n => some (ofScaled n power)
    | none => t.search first (more + 1) left

/-- The fewest digits that read back as `mantissa * 2 ^ exponent`, and of those
    the nearest. Seventeen always do. -/
def shortest (mantissa : Nat) (exponent : Int) : Decimal :=
  if mantissa = 0 then zero
  else
    let t := Target.ofParts mantissa exponent
    let first := leadingPower t.value t.den
    (t.search first 0 17).getD zero

/-- The number `mantissa * 2 ^ exponent` rounded to `count` digits, a half to
    the even neighbour, without trailing zeros. -/
def rounded (count mantissa : Nat) (exponent : Int) : Decimal :=
  if mantissa = 0 then zero
  else
    let t := Target.ofParts mantissa exponent
    let power := leadingPower t.value t.den - Int.ofNat count + 1
    let (num, den) := scaleDown t.value t.den power
    ofScaled (Binary64.divNearest num den) power

/-! ## Writing digits -/

/-- How digits are written. -/
structure Style where
  /-- From this exponent on, and below `-4`, the exponent form is used. -/
  scientificFrom : Int
  /-- A whole number in positional form ends in `.0`. -/
  marksWhole : Bool

/-- A decimal point and the digits after it, if there are any. -/
def fraction (digits : Text) : Text :=
  if digits.isEmpty then [] else '.' :: digits

/-- The exponent with its sign and at least two digits. -/
def exponentText (e : Int) : Text :=
  let digits := Text.ofNat e.natAbs
  'e' :: (if e < 0 then '-' else '+') :: (List.replicate (2 - digits.length) '0' ++ digits)

/-- The digits without an exponent. -/
def positional (marksWhole : Bool) (d : Decimal) : Text :=
  if d.exponent < 0 then
    '0' :: '.' :: (List.replicate ((-d.exponent).toNat - 1) '0' ++ d.digits)
  else
    let whole := d.exponent.toNat + 1
    let zeros := List.replicate (whole - d.digits.length) '0'
    let rest := d.digits.drop whole
    d.digits.take whole ++ zeros ++
      if rest.isEmpty && marksWhole then ['.', '0'] else fraction rest

/-- The decimal in the given style. -/
def render (style : Style) (d : Decimal) : Text :=
  if -4 ≤ d.exponent && d.exponent < style.scientificFrom then
    positional style.marksWhole d
  else
    d.digits.take 1 ++ fraction (d.digits.drop 1) ++ exponentText d.exponent

/-- The style of numbers that are read back: positional below `10 ^ 16`, and
    told from integers by a point or an exponent. -/
def exactStyle : Style := ⟨16, true⟩

/-- The style of numbers with six digits at most: positional below `10 ^ 6`,
    whole numbers without a point. -/
def briefStyle : Style := ⟨6, false⟩

end Decimal

end FlowScript
