/-!
# Binary floating point

The exact side of floating-point numbers of 64 bits: which rational number a
bit pattern stands for, and which bit pattern is nearest to a rational number
(a tie goes to the even one). All arithmetic here is on natural numbers, so
the results do not hang on the machine and can be reasoned about.

A finite number is `mantissa * 2 ^ exponent` with a mantissa below `2 ^ 53`
and an exponent of at least `-1074`.
-/

namespace FlowScript.Binary64

/-- The natural number nearest to `num / den`; a half goes to the even
    neighbour. -/
def divNearest (num den : Nat) : Nat :=
  let q := num / den
  let r := num % den
  if den < 2 * r || (2 * r == den && q % 2 == 1) then q + 1 else q

/-- `n` rounded to 53 significant bits. -/
def nearest (n : Nat) : Nat :=
  let unit := Nat.pow 2 (n.log2 + 1 - 53)
  divNearest n unit * unit

/-! ## Square roots -/

/-- The greatest number whose square is at most `n`. -/
def floorSqrt (n : Nat) : Nat :=
  if h : n = 0 then 0
  else
    let r := 2 * floorSqrt (n / 4)
    if (r + 1) * (r + 1) ≤ n then r + 1 else r
termination_by n
decreasing_by omega

/-- The square root of `n`, rounded to 53 significant bits and scaled by
    `2 ^ 541`. With 540 bits after the point the exact root has more than 53
    significant bits, and the last bit says whether any are left out. -/
def scaledSqrt (n : Nat) : Nat :=
  let wide := n * Nat.pow 4 540
  let root := floorSqrt wide
  nearest (2 * root + if root * root = wide then 0 else 1)

/-- The least natural number that is not below the rounded square root. -/
def ceilSqrt (n : Nat) : Nat :=
  (scaledSqrt n + (Nat.pow 2 541 - 1)) / Nat.pow 2 541

/-! ## Bit patterns -/

/-- The least mantissa of a normal number, and the step from one exponent to
    the next in bit patterns: `2 ^ 52`. -/
def normalStep : Nat := 0x10000000000000

/-- The bit that negates a number: `2 ^ 63`. -/
def signBit : Nat := 0x8000000000000000

/-- The pattern of positive infinity; those of finite positive numbers are
    below it, in the order of the numbers. -/
def infinity : Nat := 0x7FF * normalStep

/-- The sign bit of a negative number. -/
def signOf (negative : Bool) : Nat :=
  if negative then signBit else 0

/-- The exponent that the nearest number to `num / den` has before rounding:
    the mantissa then lies between `2 ^ 52` and `2 ^ 53`, or the exponent is
    the least there is. -/
def exponentFor (num den : Nat) : Int :=
  let k : Int := Int.ofNat num.log2 - Int.ofNat den.log2
  let reaches := if 0 ≤ k then den * Nat.pow 2 k.toNat ≤ num else den ≤ num * Nat.pow 2 (-k).toNat
  max (-1074) (if reaches then k - 52 else k - 53)

/-- The pattern of the number nearest to `num / den`, which is infinity if
    that is too large. -/
def ofRatio (num den : Nat) : Nat :=
  if num = 0 then 0
  else
    let e := exponentFor num den
    let mantissa :=
      if 0 ≤ e then divNearest num (den * Nat.pow 2 e.toNat)
      else divNearest (num * Nat.pow 2 (-e).toNat) den
    Nat.min infinity ((e + 1074).toNat * normalStep + mantissa)

/-- What a bit pattern stands for. -/
inductive Value where
  /-- Not a number. -/
  | nan
  /-- An infinity. -/
  | infinite (negative : Bool)
  /-- The number `mantissa * 2 ^ exponent`, negated if `negative`. -/
  | finite (negative : Bool) (mantissa : Nat) (exponent : Int)
  deriving DecidableEq

/-- The value of the pattern `bits`. -/
def Value.ofBits (bits : Nat) : Value :=
  let negative := decide (signBit ≤ bits % (2 * signBit))
  let biased := bits / normalStep % 0x800
  let fraction := bits % normalStep
  if biased = 0x7FF then
    if fraction = 0 then .infinite negative else .nan
  else if biased = 0 then
    .finite negative fraction (-1074)
  else
    .finite negative (normalStep + fraction) (Int.ofNat biased - 1075)

/-- The value of a float. -/
def Value.ofFloat (x : Float) : Value :=
  Value.ofBits x.toBits.toNat

/-- The float with the pattern `bits`. -/
def toFloat (bits : Nat) : Float :=
  Float.ofBits (UInt64.ofNat bits)

/-- The float nearest to `num / den`, negated if `negative`. -/
def floatOfRatio (negative : Bool) (num den : Nat) : Float :=
  toFloat (ofRatio num den + signOf negative)

/-- The float nearest to `digits * 10 ^ exponent`, negated if `negative`.
    Outside the range of floats the power is not computed. -/
def floatOfDecimal (negative : Bool) (digits : Nat) (exponent : Int) : Float :=
  let top := Int.ofNat (Nat.toDigits 10 digits).length + exponent
  if digits = 0 || top < -330 then floatOfRatio negative 0 1
  else if 310 < top then toFloat (infinity + signOf negative)
  else if 0 ≤ exponent then floatOfRatio negative (digits * Nat.pow 10 exponent.toNat) 1
  else floatOfRatio negative digits (Nat.pow 10 (-exponent).toNat)

end FlowScript.Binary64
