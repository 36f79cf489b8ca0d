import FlowScript.Text.Basic

/-!
# Base 64

Bytes as text in the alphabet that is safe in addresses: capital letters,
small letters, digits, `-` and `_`, six bits a symbol and no padding.

Reading is lenient. It skips what is not in the alphabet, takes `+` and `/` for
`-` and `_`, and stops at padding that completes a group of four symbols. Spare
bits of an incomplete group are dropped, but a group may not stay open.
-/

namespace FlowScript.Text.Base64

/-- The symbol of a number below 64. -/
def symbol (n : Nat) : Char :=
  if n < 26 then Char.ofNat ('A'.toNat + n)
  else if n < 52 then Char.ofNat ('a'.toNat + (n - 26))
  else if n < 62 then Char.ofNat ('0'.toNat + (n - 52))
  else if n = 62 then '-'
  else '_'

/-- The number of a symbol. -/
def value? (c : Char) : Option Nat :=
  if 'A' ≤ c ∧ c ≤ 'Z' then some (c.toNat - 'A'.toNat)
  else if 'a' ≤ c ∧ c ≤ 'z' then some (c.toNat - 'a'.toNat + 26)
  else if '0' ≤ c ∧ c ≤ '9' then some (c.toNat - '0'.toNat + 52)
  else if c = '-' ∨ c = '+' then some 62
  else if c = '_' ∨ c = '/' then some 63
  else none

/-- The symbols of the bytes: four for each three, two or three for a rest. -/
def encode : List UInt8 → Text
  | [] => []
  | [a] => [symbol (a.toNat / 4), symbol (a.toNat % 4 * 16)]
  | [a, b] =>
    [symbol (a.toNat / 4), symbol (a.toNat % 4 * 16 + b.toNat / 16), symbol (b.toNat % 16 * 4)]
  | a :: b :: c :: rest =>
    symbol (a.toNat / 4) :: symbol (a.toNat % 4 * 16 + b.toNat / 16) ::
      symbol (b.toNat % 16 * 4 + c.toNat / 64) :: symbol (c.toNat % 64) :: encode rest

/-- How far a group of four symbols has been read: how many symbols, and the
    bits of them that are not yet in a byte. -/
inductive Group where
  /-- No symbol. -/
  | empty
  /-- One symbol, and its six bits. -/
  | one (bits : Nat)
  /-- Two symbols, and four bits. -/
  | two (bits : Nat)
  /-- Three symbols, and two bits. -/
  | three (bits : Nat)

/-- `pads` padding marks complete the group. -/
def Group.isCompletedBy (pads : Nat) : Group → Bool
  | .empty | .one _ => false
  | .two _ => 2 ≤ pads
  | .three _ => 1 ≤ pads

/-- Padding counts once two symbols of the group are there. -/
def Group.takesPadding : Group → Bool
  | .empty | .one _ => false
  | .two _ | .three _ => true

/-- The bytes of the symbols that follow the open `group`, in which `pads`
    padding marks have been read since its last symbol. -/
def decodeFrom (group : Group) (pads : Nat) : Text → Option (List UInt8)
  | [] =>
    match group with
    | .empty => some []
    | _ => none
  | c :: rest =>
    if c = '=' then
      if group.isCompletedBy (pads + 1) then some []
      else decodeFrom group (if group.takesPadding then pads + 1 else pads) rest
    else
      match value? c with
      | none => decodeFrom group pads rest
      | some v =>
        match group with
        | .empty => decodeFrom (.one v) 0 rest
        | .one bits =>
          (decodeFrom (.two (v % 16)) 0 rest).map (UInt8.ofNat (bits * 4 + v / 16) :: ·)
        | .two bits =>
          (decodeFrom (.three (v % 4)) 0 rest).map (UInt8.ofNat (bits * 16 + v / 4) :: ·)
        | .three bits =>
          (decodeFrom .empty 0 rest).map (UInt8.ofNat (bits * 64 + v) :: ·)

/-- The bytes of the symbols, after padding to a multiple of four characters:
    `none` for a character above the ASCII range or a group that stays open. -/
def decode (symbols : Text) : Option (List UInt8) :=
  if symbols.all fun c => c.toNat < 128 then
    decodeFrom .empty 0 (symbols ++ List.replicate ((4 - symbols.length % 4) % 4) '=')
  else
    none

end FlowScript.Text.Base64
