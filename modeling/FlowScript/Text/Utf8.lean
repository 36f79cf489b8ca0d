import FlowScript.Text.Basic

/-!
# UTF-8

Texts as bytes. A lead byte says how many bytes follow it and, to keep out
overlong forms, surrogates and code points above the last one, between which
bounds the next byte lies; the others are any continuation bytes.

Reading is strict. It stops at the first sequence that is not in this form and
says what is wrong with it and where the sequence starts.
-/

namespace FlowScript.Text.Utf8

/-! ## Writing -/

/-- The bytes of one character. -/
def encodeChar (c : Char) : List UInt8 :=
  let n := c.toNat
  if n < 0x80 then
    [UInt8.ofNat n]
  else if n < 0x800 then
    [UInt8.ofNat (0xC0 + n / 64), UInt8.ofNat (0x80 + n % 64)]
  else if n < 0x10000 then
    [UInt8.ofNat (0xE0 + n / 4096), UInt8.ofNat (0x80 + n / 64 % 64), UInt8.ofNat (0x80 + n % 64)]
  else
    [UInt8.ofNat (0xF0 + n / 262144), UInt8.ofNat (0x80 + n / 4096 % 64),
      UInt8.ofNat (0x80 + n / 64 % 64), UInt8.ofNat (0x80 + n % 64)]

/-- The bytes of a text. -/
def encode (s : Text) : List UInt8 :=
  s.flatMap encodeChar

/-! ## Reading -/

/-- What is wrong with a sequence of bytes. -/
inductive Flaw where
  /-- The first byte starts no sequence. -/
  | badStart
  /-- A byte that has to continue the sequence does not. -/
  | badContinuation
  /-- The bytes end inside the sequence. -/
  | cutShort
  deriving DecidableEq

/-- The flaw in words. -/
def Flaw.message : Flaw → Text
  | .badStart => "invalid start byte".toList
  | .badContinuation => "invalid continuation byte".toList
  | .cutShort => "unexpected end of data".toList

/-- What a lead byte promises. -/
structure Lead where
  /-- The bits that the lead byte itself carries. -/
  bits : Nat
  /-- The number of bytes that follow. -/
  follow : Nat
  /-- The least byte that may come next. -/
  low : Nat
  /-- The greatest byte that may come next. -/
  high : Nat

/-- What byte `b` promises as a lead byte, if it is one. -/
def lead? (b : Nat) : Option Lead :=
  if b < 0x80 then some ⟨b, 0, 0x80, 0xBF⟩
  else if b < 0xC2 then none
  else if b < 0xE0 then some ⟨b - 0xC0, 1, 0x80, 0xBF⟩
  else if b < 0xF0 then
    some ⟨b - 0xE0, 2, if b = 0xE0 then 0xA0 else 0x80, if b = 0xED then 0x9F else 0xBF⟩
  else if b < 0xF5 then
    some ⟨b - 0xF0, 3, if b = 0xF0 then 0x90 else 0x80, if b = 0xF4 then 0x8F else 0xBF⟩
  else none

/-- Reads bytes one by one. `pending` is the character that is being read, if
    any: the bits so far, and what the bytes to come promise; `start` is the
    offset of its first byte and `offset` that of the next byte. A flaw comes with
    the offset at which the flawed sequence starts. -/
def decodeFrom (pending : Option Lead) (start offset : Nat) :
    List UInt8 → Except (Flaw × Nat) Text
  | [] =>
    match pending with
    | none => .ok []
    | some _ => .error (.cutShort, start)
  | b :: rest =>
    let n := b.toNat
    let proceed (start : Nat) (now : Lead) : Except (Flaw × Nat) Text :=
      if now.follow = 0 then
        (decodeFrom none (offset + 1) (offset + 1) rest).map (Char.ofNat now.bits :: ·)
      else
        decodeFrom (some now) start (offset + 1) rest
    match pending with
    | none =>
      match lead? n with
      | none => .error (.badStart, offset)
      | some lead => proceed offset lead
    | some lead =>
      if lead.low ≤ n && n ≤ lead.high then
        proceed start ⟨lead.bits * 64 + (n - 0x80), lead.follow - 1, 0x80, 0xBF⟩
      else
        .error (.badContinuation, start)

/-- The text of the bytes, or the first flaw and the offset of the sequence it
    is in. -/
def decode (bytes : List UInt8) : Except (Flaw × Nat) Text :=
  decodeFrom none 0 0 bytes

end FlowScript.Text.Utf8
