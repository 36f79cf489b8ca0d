import FlowScript.Text.Blank
import FlowScript.Text.Digit
import FlowScript.Text.Utf8

/-!
# Halves of characters

A text that is handed in may hold a *half*: one unit of a surrogate pair without
its partner. A half is no character and has no bytes, so a text with halves
cannot be written as bytes (`Halves.encode`). To all else a half is a symbol that
means nothing, neither a blank nor a digit nor a mark of a notation.

A character that the texts at hand do not need otherwise stands for a half. Which
characters do so is up to whoever hands the texts in (`Halves`), and only the
operations that may fail on a half ask for it. Their names end in `Raw`, as the
texts that they take are raw: nobody has looked whether they are *whole*, that is,
without halves.
-/

namespace FlowScript.Text

/-- The characters that stand for halves. -/
structure Halves where
  /-- The unit that a character stands for, if it stands for a half. -/
  unit? : Char → Option Nat
  /-- A half is no blank, no digit and no mark. -/
  plain : ∀ c, (unit? c).isSome = true →
    isBlank c = false ∧ isDigit c = false ∧ c ∉ ['-', '>', '→', '|', '.']

/-- What keeps a text from being written as bytes: the first halves in a row. -/
structure Stray where
  /-- The unit of the first one. -/
  unit : Nat
  /-- The place of the first one. -/
  first : Nat
  /-- The place of the last one. -/
  last : Nat
  deriving DecidableEq

/-- The halves in words. -/
def Stray.message (s : Stray) : Text :=
  "'utf-8' codec can't encode character".toList
    ++ (if s.first = s.last then
      " '\\u".toList ++ Nat.toDigits 16 s.unit ++ "' in position ".toList ++ ofNat s.first
    else
      "s in position ".toList ++ ofNat s.first ++ '-' :: ofNat s.last)
    ++ ": surrogates not allowed".toList

namespace Halves

variable (h : Halves)

/-- The character stands for a half. -/
def isHalf (c : Char) : Bool :=
  (h.unit? c).isSome

/-- There is no half in the text. -/
def isWhole (s : Text) : Bool :=
  s.all fun c => !h.isHalf c

/-- The first halves in a row in a text that has some. -/
def stray (s : Text) : Stray :=
  let first := (s.takeWhile fun c => !h.isHalf c).length
  let row := (s.drop first).takeWhile h.isHalf
  ⟨(row.head?.bind h.unit?).getD 0, first, first + row.length - 1⟩

/-- The bytes of a text, or the halves that keep it from having any. -/
def encode (s : Text) : Except Stray (List UInt8) :=
  if h.isWhole s then .ok (Utf8.encode s) else .error (h.stray s)

/-! ## Choices -/

/-- No character stands for a half. -/
def empty : Halves where
  unit? _ := none
  plain _ h := nomatch h

/-- The unit that one of the last code points stands for. -/
def lastUnit? (c : Char) : Option Nat :=
  if 0x10F800 ≤ c.toNat then some (0xD800 + (c.toNat - 0x10F800)) else none

/-- A blank is far from the last code points, and so is a digit. -/
theorem lastUnit?_plain (c : Char) (hc : (lastUnit? c).isSome = true) :
    isBlank c = false ∧ isDigit c = false ∧ c ∉ ['-', '>', '→', '|', '.'] := by
  have hlow : 0x10F800 ≤ c.toNat := Decidable.byContradiction fun hlow => by
    simp [lastUnit?, hlow] at hc
  refine ⟨?_, ?_, ?_⟩
  · simp only [isBlank, inRanges, blanks, List.any_cons, List.any_nil]
    simp
    omega
  · have hzeros : ∀ z ∈ zeros, z + 10 ≤ 0x10F800 := by decide
    rw [isDigit, digitValue?, Option.isSome_eq_false_iff, Option.isNone_iff_eq_none,
      List.findSome?_eq_none_iff]
    intro z hz
    have := hzeros z hz
    simp
    omega
  · simp only [List.mem_cons, List.not_mem_nil, or_false]
    rintro (rfl | rfl | rfl | rfl | rfl) <;> exact absurd hlow (by decide)

/-- The last code points stand for the halves, in order. -/
def last : Halves :=
  ⟨lastUnit?, lastUnit?_plain⟩

/-- The character that stands for the half `unit` then. -/
def standIn (unit : Nat) : Char :=
  Char.ofNat (0x10F800 + (unit - 0xD800))

end Halves

end FlowScript.Text
