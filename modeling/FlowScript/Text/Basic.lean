/-!
# Text

A text is a list of characters, so every function on it is a recursion on its
characters and every law about it an induction. Strings appear only at the
edge of the program, where bytes come in and go out.

This module has the few operations that the notations, the exporters and the
command all need: joining, replacing one character, cutting at the first
occurrence of a character, the decimal text of a number, the order by code
points, and membership in a table of code point ranges.
-/

namespace FlowScript

/-- A text: its characters, in order. -/
abbrev Text := List Char

namespace Text

/-- The parts in order, with `separator` between each two neighbours. -/
def join (separator : Text) (parts : List Text) : Text :=
  separator.intercalate parts

/-- The text with `new` in the place of each occurrence of `old`. -/
def replace (old : Char) (new : Text) (s : Text) : Text :=
  s.flatMap fun c => if c = old then new else [c]

/-- The text before the first occurrence of `mark`, and the text after it:
    `none` if `mark` does not occur. -/
def cut? (mark : Char) : Text → Option (Text × Text)
  | [] => none
  | c :: rest =>
    if c = mark then some ([], rest)
    else (cut? mark rest).map fun (before, after) => (c :: before, after)

/-- The text in front of the last occurrence of `mark`, and the text after it. -/
def cutLast? (mark : Char) (s : Text) : Option (Text × Text) :=
  (cut? mark s.reverse).map fun (after, before) => (before.reverse, after.reverse)

/-- What follows `start` in a text that begins with it. -/
def after? : (start s : Text) → Option Text
  | [], s => some s
  | _ :: _, [] => none
  | a :: start, c :: s => if a = c then after? start s else none

/-- `s` begins with `start`. -/
def startsWith (start s : Text) : Bool :=
  (after? start s).isSome

/-- A character more at the front of the first part, which it opens if there is
    none. -/
def consFirst (c : Char) : List Text → List Text
  | [] => [[c]]
  | part :: rest => (c :: part) :: rest

/-- The decimal text of a natural number, without leading zeros. -/
def ofNat (n : Nat) : Text :=
  Nat.toDigits 10 n

/-- The decimal text of an integer, with a minus sign if it is negative. -/
def ofInt : Int → Text
  | .ofNat n => ofNat n
  | .negSucc n => '-' :: ofNat (n + 1)

/-- The order of texts by code points; a text comes after its own beginnings. -/
def le : Text → Text → Bool
  | [], _ => true
  | _ :: _, [] => false
  | a :: s, b :: t => a.toNat < b.toNat || (a == b && le s t)

/-- `n` lies in one of the closed ranges. -/
def inRanges (ranges : List (Nat × Nat)) (n : Nat) : Bool :=
  ranges.any fun (low, high) => low ≤ n && n ≤ high

@[simp]
theorem after?_append (start s : Text) : after? start (start ++ s) = some s := by
  induction start with
  | nil => rfl
  | cons c start ih => simp [after?, ih]

/-- Only a text that begins with `start` has something after it. -/
theorem eq_append_of_after? {start s rest : Text} (h : after? start s = some rest) :
    s = start ++ rest := by
  induction start generalizing s with
  | nil => simpa [after?] using h
  | cons a start ih =>
    cases s with
    | nil => simp [after?] at h
    | cons c s =>
      by_cases hc : a = c
      · subst hc
        simp only [after?, if_true] at h
        simp [ih h]
      · simp [after?, hc] at h

end Text

end FlowScript
