import FlowScript.Text.Basic

/-!
# Blanks

The characters that separate words without being seen, and trimming a text of
them at both ends. The set is the one of the Unicode property White_Space
together with the four information separators; the zero width space and the
byte order mark are not in it.

Trimming on the right is a recursion from the front that drops a blank only
when nothing after it is kept; the two lemmas below are its equations at the
last character.
-/

namespace FlowScript.Text

/-- The code points of the blanks, as closed ranges. -/
def blanks : List (Nat × Nat) :=
  [(0x09, 0x0D), (0x1C, 0x20), (0x85, 0x85), (0xA0, 0xA0), (0x1680, 0x1680), (0x2000, 0x200A),
    (0x2028, 0x2029), (0x202F, 0x202F), (0x205F, 0x205F), (0x3000, 0x3000)]

/-- A blank: white space or an information separator. -/
def isBlank (c : Char) : Bool :=
  inRanges blanks c.toNat

/-- The text without its leading blanks. -/
def trimLeft (s : Text) : Text :=
  s.dropWhile isBlank

/-- The text without its trailing blanks. -/
def trimRight : Text → Text
  | [] => []
  | c :: rest =>
    match trimRight rest with
    | [] => if isBlank c then [] else [c]
    | kept => c :: kept

/-- The text without leading and trailing blanks. -/
def trim (s : Text) : Text :=
  trimRight (trimLeft s)

/-- Trimming on the right keeps a text whose last character is no blank. -/
theorem trimRight_append_of_not_isBlank {s : Text} {c : Char} (hc : isBlank c = false) :
    trimRight (s ++ [c]) = s ++ [c] := by
  induction s with
  | nil => simp [trimRight, hc]
  | cons d s ih =>
    simp only [List.cons_append, trimRight, ih]
    cases s <;> rfl

/-- Trimming on the right drops a trailing blank. -/
theorem trimRight_append_of_isBlank {s : Text} {c : Char} (hc : isBlank c = true) :
    trimRight (s ++ [c]) = trimRight s := by
  induction s with
  | nil => simp [trimRight, hc]
  | cons d s ih => simp only [List.cons_append, trimRight, ih]

end FlowScript.Text
