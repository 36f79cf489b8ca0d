import FlowScript.Text.Blank

/-!
# Lines

The characters that end a line, the lines of a text, and its inked lines: the
lines that are not blank, trimmed, each with its number counted from one.

A carriage return followed by a line feed ends one line. A line end after the
last line does not open another, so the empty text has no lines.
-/

namespace FlowScript.Text

/-- The code points that end a line, as closed ranges. -/
def breaks : List (Nat × Nat) :=
  [(0x0A, 0x0D), (0x1C, 0x1E), (0x85, 0x85), (0x2028, 0x2029)]

/-- A character that ends a line. -/
def isBreak (c : Char) : Bool :=
  inRanges breaks c.toNat

/-- The lines of a text, without their ends. -/
def lines : Text → List Text
  | [] => []
  | '\r' :: '\n' :: rest => [] :: lines rest
  | c :: rest => if isBreak c then [] :: lines rest else consFirst c (lines rest)

/-- A line that is not blank: its trimmed text and where it stands. -/
structure InkedLine where
  /-- The number of the line, counted from one. -/
  number : Nat
  /-- The line without blanks at either end. -/
  text : Text
  deriving DecidableEq

/-- The inked lines among `lines`, of which the first has the number `n`. -/
def inkedFrom : Nat → List Text → List InkedLine
  | _, [] => []
  | n, line :: rest =>
    match trim line with
    | [] => inkedFrom (n + 1) rest
    | text => ⟨n, text⟩ :: inkedFrom (n + 1) rest

/-- The inked lines of a text, in order. -/
def inkedLines (s : Text) : List InkedLine :=
  inkedFrom 1 (lines s)

/-- A text without ink: only blanks, or nothing. -/
def isBlankText (s : Text) : Bool :=
  s.all isBlank

end FlowScript.Text
