import FlowScript.Text.Basic

/-!
# Paths

A path as it is given on the command line: whether it starts at the root, and
the names that lead from there. Empty names and single points say nothing and
are dropped; two points stay, since what they mean depends on the disk.
-/

namespace FlowScript

/-- A path in its normal form. -/
structure Path where
  /-- What it starts with: nothing, one slash, or exactly two. -/
  root : Text
  /-- The names, in order. -/
  parts : List Text
  deriving DecidableEq

namespace Path

/-- The pieces between slashes. -/
def pieces : Text → List Text
  | [] => [[]]
  | c :: rest => if c = '/' then [] :: pieces rest else Text.consFirst c (pieces rest)

/-- The path of a text. -/
def ofText (s : Text) : Path :=
  let slashes := (s.takeWhile (· == '/')).length
  let root := if slashes = 0 then [] else if slashes = 2 then ['/', '/'] else ['/']
  ⟨root, (pieces s).filter fun part => part ≠ [] ∧ part ≠ ['.']⟩

/-- The text of a path; a point if it leads nowhere. -/
def text (p : Path) : Text :=
  if p.root.isEmpty && p.parts.isEmpty then ['.'] else p.root ++ Text.join ['/'] p.parts

/-- The path of a name in the folder at `p`. -/
def child (p : Path) (name : Text) : Path :=
  { p with parts := p.parts ++ [name] }

/-- The path of the folder that `p` is in. -/
def parent (p : Path) : Path :=
  { p with parts := p.parts.dropLast }

/-- The last name without its ending, which a point inside the name starts. -/
def stem (p : Path) : Text :=
  let name := p.parts.getLast?.getD []
  match Text.cutLast? '.' name with
  | some (before, after) => if before.isEmpty || after.isEmpty then name else before
  | none => name

/-- The path holds the null character, which no disk accepts. -/
def hasNull (p : Path) : Bool :=
  p.parts.any fun part => part.contains (Char.ofNat 0)

end Path

end FlowScript
