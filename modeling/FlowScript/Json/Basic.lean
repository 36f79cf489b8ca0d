import FlowScript.Number.Basic

/-!
# JSON values

Values as they are exchanged: the members of an object keep their order, and a
number keeps its kind. An object that is read has one member for each name; a
name that comes again replaces the value and keeps the place.
-/

namespace FlowScript

/-- A JSON value. -/
inductive Json where
  /-- The null value. -/
  | null
  /-- A truth value. -/
  | bool (b : Bool)
  /-- A number. -/
  | number (n : Number)
  /-- A string. -/
  | string (s : Text)
  /-- An array. -/
  | array (elements : List Json)
  /-- An object: names and values, in order. -/
  | object (members : List (Text × Json))
  deriving Inhabited

namespace Json

/-- A value that says something: not null, false, zero or empty. -/
def isSubstantial : Json → Bool
  | null => false
  | bool b => b
  | number n => !n.isZero
  | string s => !s.isEmpty
  | array elements => !elements.isEmpty
  | object members => !members.isEmpty

/-- A text as a value, and null for none. -/
def ofText? : Option Text → Json
  | none => null
  | some s => string s

end Json

end FlowScript
