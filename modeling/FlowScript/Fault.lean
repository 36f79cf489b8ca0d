import FlowScript.Json.Parser

/-!
# What can go wrong

Every failure of an operation by its cause, and the words for it. A program of
two steps succeeds if both do (`exists_of_bind_eq_ok`), and fails with the fault
of the first that does not (`of_bind_eq_error`).
-/

namespace FlowScript

/-- What the value of a member is that should be an object, a list or a text. -/
inductive JsonKind where
  /-- Null. -/
  | null
  /-- A truth value. -/
  | bool
  /-- An integer. -/
  | int
  /-- A float. -/
  | float
  /-- A string. -/
  | string
  /-- An array. -/
  | array
  /-- An object. -/
  | object
  deriving DecidableEq

/-- The kind of a value. -/
def JsonKind.of : Json → JsonKind
  | .null => null
  | .bool _ => bool
  | .number (.int _) => int
  | .number (.float _) => float
  | .string _ => string
  | .array _ => array
  | .object _ => object

/-- The name of a kind in messages. -/
def JsonKind.name : JsonKind → Text
  | null => "NoneType".toList
  | bool => "bool".toList
  | int => "int".toList
  | float => "float".toList
  | string => "str".toList
  | array => "list".toList
  | object => "dict".toList

/-- Why a file or a folder cannot be used. Missing permissions and a full disk
    are not among the reasons. -/
inductive FileTrouble where
  /-- There is something at the path already. -/
  | taken
  /-- A part of the path is no folder. -/
  | notAFolder
  /-- There is a folder at the path. -/
  | isAFolder
  /-- Nothing is there. -/
  | missing
  /-- A name in the path, or the path, is too long. -/
  | nameTooLong
  deriving DecidableEq

/-- The number and the words of a trouble. -/
def FileTrouble.message : FileTrouble → Text
  | missing => "[Errno 2] No such file or directory".toList
  | taken => "[Errno 17] File exists".toList
  | notAFolder => "[Errno 20] Not a directory".toList
  | isAFolder => "[Errno 21] Is a directory".toList
  | nameTooLong => "[Errno 36] File name too long".toList

/-- The reason for which an operation fails. -/
inductive Fault where
  /-- A node with the id is in the chart. -/
  | nodeExists (id : Text)
  /-- An edge starts at no node. -/
  | sourceMissing (id : Text)
  /-- An edge ends at no node. -/
  | targetMissing (id : Text)
  /-- An edge with the id is in the chart. -/
  | edgeExists (id : Text)
  /-- The node whose label is set is not in the chart. -/
  | unknownNode (id : Text)
  /-- The edge whose label is set is not in the chart. -/
  | noSuchEdge
  /-- A member of an object is missing. -/
  | missingMember (name : Text)
  /-- The outermost value is no object. -/
  | notAnObject (kind : JsonKind)
  /-- Nodes or edges are no list. -/
  | notAList (kind : JsonKind)
  /-- A node or an edge is no object. -/
  | notAnEntry (kind : JsonKind)
  /-- The value of a member is of a kind that it cannot have. -/
  | unfitMember (name : Text)
  /-- A text is no JSON. -/
  | notJson (problem : Json.Problem) (place : Json.Place)
  /-- A numeral has more digits than a number may be read from. -/
  | longNumeral (digits : Nat)
  /-- A number has more digits than a text may have. -/
  | longNumber
  /-- An integer is too large for a float. -/
  | tooLarge
  /-- The square root of a negative number. -/
  | negativeCount
  /-- A text with halves has to be written as bytes. -/
  | unencodable (stray : Text.Stray)
  /-- There is no text where one has to be changed. -/
  | nullText (operation : Text)
  /-- There is no coordinate to scale. -/
  | nullAbscissa
  /-- There is no coordinate to turn over. -/
  | nullOrdinate
  /-- There is no format of the name. -/
  | unknownFormat (name : Text) (known : List Text)
  /-- A file or a folder cannot be used. -/
  | file (trouble : FileTrouble) (path : Text)
  /-- A path holds the null character. -/
  | nullInPath
  /-- An empty list stands where the folder to write to should. -/
  | noFolder
  deriving DecidableEq

/-- The words for a numeral that has too many digits. -/
def longNumeralMessage (detail : Text) : Text :=
  "Exceeds the limit (".toList ++ Text.ofNat Json.digitLimit
    ++ " digits) for integer string conversion".toList ++ detail
    ++ "; use sys.set_int_max_str_digits() to increase the limit".toList

/-- The fault in words. -/
def Fault.message : Fault → Text
  | nodeExists id => "Node with id ".toList ++ id ++ " already exists.".toList
  | sourceMissing id => "Source node ".toList ++ id ++ " does not exist.".toList
  | targetMissing id => "Target node ".toList ++ id ++ " does not exist.".toList
  | edgeExists id => "Edge with id ".toList ++ id ++ " already exists.".toList
  | unknownNode id => Text.quoted id
  | noSuchEdge => "list index out of range".toList
  | missingMember name => Text.quoted name
  | notAnObject kind => Text.quoted kind.name ++ " object has no attribute 'get'".toList
  | notAList kind => Text.quoted kind.name ++ " object is not iterable".toList
  | notAnEntry .string => "string indices must be integers, not 'str'".toList
  | notAnEntry .array => "list indices must be integers or slices, not str".toList
  | notAnEntry kind => Text.quoted kind.name ++ " object is not subscriptable".toList
  | unfitMember name => "unfit value of ".toList ++ Text.quoted name
  | notJson problem place =>
    problem.message ++ ": line ".toList ++ Text.ofNat place.line ++ " column ".toList
      ++ Text.ofNat place.column ++ " (char ".toList ++ Text.ofNat place.offset ++ [')']
  | longNumeral digits =>
    longNumeralMessage (": value has ".toList ++ Text.ofNat digits ++ " digits".toList)
  | longNumber => longNumeralMessage []
  | tooLarge => "int too large to convert to float".toList
  | negativeCount => "math domain error".toList
  | unencodable stray => stray.message
  | nullText operation =>
    "'NoneType' object has no attribute ".toList ++ Text.quoted operation
  | nullAbscissa => "unsupported operand type(s) for *: 'NoneType' and 'float'".toList
  | nullOrdinate => "bad operand type for unary -: 'NoneType'".toList
  | unknownFormat name known =>
    "Unknown format: ".toList ++ name ++ ". Use: ".toList ++ Text.join [',', ' '] known
  | file trouble path => trouble.message ++ ": ".toList ++ Text.quoted path
  | nullInPath => "embedded null byte".toList
  | noFolder => Text.quoted JsonKind.array.name ++ " object has no attribute 'mkdir'".toList

/-! ## Programs that may fail -/

variable {α β : Type} {x : Except Fault α} {f : α → Except Fault β} {b : β} {fault : Fault}

/-- A program that succeeds has gone through its first step. -/
theorem exists_of_bind_eq_ok (h : (x >>= f) = .ok b) : ∃ a, x = .ok a ∧ f a = .ok b := by
  cases x with
  | error fault => cases h
  | ok a => exact ⟨a, rfl, h⟩

/-- A program that fails does so at its first step or behind it. -/
theorem of_bind_eq_error (h : (x >>= f) = .error fault) :
    x = .error fault ∨ ∃ a, x = .ok a ∧ f a = .error fault := by
  cases x with
  | error first => exact .inl (congrArg _ (Except.error.inj h))
  | ok a => exact .inr ⟨a, rfl, h⟩

end FlowScript
