import FlowScript.Text.Quoted

/-!
# The log

What the program says about its own work: events, each of a level and from one
of its parts. A threshold decides which events are kept. It is named by a word,
which may be in small letters; an unknown word means warnings.
-/

namespace FlowScript

/-- How much an event matters. -/
inductive Level where
  /-- Details. -/
  | debug
  /-- Progress. -/
  | info
  /-- Something that was asked for is not done. -/
  | warning
  deriving DecidableEq

/-- The number of a level; a greater one matters more. -/
def Level.severity : Level → Nat
  | debug => 10
  | info => 20
  | warning => 30

/-- The name of a level. -/
def Level.name : Level → Text
  | debug => "DEBUG".toList
  | info => "INFO".toList
  | warning => "WARNING".toList

/-- Something that the program has done. -/
structure Event where
  /-- How much it matters. -/
  level : Level
  /-- The part of the program that reports it. -/
  source : Text
  /-- What was done. -/
  message : Text

/-- The event on one line. -/
def Event.line (e : Event) : Text :=
  e.level.name ++ ' ' :: (e.source ++ ' ' :: e.message)

namespace Log

/-! ## Thresholds -/

/-- The thresholds that have names, the first name of each the one it is shown
    by. -/
def thresholds : List (Text × Nat) :=
  [("CRITICAL".toList, 50), ("FATAL".toList, 50), ("ERROR".toList, 40), ("WARNING".toList, 30),
    ("WARN".toList, 30), ("INFO".toList, 20), ("DEBUG".toList, 10), ("NOTSET".toList, 0)]

/-- The threshold unless another is asked for. -/
def defaultThreshold : Nat := 30

/-- A letter of a threshold's name as a capital. Two letters outside the ASCII
    range have capitals inside it: the dotless i and the long s. -/
def capital (c : Char) : Char :=
  if c = 'ı' then 'I' else if c = 'ſ' then 'S' else c.toUpper

/-- The threshold of a name. -/
def threshold (name : Text) : Nat :=
  (thresholds.lookup (name.map capital)).getD defaultThreshold

/-- The threshold of the first name that is given: by the caller, who has to
    say something, or else by the surroundings. -/
def choose (asked surroundings : Option Text) : Nat :=
  match asked, surroundings with
  | some (c :: name), _ => threshold (c :: name)
  | _, some name => threshold name
  | _, none => defaultThreshold

/-- The name that a threshold is shown by. -/
def thresholdName (n : Nat) : Text :=
  ((thresholds.find? fun t => t.2 = n).map Prod.fst).getD ("Level ".toList ++ Text.ofNat n)

/-- The event that reports a new threshold. -/
def started (n : Nat) : Event :=
  ⟨.debug, "flowtext".toList, "Logging initialized at ".toList ++ thresholdName n⟩

/-- The lines of the events that a threshold keeps. A threshold of zero is none
    of its own and means the default. -/
def kept (threshold : Nat) (events : List Event) : List Text :=
  let least := if threshold = 0 then defaultThreshold else threshold
  (events.filter fun e => least ≤ e.level.severity).map Event.line

end Log

end FlowScript
