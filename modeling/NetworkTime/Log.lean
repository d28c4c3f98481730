/-! Log events and their text. -/

namespace NetworkTime.Log

/-- How serious an event is. -/
inductive Level
  | trace
  | debug
  | info
  | warn
  | error
deriving DecidableEq, Repr, Inhabited

namespace Level

def name : Level → String
  | trace => "trace"
  | debug => "debug"
  | info => "info"
  | warn => "warn"
  | error => "error"

/-- The name that stands before an event. -/
def label : Level → String
  | trace => "TRACE"
  | debug => "DEBUG"
  | info => "INFO"
  | warn => "WARN"
  | error => "ERROR"

def rank : Level → Nat
  | trace => 0
  | debug => 1
  | info => 2
  | warn => 3
  | error => 4

/-- Whether a log of this level shows events of the other. -/
def shows (level other : Level) : Bool := level.rank ≤ other.rank

end Level

/-- Something that happened, with the values that tell it apart. -/
structure Event where
  level : Level
  /-- The part of the program that it happened in. -/
  source : String
  /-- The activities that it happened within, the outermost first. -/
  scopes : List String := []
  message : String
  fields : List (String × String) := []
deriving DecidableEq, Repr

namespace Event

def within (scope : String) (e : Event) : Event := { e with scopes := scope :: e.scopes }

/-- The message and the fields. -/
def body (e : Event) : String :=
  " ".intercalate (e.message :: e.fields.map fun (name, value) => s!"{name}={value}")

/-- The event without its place. -/
def text (e : Event) : String := s!"{e.level.label} {e.body}"

/-- The event as a line of the log. -/
def line (e : Event) : String :=
  let place := if e.scopes.isEmpty then "" else ":".intercalate e.scopes ++ ": "
  s!"{e.level.label} {place}{e.source}: {e.body}"

end Event
end NetworkTime.Log
