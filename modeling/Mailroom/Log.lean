/-!
# Log events

An event has a level, a message and named fields. Fields are kept as text.
-/

namespace Mailroom

/-- How much attention an event asks for. -/
inductive LogLevel where
  | info
  | warn
  deriving DecidableEq

/-- The name of a level. -/
def LogLevel.name : LogLevel → String
  | .info => "INFO"
  | .warn => "WARN"

/-- Something worth telling an operator. -/
structure LogEvent where
  level : LogLevel
  message : String
  /-- Named details, in the order they were given. -/
  fields : List (String × String)
  deriving DecidableEq

namespace LogEvent

/-- An event that reports progress. -/
def info (message : String) (fields : List (String × String)) : LogEvent :=
  ⟨.info, message, fields⟩

/-- An event that reports trouble. -/
def warn (message : String) (fields : List (String × String)) : LogEvent :=
  ⟨.warn, message, fields⟩

end LogEvent

/-- Events in the order they happened. -/
abbrev Log : Type := List LogEvent

end Mailroom
