import Mailroom.Text.Blank

/-!
# Log settings

How events are written and which ones are wanted. The form is named by a variable; a name that
says nothing leaves the standard form.
-/

namespace Mailroom

/-- How events are written. -/
inductive LogFormat where
  /-- As one JSON object each. -/
  | json
  /-- In a form for people. -/
  | pretty
  deriving DecidableEq

/-- The name of a format. -/
def LogFormat.name : LogFormat → String
  | .json => "json"
  | .pretty => "pretty"

/-- The format of a name, in either case and with blanks around it. -/
def LogFormat.ofName? (name : String) : Option LogFormat :=
  match String.ofList ((Text.trim name.toList).map Char.toLower) with
  | "json" => some .json
  | "pretty" => some .pretty
  | "text" => some .pretty
  | _ => none

/-- How a process writes its log. -/
structure LogSettings where
  /-- Which events are wanted where nothing else is said. -/
  defaultFilter : String := "info"
  /-- How events are written. -/
  format : LogFormat := .json
  deriving DecidableEq

namespace LogSettings

/-- The settings where nothing else is said. -/
def standard : LogSettings := {}

/-- The variable that names the format. -/
def formatVariable : String := "COURIER_LOG_FORMAT"

/-- The settings that variables ask for. -/
def ofVariables (lookup : String → Option String) : LogSettings :=
  { standard with
    format := ((lookup formatVariable).bind LogFormat.ofName?).getD standard.format }

end LogSettings

end Mailroom
