import Mailroom.Job.Retry
import Mailroom.Text.Blank
import Mailroom.Text.Quoted
import Mailroom.Text.Whole

/-!
# Scheduler settings

Settings start from standard ones and may be overridden by three variables, each a whole number
of milliseconds with blanks around it allowed. A variable that is not set keeps the standard
value. The variables are read in the order poll, base, longest, and the first bad one is reported.
-/

namespace Mailroom.Job

/-- How a scheduler works. -/
structure Settings where
  /-- How often an idle worker looks for jobs, and how long an unmet constraint defers a job. -/
  pollInterval : Span
  /-- The name of the worker. -/
  name : String
  /-- The policy of jobs without their own. -/
  retryPolicy : RetryPolicy

/-- Why variables were not accepted. -/
inductive SettingsError where
  /-- A variable is not a whole number of milliseconds. -/
  | notWhole (variableName raw : String) (reason : Text.WholeError)
  /-- The base delay exceeds the longest. -/
  | baseExceedsLongest
  deriving DecidableEq

namespace Settings

/-- The variable for the poll interval. -/
def pollVariable : String := "COURIER_JOB_POLL_INTERVAL_MS"

/-- The variable for the base delay. -/
def baseVariable : String := "COURIER_JOB_BACKOFF_BASE_MS"

/-- The variable for the longest delay. -/
def longestVariable : String := "COURIER_JOB_BACKOFF_MAX_MS"

/-- The settings where nothing else is said. -/
def standard : Settings := ⟨.ofMillis 100, "job-manager", .standard⟩

instance : Inhabited Settings := ⟨standard⟩

/-- A variable as a span, if it is set. -/
def spanOf (lookup : String → Option String) (variableName : String) :
    Except SettingsError (Option Span) :=
  match lookup variableName with
  | none => .ok none
  | some raw =>
    match Text.readUnsigned (Text.trim raw.toList) with
    | .ok millis => .ok (some (.ofMillis millis))
    | .error reason => .error (.notWhole variableName raw reason)

/-- The settings that variables ask for. -/
def ofVariables (lookup : String → Option String) : Except SettingsError Settings := do
  let poll ← spanOf lookup pollVariable
  let base ← spanOf lookup baseVariable
  let longest ← spanOf lookup longestVariable
  let policy := { RetryPolicy.standard with
    base := base.getD RetryPolicy.standard.base
    longest := longest.getD RetryPolicy.standard.longest }
  if policy.base.nanos ≤ policy.longest.nanos then
    .ok { standard with
      pollInterval := poll.getD standard.pollInterval
      retryPolicy := policy }
  else .error .baseExceedsLongest

end Settings

/-- The wording of the failure: which variable, what it holds, and what is wrong with that. -/
def SettingsError.message : SettingsError → String
  | .notWhole variableName raw reason =>
    variableName ++ " must be a whole number of milliseconds, got " ++ Text.quote raw ++ ": "
      ++ reason.message
  | .baseExceedsLongest =>
    Settings.baseVariable ++ " must not exceed " ++ Settings.longestVariable

end Mailroom.Job
