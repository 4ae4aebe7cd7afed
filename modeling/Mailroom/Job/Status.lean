import Mailroom.Json.Fields

/-!
# The status of a job

A job waits, runs, and ends completed or failed. Between runs it may wait for another attempt.
-/

namespace Mailroom.Job

/-- Where a job stands. -/
inductive Status where
  /-- It waits for its first run. -/
  | pending
  /-- A worker has claimed it. -/
  | running
  /-- It ended well. -/
  | completed
  /-- It waits for another run after the given number of runs. -/
  | retrying (attempt : UInt32)
  /-- It was given up after the given number of runs. -/
  | failed (reason : String) (attempts : UInt32)
  deriving DecidableEq

/-- A status without its details. -/
inductive StatusKind where
  | pending
  | running
  | completed
  | retrying
  | failed
  deriving DecidableEq

/-- The kind of a name. -/
def StatusKind.ofName? : String → Option StatusKind
  | "pending" => some .pending
  | "running" => some .running
  | "completed" => some .completed
  | "retrying" => some .retrying
  | "failed" => some .failed
  | _ => none

namespace Status

/-- The kind of a status. -/
def kind : Status → StatusKind
  | .pending => .pending
  | .running => .running
  | .completed => .completed
  | .retrying _ => .retrying
  | .failed _ _ => .failed

/-- Whether the job has ended. -/
def isTerminal : Status → Bool
  | .completed => true
  | .failed _ _ => true
  | _ => false

/-- Whether the job waits for a run. -/
def isRunnable : Status → Bool
  | .pending => true
  | .retrying _ => true
  | _ => false

/-- A status as a choice. -/
def toJson : Status → Json
  | .pending => .text "pending"
  | .running => .text "running"
  | .completed => .text "completed"
  | .retrying attempt => .record [("retrying", .record [("attempt", .int attempt.toNat)])]
  | .failed reason attempts =>
    .record [("failed", .record [("reason", .text reason), ("attempts", .int attempts.toNat)])]

/-- The status that a choice names. -/
def ofJson? (value : Json) : Option Status := do
  match ← value.choice? with
  | ("pending", content) => if Json.isPlain content then some .pending else none
  | ("running", content) => if Json.isPlain content then some .running else none
  | ("completed", content) => if Json.isPlain content then some .completed else none
  | ("retrying", some content) =>
    match ← content.fields? ["attempt"] with
    | [attempt] => some (.retrying (← Json.required Json.toUInt32? attempt))
    | _ => none
  | ("failed", some content) =>
    match ← content.fields? ["reason", "attempts"] with
    | [reason, attempts] =>
      some (.failed (← Json.required Json.toText? reason) (← Json.required Json.toUInt32? attempts))
    | _ => none
  | _ => none

end Status

end Mailroom.Job
