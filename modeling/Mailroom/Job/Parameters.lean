import Mailroom.Job.Retry
import Mailroom.Text.Quoted

/-!
# Job parameters

What a job declares about its own scheduling.
-/

namespace Mailroom.Job

/-- How many times a job may run. -/
inductive AttemptLimit where
  | unlimited
  | limited (most : UInt32)
  deriving DecidableEq

namespace AttemptLimit

instance : Inhabited AttemptLimit := ⟨unlimited⟩

/-- Whether another run is allowed after a number of runs. -/
def allowsAnother (limit : AttemptLimit) (attempt : UInt32) : Bool :=
  match limit with
  | .unlimited => true
  | .limited most => attempt < most

/-- A limit as a choice. -/
def toJson : AttemptLimit → Json
  | .unlimited => .text "unlimited"
  | .limited most => .record [("limited", .int most.toNat)]

/-- The limit that a choice names. -/
def ofJson? (value : Json) : Option AttemptLimit := do
  match ← value.choice? with
  | ("unlimited", content) => if Json.isPlain content then some .unlimited else none
  | ("limited", some content) => content.toUInt32?.map AttemptLimit.limited
  | _ => none

end AttemptLimit

/-- The constraint of jobs that need the network. -/
def networkConstraint : String := "NetworkConstraint"

/-- The scheduling of a job. -/
structure Parameters where
  /-- Jobs of one queue run one at a time and in order. -/
  queue : Option String := none
  /-- All of these must be met before the job runs. -/
  constraints : List String := []
  /-- How long after its creation the job may still run. -/
  lifespan : Option Span := none
  /-- How many times the job may run. -/
  limit : AttemptLimit := .unlimited
  /-- The policy of the job, where the scheduler's is not wanted. -/
  retryPolicy : Option RetryPolicy := none

namespace Parameters

instance : Inhabited Parameters := ⟨{}⟩

/-- Parameters as a record. -/
def toJson (parameters : Parameters) : Json :=
  .record
    [("queue", .option Json.text parameters.queue),
     ("constraints", .list Json.text parameters.constraints),
     ("lifespan", .option Span.toJson parameters.lifespan),
     ("max_attempts", parameters.limit.toJson),
     ("retry_policy", .option RetryPolicy.toJson parameters.retryPolicy)]

/-- The parameters that a record holds. -/
def ofJson? (value : Json) : Option Parameters := do
  match ← value.fields? ["queue", "constraints", "lifespan", "max_attempts", "retry_policy"] with
  | [queue, constraints, lifespan, limit, retryPolicy] =>
    some
      { queue := ← Json.optional Json.toText? queue
        constraints := ← Json.required (Json.toList? Json.toText?) constraints
        lifespan := ← Json.optional Span.ofJson? lifespan
        limit := ← Json.required AttemptLimit.ofJson? limit
        retryPolicy := ← Json.optional RetryPolicy.ofJson? retryPolicy }
  | _ => none

end Parameters

/-- What is shown of a value that may be missing. -/
def shownOption {α : Type} (shown : α → String) : Option α → String
  | none => "None"
  | some value => "Some(" ++ shown value ++ ")"

/-- What is shown of a strategy. -/
def Backoff.shown : Backoff → String
  | .fixed => "Fixed"
  | .exponential => "Exponential"
  | .linear => "Linear"

/-- What is shown of a policy. -/
def RetryPolicy.shown (policy : RetryPolicy) : String :=
  "RetryPolicy \x7b base_delay: " ++ policy.base.text ++ ", max_delay: " ++ policy.longest.text
    ++ ", strategy: " ++ policy.strategy.shown ++ ", jitter: "
    ++ String.ofList (RetryPolicy.shownStyle.write policy.jitter) ++ " \x7d"

/-- What is shown of a limit. -/
def AttemptLimit.shown : AttemptLimit → String
  | .unlimited => "Unlimited"
  | .limited most => "Limited(" ++ toString most.toNat ++ ")"

/-- What is shown of parameters. -/
def Parameters.shown (parameters : Parameters) : String :=
  "JobParameters \x7b queue: " ++ shownOption Text.quote parameters.queue
    ++ ", constraints: [" ++ String.intercalate ", " (parameters.constraints.map Text.quote)
    ++ "], lifespan: " ++ shownOption Span.text parameters.lifespan
    ++ ", max_attempts: " ++ parameters.limit.shown
    ++ ", retry_policy: " ++ shownOption RetryPolicy.shown parameters.retryPolicy ++ " \x7d"

end Mailroom.Job
