import Mailroom.Proofs.Fanout.Repeated

/-!
# What a run leaves to do

A run whose conditions are met accounts for everybody on its list. Unless the call to the group
failed, whoever can be reached stays until the last result about them says that they were reached,
or that they are gone and storage has been told so. A call to the group that fails as a whole tells
nothing about anybody: only those out of reach leave, nobody is marked and no copy is sent.
`Accounted` states this and what the run asks for next; `attempt_accounts_exactly` says that every
run is accounted for in this way, over any transport. What was called and answered is read off the
same run over the observed transport, which goes no other way.
-/

namespace Mailroom.Fanout

section

variable {σ τ : Type} [GroupSender τ]

/-- A run over an observed transport, without what was observed. -/
def Attempt.unobserved (led : Attempt σ (Observed τ)) : Attempt σ τ :=
  ⟨led.outcome, led.progress, led.storage, led.transport.transport, led.log⟩

/-- Observing does not change what the members of a group are sent. -/
theorem sendToOthers_unobserved (target : Target) (about : MessageId) (message : Outgoing)
    (others : List Recipient) (transport : Observed τ) :
    sendToOthers target about message others transport.transport =
      (sendToOthers target about message others transport).map id Observed.transport := by
  cases others with
  | nil => rfl
  | cons first rest => rfl

/-- Observing does not change what the own devices are sent. -/
theorem sendToOwn_unobserved (message : Outgoing) (results : List SendResult)
    (own : List Recipient) (transport : Observed τ) :
    sendToOwn message results own transport.transport =
      (sendToOwn message results own transport).map id Observed.transport := by
  cases own with
  | nil => rfl
  | cons self rest =>
    have kept : GroupSender.sendToSelf message transport =
        Observed.sendToSelf message transport := rfl
    unfold sendToOwn
    rw [kept, Observed.sendToSelf]
    rcases GroupSender.sendToSelf message transport.transport with ⟨error | status, inside⟩ <;> rfl

/-- Observing does not change a delivery. -/
theorem deliver_unobserved (now : Instant) (target : Target) (about : MessageId)
    (destinations : List Recipient) (transport : Observed τ) :
    deliver now target about destinations transport.transport =
      (deliver now target about destinations transport).map id Observed.transport := by
  unfold deliver
  dsimp only
  rw [sendToOthers_unobserved]
  rcases sendToOthers target about (target.message now)
    (destinations.partition Recipient.isSelf).2 transport with ⟨error | results, after⟩
  · rfl
  · dsimp only [Prod.map, id]
    rw [sendToOwn_unobserved]
    rfl

variable [MessageKeeper σ]

/-- Observing does not change what sending out leads to. -/
theorem sendOut_unobserved (now : Instant) (target : Target) (progress : Progress)
    (known : List Recipient) (unknown : List RecipientId) (storage : σ) (transport : Observed τ) :
    sendOut now target progress known unknown storage transport.transport =
      (sendOut now target progress known unknown storage transport).unobserved := by
  unfold sendOut
  dsimp only
  rw [deliver_unobserved]
  rcases deliver now target _ (Recipient.splitEligible known).1 transport
    with ⟨error | delivery, after⟩
  · dsimp only [Prod.map, id]
    split <;> rfl
  · rfl

/-- Observing the transport does not change a run. -/
theorem attempt_unobserved (now : Instant) (progress : Progress) (storage : σ)
    (transport : Observed τ) :
    attempt now progress storage transport.transport =
      (attempt now progress storage transport).unobserved := by
  unfold attempt
  rcases checkTarget progress.target storage with ⟨(condition | error) | target, checked⟩
  · rfl
  · rfl
  · dsimp only
    rcases resolve progress.remaining checked with ⟨error | ⟨known, unknown⟩, resolved⟩
    · rfl
    · exact sendOut_unobserved now target progress known unknown resolved transport

end

/-- Why a delivery failed, as a whole or in its copy. -/
def failureOf : Except TransportError Delivery → Option TransportError
  | .error error => some error
  | .ok delivery => delivery.copyError

section

variable {τ : Type} [GroupSender τ] {now : Instant} {target : Target} {groupId : GroupId}
  {about : MessageId} {message : Outgoing} {others own destinations : List Recipient}
  {results : List SendResult} {error : TransportError} {delivery : Delivery}
  {answer : Except TransportError Delivery} {calls : List Call}

/-- A call to the group that fails is the only one. -/
theorem ToOthers.eq_of_error (asked : ToOthers τ groupId about message others (.error error) calls) :
    calls = [.group groupId others about message (.error error)] := by
  cases asked with
  | asked someone inside answered => rfl

/-- What the group answers is what the calls to it report, and none of them fails. -/
theorem ToOthers.of_ok (asked : ToOthers τ groupId about message others (.ok results) calls)
    (self : Option Recipient) :
    calls.flatMap (Call.reports self) = results ∧ ∀ call ∈ calls, call.error? = none := by
  cases asked with
  | nobody => exact ⟨rfl, fun call made => by cases made⟩
  | asked someone inside answered =>
    constructor
    · exact List.append_nil results
    · intro call made
      rw [List.mem_singleton.1 made]
      rfl

/-- What the copy reports comes behind the results of the group, and it is the copy that fails. -/
theorem ToOwn.reports_eq (copied : ToOwn τ message results own delivery calls) :
    results ++ calls.flatMap (Call.reports own.head?) = delivery.results ∧
      ∀ error, (∃ call ∈ calls, call.error? = some error) ↔ delivery.copyError = some error := by
  cases copied with
  | nobody => simp
  | copied self rest inside answered => simp [Call.reports, Call.error?]
  | failed self rest inside answered => simp [Call.reports, Call.error?]

/-- A delivery that is answered has no failed call to the group, and its results are those that its
calls report. -/
theorem Dispatch.of_ok (sent : Dispatch τ now target about destinations (.ok delivery) calls) :
    ¬ Call.GroupFailed calls ∧
      calls.flatMap (Call.reports (destinations.find? Recipient.isSelf)) = delivery.results := by
  cases sent with
  | answered results delivery calls copies asked copied =>
    have reported := asked.of_ok (destinations.find? Recipient.isSelf)
    have own := copied.reports_eq.1
    rw [List.head?_filter] at own
    constructor
    · rintro ⟨groupId, recipients, named, message, error, made⟩
      rcases List.mem_append.1 made with toOthers | toOwn
      · cases reported.2 _ toOthers
      · obtain ⟨answer, copy⟩ := copied.call_eq toOwn
        cases copy
    · rw [List.flatMap_append, reported.1]
      exact own

/-- A delivery that fails as a whole made one call, to the group. -/
theorem Dispatch.of_error (sent : Dispatch τ now target about destinations (.error error) calls) :
    Call.GroupFailed calls ∧ ∀ message answer, Call.copy message answer ∉ calls := by
  cases sent with
  | failed error calls asked =>
    rw [asked.eq_of_error]
    constructor
    · exact ⟨_, _, _, _, _, List.mem_singleton_self _⟩
    · intro message answer made
      cases List.mem_singleton.1 made

/-- The calls of a delivery fail as the delivery does. -/
theorem Dispatch.error_iff (sent : Dispatch τ now target about destinations answer calls)
    (error : TransportError) :
    (∃ call ∈ calls, call.error? = some error) ↔ failureOf answer = some error := by
  cases sent with
  | failed error calls asked =>
    rw [asked.eq_of_error]
    simp [Call.error?, failureOf]
  | answered results delivery calls copies asked copied =>
    have whole := (asked.of_ok none).2
    rw [failureOf, ← copied.reports_eq.2]
    constructor
    · rintro ⟨call, made, failed⟩
      rcases List.mem_append.1 made with toOthers | toOwn
      · rw [whole call toOthers] at failed
        cases failed
      · exact ⟨call, toOwn, failed⟩
    · rintro ⟨call, made, failed⟩
      exact ⟨call, List.mem_append_right calls made, failed⟩

/-- A delivery was rejected if one of its calls was. -/
theorem Dispatch.rejected_iff (sent : Dispatch τ now target about destinations answer calls) :
    Call.Rejected calls ↔ ∃ reason, failureOf answer = some (.rejected reason) := by
  constructor
  · rintro ⟨call, made, reason, rejected⟩
    exact ⟨reason, (sent.error_iff _).1 ⟨call, made, rejected⟩⟩
  · rintro ⟨reason, rejected⟩
    obtain ⟨call, made, failed⟩ := (sent.error_iff _).2 rejected
    exact ⟨call, made, reason, failed⟩

/-- A delivery did not fail if none of its calls did. -/
theorem Dispatch.intact_iff (sent : Dispatch τ now target about destinations answer calls) :
    (∀ call ∈ calls, call.error? = none) ↔ failureOf answer = none := by
  rw [Option.eq_none_iff_forall_ne_some]
  constructor
  · intro intact error failed
    obtain ⟨call, made, broken⟩ := (sent.error_iff error).2 failed
    rw [intact call made] at broken
    cases broken
  · intro intact call made
    rw [Option.eq_none_iff_forall_ne_some]
    intro error broken
    exact intact error ((sent.error_iff error).1 ⟨call, made, broken⟩)

end

/-- A run is given up exactly if a call was rejected. -/
theorem conclude_eq_permanentFailure_iff (progress : Progress) (failure : Option TransportError) :
    (∃ reason, (conclude progress failure).1 = .permanentFailure reason) ↔
      ∃ reason, failure = some (.rejected reason) := by
  rcases failure with - | reason | pause | reason
  · cases done : progress.remaining.isEmpty <;> simp [conclude, done]
  · simp [conclude, TransportError.isRetryable]
  · simp [conclude, TransportError.isRetryable]
  · simp [conclude, TransportError.isRetryable]

/-- A run is done exactly if no call failed and nobody remains. -/
theorem conclude_eq_success_iff (progress : Progress) (failure : Option TransportError) :
    (conclude progress failure).1 = .success ↔ failure = none ∧ progress.remaining = [] := by
  cases failure with
  | none => cases done : progress.remaining <;> simp [conclude, done]
  | some error => cases again : error.isRetryable <;> simp [conclude, again]

/-- What a run asks for, by the calls that it made and the list that it leaves. -/
structure Asks (calls : List Call) (remaining : List RecipientId) (outcome : Job.Outcome) :
    Prop where
  /-- It is given up exactly if a call was rejected. -/
  givenUp : (∃ reason, outcome = .permanentFailure reason) ↔ Call.Rejected calls
  /-- It is done exactly if no call failed and nobody remains. -/
  done : outcome = .success ↔ (∀ call ∈ calls, call.error? = none) ∧ remaining = []
  /-- Otherwise it wants another run. -/
  again : outcome = .retry ↔
    ¬ Call.Rejected calls ∧ ¬ ((∀ call ∈ calls, call.error? = none) ∧ remaining = [])

/-- What a run concludes from its delivery is what its calls ask for. -/
theorem Dispatch.asks {τ : Type} [GroupSender τ] {now : Instant} {target : Target}
    {about : MessageId} {destinations : List Recipient} {answer : Except TransportError Delivery}
    {calls : List Call} (sent : Dispatch τ now target about destinations answer calls)
    (progress : Progress) :
    Asks calls progress.remaining (conclude progress (failureOf answer)).1 := by
  have givenUp := conclude_eq_permanentFailure_iff progress (failureOf answer)
  have done := conclude_eq_success_iff progress (failureOf answer)
  rw [← sent.rejected_iff] at givenUp
  rw [← sent.intact_iff] at done
  refine ⟨givenUp, done, ?_⟩
  rw [← givenUp, ← done]
  cases (conclude progress (failureOf answer)).1 <;> simp

/-- Whether a run is done with a recipient: by its last status it was reached, or it is gone and on
file as such. -/
def doneWith (results : List SendResult) (after : Storage) (id : RecipientId) : Bool :=
  match lastStatus? results id with
  | some .delivered => true
  | some .unregistered => after.value.hasGone id
  | _ => false

/-- Nothing is done with a recipient that no result is about. -/
theorem doneWith_eq_false {results : List SendResult} {id : RecipientId}
    (silent : ∀ result ∈ results, result.recipient ≠ id) (after : Storage) :
    doneWith results after id = false := by
  rw [doneWith, lastStatus?_eq_none silent]

/-- Where those who are gone by their last status have been marked, a run is done with whoever is
settled by it. -/
theorem doneWith_markAll {archive : Archive} {results : List SendResult} {ids : List RecipientId}
    {id : RecipientId} (held : id ∈ ids) (reached : archive.reaches id = true) :
    doneWith results
        ⟨archive.markAll (ids.filter fun id =>
          decide (lastStatus? results id = some .unregistered)), false⟩ id =
      (lastStatus? results id).any SendStatus.settles := by
  cases last : lastStatus? results id with
  | none => simp only [doneWith, last, Option.any_none]
  | some status =>
    cases status with
    | delivered => simp only [doneWith, last, Option.any_some, SendStatus.settles]
    | failed reason => simp only [doneWith, last, Option.any_some, SendStatus.settles]
    | unregistered =>
      have named : id ∈ ids.filter fun id =>
          decide (lastStatus? results id = some .unregistered) :=
        List.mem_filter.2 ⟨held, decide_eq_true last⟩
      simp only [doneWith, last, Option.any_some, SendStatus.settles]
      exact Archive.hasGone_markAll reached named

/-- All that the calls of a run report: for the members of the group, and behind them for the local
account, for the first of those who can be reached and are it. -/
def reported (progress : Progress) (archive : Archive) (calls : List Call) : List SendResult :=
  calls.flatMap (Call.reports ((archive.reachable progress.remaining).find? Recipient.isSelf))

/-- The account of a run over storage that can be read, by the calls that it made: what is left to
do, who is marked and what the run asks for. -/
structure Accounted {τ : Type} (progress : Progress) (archive : Archive) (calls : List Call)
    (led : Attempt Storage τ) : Prop where
  /-- Unless the call to the group failed, whoever can be reached stays until the run is done with
  them. -/
  remaining : ¬ Call.GroupFailed calls → led.progress = progress.keep fun id =>
    archive.reaches id && !doneWith (reported progress archive calls) led.storage id
  /-- Who can be reached and is not reported on stays. -/
  silent : ∀ id ∈ progress.remaining, archive.reaches id = true →
    (∀ result ∈ reported progress archive calls, result.recipient ≠ id) →
      id ∈ led.progress.remaining
  /-- Those whose last status says that they are gone are marked, and nothing else changes. -/
  marked : ¬ Call.GroupFailed calls → led.storage =
    ⟨archive.markAll ((progress.remaining.filter archive.reaches).filter fun id =>
      decide (lastStatus? (reported progress archive calls) id = some .unregistered)), false⟩
  /-- After a call to the group that failed only those out of reach leave the list, nobody is marked
  and no copy is sent. -/
  failed : Call.GroupFailed calls → led.progress = progress.keep archive.reaches ∧
    led.storage = ⟨archive, false⟩ ∧ ∀ message answer, Call.copy message answer ∉ calls
  /-- What the run asks for. -/
  asks : Asks calls led.progress.remaining led.outcome

section

variable {τ : Type} {progress : Progress} {archive : Archive} {calls : List Call}

/-- What was observed does not matter for the account. -/
theorem Accounted.unobserved {led : Attempt Storage (Observed τ)}
    (account : Accounted progress archive calls led) :
    Accounted progress archive calls led.unobserved :=
  ⟨account.remaining, account.silent, account.marked, account.failed, account.asks⟩

/-- A run is accounted for that takes those off the list whom its results settle, and marks those
who are gone. -/
theorem Accounted.of_results {led : Attempt Storage τ}
    (intact : ¬ Call.GroupFailed calls)
    (left : led.progress = (progress.keep archive.reaches).keep fun id =>
      !(lastStatus? (reported progress archive calls) id).any SendStatus.settles)
    (stored : led.storage = ⟨archive.markAll ((progress.remaining.filter archive.reaches).filter
      fun id => decide (lastStatus? (reported progress archive calls) id = some .unregistered)),
        false⟩)
    (asks : Asks calls led.progress.remaining led.outcome) :
    Accounted progress archive calls led := by
  have remained : led.progress = progress.keep fun id =>
      archive.reaches id && !doneWith (reported progress archive calls) led.storage id := by
    rw [left, stored]
    apply Progress.keep_keep
    intro id held reached
    rw [doneWith_markAll (List.mem_filter.2 ⟨held, reached⟩) reached]
  constructor
  case remaining => exact fun _ => remained
  case marked => exact fun _ => stored
  case silent =>
    intro id held reached silent
    rw [remained]
    apply List.mem_filter.2
    rw [reached, doneWith_eq_false silent]
    exact ⟨held, rfl⟩
  case failed => exact fun broken => absurd broken intact
  case asks => exact asks

variable [GroupSender τ] {now : Instant} {target : Target}

/-- A run whose call to the group failed is accounted for. -/
theorem accounted_of_error {error : TransportError}
    (sent : Dispatch τ now target progress.target (archive.reachable progress.remaining)
      (.error error) calls) (transport : Observed τ) (log : Log) :
    Accounted progress archive calls
      ⟨if error.isRetryable then .retry else .permanentFailure error.message,
        progress.keep archive.reaches, ⟨archive, false⟩, transport, log⟩ := by
  obtain ⟨broken, alone⟩ := sent.of_error
  have concluded :
      (if error.isRetryable then Job.Outcome.retry else .permanentFailure error.message) =
        (conclude (progress.keep archive.reaches) (failureOf (.error error))).1 := by
    cases again : error.isRetryable <;> simp [failureOf, conclude, again]
  constructor
  case remaining => exact fun intact => absurd broken intact
  case marked => exact fun intact => absurd broken intact
  case silent => exact fun id held reached _ => List.mem_filter.2 ⟨held, reached⟩
  case failed => exact fun _ => ⟨rfl, rfl, alone⟩
  case asks =>
    rw [concluded]
    exact sent.asks _

/-- A run whose call to the group did not fail is accounted for. -/
theorem accounted_of_ok {delivery : Delivery}
    (sent : Dispatch τ now target progress.target (archive.reachable progress.remaining)
      (.ok delivery) calls) (dropped : Nat) (transport : Observed τ) :
    Accounted progress archive calls
      (account (progress.keep archive.reaches) (progress.remaining.filter archive.reaches) dropped
        delivery ⟨archive, false⟩ transport) := by
  obtain ⟨intact, results⟩ := sent.of_ok
  have told : reported progress archive calls = delivery.results := results
  have onFile : ∀ id ∈ (progress.keep archive.reaches).remaining,
      archive.recipients.contains id = true :=
    fun id kept => Archive.contains_of_reaches (List.mem_filter.1 kept).2
  apply Accounted.of_results intact
  · rw [told]
    exact progress_account onFile dropped delivery transport
  · rw [told]
    exact storage_account _ archive _ dropped delivery transport
  · exact sent.asks _

/-- The calls of a run. -/
def callsOf (now : Instant) (progress : Progress) (storage : Storage) (transport : τ) : List Call :=
  (attempt now progress storage (⟨transport, []⟩ : Observed τ)).transport.calls

/-- A run whose conditions are met sends to those whom it can reach, and is accounted for by the
calls that this takes. -/
theorem attempt_accounts_exactly (now : Instant) {storage : Storage} (transport : τ)
    (ready : targetOf progress.target storage = .ok target) :
    (∃ answer, Dispatch τ now target progress.target
        (storage.value.reachable progress.remaining) answer
        (callsOf now progress storage transport)) ∧
      Accounted progress storage.value (callsOf now progress storage transport)
        (attempt now progress storage transport) := by
  obtain ⟨calls, course, behind⟩ :=
    attempt_course now progress storage (⟨transport, []⟩ : Observed τ)
  have made : callsOf now progress storage transport = calls := behind
  have same : attempt now progress storage transport =
      (attempt now progress storage (⟨transport, []⟩ : Observed τ)).unobserved :=
    attempt_unobserved now progress storage ⟨transport, []⟩
  have sound := eq_sound_of_targetOf ready
  rw [made, same]
  generalize attempt now progress storage (⟨transport, []⟩ : Observed τ) = led at course
  cases course with
  | halted halt stops log =>
    rw [ready] at stops
    cases stops
  | failed target' ready' error calls sent after log =>
    rw [ready] at ready'
    cases ready'
    refine ⟨⟨_, sent⟩, ?_⟩
    have account := accounted_of_error sent after log
    rw [← sound] at account
    exact account.unobserved
  | answered target' ready' delivery calls sent after =>
    rw [ready] at ready'
    cases ready'
    refine ⟨⟨_, sent⟩, ?_⟩
    have account := accounted_of_ok sent (storage.value.leftOut progress.remaining).length after
    rw [← sound] at account
    exact account.unobserved

/-- The member of the club twice, the owner, and somebody who is not on file. -/
def mixedProgress : Progress := ⟨⟨5⟩, [Scene.member.id, ⟨9⟩, Scene.owner.id, Scene.member.id], 3⟩

/-- The member cannot be reached at first and turns out to be gone the second time. -/
def mixedScript : Script := ({} : Script).plan Scene.member.id [.failed "offline", .unregistered]

/-- A run over all of them is done: the member is marked, the owner has a copy, and nobody else is
on file. -/
theorem attempt_accounts_exactly_mixed :
    targetOf mixedProgress.target ⟨Scene.clubArchive [], false⟩ =
        .ok ⟨Scene.club, default, 1000⟩ ∧
      reported mixedProgress (Scene.clubArchive [])
          (callsOf (.ofNanos 0) mixedProgress ⟨Scene.clubArchive [], false⟩ mixedScript) =
        [⟨Scene.member.id, .failed "offline"⟩, ⟨Scene.member.id, .unregistered⟩,
          ⟨Scene.owner.id, .delivered⟩] ∧
      (attempt (.ofNanos 0) mixedProgress (⟨Scene.clubArchive [], false⟩ : Storage)
        mixedScript).outcome = .success := by
  have ready : targetOf mixedProgress.target ⟨Scene.clubArchive [], false⟩ =
      .ok ⟨Scene.club, default, 1000⟩ := by
    rfl
  have laws := (attempt_accounts_exactly (.ofNanos 0) mixedScript ready).2
  have made : callsOf (.ofNanos 0) mixedProgress ⟨Scene.clubArchive [], false⟩ mixedScript =
      [Scene.clubCall [Scene.member, Scene.member]
          [⟨Scene.member.id, .failed "offline"⟩, ⟨Scene.member.id, .unregistered⟩],
        .copy (.ofDelete 0 Scene.club ⟨default, 1000⟩) (.ok .delivered)] := by
    rfl
  have told : reported mixedProgress (Scene.clubArchive [])
      (callsOf (.ofNanos 0) mixedProgress ⟨Scene.clubArchive [], false⟩ mixedScript) =
        [⟨Scene.member.id, .failed "offline"⟩, ⟨Scene.member.id, .unregistered⟩,
          ⟨Scene.owner.id, .delivered⟩] := by
    rw [made]
    rfl
  have intact : ¬ Call.GroupFailed
      (callsOf (.ofNanos 0) mixedProgress ⟨Scene.clubArchive [], false⟩ mixedScript) := by
    rw [made]
    rintro ⟨groupId, recipients, about, message, error, failed⟩
    simp [Scene.clubCall] at failed
  have nobody := laws.remaining intact
  rw [laws.marked intact, told] at nobody
  refine ⟨ready, told, laws.asks.done.2 ⟨?_, ?_⟩⟩
  · rw [made]
    simp [Scene.clubCall, Call.error?]
  · rw [nobody]
    rfl

end

end Mailroom.Fanout
