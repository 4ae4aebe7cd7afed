import Mailroom.Fanout.Run
import Mailroom.Proofs.Delivery.Classification
import Mailroom.Proofs.Delivery.Observed
import Mailroom.Proofs.Fanout.Precondition
import Mailroom.Proofs.Fanout.Progress

/-!
# What a run does

A run over storage and an observed transport takes one of three courses: it halts before any call,
the call to the group fails as a whole, or the calls are answered and accounted for. `Course` says
what each of them leaves behind and which calls it makes; `attempt_course` says that there is no
other. Whatever the course, a run only ever takes recipients off the list and addresses a group
only to recipients who were on it.
-/

namespace Mailroom.Fanout

/-- The target of a delete, as storage answers the check of the conditions. -/
def targetOf (target : MessageId) (storage : Storage) : Except Halt Target :=
  if storage.poisoned then .error (.storage .poisoned) else targetIn target storage.value

/-- Checking the conditions over storage leaves it as it was. -/
theorem checkTarget_eq (target : MessageId) (storage : Storage) :
    checkTarget target storage = (targetOf target storage, storage) := by
  obtain ⟨archive, poisoned⟩ := storage
  cases poisoned with
  | false => exact checkTarget_answers target archive
  | true => exact checkTarget_poisoned target archive

/-- Where the conditions are met, storage can be read. -/
theorem eq_sound_of_targetOf {target : MessageId} {storage : Storage} {found : Target}
    (ready : targetOf target storage = .ok found) : storage = ⟨storage.value, false⟩ := by
  obtain ⟨archive, poisoned⟩ := storage
  cases poisoned with
  | false => rfl
  | true => cases ready

/-- Storage that can be read looks everybody up in its archive. -/
theorem resolve_sound (ids : List RecipientId) (archive : Archive) :
    resolve ids (⟨archive, false⟩ : Storage) =
      (.ok (archive.known ids, archive.unknown ids), ⟨archive, false⟩) := by
  induction ids with
  | nil => rfl
  | cons id rest ih =>
    rw [resolve, recipient_of_archive, Archive.known, Archive.unknown,
      List.filter_cons, Table.contains_eq_isSome]
    cases found : archive.recipients.get? id with
    | none =>
      rw [List.filterMap_cons_none found]
      simp only [foundOr, StorageError.isNotFound, if_pos, ih]
      rfl
    | some recipient =>
      rw [List.filterMap_cons_some found]
      simp only [foundOr, ih]
      rfl

/-- Storage that can be read marks everybody whom its archive has on file. -/
theorem markGone_sound (ids : List RecipientId) (archive : Archive) :
    (markGone ids (⟨archive, false⟩ : Storage)).marked = ids.filter archive.recipients.contains ∧
      (markGone ids (⟨archive, false⟩ : Storage)).storage = ⟨archive.markAll ids, false⟩ := by
  induction ids generalizing archive with
  | nil => exact ⟨rfl, rfl⟩
  | cons id rest ih =>
    have same : (archive.markGone id).2.recipients.contains = archive.recipients.contains :=
      funext fun other => archive.contains_markAll [id] other
    obtain ⟨marked, stored⟩ := ih (archive.markGone id).2
    rw [same] at marked
    have step : MessageKeeper.markGone id (⟨archive, false⟩ : Storage) =
        ((archive.markGone id).1, ⟨(archive.markGone id).2, false⟩) := rfl
    rw [markGone, step, List.filter_cons, Table.contains_eq_isSome]
    cases found : archive.recipients.get? id with
    | none =>
      have answer : (archive.markGone id).1 = .error (.notFound "recipient" id.text) := by
        rw [Archive.markGone, found]
      rw [answer]
      exact ⟨marked, stored⟩
    | some recipient =>
      have answer : (archive.markGone id).1 =
          .ok (decide (recipient.registered ≠ .notRegistered)) := by
        rw [Archive.markGone, found]
      rw [answer]
      exact ⟨congrArg (id :: ·) marked, stored⟩

section

variable {τ : Type} [GroupSender τ]

/-- What the members of a group are sent, the answer of the transport, and the calls that this
takes: none if there is nobody. -/
inductive ToOthers (τ : Type) [GroupSender τ] (groupId : GroupId) (about : MessageId)
    (message : Outgoing) :
    List Recipient → Except TransportError (List SendResult) → List Call → Prop
  | nobody : ToOthers τ groupId about message [] (.ok []) []
  | asked {others : List Recipient} (someone : others ≠ []) (inside : τ)
    {answer : Except TransportError (List SendResult)}
    (answered : (GroupSender.sendToGroup groupId others about message inside).1 = answer) :
    ToOthers τ groupId about message others answer [.group groupId others about message answer]

/-- What the own devices are sent behind the results of the group, the delivery that comes of it,
and the calls that this takes: none if the local account is not among the recipients. -/
inductive ToOwn (τ : Type) [GroupSender τ] (message : Outgoing) (results : List SendResult) :
    List Recipient → Delivery → List Call → Prop
  | nobody : ToOwn τ message results [] ⟨results, none⟩ []
  | copied (self : Recipient) (rest : List Recipient) (inside : τ) {status : SendStatus}
    (answered : (GroupSender.sendToSelf message inside).1 = .ok status) :
    ToOwn τ message results (self :: rest) ⟨results ++ [⟨self.id, status⟩], none⟩
      [.copy message (.ok status)]
  | failed (self : Recipient) (rest : List Recipient) (inside : τ) {error : TransportError}
    (answered : (GroupSender.sendToSelf message inside).1 = .error error) :
    ToOwn τ message results (self :: rest) ⟨results, some error⟩ [.copy message (.error error)]

/-- Sending to the members of a group makes at most one call. -/
theorem sendToOthers_observed (target : Target) (about : MessageId) (message : Outgoing)
    (others : List Recipient) (transport : Observed τ) :
    ∃ calls,
      ToOthers τ target.groupId about message others
        (sendToOthers target about message others transport).1 calls ∧
      (sendToOthers target about message others transport).2.calls = transport.calls ++ calls := by
  cases others with
  | nil => exact ⟨[], .nobody, (List.append_nil _).symm⟩
  | cons first rest => exact ⟨_, .asked (List.cons_ne_nil first rest) transport.transport rfl, rfl⟩

/-- Sending to the own devices makes at most one call. -/
theorem sendToOwn_observed (message : Outgoing) (results : List SendResult) (own : List Recipient)
    (transport : Observed τ) :
    ∃ calls,
      ToOwn τ message results own (sendToOwn message results own transport).1 calls ∧
      (sendToOwn message results own transport).2.calls = transport.calls ++ calls := by
  cases own with
  | nil => exact ⟨[], .nobody, (List.append_nil _).symm⟩
  | cons self rest =>
    have kept : GroupSender.sendToSelf message transport =
        Observed.sendToSelf message transport := rfl
    unfold sendToOwn
    rw [kept, Observed.sendToSelf]
    cases answered : GroupSender.sendToSelf message transport.transport with
    | mk answer inside =>
      have given := congrArg Prod.fst answered
      cases answer with
      | error error => exact ⟨_, .failed self rest transport.transport given, rfl⟩
      | ok status => exact ⟨_, .copied self rest transport.transport given, rfl⟩

/-- How a delivery to recipients went and the calls that it took: those for the members of the
group first, and no copy behind a call that failed. -/
inductive Dispatch (τ : Type) [GroupSender τ] (now : Instant) (target : Target) (about : MessageId)
    (destinations : List Recipient) : Except TransportError Delivery → List Call → Prop
  | failed (error : TransportError) (calls : List Call)
    (asked : ToOthers τ target.groupId about (target.message now)
      (destinations.filter (not ∘ Recipient.isSelf)) (.error error) calls) :
    Dispatch τ now target about destinations (.error error) calls
  | answered (results : List SendResult) (delivery : Delivery) (calls copies : List Call)
    (asked : ToOthers τ target.groupId about (target.message now)
      (destinations.filter (not ∘ Recipient.isSelf)) (.ok results) calls)
    (copied : ToOwn τ (target.message now) results (destinations.filter Recipient.isSelf) delivery
      copies) :
    Dispatch τ now target about destinations (.ok delivery) (calls ++ copies)

/-- A delivery goes in one of these ways, and its calls come behind those made before. -/
theorem deliver_dispatch (now : Instant) (target : Target) (about : MessageId)
    (destinations : List Recipient) (transport : Observed τ) :
    ∃ calls,
      Dispatch τ now target about destinations
        (deliver now target about destinations transport).1 calls ∧
      (deliver now target about destinations transport).2.calls = transport.calls ++ calls := by
  obtain ⟨calls, asked, kept⟩ := sendToOthers_observed target about (target.message now)
    (destinations.filter (not ∘ Recipient.isSelf)) transport
  unfold deliver
  rw [List.partition_eq_filter_filter]
  dsimp only
  generalize sendToOthers target about (target.message now)
    (destinations.filter (not ∘ Recipient.isSelf)) transport = asking at asked kept ⊢
  rcases asking with ⟨error | results, after⟩
  · exact ⟨calls, .failed error calls asked, kept⟩
  · obtain ⟨copies, copied, behind⟩ := sendToOwn_observed (target.message now) results
      (destinations.filter Recipient.isSelf) after
    refine ⟨calls ++ copies, .answered results _ calls copies asked copied, ?_⟩
    show (sendToOwn _ results _ after).2.calls = _
    rw [behind, kept, List.append_assoc]

/-- The only call for the members of a group addresses all of them and carries the answer of the
transport. -/
theorem ToOthers.call_eq {groupId : GroupId} {about : MessageId} {message : Outgoing}
    {others : List Recipient} {answer : Except TransportError (List SendResult)}
    {calls : List Call} (asked : ToOthers τ groupId about message others answer calls) {call : Call}
    (made : call ∈ calls) :
    call = .group groupId others about message answer ∧ calls = [call] ∧
      ∃ inside : τ, (GroupSender.sendToGroup groupId others about message inside).1 = answer := by
  cases asked with
  | nobody => cases made
  | asked someone inside answered =>
    obtain rfl := List.mem_singleton.1 made
    exact ⟨rfl, rfl, inside, answered⟩

/-- The only call for the own devices is a copy. -/
theorem ToOwn.call_eq {message : Outgoing} {results : List SendResult} {own : List Recipient}
    {delivery : Delivery} {calls : List Call} (copied : ToOwn τ message results own delivery calls)
    {call : Call} (made : call ∈ calls) : ∃ answer, call = .copy message answer := by
  cases copied with
  | nobody => cases made
  | copied self rest inside answered => exact ⟨_, List.mem_singleton.1 made⟩
  | failed self rest inside answered => exact ⟨_, List.mem_singleton.1 made⟩

/-- A copy for the own devices leaves the last status of everybody else as the group gave it. -/
theorem ToOwn.lastStatus?_eq {message : Outgoing} {results : List SendResult}
    {own : List Recipient} {delivery : Delivery} {calls : List Call}
    (copied : ToOwn τ message results own delivery calls) {id : RecipientId}
    (other : ∀ self ∈ own, self.id ≠ id) :
    lastStatus? delivery.results id = lastStatus? results id := by
  cases copied with
  | nobody => rfl
  | copied self rest inside answered =>
    refine lastStatus?_append_of_ne fun result held => ?_
    rw [List.mem_singleton.1 held]
    exact other self List.mem_cons_self
  | failed self rest inside answered => rfl

/-- A delivery addresses only its destinations, in their order. -/
theorem Dispatch.addressees_sublist {now : Instant} {target : Target} {about : MessageId}
    {destinations : List Recipient} {answer : Except TransportError Delivery} {calls : List Call}
    (sent : Dispatch τ now target about destinations answer calls) {call : Call}
    (made : call ∈ calls) : call.addressees.Sublist (destinations.map Recipient.id) := by
  have fewer : ((destinations.filter (not ∘ Recipient.isSelf)).map Recipient.id).Sublist
      (destinations.map Recipient.id) :=
    List.filter_sublist.map Recipient.id
  cases sent with
  | failed error calls asked =>
    rw [(asked.call_eq made).1]
    exact fewer
  | answered results delivery calls copies asked copied =>
    rcases List.mem_append.1 made with toOthers | toOwn
    · rw [(asked.call_eq toOthers).1]
      exact fewer
    · obtain ⟨answer, rfl⟩ := copied.call_eq toOwn
      exact List.nil_sublist _

/-- What a run asks for that has halted. -/
def Halt.outcome : Halt → Job.Outcome
  | .unmet condition => .permanentFailure condition.message
  | .storage _ => .retry

/-- The courses that a run can take, what each leads to, and the calls that it makes. -/
inductive Course (now : Instant) (progress : Progress) (storage : Storage)
    (transport : Observed τ) : Attempt Storage (Observed τ) → List Call → Prop
  /-- A condition is not met or storage does not answer, and nothing is called or changed. -/
  | halted (halt : Halt) (stops : targetOf progress.target storage = .error halt) (log : Log) :
    Course now progress storage transport ⟨halt.outcome, progress, storage, transport, log⟩ []
  /-- The call to the group fails, and only those out of reach leave the list. -/
  | failed (target : Target) (ready : targetOf progress.target storage = .ok target)
    (error : TransportError) (calls : List Call)
    (sent : Dispatch τ now target progress.target (storage.value.reachable progress.remaining)
      (.error error) calls)
    (after : Observed τ) (log : Log) :
    Course now progress storage transport
      ⟨if error.isRetryable then .retry else .permanentFailure error.message,
        progress.keep storage.value.reaches, storage, after, log⟩ calls
  /-- The call to the group does not fail, and the results are drawn into the progress. -/
  | answered (target : Target) (ready : targetOf progress.target storage = .ok target)
    (delivery : Delivery) (calls : List Call)
    (sent : Dispatch τ now target progress.target (storage.value.reachable progress.remaining)
      (.ok delivery) calls)
    (after : Observed τ) :
    Course now progress storage transport
      (account (progress.keep storage.value.reaches)
        (progress.remaining.filter storage.value.reaches)
        (storage.value.leftOut progress.remaining).length delivery storage after)
      calls

/-- Where the conditions are met, a run sends to those whom its archive has on file. -/
theorem attempt_of_ready (now : Instant) (progress : Progress) {storage : Storage}
    (transport : Observed τ) {target : Target}
    (ready : targetOf progress.target storage = .ok target) :
    attempt now progress storage transport =
      sendOut now target progress (storage.value.known progress.remaining)
        (storage.value.unknown progress.remaining) storage transport := by
  have resolved := resolve_sound progress.remaining storage.value
  rw [← eq_sound_of_targetOf ready] at resolved
  simp only [attempt, checkTarget_eq, ready, resolved]

/-- Sending to those on file drops those left out and delivers to those who can be reached. -/
theorem sendOut_known (now : Instant) (target : Target) (progress : Progress) (storage : Storage)
    (transport : Observed τ) :
    sendOut now target progress (storage.value.known progress.remaining)
        (storage.value.unknown progress.remaining) storage transport =
      match deliver now target progress.target (storage.value.reachable progress.remaining)
        transport with
      | (.error error, after) =>
        ⟨if error.isRetryable then .retry else .permanentFailure error.message,
          progress.drop (storage.value.leftOut progress.remaining), storage, after,
          [warning progress.target
            (if error.isRetryable then "send failed, retrying" else "send rejected") "error"
            error.message]⟩
      | (.ok delivery, after) =>
        account (progress.drop (storage.value.leftOut progress.remaining))
          (progress.remaining.filter storage.value.reaches)
          (storage.value.leftOut progress.remaining).length delivery storage after := by
  rw [← Archive.map_id_reachable]
  unfold sendOut Recipient.splitEligible Archive.reachable Archive.leftOut
  rw [List.partition_eq_filter_filter]
  simp only [Progress.target_drop]
  rcases deliver now target progress.target
    ((storage.value.known progress.remaining).filter Recipient.isEligible) transport
    with ⟨error | delivery, after⟩
  · cases again : error.isRetryable <;> simp only [again] <;> rfl
  · rfl

/-- A run takes one of the courses, and its calls come behind those made before. -/
theorem attempt_course (now : Instant) (progress : Progress) (storage : Storage)
    (transport : Observed τ) :
    ∃ calls,
      Course now progress storage transport (attempt now progress storage transport) calls ∧
      (attempt now progress storage transport).transport.calls = transport.calls ++ calls := by
  cases ready : targetOf progress.target storage with
  | error halt =>
    unfold attempt
    rw [checkTarget_eq, ready]
    cases halt with
    | unmet condition =>
      exact ⟨[], .halted (.unmet condition) ready _, (List.append_nil _).symm⟩
    | storage error =>
      exact ⟨[], .halted (.storage error) ready _, (List.append_nil _).symm⟩
  | ok target =>
    have kept : progress.drop (storage.value.leftOut progress.remaining) =
        progress.keep storage.value.reaches :=
      Progress.drop_eq_keep fun id held => Archive.mem_leftOut_iff held
    obtain ⟨calls, sent, behind⟩ := deliver_dispatch now target progress.target
      (storage.value.reachable progress.remaining) transport
    refine ⟨calls, ?_⟩
    rw [attempt_of_ready now progress transport ready, sendOut_known, kept]
    generalize deliver now target progress.target (storage.value.reachable progress.remaining)
      transport = sending at sent behind ⊢
    rcases sending with ⟨error | delivery, after⟩
    · exact ⟨.failed target ready error calls sent after _, behind⟩
    · exact ⟨.answered target ready delivery calls sent after, behind⟩

end

section

variable {σ τ : Type} [MessageKeeper σ]

/-- Drawing results in narrows progress. -/
theorem narrows_account (progress : Progress) (eligible : List RecipientId) (dropped : Nat)
    (delivery : Delivery) (storage : σ) (transport : τ) :
    (account progress eligible dropped delivery storage transport).progress.Narrows progress :=
  (Progress.narrows_drop _ _).trans (Progress.narrows_drop _ _)

/-- Drawing results in takes the settled recipients off the list, if all who are gone are marked. -/
theorem progress_account_of_marked {progress : Progress} {delivery : Delivery} {storage : σ}
    (marked : (markGone (classify progress.remaining delivery.results).unregistered storage).marked =
      (classify progress.remaining delivery.results).unregistered)
    (dropped : Nat) (transport : τ) :
    (account progress progress.remaining dropped delivery storage transport).progress =
      progress.keep fun id => !(lastStatus? delivery.results id).any SendStatus.settles := by
  show (progress.drop (classify _ _).completed).drop (markGone _ _).marked = _
  rw [marked, completed_classify, unregistered_classify]
  unfold Progress.drop Progress.keep
  dsimp only
  rw [List.filter_filter]
  congr 1
  refine List.filter_congr fun id held => ?_
  rcases status : lastStatus? delivery.results id with - | - | - | reason <;>
    simp [held, status, SendStatus.settles]

end

section

variable {τ : Type}

/-- Drawing results in takes the settled recipients off the list, if all of them are on file. -/
theorem progress_account {progress : Progress} {archive : Archive}
    (onFile : ∀ id ∈ progress.remaining, archive.recipients.contains id = true) (dropped : Nat)
    (delivery : Delivery) (transport : Observed τ) :
    (account progress progress.remaining dropped delivery (⟨archive, false⟩ : Storage)
        transport).progress =
      progress.keep fun id => !(lastStatus? delivery.results id).any SendStatus.settles := by
  refine progress_account_of_marked ?_ dropped transport
  rw [(markGone_sound _ archive).1, List.filter_eq_self, unregistered_classify]
  exact fun id gone => onFile id (List.mem_filter.1 gone).1

/-- Drawing results in marks those who turn out to be gone. -/
theorem storage_account (progress : Progress) (archive : Archive) (eligible : List RecipientId)
    (dropped : Nat) (delivery : Delivery) (transport : Observed τ) :
    (account progress eligible dropped delivery (⟨archive, false⟩ : Storage) transport).storage =
      ⟨archive.markAll (eligible.filter fun id =>
        decide (lastStatus? delivery.results id = some .unregistered)), false⟩ := by
  show (markGone (classify _ _).unregistered _).storage = _
  rw [(markGone_sound _ archive).2, unregistered_classify]

variable [GroupSender τ]

/-- A run never puts anybody on the list, nor changes its order. -/
theorem Course.narrows {now : Instant} {progress : Progress} {storage : Storage}
    {transport : Observed τ} {led : Attempt Storage (Observed τ)} {calls : List Call}
    (course : Course now progress storage transport led calls) : led.progress.Narrows progress := by
  cases course with
  | halted halt stops log => exact .refl progress
  | failed target ready error calls sent after log => exact progress.narrows_keep _
  | answered target ready delivery calls sent after =>
    exact (narrows_account _ _ _ _ _ _).trans (progress.narrows_keep _)

/-- A run addresses only recipients who were on the list, in its order. -/
theorem Course.addressees_sublist {now : Instant} {progress : Progress} {storage : Storage}
    {transport : Observed τ} {led : Attempt Storage (Observed τ)} {calls : List Call}
    (course : Course now progress storage transport led calls) {call : Call} (made : call ∈ calls) :
    call.addressees.Sublist progress.remaining := by
  have reached : ((storage.value.reachable progress.remaining).map Recipient.id).Sublist
      progress.remaining := by
    rw [Archive.map_id_reachable]
    exact List.filter_sublist
  cases course with
  | halted halt stops log => cases made
  | failed target ready error calls sent after log =>
    exact (sent.addressees_sublist made).trans reached
  | answered target ready delivery calls sent after =>
    exact (sent.addressees_sublist made).trans reached

/-- A delivery addresses every destination that is not the local account. -/
theorem Dispatch.addresses {now : Instant} {target : Target} {about : MessageId}
    {destinations : List Recipient} {answer : Except TransportError Delivery} {calls : List Call}
    (sent : Dispatch τ now target about destinations answer calls) {recipient : Recipient}
    (held : recipient ∈ destinations) (other : recipient.isSelf = false) :
    ∃ call ∈ calls, recipient.id ∈ call.addressees := by
  have among : recipient ∈ destinations.filter (not ∘ Recipient.isSelf) :=
    List.mem_filter.2 ⟨held, by simp [other]⟩
  have called : ∀ {others answer calls},
      ToOthers τ target.groupId about (target.message now) others answer calls →
        recipient ∈ others → ∃ call ∈ calls, recipient.id ∈ call.addressees := by
    intro others answer calls asked among
    cases asked with
    | nobody => cases among
    | asked someone inside answered =>
      exact ⟨_, List.mem_singleton_self _, List.mem_map_of_mem among⟩
  cases sent with
  | failed error calls asked => exact called asked among
  | answered results delivery calls copies asked copied =>
    obtain ⟨call, made, addressed⟩ := called asked among
    exact ⟨call, List.mem_append_left copies made, addressed⟩

/-- A run that does not halt addresses everybody on the list who can be reached and is not the
local account. -/
theorem Course.addresses {now : Instant} {progress : Progress} {storage : Storage}
    {transport : Observed τ} {led : Attempt Storage (Observed τ)} {calls : List Call}
    (course : Course now progress storage transport led calls) {target : Target}
    (ready : targetOf progress.target storage = .ok target) {recipient : Recipient}
    (held : recipient ∈ storage.value.reachable progress.remaining)
    (other : recipient.isSelf = false) : ∃ call ∈ calls, recipient.id ∈ call.addressees := by
  cases course with
  | halted halt stops log =>
    rw [ready] at stops
    cases stops
  | failed target ready error calls sent after log => exact sent.addresses held other
  | answered target ready delivery calls sent after => exact sent.addresses held other

/-- A call that reports something is the answered call to the group of a run that draws its results
in. -/
theorem Course.answered_of_results {now : Instant} {progress : Progress} {storage : Storage}
    {transport : Observed τ} {led : Attempt Storage (Observed τ)} {calls : List Call}
    (course : Course now progress storage transport led calls) {call : Call} (made : call ∈ calls)
    {result : SendResult} (reported : result ∈ call.results) :
    ∃ target delivery copies dropped after,
      targetOf progress.target storage = .ok target ∧
      ToOthers τ target.groupId progress.target (target.message now)
        ((storage.value.reachable progress.remaining).filter (not ∘ Recipient.isSelf))
        (.ok call.results) [call] ∧
      ToOwn τ (target.message now) call.results
        ((storage.value.reachable progress.remaining).filter Recipient.isSelf) delivery copies ∧
      led = account (progress.keep storage.value.reaches)
        (progress.remaining.filter storage.value.reaches) dropped delivery storage after := by
  cases course with
  | halted halt stops log => cases made
  | failed target ready error calls sent after log =>
    cases sent with
    | failed error calls asked =>
      rw [(asked.call_eq made).1] at reported
      cases reported
  | answered target ready delivery calls sent after =>
    cases sent with
    | answered results delivery calls copies asked copied =>
      rcases List.mem_append.1 made with toOthers | toOwn
      · obtain ⟨called, alone, -⟩ := asked.call_eq toOthers
        have given : call.results = results := by rw [called, Call.results]
        rw [← given, alone] at asked
        rw [← given] at copied
        exact ⟨target, delivery, copies, _, after, ready, asked, copied, rfl⟩
      · obtain ⟨answer, rfl⟩ := copied.call_eq toOwn
        cases reported

end

end Mailroom.Fanout
