import Mailroom.Proofs.Fanout.Warrant

/-!
# Whom a run contacts and what it changes

A run makes one call to the group at most, and behind it one copy at most. `Contacted` says when
each of them is made, to whom the first goes, and that both carry the same message. In storage a
run marks those as gone whom it lost, and changes nothing else (`Marked`); since no run takes a
mark back, no later run reaches them.
-/

namespace Mailroom

/-- Those on a list to whom a call to a group goes, in the order of the list: whoever is on file and
has an account, is no group, is not known to be gone and is not the local account. -/
def Archive.members (ids : List RecipientId) (archive : Archive) : List Recipient :=
  (archive.known ids).filter fun recipient =>
    recipient.serviceId.isSome && !recipient.isGroup && recipient.registered != .notRegistered &&
      !recipient.isSelf

/-- The members are those who can be reached and are not the local account. -/
theorem Archive.members_eq (ids : List RecipientId) (archive : Archive) :
    archive.members ids = (archive.reachable ids).filter (not ∘ Recipient.isSelf) := by
  rw [members, reachable, List.filter_filter]
  refine List.filter_congr fun recipient _ => ?_
  rw [Bool.and_comm]
  rfl

/-- Whether a call is made to a group. -/
def Call.isToGroup (call : Call) : Bool := call.groupId?.isSome

namespace Fanout

/-- Whom a run contacts, by the calls that it made. -/
structure Contacted (progress : Progress) (storage : Storage) (calls : List Call) : Prop where
  /-- There is one call to the group at most, and behind it one copy at most. -/
  order : ∃ toGroup copies, calls = toGroup ++ copies ∧ toGroup.length ≤ 1 ∧ copies.length ≤ 1 ∧
    (∀ call ∈ toGroup, call.isToGroup = true) ∧ ∀ call ∈ copies, call.isToGroup = false
  /-- The group is called exactly where the delete is permitted and there are members to reach. -/
  called : (∃ call ∈ calls, call.isToGroup = true) ↔
    Permits progress.target storage ∧ storage.value.members progress.remaining ≠ []
  /-- The call to the group goes to those members, in the order of the list. -/
  addressed : ∀ groupId recipients about message answer,
    Call.group groupId recipients about message answer ∈ calls →
      recipients = storage.value.members progress.remaining
  /-- A copy is sent exactly where the delete is permitted, the local account is on the list and can
  be reached, and the call to the group did not fail. -/
  copied : (∃ call ∈ calls, call.isToGroup = false) ↔
    Permits progress.target storage ∧
      (∃ id ∈ progress.remaining, ∃ self, storage.value.recipients.get? id = some self ∧
        self.isSelf = true ∧ self.isEligible = true) ∧
      ¬ Call.GroupFailed calls
  /-- All calls carry the same message. -/
  alike : ∀ first ∈ calls, ∀ second ∈ calls, first.message = second.message

/-- The calls of a delivery told apart: those to the group, and behind them the copies. -/
structure Parted (target : Target) (about : MessageId) (message : Outgoing)
    (destinations : List Recipient) (calls toGroup copies : List Call) : Prop where
  split : calls = toGroup ++ copies
  /-- A call to the group goes to all destinations that are not the local account. -/
  group : ∀ call ∈ toGroup, ∃ answer, call =
    .group target.groupId (destinations.filter (not ∘ Recipient.isSelf)) about message answer
  copy : ∀ call ∈ copies, ∃ answer, call = .copy message answer
  groupOnce : toGroup.length ≤ 1
  copyOnce : copies.length ≤ 1
  /-- The group is called if there is anybody else among the destinations. -/
  groupNeeded : toGroup ≠ [] ↔ destinations.filter (not ∘ Recipient.isSelf) ≠ []
  /-- A copy is sent if the local account is among them and the call to the group did not fail. -/
  copyNeeded : copies ≠ [] ↔
    destinations.filter Recipient.isSelf ≠ [] ∧ ¬ Call.GroupFailed calls

/-- Who is lost after the calls of a run, as often as they are on the list: whoever could be reached
and is gone from the service by the last result about them. -/
def lost (progress : Progress) (archive : Archive) (calls : List Call) : List RecipientId :=
  progress.remaining.filter fun id => archive.reaches id &&
    decide (lastStatus? (reported progress archive calls) id = some .unregistered)

/-- What is left of storage where recipients were marked as gone. -/
structure Marked (ids : List RecipientId) (before after : Storage) : Prop where
  /-- Those who were marked are gone, and everybody else is as before. -/
  recipient : ∀ id, after.value.recipients.get? id =
    (before.value.recipients.get? id).map fun recipient =>
      if id ∈ ids then recipient.gone else recipient
  /-- Every mark is counted. -/
  count : ∀ id, after.value.markCount id = before.value.markCount id + ids.count id
  /-- Nothing changes but the recipients and the count of the marks. -/
  frame : after =
    ⟨{ before.value with recipients := after.value.recipients, marks := after.value.marks },
      before.poisoned⟩

/-- What storage may become through runs alone, of any fan-outs and over any transports. -/
inductive Runs (storage : Storage) : Storage → Prop
  | here : Runs storage storage
  | run {τ : Type} [GroupSender τ] {later : Storage} (runs : Runs storage later) (now : Instant)
    (progress : Progress) (transport : τ) :
    Runs storage (attempt now progress later transport).storage

section

variable {τ : Type} [GroupSender τ] {now : Instant} {progress : Progress} {storage : Storage}

/-- The members of a group are called once, if there are any. -/
theorem ToOthers.calls_ne_nil_iff {groupId : GroupId} {about : MessageId} {message : Outgoing}
    {others : List Recipient} {answer : Except TransportError (List SendResult)}
    {calls : List Call} (asked : ToOthers τ groupId about message others answer calls) :
    (calls ≠ [] ↔ others ≠ []) ∧ calls.length ≤ 1 := by
  cases asked with
  | nobody => exact ⟨iff_of_false (absurd rfl) (absurd rfl), Nat.zero_le 1⟩
  | asked someone inside answered => exact ⟨iff_of_true (List.cons_ne_nil _ _) someone, le_rfl⟩

/-- A copy is sent once, if the local account is among the recipients. -/
theorem ToOwn.calls_ne_nil_iff {message : Outgoing} {results : List SendResult}
    {own : List Recipient} {delivery : Delivery} {calls : List Call}
    (copied : ToOwn τ message results own delivery calls) :
    (calls ≠ [] ↔ own ≠ []) ∧ calls.length ≤ 1 := by
  cases copied with
  | nobody => exact ⟨iff_of_false (absurd rfl) (absurd rfl), Nat.zero_le 1⟩
  | copied | failed =>
    exact ⟨iff_of_true (List.cons_ne_nil _ _) (List.cons_ne_nil _ _), le_rfl⟩

/-- The calls of a delivery can be told apart. -/
theorem Dispatch.parted {target : Target} {about : MessageId} {destinations : List Recipient}
    {answer : Except TransportError Delivery} {calls : List Call}
    (sent : Dispatch τ now target about destinations answer calls) :
    ∃ toGroup copies,
      Parted target about (target.message now) destinations calls toGroup copies := by
  cases sent with
  | failed error calls asked =>
    have broken := (Dispatch.failed error calls asked).of_error.1
    refine ⟨calls, [], ?_⟩
    constructor
    case split => exact (List.append_nil calls).symm
    case group => exact fun call made => ⟨_, (asked.call_eq made).1⟩
    case copy => exact nofun
    case groupOnce => exact asked.calls_ne_nil_iff.2
    case copyOnce => exact Nat.zero_le 1
    case groupNeeded => exact asked.calls_ne_nil_iff.1
    -- Behind a call to the group that failed no copy is sent, whoever is among the destinations.
    case copyNeeded => exact iff_of_false (absurd rfl) fun needed => needed.2 broken
  | answered results delivery calls copies asked copied =>
    have intact := (Dispatch.answered results delivery calls copies asked copied).of_ok.1
    refine ⟨calls, copies, ?_⟩
    constructor
    case split => rfl
    case group => exact fun call made => ⟨_, (asked.call_eq made).1⟩
    case copy => exact fun call made => copied.call_eq made
    case groupOnce => exact asked.calls_ne_nil_iff.2
    case copyOnce => exact copied.calls_ne_nil_iff.2
    case groupNeeded => exact asked.calls_ne_nil_iff.1
    case copyNeeded => exact copied.calls_ne_nil_iff.1.trans (and_iff_left intact).symm

/-- The local account is on a list and can be reached exactly if somebody among those who can be
reached is the local account. -/
theorem own_ne_nil_iff {ids : List RecipientId} {archive : Archive} :
    (archive.reachable ids).filter Recipient.isSelf ≠ [] ↔
      ∃ id ∈ ids, ∃ self, archive.recipients.get? id = some self ∧ self.isSelf = true ∧
        self.isEligible = true := by
  constructor
  · intro someone
    obtain ⟨self, held⟩ := List.exists_mem_of_ne_nil _ someone
    obtain ⟨reached, own⟩ := List.mem_filter.1 held
    obtain ⟨listed, filed, eligible⟩ := Archive.mem_reachable_iff.1 reached
    exact ⟨self.id, listed, self, filed, own, eligible⟩
  · rintro ⟨id, listed, self, filed, own, eligible⟩
    obtain rfl : self.id = id := Table.key_of_get? filed
    have reached := Archive.mem_reachable_iff.2 ⟨listed, filed, eligible⟩
    exact List.ne_nil_of_mem (List.mem_filter.2 ⟨reached, own⟩)

/-- Calls that can be told apart and carry one message contact whom a run should, where the delete
is permitted. -/
theorem Parted.contacted {target : Target} {message : Outgoing} {calls toGroup copies : List Call}
    (parted : Parted target progress.target message (storage.value.reachable progress.remaining)
      calls toGroup copies)
    (carries : ∀ call ∈ calls, call.message = message)
    (permitted : Permits progress.target storage) : Contacted progress storage calls := by
  obtain ⟨rfl, group, copy, groupOnce, copyOnce, groupNeeded, copyNeeded⟩ := parted
  rw [← Archive.members_eq] at group groupNeeded
  rw [own_ne_nil_iff] at copyNeeded
  have toGroupOnly : ∀ call ∈ toGroup, call.isToGroup = true := by
    intro call made
    obtain ⟨answer, rfl⟩ := group call made
    rfl
  have copiesOnly : ∀ call ∈ copies, call.isToGroup = false := by
    intro call made
    obtain ⟨answer, rfl⟩ := copy call made
    rfl
  constructor
  case order => exact ⟨toGroup, copies, rfl, groupOnce, copyOnce, toGroupOnly, copiesOnly⟩
  case called =>
    rw [and_iff_right permitted, ← groupNeeded]
    constructor
    · rintro ⟨call, made, ofGroup⟩ rfl
      rw [copiesOnly call made] at ofGroup
      cases ofGroup
    · intro some
      obtain ⟨call, made⟩ := List.exists_mem_of_ne_nil _ some
      exact ⟨call, List.mem_append_left copies made, toGroupOnly call made⟩
  case copied =>
    rw [and_iff_right permitted, ← copyNeeded]
    constructor
    · rintro ⟨call, made, isCopy⟩ rfl
      rw [List.append_nil] at made
      rw [toGroupOnly call made] at isCopy
      cases isCopy
    · intro some
      obtain ⟨call, made⟩ := List.exists_mem_of_ne_nil _ some
      exact ⟨call, List.mem_append_right toGroup made, copiesOnly call made⟩
  case addressed =>
    intro groupId recipients about named answer made
    rcases List.mem_append.1 made with first | second
    · obtain ⟨answer, same⟩ := group _ first
      injection same
    · obtain ⟨answer, same⟩ := copy _ second
      cases same
  case alike =>
    intro first made second madeToo
    rw [carries first made, carries second madeToo]

/-- A run that takes one of the courses contacts whom it should. -/
theorem Course.contacted {transport : Observed τ} {led : Attempt Storage (Observed τ)}
    {calls : List Call} (course : Course now progress storage transport led calls) :
    Contacted progress storage calls := by
  rcases course.dispatch with ⟨forbidden, rfl⟩ | ⟨target, answer, ready, sent, -⟩
  · constructor
    case order => exact ⟨[], [], rfl, Nat.zero_le 1, Nat.zero_le 1, nofun, nofun⟩
    case called => exact iff_of_false nofun fun needed => forbidden needed.1
    case addressed => exact nofun
    case copied => exact iff_of_false nofun fun needed => forbidden needed.1
    case alike => exact nofun
  · obtain ⟨toGroup, copies, parted⟩ := sent.parted
    exact parted.contacted (fun call made => (sent.message_eq made).1)
      (permits_iff.2 ⟨target, ready⟩)

/-- Nobody is lost where nothing is reported. -/
theorem lost_of_silent {archive : Archive} {calls : List Call}
    (silent : reported progress archive calls = []) : lost progress archive calls = [] := by
  rw [lost, silent, List.filter_eq_nil_iff]
  intro id held
  rw [show lastStatus? [] id = none from rfl]
  simp

/-- Whoever is lost could be reached. -/
theorem reaches_of_lost {archive : Archive} {calls : List Call} {id : RecipientId}
    (gone : id ∈ lost progress archive calls) : archive.reaches id = true :=
  (Bool.and_eq_true_iff.1 (List.mem_filter.1 gone).2).1

/-- A run that takes one of the courses marks those whom it lost. -/
theorem Course.storage_eq {transport : Observed τ} {led : Attempt Storage (Observed τ)}
    {calls : List Call} (course : Course now progress storage transport led calls) :
    led.storage =
      ⟨storage.value.markAll (lost progress storage.value calls), storage.poisoned⟩ := by
  cases course with
  | halted halt stops log =>
    rw [lost_of_silent rfl]
    rfl
  | failed target ready error calls sent after log =>
    -- The only call failed as a whole and reports on nobody.
    cases sent with
    | failed error calls asked =>
      rw [asked.eq_of_error, lost_of_silent rfl]
      rfl
  | answered target ready delivery calls sent after =>
    have account := accounted_of_ok sent (storage.value.leftOut progress.remaining).length after
    have marked := account.marked sent.of_ok.1
    have sound := eq_sound_of_targetOf ready
    rw [← sound] at marked
    rw [marked, lost, List.filter_filter, congrArg Guarded.poisoned sound]
    simp only [Bool.and_comm]

/-- A run marks those whom it lost. -/
theorem storage_attempt (now : Instant) (progress : Progress) (storage : Storage) (transport : τ) :
    (attempt now progress storage transport).storage =
      ⟨storage.value.markAll
        (lost progress storage.value (callsOf now progress storage transport)),
        storage.poisoned⟩ := by
  obtain ⟨led, course, same⟩ := callsOf_course now progress storage transport
  rw [same]
  exact course.storage_eq

/-- Storage where only recipients who can be reached were marked is as `Marked` says. -/
theorem marked_of_eq {ids : List RecipientId} {before after : Storage}
    (stored : after = ⟨before.value.markAll ids, before.poisoned⟩)
    (filed : ∀ id ∈ ids, before.value.recipients.contains id = true) :
    Marked ids before after := by
  rw [stored]
  constructor
  case recipient => exact before.value.get?_markAll ids
  case count =>
    intro id
    rw [Archive.markCount_markAll]
    cases known : before.value.recipients.contains id with
    | true => rfl
    | false =>
      have unnamed : id ∉ ids := fun named => by
        rw [filed id named] at known
        cases known
      rw [List.count_eq_zero.2 unnamed]
      rfl
  case frame =>
    obtain ⟨recipients, marks, same⟩ := before.value.markAll_frame ids
    rw [same]

/-- Runs leave those on file as gone who are so. -/
theorem Runs.hasGone {later : Storage} (runs : Runs storage later) {id : RecipientId}
    (gone : storage.value.hasGone id = true) : later.value.hasGone id = true := by
  induction runs with
  | here => exact gone
  | run runs now progress transport ih =>
    -- A run only ever adds marks, and a mark takes nobody back.
    rw [storage_attempt]
    exact Archive.hasGone_markAll_of_hasGone ih _

/-- A run calls the group once at most and sends one copy at most behind it, each where it should
and with the same message. It marks those as gone whom it lost and changes nothing else in storage,
and as long as only runs change storage nobody of them can be reached again. -/
theorem contacts_and_marks (now : Instant) (progress : Progress) (storage : Storage)
    (transport : τ) :
    Contacted progress storage (callsOf now progress storage transport) ∧
      Marked (lost progress storage.value (callsOf now progress storage transport)) storage
        (attempt now progress storage transport).storage ∧
      ∀ id ∈ lost progress storage.value (callsOf now progress storage transport),
        ∀ later, Runs (attempt now progress storage transport).storage later →
          later.value.reaches id = false := by
  have stored := storage_attempt now progress storage transport
  obtain ⟨led, course, -⟩ := callsOf_course now progress storage transport
  refine ⟨course.contacted, marked_of_eq stored fun id gone => ?_, fun id gone later runs => ?_⟩
  · exact Archive.contains_of_reaches (reaches_of_lost gone)
  · apply Archive.reaches_of_hasGone
    apply runs.hasGone
    rw [stored]
    exact Archive.hasGone_markAll (reaches_of_lost gone) gone

/-- The member of the club who is on the list twice is called, and the owner gets a copy. The member
is gone by the last result, so both places on the list count as marks, and no run that follows
reaches the member. -/
theorem contacts_and_marks_mixed :
    let storage : Storage := ⟨Scene.clubArchive [], false⟩
    let calls := callsOf (.ofNanos 0) mixedProgress storage mixedScript
    let after := (attempt (.ofNanos 0) mixedProgress storage mixedScript).storage
    ((∃ call ∈ calls, call.isToGroup = true) ∧ ∃ call ∈ calls, call.isToGroup = false) ∧
      after.value.markCount Scene.member.id = 2 ∧
      (attempt (.ofNanos 0) clubProgress after ({} : Script)).storage.value.reaches
        Scene.member.id = false := by
  intro storage calls after
  obtain ⟨contacted, marked, unreached⟩ :=
    contacts_and_marks (.ofNanos 0) mixedProgress storage mixedScript
  have made : callsOf (.ofNanos 0) mixedProgress storage mixedScript =
      [Scene.clubCall [Scene.member, Scene.member]
          [⟨Scene.member.id, .failed "offline"⟩, ⟨Scene.member.id, .unregistered⟩],
        .copy (.ofDelete 0 Scene.club ⟨default, 1000⟩) (.ok .delivered)] := by
    rfl
  have gone : lost mixedProgress storage.value calls = [Scene.member.id, Scene.member.id] := by
    show lost mixedProgress _ (callsOf _ _ _ _) = _
    rw [made]
    rfl
  have members : storage.value.members mixedProgress.remaining = [Scene.member, Scene.member] := by
    rfl
  have intact : ¬ Call.GroupFailed calls := by
    show ¬ Call.GroupFailed (callsOf _ _ _ _)
    rw [made]
    rintro ⟨groupId, recipients, about, message, error, failed⟩
    simp [Scene.clubCall] at failed
  have permitted : Permits mixedProgress.target storage := permits_iff.2 ⟨_, rfl⟩
  refine ⟨⟨contacted.called.2 ⟨permitted, ?_⟩, contacted.copied.2 ⟨permitted, ?_, intact⟩⟩, ?_, ?_⟩
  · rw [members]
    exact List.cons_ne_nil _ _
  · exact ⟨Scene.owner.id, by decide, Scene.owner.asSelf, rfl, rfl, rfl⟩
  · have counted := marked.count Scene.member.id
    rw [show lost _ _ _ = _ from gone] at counted
    exact counted
  · refine unreached Scene.member.id ?_ _ (.run .here (.ofNanos 0) clubProgress ({} : Script))
    rw [show lost _ _ _ = _ from gone]
    exact List.mem_cons_self

end

end Fanout

end Mailroom
