import Mailroom.Proofs.Fanout.Accounting

/-!
# The warrant of a delete

A delete rests on a warrant: all that an archive must hold for it to be sent. `isMet` says of each
condition on its own whether an archive meets it, and `firstUnmet?` is the first one, in the order
in which they are checked, that it does not meet. `targetIn_verdict` ties the check to both.

A run makes no call without a warrant, and every message that it sends names the group, the author
and the time that the warrant gives. A run without a warrant is given up with the reason of the
first unmet condition and leaves everything as it was.
-/

namespace Mailroom

/-- The group that a recipient stands for is its kind. -/
theorem Recipient.groupId?_eq_some_iff {recipient : Recipient} {id : GroupId} :
    recipient.groupId? = some id ↔ recipient.kind = .group id := by
  unfold groupId?
  cases recipient.kind <;> simp

namespace Archive

/-- Who wrote a message, if the message and the author are on file. -/
def author? (target : MessageId) (archive : Archive) : Option Recipient :=
  (archive.messages.get? target).bind fun message => archive.recipients.get? message.sender

/-- The conversation that a message is in, if all that leads to it is on file. -/
def conversationOf? (target : MessageId) (archive : Archive) : Option Recipient :=
  (archive.messages.get? target).bind fun message => archive.conversation? message.threadId

/-- The state of the group that a message is in, if it is on file. -/
def rosterOf? (target : MessageId) (archive : Archive) : Option Roster :=
  ((archive.conversationOf? target).bind Recipient.groupId?).bind archive.groups.get?

end Archive

namespace Call

/-- The message that a call sends. -/
def message : Call → Outgoing
  | .group _ _ _ message _ => message
  | .copy message _ => message

/-- The group that a call is made to, if it is not a copy. -/
def groupId? : Call → Option GroupId
  | .group groupId _ _ _ _ => some groupId
  | .copy _ _ => none

end Call

namespace Fanout

/-- The conditions in the order in which they are checked. -/
def Precondition.order : List Precondition :=
  [.registered, .messageKnown, .authorAddressable, .conversationKnown, .v2Group, .groupKnown,
    .admin]

/-- Whether an archive meets a condition of the delete of a message. -/
def Precondition.isMet (target : MessageId) (archive : Archive) : Precondition → Bool
  | .registered => archive.registered
  | .messageKnown => archive.messages.contains target
  | .authorAddressable => (archive.author? target).any Recipient.hasServiceId
  | .conversationKnown => (archive.conversationOf? target).isSome
  | .v2Group => (archive.conversationOf? target).any Recipient.isV2Group
  | .groupKnown => (archive.rosterOf? target).isSome
  | .admin => (archive.rosterOf? target).any fun roster => archive.selfId.any roster.isAdmin

/-- The first condition that an archive does not meet. -/
def firstUnmet? (target : MessageId) (archive : Archive) : Option Precondition :=
  Precondition.order.find? fun condition => !condition.isMet target archive

/-- What an archive holds about a delete that may be sent. -/
structure Warrant (target : MessageId) (archive : Archive) where
  /-- The message to delete. -/
  message : Message
  /-- Who wrote it. -/
  author : Recipient
  /-- The account of the author. -/
  serviceId : ServiceId
  /-- The thread that it is in. -/
  thread : Thread
  /-- The recipient that the thread is with. -/
  conversation : Recipient
  /-- The group that the conversation is. -/
  groupId : GroupId
  /-- The state of the group. -/
  roster : Roster
  /-- The local account. -/
  self : RecipientId
  registered : archive.registered = true
  messageFiled : archive.messages.get? target = some message
  authorFiled : archive.recipients.get? message.sender = some author
  authorAddressable : author.serviceId = some serviceId
  threadFiled : archive.threads.get? message.threadId = some thread
  conversationFiled : archive.recipients.get? thread.recipientId = some conversation
  ofGroup : conversation.kind = .group groupId
  v2Group : groupId.isV2 = true
  groupKnown : archive.groups.get? groupId = some roster
  selfKnown : archive.selfId = some self
  admin : self ∈ roster.admins

namespace Warrant

variable {target : MessageId} {archive : Archive}

/-- What a run needs to know of a warrant. -/
def toTarget (warrant : Warrant target archive) : Target :=
  ⟨warrant.groupId, ⟨warrant.serviceId, warrant.message.dateSent⟩⟩

/-- An archive that gives a warrant finds the author. -/
theorem author?_eq (warrant : Warrant target archive) :
    archive.author? target = some warrant.author := by
  rw [Archive.author?, warrant.messageFiled, Option.bind_some, warrant.authorFiled]

/-- An archive that gives a warrant finds the conversation. -/
theorem conversationOf?_eq (warrant : Warrant target archive) :
    archive.conversationOf? target = some warrant.conversation := by
  rw [Archive.conversationOf?, warrant.messageFiled, Option.bind_some, Archive.conversation?,
    warrant.threadFiled, Option.bind_some, warrant.conversationFiled]

/-- The conversation of a warrant is its group. -/
theorem groupId?_eq (warrant : Warrant target archive) :
    warrant.conversation.groupId? = some warrant.groupId :=
  Recipient.groupId?_eq_some_iff.2 warrant.ofGroup

/-- An archive that gives a warrant finds the state of the group. -/
theorem rosterOf?_eq (warrant : Warrant target archive) :
    archive.rosterOf? target = some warrant.roster := by
  rw [Archive.rosterOf?, warrant.conversationOf?_eq, Option.bind_some, warrant.groupId?_eq,
    Option.bind_some, warrant.groupKnown]

/-- An archive that gives a warrant meets every condition. -/
theorem isMet (warrant : Warrant target archive) (condition : Precondition) :
    condition.isMet target archive = true := by
  cases condition with
  | registered => exact warrant.registered
  | messageKnown =>
    rw [Precondition.isMet, Table.contains_eq_isSome, warrant.messageFiled]
    rfl
  | authorAddressable =>
    rw [Precondition.isMet, warrant.author?_eq, Option.any_some, Recipient.hasServiceId,
      warrant.authorAddressable]
    rfl
  | conversationKnown =>
    rw [Precondition.isMet, warrant.conversationOf?_eq]
    rfl
  | v2Group =>
    rw [Precondition.isMet, warrant.conversationOf?_eq, Option.any_some, Recipient.isV2Group,
      warrant.groupId?_eq]
    exact warrant.v2Group
  | groupKnown =>
    rw [Precondition.isMet, warrant.rosterOf?_eq]
    rfl
  | admin =>
    rw [Precondition.isMet, warrant.rosterOf?_eq, Option.any_some, warrant.selfKnown]
    exact List.contains_iff_mem.2 warrant.admin

end Warrant

/-- What the check of the conditions may answer over an archive. -/
inductive Verdict (target : MessageId) (archive : Archive) : Except Halt Target → Prop
  /-- There is a warrant, and the answer is read off it. -/
  | warranted (warrant : Warrant target archive) : Verdict target archive (.ok warrant.toTarget)
  /-- A condition is the first that is not met. -/
  | unmet (condition : Precondition) (first : firstUnmet? target archive = some condition) :
    Verdict target archive (.error (.unmet condition))
  /-- Nobody is known as the local account, and only its place in the group is left to check. -/
  | selfless (unknown : archive.selfId = none)
    (others : ∀ condition : Precondition, condition ≠ .admin →
      condition.isMet target archive = true) :
    Verdict target archive (.error (.storage (.notFound "self recipient" "local account")))

/-- The next thing that must be there is there, or its condition is the first that is not met. -/
theorem Verdict.need {α : Type} {target : MessageId} {archive : Archive}
    {condition : Precondition} {found : Option α} {next : α → Except Halt Target}
    (missing : found = none → firstUnmet? target archive = some condition)
    (present : ∀ value, found = some value → Verdict target archive (next value)) :
    Verdict target archive (Fanout.need condition found >>= next) := by
  cases found with
  | none => exact .unmet condition (missing rfl)
  | some value => exact present value rfl

/-- The check of the conditions answers with a warrant, with the first condition that is not met, or
that nobody is known as the local account. -/
theorem targetIn_verdict (target : MessageId) (archive : Archive) :
    Verdict target archive (targetIn target archive) := by
  unfold targetIn
  refine .need (fun missing => ?_) fun _ present => ?_
  · have unmet : archive.registered = false := by simpa using missing
    simp [firstUnmet?, Precondition.order, Precondition.isMet, unmet]
  have registered : archive.registered = true := by simpa using present
  refine .need (fun missing => ?_) fun message messageFiled => ?_
  · simp [firstUnmet?, Precondition.order, Precondition.isMet, registered,
      Table.contains_eq_isSome, missing]
  have messageKnown : archive.messages.contains target = true := by
    rw [Table.contains_eq_isSome, messageFiled, Option.isSome_some]
  have writer : archive.author? target = archive.recipients.get? message.sender := by
    rw [Archive.author?, messageFiled, Option.bind_some]
  refine .need (fun missing => ?_) fun author authorFiled => ?_
  · simp [firstUnmet?, Precondition.order, Precondition.isMet, registered, messageKnown, writer,
      missing]
  rw [authorFiled] at writer
  refine .need (fun missing => ?_) fun serviceId addressable => ?_
  · simp [firstUnmet?, Precondition.order, Precondition.isMet, registered, messageKnown, writer,
      Recipient.hasServiceId, missing]
  have authorAddressable : author.hasServiceId = true := by
    rw [Recipient.hasServiceId, addressable, Option.isSome_some]
  have place : archive.conversationOf? target = archive.conversation? message.threadId := by
    rw [Archive.conversationOf?, messageFiled, Option.bind_some]
  refine .need (fun missing => ?_) fun conversation found => ?_
  · simp [firstUnmet?, Precondition.order, Precondition.isMet, registered, messageKnown, writer,
      authorAddressable, place, missing]
  obtain ⟨thread, threadFiled, conversationFiled⟩ := Option.bind_eq_some_iff.1 found
  rw [found] at place
  refine .need (fun missing => ?_) fun groupId kept => ?_
  · have unmet : conversation.isV2Group = false := by
      rw [Recipient.isV2Group, ← Option.isSome_filter, missing, Option.isSome_none]
    simp [firstUnmet?, Precondition.order, Precondition.isMet, registered, messageKnown, writer,
      authorAddressable, place, unmet]
  obtain ⟨grouped, secondVersion⟩ := Option.filter_eq_some_iff.1 kept
  have v2Group : conversation.isV2Group = true := by
    rw [Recipient.isV2Group, grouped]
    exact secondVersion
  have state : archive.rosterOf? target = archive.groups.get? groupId := by
    rw [Archive.rosterOf?, place, Option.bind_some, grouped, Option.bind_some]
  refine .need (fun missing => ?_) fun roster groupKnown => ?_
  · simp [firstUnmet?, Precondition.order, Precondition.isMet, registered, messageKnown, writer,
      authorAddressable, place, v2Group, state, missing]
  rw [groupKnown] at state
  cases selfKnown : archive.selfId with
  | none =>
    have asked : archive.selfId? = .error (.notFound "self recipient" "local account") := by
      rw [Archive.selfId?, selfKnown]
    rw [asked]
    refine .selfless selfKnown fun condition other => ?_
    cases condition with
    | admin => exact absurd rfl other
    | _ => simp [Precondition.isMet, registered, messageKnown, writer, authorAddressable, place,
        v2Group, state]
  | some self =>
    have asked : archive.selfId? = .ok self := by
      rw [Archive.selfId?, selfKnown]
    rw [asked]
    refine .need (fun missing => ?_) fun _ present => ?_
    · have unmet : roster.isAdmin self = false := by simpa using missing
      simp [firstUnmet?, Precondition.order, Precondition.isMet, registered, messageKnown, writer,
        authorAddressable, place, v2Group, state, selfKnown, unmet]
    · have admin : roster.isAdmin self = true := by simpa using present
      exact .warranted
        { message, author, serviceId, thread, conversation, groupId, roster, self
          registered, messageFiled, authorFiled, threadFiled, conversationFiled, groupKnown,
          selfKnown
          authorAddressable := addressable
          ofGroup := Recipient.groupId?_eq_some_iff.1 grouped
          v2Group := secondVersion
          admin := List.contains_iff_mem.1 admin }

/-- Where there is a warrant and storage can be read, the check of the conditions answers with
it. -/
theorem Warrant.targetOf_eq {target : MessageId} {storage : Storage}
    (warrant : Warrant target storage.value) (sound : storage.poisoned = false) :
    targetOf target storage = .ok warrant.toTarget := by
  have isAdmin : warrant.roster.isAdmin warrant.self = true :=
    List.contains_iff_mem.2 warrant.admin
  have conversation : storage.value.conversation? warrant.message.threadId =
      some warrant.conversation := by
    rw [Archive.conversation?, warrant.threadFiled, Option.bind_some, warrant.conversationFiled]
  have self : storage.value.selfId? = .ok warrant.self := by
    rw [Archive.selfId?, warrant.selfKnown]
  have secondVersion :
      warrant.conversation.groupId?.filter GroupId.isV2 = some warrant.groupId := by
    rw [warrant.groupId?_eq, Option.filter_some, warrant.v2Group, if_pos rfl]
  unfold targetOf targetIn
  rw [sound, if_neg Bool.false_ne_true, warrant.registered, warrant.messageFiled, self]
  show (need _ (storage.value.recipients.get? warrant.message.sender) >>= _) = _
  rw [warrant.authorFiled]
  show (need _ warrant.author.serviceId >>= _) = _
  rw [warrant.authorAddressable, conversation]
  show (need _ (warrant.conversation.groupId?.filter GroupId.isV2) >>= _) = _
  rw [secondVersion]
  show (need _ (storage.value.groups.get? warrant.groupId) >>= _) = _
  rw [warrant.groupKnown]
  show (need _ (if warrant.roster.isAdmin warrant.self then some () else none) >>= _) = _
  rw [isAdmin]
  rfl

/-- Where the check of the conditions finds a target, storage can be read and gives a warrant. -/
theorem exists_warrant {target : MessageId} {storage : Storage} {found : Target}
    (ready : targetOf target storage = .ok found) :
    storage.poisoned = false ∧
      ∃ warrant : Warrant target storage.value, warrant.toTarget = found := by
  have sound := eq_sound_of_targetOf ready
  rw [sound] at ready
  refine ⟨congrArg Guarded.poisoned sound, ?_⟩
  have verdict := targetIn_verdict target storage.value
  rw [show targetIn target storage.value = .ok found from ready] at verdict
  cases verdict with
  | warranted warrant => exact ⟨warrant, rfl⟩

/-- Whether storage lets the delete of a message be sent: it can be read and gives a warrant. -/
def Permits (target : MessageId) (storage : Storage) : Prop :=
  storage.poisoned = false ∧ Nonempty (Warrant target storage.value)

/-- A delete is permitted exactly where the check of the conditions finds a target. -/
theorem permits_iff {target : MessageId} {storage : Storage} :
    Permits target storage ↔ ∃ found, targetOf target storage = .ok found := by
  constructor
  · rintro ⟨sound, ⟨warrant⟩⟩
    exact ⟨_, warrant.targetOf_eq sound⟩
  · rintro ⟨found, ready⟩
    obtain ⟨sound, warrant, -⟩ := exists_warrant ready
    exact ⟨sound, ⟨warrant⟩⟩

/-- Whether a call sends what a warrant is for: to its group, and with its author and its time. -/
structure Warrant.Covers {target : MessageId} {archive : Archive} (warrant : Warrant target archive)
    (call : Call) : Prop where
  group : call.message.groupId = some warrant.groupId
  delete : call.message.adminDelete = some ⟨warrant.serviceId, warrant.message.dateSent⟩
  addressed : ∀ id, call.groupId? = some id → id = warrant.groupId

section

variable {τ : Type} [GroupSender τ]

/-- A run is given up before any call with the condition that the check finds unmet, and leaves
everything as it was. -/
theorem attempt_of_unmet (now : Instant) {progress : Progress} {storage : Storage} (transport : τ)
    {condition : Precondition}
    (stops : targetOf progress.target storage = .error (.unmet condition)) :
    attempt now progress storage transport =
      ⟨.permanentFailure condition.message, progress, storage, transport,
        [warning progress.target "cannot send admin delete" "reason" condition.message]⟩ := by
  simp only [attempt, checkTarget_eq, stops]

/-- A run takes one of the courses with the calls that it makes. -/
theorem callsOf_course (now : Instant) (progress : Progress) (storage : Storage) (transport : τ) :
    ∃ led : Attempt Storage (Observed τ),
      Course now progress storage ⟨transport, []⟩ led (callsOf now progress storage transport) ∧
      attempt now progress storage transport = led.unobserved := by
  obtain ⟨calls, course, behind⟩ :=
    attempt_course now progress storage (⟨transport, []⟩ : Observed τ)
  have made : callsOf now progress storage transport = calls := behind
  rw [made]
  exact ⟨_, course, attempt_unobserved now progress storage ⟨transport, []⟩⟩

/-- A delivery sends one message, and to no other group than the one of its target. -/
theorem Dispatch.message_eq {now : Instant} {target : Target} {about : MessageId}
    {destinations : List Recipient} {answer : Except TransportError Delivery} {calls : List Call}
    (sent : Dispatch τ now target about destinations answer calls) {call : Call}
    (made : call ∈ calls) :
    call.message = target.message now ∧ ∀ id, call.groupId? = some id → id = target.groupId := by
  have toGroup : ∀ {others results},
      call = .group target.groupId others about (target.message now) results →
        call.message = target.message now ∧
          ∀ id, call.groupId? = some id → id = target.groupId := by
    rintro others results rfl
    exact ⟨rfl, fun id named => (Option.some.inj named).symm⟩
  cases sent with
  | failed error calls asked => exact toGroup (asked.call_eq made).1
  | answered results delivery calls copies asked copied =>
    rcases List.mem_append.1 made with toOthers | toOwn
    · exact toGroup (asked.call_eq toOthers).1
    · obtain ⟨answer, rfl⟩ := copied.call_eq toOwn
      exact ⟨rfl, fun id named => nomatch named⟩

/-- Where its delete is permitted, a run makes the calls of a delivery to those whom it can reach
and is accounted for by them. Where it is not, the run makes no call. -/
theorem Course.dispatch {now : Instant} {progress : Progress} {storage : Storage}
    {transport : Observed τ} {led : Attempt Storage (Observed τ)} {calls : List Call}
    (course : Course now progress storage transport led calls) :
    (¬ Permits progress.target storage ∧ calls = []) ∨
      ∃ target answer, targetOf progress.target storage = .ok target ∧
        Dispatch τ now target progress.target (storage.value.reachable progress.remaining) answer
          calls ∧
        Accounted progress storage.value calls led := by
  cases course with
  | halted halt stops log =>
    refine .inl ⟨fun permitted => ?_, rfl⟩
    obtain ⟨target, ready⟩ := permits_iff.1 permitted
    rw [stops] at ready
    cases ready
  | failed target ready error calls sent after log =>
    have account := accounted_of_error sent after log
    rw [← eq_sound_of_targetOf ready] at account
    exact .inr ⟨target, _, ready, sent, account⟩
  | answered target ready delivery calls sent after =>
    have account := accounted_of_ok sent (storage.value.leftOut progress.remaining).length after
    rw [← eq_sound_of_targetOf ready] at account
    exact .inr ⟨target, _, ready, sent, account⟩

/-- Every call of a run rests on a warrant of its storage, which the message that it sends spells
out. Where storage can be read and knows the local account, a run without a warrant makes no call,
leaves everything as it was and is given up with the reason of the first unmet condition. -/
theorem sent_only_with_warrant (now : Instant) (progress : Progress) (storage : Storage)
    (transport : τ) :
    (∀ call ∈ callsOf now progress storage transport,
      storage.poisoned = false ∧
        ∃ warrant : Warrant progress.target storage.value, warrant.Covers call) ∧
    (storage.poisoned = false → storage.value.selfId.isSome = true →
      ∀ condition : Precondition, condition.isMet progress.target storage.value = false →
        ∃ first, firstUnmet? progress.target storage.value = some first ∧
          callsOf now progress storage transport = [] ∧
          attempt now progress storage transport =
            ⟨.permanentFailure first.message, progress, storage, transport,
              [warning progress.target "cannot send admin delete" "reason" first.message]⟩) := by
  constructor
  · intro call made
    obtain ⟨led, course, -⟩ := callsOf_course now progress storage transport
    rcases course.dispatch with ⟨-, silent⟩ | ⟨target, answer, ready, sent, -⟩
    · rw [silent] at made
      cases made
    obtain ⟨sound, warrant, rfl⟩ := exists_warrant ready
    obtain ⟨message, group⟩ := sent.message_eq made
    refine ⟨sound, warrant, ?_, ?_, group⟩
    · rw [message]
      rfl
    · rw [message]
      rfl
  · intro sound known condition unmet
    have verdict := targetIn_verdict progress.target storage.value
    have checked : targetOf progress.target storage = targetIn progress.target storage.value := by
      rw [targetOf, sound, if_neg Bool.false_ne_true]
    rw [← checked] at verdict
    generalize answered : targetOf progress.target storage = answer at verdict
    cases verdict with
    | warranted warrant =>
      rw [warrant.isMet condition] at unmet
      cases unmet
    | unmet first found =>
      refine ⟨first, found, ?_, attempt_of_unmet now transport answered⟩
      rw [callsOf, attempt_of_unmet now _ answered]
    | selfless unknown others =>
      rw [unknown] at known
      cases known

/-- The delete of the message of the club, with the member on the list. -/
def clubProgress : Progress := ⟨⟨5⟩, [Scene.member.id], 1⟩

/-- The club after its state was forgotten and the local account was signed off. -/
def closedClub : Storage :=
  ⟨((Scene.clubArchive []).removeGroup Scene.club).setRegistered false, false⟩

/-- The member of the club is sent to under a warrant. Where the local account is signed off and the
state of the club is gone, the run is given up for the first of the two. -/
theorem sent_only_with_warrant_club :
    (∃ warrant : Warrant ⟨5⟩ (Scene.clubArchive []),
      warrant.Covers (Scene.clubCall [Scene.member] [⟨Scene.member.id, .delivered⟩])) ∧
    (∃ first, firstUnmet? ⟨5⟩ closedClub.value = some first ∧ first = .registered ∧
      (attempt (.ofNanos 0) clubProgress closedClub ({} : Script)).outcome =
        .permanentFailure "not registered") := by
  have made : callsOf (.ofNanos 0) clubProgress ⟨Scene.clubArchive [], false⟩ ({} : Script) =
      [Scene.clubCall [Scene.member] [⟨Scene.member.id, .delivered⟩]] := by
    rfl
  have unmet : Precondition.groupKnown.isMet ⟨5⟩ closedClub.value = false := by
    rfl
  have openLaw := (sent_only_with_warrant (.ofNanos 0) clubProgress
    ⟨Scene.clubArchive [], false⟩ ({} : Script)).1
  have closedLaw := (sent_only_with_warrant (.ofNanos 0) clubProgress closedClub
    ({} : Script)).2 rfl rfl .groupKnown unmet
  rw [made] at openLaw
  refine ⟨(openLaw _ (List.mem_singleton_self _)).2, ?_⟩
  obtain ⟨first, found, -, led⟩ := closedLaw
  have signedOff : first = .registered := by
    have evaluated : firstUnmet? ⟨5⟩ closedClub.value = some .registered := by
      rfl
    rw [show clubProgress.target = ⟨5⟩ from rfl, evaluated] at found
    exact (Option.some.inj found).symm
  refine ⟨first, found, signedOff, ?_⟩
  rw [led, signedOff]
  rfl

end

end Fanout

end Mailroom
