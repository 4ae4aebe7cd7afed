import Mathlib
import Mailroom.Proofs.Fanout.Repeated
import Mailroom.Proofs.Job.Turn

/-!
# What is stored of a fan-out

A fan-out is handed to a scheduler, which brings it back from its record for every run. Between two
turns anything may happen: another scheduler takes over the store, storage and transport change,
other jobs come and go. `Office.Leads` is what any such sequence leads to.

At every point of it the record holds progress. The message and the count at the start never
change, the list only narrows, and a run addresses only recipients on the list that was stored when
the job was claimed: `stored_narrows`.
-/

namespace Mailroom.Fanout

section

variable {σ Keeper : Type} [MessageKeeper σ]

/-- Storage finds a message, and the conversation that it is in. -/
def Finds (storage : σ) (target : MessageId) (conversation : Recipient) : Prop :=
  ∃ message between, MessageKeeper.message target storage = (.ok message, between) ∧
    (MessageKeeper.conversation message.threadId between).1 = .ok (some conversation)

/-- A fan-out is created exactly if the conversation of its message is found, and for that
conversation. -/
theorem create_eq_some_iff {target : MessageId} {storage : σ} {fanout : Fanout} :
    (create target storage).1 = .ok (some fanout) ↔
      ∃ conversation, Finds storage target conversation ∧ fanout = start target conversation := by
  constructor
  · intro created
    cases reading : MessageKeeper.message target storage with
    | mk answer between =>
      cases answer with
      | error error =>
        rw [create, reading] at created
        cases created
      | ok message =>
        have answered : ((MessageKeeper.conversation message.threadId between).1.map
            fun conversation => conversation.map (start target)) = .ok (some fanout) := by
          rw [← created, create, reading]
        cases finding : (MessageKeeper.conversation message.threadId between).1 with
        | error error =>
          rw [finding] at answered
          cases answered
        | ok found =>
          rw [finding] at answered
          cases found with
          | none => cases answered
          | some conversation =>
            cases answered
            exact ⟨conversation, ⟨message, between, reading, finding⟩, rfl⟩
  · rintro ⟨conversation, ⟨message, between, reading, finding⟩, rfl⟩
    rw [create, reading]
    show ((MessageKeeper.conversation message.threadId between).1.map
      fun conversation => conversation.map (start target)) = _
    rw [finding]
    rfl

/-- A fan-out for a message goes to all participants of a conversation. -/
theorem create_some {target : MessageId} {storage : σ} {fanout : Fanout}
    (created : (create target storage).1 = .ok (some fanout)) :
    ∃ conversation, fanout = start target conversation := by
  obtain ⟨conversation, -, same⟩ := create_eq_some_iff.1 created
  exact ⟨conversation, same⟩

/-- A delete that is scheduled hands a fan-out to all participants of a conversation to the
scheduler. -/
theorem schedule_added
    {add : Fanout → Keeper → Except Job.JobError Job.JobId × Keeper} {target : MessageId}
    {deleter : RecipientId} {storage : σ} {keeper : Keeper} {id : Job.JobId}
    (scheduled : (schedule add target deleter storage keeper).answer = .ok (some id)) :
    ∃ conversation, add (start target conversation) keeper =
      (.ok id, (schedule add target deleter storage keeper).keeper) := by
  unfold schedule at scheduled ⊢
  generalize MessageKeeper.markDeleted target deleter storage = marking at scheduled ⊢
  obtain ⟨marked, noted⟩ := marking
  cases marked with
  | error error => cases scheduled
  | ok done =>
    dsimp only at scheduled ⊢
    cases creating : create target noted with
    | mk created left =>
      simp only [creating] at scheduled ⊢
      cases created with
      | error error => cases scheduled
      | ok fanout =>
        cases fanout with
        | none => cases scheduled
        | some fanout =>
          obtain ⟨conversation, rfl⟩ := create_some (congrArg Prod.fst creating)
          refine ⟨conversation, ?_⟩
          dsimp only at scheduled ⊢
          generalize add (start target conversation) keeper = adding at scheduled ⊢
          obtain ⟨added, after⟩ := adding
          cases added with
          | error error => cases scheduled
          | ok id =>
            cases scheduled
            rfl

end

/-- A store of jobs and what its fan-outs act on, with every call to the transport kept. -/
abbrev Office (τ : Type) : Type := Job.Store × Surroundings Storage (Observed τ)

section

variable {τ : Type} [GroupSender τ]

/-- Fan-outs leave the store alone that they are kept in. -/
theorem craft_leavesStore (check : String → Option Bool) :
    Job.Craft.LeavesStore (craft check : Job.Craft Fanout (Office τ)) where
  run _ _ := rfl
  giveUp _ _ := rfl

/-- A fan-out is brought back with the progress that its record holds. -/
theorem progress_of_rebuild {check : String → Option Bool} {record : Job.Record} {fanout : Fanout}
    (rebuilt : (craft check : Job.Craft Fanout (Office τ)).rebuild record = .ok fanout) :
    Progress.decode? record.payload = some fanout.progress := by
  refine Progress.decode_eq_ok_iff.1 ?_
  unfold Job.Craft.rebuild craft at rebuilt
  dsimp only at rebuilt
  by_cases mine : record.factoryKey = factoryKey
  · simp only [if_pos mine, restore] at rebuilt
    cases held : Progress.decode record.payload with
    | error reason =>
      rw [held] at rebuilt
      cases rebuilt
    | ok progress =>
      rw [held] at rebuilt
      cases rebuilt
      rfl
  · simp only [if_neg mine] at rebuilt
    cases rebuilt

/-- What a handled record of a fan-out holds narrows what the record held before. -/
theorem narrows_of_payload {check : String → Option Bool} {clock : Job.Readings}
    {record : Job.Record} {office : Office τ} {bytes : List UInt8} {progress : Progress}
    (held : Progress.decode? record.payload = some progress)
    (payload : Job.Handling.Payload (craft check) clock record office bytes) :
    ∃ later, Progress.decode? bytes = some later ∧ later.Narrows progress := by
  cases payload with
  | kept => exact ⟨progress, held, .refl progress⟩
  | saved fanout ready asked saved =>
    have begun := progress_of_rebuild ready.rebuilt
    rw [held] at begun
    cases begun
    cases saved
    obtain ⟨calls, course, -⟩ := attempt_course office.2.now fanout.progress office.2.storage
      office.2.transport
    exact ⟨_, Progress.decode?_encode _, course.narrows⟩

/-- What the calls of one run of a fan-out are: they come behind those made before, and address
only recipients on a list, in its order. -/
def AddressedOn (remaining : List RecipientId) (before after : Office τ) : Prop :=
  ∃ calls, after.2.transport.calls = before.2.transport.calls ++ calls ∧
    ∀ call ∈ calls, call.addressees.Sublist remaining

/-- Handling the record of a fan-out addresses only recipients on the list that the record holds. -/
theorem addressedOn_of_handling {check : String → Option Bool} {settings : Job.Settings}
    {clock : Job.Readings} {record : Job.Record} {office : Office τ}
    {execution : Job.Execution (Office τ)} {progress : Progress}
    (held : Progress.decode? record.payload = some progress)
    (handling : Job.Handling (craft check) settings clock record office execution) :
    AddressedOn progress.remaining office execution.state := by
  refine handling.preserves (fun fanout ready => ?_) (fun fanout after addressed => addressed) ?_
  · have begun := progress_of_rebuild ready.rebuilt
    rw [held] at begun
    cases begun
    obtain ⟨calls, course, behind⟩ := attempt_course office.2.now fanout.progress office.2.storage
      office.2.transport
    exact ⟨calls, behind, fun call made => course.addressees_sublist made⟩
  · exact ⟨[], (List.append_nil _).symm, fun call made => by cases made⟩

namespace Office

/-- The progress that the record of a job holds, if there is a record and it holds any. -/
def stored? (id : Job.JobId) (office : Office τ) : Option Progress :=
  (office.1.value.get? id).bind fun record => Progress.decode? record.payload

/-- One turn of a scheduler that knows fan-outs. -/
def turn (check : String → Option Bool) (settings : Job.Settings) (clock : Job.Readings)
    (office : Office τ) : Office τ :=
  (Job.runNext (craft check) settings clock office).state

/-- What any number of turns leads to, by any schedulers that know fan-outs, with anything
happening to storage, transport and other jobs between them. -/
inductive Leads (id : Job.JobId) (office : Office τ) : Office τ → Prop where
  | here : Leads id office office
  /-- A scheduler takes a turn, the same as before or another one. -/
  | turn {later : Office τ} (leads : Leads id office later) (check : String → Option Bool)
    (settings : Job.Settings) (clock : Job.Readings) :
    Leads id office (later.turn check settings clock)
  /-- Storage and transport change in any way, and time passes. -/
  | around {later : Office τ} (leads : Leads id office later)
    (around : Surroundings Storage (Observed τ)) : Leads id office (later.1, around)
  /-- The store is used for other jobs. -/
  | others {later : Office τ} (leads : Leads id office later) (store : Job.Store)
    (kept : store.value.get? id = later.1.value.get? id) : Leads id office (store, later.2)

/-- A turn leaves the record of a job with progress that narrows what it held. -/
theorem stored?_turn {id : Job.JobId} {office : Office τ} {progress : Progress}
    (held : office.stored? id = some progress) (check : String → Option Bool)
    (settings : Job.Settings) (clock : Job.Readings) :
    ∃ later, (office.turn check settings clock).stored? id = some later ∧
      later.Narrows progress := by
  obtain ⟨store, around⟩ := office
  obtain ⟨record, found, decoded⟩ := Option.bind_eq_some_iff.1 held
  obtain ⟨later, foundLater, -, same | ⟨claim, -, same, payload⟩⟩ :=
    Job.runNext_kept (craft_leavesStore check) settings clock store around found
  · refine ⟨progress, ?_, .refl progress⟩
    rw [stored?, turn, foundLater, Option.bind_some, same, decoded]
  · obtain ⟨after, decodedAfter, narrows⟩ :=
      narrows_of_payload (same ▸ decoded : Progress.decode? claim.payload = some progress) payload
    refine ⟨after, ?_, narrows⟩
    rw [stored?, turn, foundLater, Option.bind_some, decodedAfter]

/-- A turn that claims a job addresses only recipients on the list that the record of the job
holds. -/
theorem addressedOn_turn {id : Job.JobId} {office : Office τ} {progress : Progress}
    (held : office.stored? id = some progress) {clock : Job.Readings} {claim : Job.Record}
    (claimed : (office.1.claimNext clock.looked clock.claimed).1 = .ok (some claim))
    (mine : claim.id = id) (check : String → Option Bool) (settings : Job.Settings) :
    AddressedOn progress.remaining office (office.turn check settings clock) := by
  obtain ⟨store, around⟩ := office
  obtain ⟨record, found, decoded⟩ := Option.bind_eq_some_iff.1 held
  have turning := Job.runNext_turning (craft_leavesStore check) settings clock store around
  have holds : ∀ {next taken}, Job.Claimed clock store next taken →
      Progress.decode? taken.payload = some progress := by
    intro next taken taking
    have same : next = record := by
      rw [← mine, ← taking.eq_of_claimNext claimed, taking.sameJob.id] at found
      exact Table.eq_of_key_eq taking.kept (Table.mem_of_get? found) (Table.key_of_get? found).symm
    rw [taking.payload, same, decoded]
  unfold turn
  generalize Job.runNext (craft check) settings clock (store, around) = led at turning ⊢
  cases turning with
  | refused | idle | full => exact ⟨[], (List.append_nil _).symm, fun call made => by cases made⟩
  | crashed next taken taking cause after handling =>
    exact addressedOn_of_handling (holds taking) handling
  | settled next taken taking ended result after handling =>
    exact addressedOn_of_handling (holds taking) handling

/-- What the record of a job holds only narrows. -/
theorem Leads.stored? {id : Job.JobId} {office later : Office τ} (leads : Leads id office later)
    {progress : Progress} (held : office.stored? id = some progress) :
    ∃ after, later.stored? id = some after ∧ after.Narrows progress := by
  induction leads with
  | here => exact ⟨progress, held, .refl progress⟩
  | turn leads check settings clock ih =>
    obtain ⟨between, heldBetween, narrows⟩ := ih
    obtain ⟨after, heldAfter, narrowsMore⟩ := stored?_turn heldBetween check settings clock
    exact ⟨after, heldAfter, narrowsMore.trans narrows⟩
  | around leads around ih => exact ih
  | others leads store kept ih =>
    obtain ⟨after, heldAfter, narrows⟩ := ih
    refine ⟨after, ?_, narrows⟩
    rw [Office.stored?, kept]
    exact heldAfter

/-- A delete that is scheduled is stored with its message and all participants of a
conversation. -/
theorem stored?_schedule {check : String → Option Bool} {stamp : Job.Stamp} {target : MessageId}
    {deleter : RecipientId} {storage : Storage} {office : Office τ} {id : Job.JobId}
    {marked : Storage} {opened : Office τ} {log : Log}
    (scheduled : schedule (Job.add (craft check) stamp) target deleter storage office =
      ⟨.ok (some id), marked, opened, log⟩) :
    ∃ conversation, opened.stored? id = some (start target conversation).progress := by
  obtain ⟨conversation, added⟩ := schedule_added (congrArg Scheduling.answer scheduled)
  rw [scheduled] at added
  obtain ⟨payload, saved, -, -, filed⟩ := Job.add_ok (congrArg Prod.fst added)
  rw [added] at filed
  cases saved
  refine ⟨conversation, ?_⟩
  change opened = _ at filed
  rw [filed, stored?, Table.get?_insert, if_pos (show (Job.Record.new id _ _ _ _).id = id from rfl),
    Option.bind_some]
  exact Progress.decode?_encode _

/-- Take a delete that was scheduled, and any turns of schedulers with anything happening to
storage, transport and other jobs between them. At every point the record of the job holds
progress, which narrows what it held at any earlier point. A turn that claims the job addresses
only recipients on the list that is stored then, in its order, and so nobody who was off it at an
earlier point. -/
theorem stored_narrows {check : String → Option Bool} {stamp : Job.Stamp} {target : MessageId}
    {deleter : RecipientId} {storage marked : Storage} {office opened : Office τ} {log : Log}
    {id : Job.JobId}
    (scheduled : schedule (Job.add (craft check) stamp) target deleter storage office =
      ⟨.ok (some id), marked, opened, log⟩)
    {earlier later : Office τ} (before : Leads id opened earlier) (since : Leads id earlier later) :
    ∃ old new, earlier.stored? id = some old ∧ later.stored? id = some new ∧
      old.target = target ∧ new.Narrows old ∧
      ∀ check settings clock claim,
        (later.1.claimNext clock.looked clock.claimed).1 = .ok (some claim) → claim.id = id →
          ∃ calls, (later.turn check settings clock).2.transport.calls =
              later.2.transport.calls ++ calls ∧
            ∀ call ∈ calls, call.addressees.Sublist new.remaining ∧
              ∀ recipient, recipient ∉ old.remaining → recipient ∉ call.addressees := by
  obtain ⟨conversation, filed⟩ := stored?_schedule scheduled
  obtain ⟨old, heldOld, narrowsFirst⟩ := before.stored? filed
  obtain ⟨new, heldNew, narrows⟩ := since.stored? heldOld
  refine ⟨old, new, heldOld, heldNew, narrowsFirst.target, narrows, ?_⟩
  intro check settings clock claim claimed mine
  obtain ⟨calls, behind, addressed⟩ := addressedOn_turn heldNew claimed mine check settings
  refine ⟨calls, behind, fun call made => ⟨addressed call made, fun recipient off among => ?_⟩⟩
  exact off (((addressed call made).trans narrows.remaining).subset among)

end Office

end

namespace Office

/-- The delete of the message of the club is handed to a scheduler whose store is empty. -/
def clubScheduling : Scheduling Storage (Office Script) :=
  schedule (Job.add (craft fun _ => some true) ⟨default, default⟩) ⟨5⟩ Scene.owner.id
    ⟨Scene.clubArchive [Scene.owner.id, Scene.member.id], false⟩
    (Job.Store.empty, (Scene.clubScene [] [.failed "offline"]).around)

/-- The delete in the club is stored with both members, and its first turn takes nobody else on the
list and sends to nobody else. -/
theorem stored_narrows_club :
    let settings : Job.Settings := ⟨.ofSeconds 1, "first", .standard⟩
    let opened := clubScheduling.keeper
    let turned := opened.turn (fun _ => some true) settings (.still default)
    opened.stored? default = some (start ⟨5⟩ (Scene.conversation [⟨1⟩, ⟨2⟩])).progress ∧
      (∃ new, turned.stored? default = some new ∧ new.remaining.Sublist [⟨1⟩, ⟨2⟩]) ∧
      ∃ calls, turned.2.transport.calls = calls ∧
        ∀ call ∈ calls, call.addressees.Sublist [⟨1⟩, ⟨2⟩] := by
  intro settings opened turned
  have scheduled : clubScheduling =
      ⟨.ok (some default), clubScheduling.storage, opened, clubScheduling.log⟩ := rfl
  have held : opened.stored? default =
      some (start ⟨5⟩ (Scene.conversation [⟨1⟩, ⟨2⟩])).progress :=
    Option.bind_eq_some_iff.2 ⟨_, rfl, Progress.decode?_encode _⟩
  have stays : Leads default opened opened := .here
  obtain ⟨claim, claimed, mine⟩ : ∃ claim,
      (opened.1.claimNext default default).1 = .ok (some claim) ∧ claim.id = default :=
    ⟨_, by cbv, rfl⟩
  obtain ⟨old, new, heldOld, heldNew, -, narrows, -⟩ :=
    stored_narrows scheduled stays (.turn stays (fun _ => some true) settings (.still default))
  obtain ⟨first, same, -, heldSame, -, -, addressed⟩ := stored_narrows scheduled stays stays
  obtain ⟨calls, behind, listed⟩ :=
    addressed (fun _ => some true) settings (.still default) claim claimed mine
  rw [held] at heldOld heldSame
  cases heldOld
  cases heldSame
  exact ⟨held, ⟨new, heldNew, narrows.remaining⟩, calls, behind, fun call made =>
    (listed call made).1⟩

end Office

end Mailroom.Fanout
