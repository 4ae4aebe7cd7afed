import Mathlib
import Mailroom.Fanout.Craft
import Mailroom.Proofs.Fanout.Run

/-!
# Repeated runs of a fan-out

A fan-out in memory is run again and again, while others change storage and transport between its
runs. `Leads` is what any such sequence leads to. The list of recipients only ever narrows, and no
run addresses anybody who is off it.

Whether a recipient that was reached stays off every later call is decided by the last status that
the call reported for it: `reached_for_good_iff`.
-/

namespace Mailroom.Fanout

/-- A fan-out in memory and what it acts on, with every call to the transport kept. -/
structure Scene (τ : Type) where
  fanout : Fanout
  around : Surroundings Storage (Observed τ)

namespace Scene

section

variable {τ : Type}

/-- What the fan-out remembers. -/
def progress (scene : Scene τ) : Progress := scene.fanout.progress

/-- The calls to the transport so far. -/
def calls (scene : Scene τ) : List Call := scene.around.transport.calls

/-- The calls that were made after an earlier scene. -/
def callsSince (earlier later : Scene τ) : List Call := later.calls.drop earlier.calls.length

/-- Calls that come behind those of an earlier scene are the calls since then. -/
theorem callsSince_eq {earlier later : Scene τ} {calls : List Call}
    (behind : later.calls = earlier.calls ++ calls) : earlier.callsSince later = calls := by
  rw [callsSince, behind, List.drop_left]

/-- Between runs storage and transport are used by others, and time passes. -/
def meanwhile (storage : Storage) (transport : τ) (now : Instant) (scene : Scene τ) : Scene τ where
  fanout := scene.fanout
  around := { scene.around with
    storage := storage
    transport := { scene.around.transport with transport := transport }
    now := now }

variable [GroupSender τ]

/-- The fan-out is run once. -/
def run (scene : Scene τ) : Scene τ where
  fanout := (scene.fanout.run scene.around).2.1
  around := (scene.fanout.run scene.around).2.2

/-- What any number of runs leads to, with anything happening to storage and transport between
them. -/
inductive Leads (scene : Scene τ) : Scene τ → Prop where
  | here : Leads scene scene
  | run {later : Scene τ} (leads : Leads scene later) : Leads scene later.run
  | meanwhile {later : Scene τ} (leads : Leads scene later) (storage : Storage) (transport : τ)
    (now : Instant) : Leads scene (later.meanwhile storage transport now)

/-- What the run of a scene leads to, before it is put back into a scene. -/
def led (scene : Scene τ) : Attempt Storage (Observed τ) :=
  attempt scene.around.now scene.progress scene.around.storage scene.around.transport

/-- The run of a scene takes one of the courses of a run, with the calls since the scene. -/
theorem run_course (scene : Scene τ) :
    Course scene.around.now scene.progress scene.around.storage scene.around.transport scene.led
        (scene.callsSince scene.run) ∧
      scene.run.calls = scene.calls ++ scene.callsSince scene.run := by
  obtain ⟨calls, course, behind⟩ := attempt_course scene.around.now scene.progress
    scene.around.storage scene.around.transport
  have since : scene.callsSince scene.run = calls := callsSince_eq behind
  rw [since]
  exact ⟨course, behind⟩

/-- Whatever happens, the list narrows and only recipients on it are addressed. -/
theorem Leads.narrows {scene later : Scene τ} (leads : Leads scene later) :
    later.progress.Narrows scene.progress ∧
      later.calls = scene.calls ++ scene.callsSince later ∧
      ∀ call ∈ scene.callsSince later, call.addressees.Sublist scene.progress.remaining := by
  induction leads with
  | here =>
    have since : scene.callsSince scene = [] := callsSince_eq (List.append_nil _).symm
    rw [since]
    exact ⟨.refl _, (List.append_nil _).symm, fun call made => by cases made⟩
  | run leads ih =>
    rename_i later
    obtain ⟨narrows, behind, addressed⟩ := ih
    obtain ⟨course, added⟩ := later.run_course
    rw [behind, List.append_assoc] at added
    rw [callsSince_eq added]
    refine ⟨course.narrows.trans narrows, added, fun call made => ?_⟩
    rcases List.mem_append.1 made with before | now
    · exact addressed call before
    · exact (course.addressees_sublist now).trans narrows.remaining
  | meanwhile leads storage transport now ih => exact ih

end

/-- What a run did with a recipient for whom its call reported something. It goes by the last status
for the recipient: it marks the recipient if that is unregistered, and keeps the recipient on the
list if that is a failure. -/
structure Reported (scene : Scene Script) (call : Call) (id : RecipientId) (target : Target)
    (recipient : Recipient) (marked : List RecipientId) : Prop where
  ready : targetOf scene.progress.target scene.around.storage = .ok target
  held : recipient ∈ scene.around.storage.value.reachable scene.progress.remaining
  other : recipient.isSelf = false
  named : recipient.id = id
  stored : scene.run.around.storage = ⟨scene.around.storage.value.markAll marked, false⟩
  gone : id ∈ marked → lastStatus? call.results id = some .unregistered
  stays : id ∈ scene.run.progress.remaining ↔
    ∃ reason, lastStatus? call.results id = some (.failed reason)
  answered : call.results.map SendResult.recipient = call.addressees

/-- A run that draws the results of a delivery in marks those whose last status is unregistered, and
keeps those who can be reached and are not settled. -/
theorem run_of_account {scene : Scene Script} {target : Target} {delivery : Delivery}
    {dropped : Nat} {after : Observed Script}
    (ready : targetOf scene.progress.target scene.around.storage = .ok target)
    (led : scene.led = account (scene.progress.keep scene.around.storage.value.reaches)
      (scene.progress.remaining.filter scene.around.storage.value.reaches) dropped delivery
      scene.around.storage after) :
    scene.run.around.storage =
        ⟨scene.around.storage.value.markAll
          ((scene.progress.remaining.filter scene.around.storage.value.reaches).filter fun id =>
            decide (lastStatus? delivery.results id = some .unregistered)), false⟩ ∧
      scene.run.progress =
        (scene.progress.keep scene.around.storage.value.reaches).keep fun id =>
          !(lastStatus? delivery.results id).any SendStatus.settles := by
  have sound := eq_sound_of_targetOf ready
  have onFile : ∀ id ∈ (scene.progress.keep scene.around.storage.value.reaches).remaining,
      scene.around.storage.value.recipients.contains id = true :=
    fun id kept => Archive.contains_of_reaches (List.mem_filter.1 kept).2
  have stored := storage_account (scene.progress.keep scene.around.storage.value.reaches)
    scene.around.storage.value (scene.progress.remaining.filter scene.around.storage.value.reaches)
    dropped delivery after
  have progressed := progress_account onFile dropped delivery after
  rw [← sound] at stored progressed
  change (account _ (scene.progress.remaining.filter _) _ _ _ _).progress = _ at progressed
  rw [← led] at stored progressed
  exact ⟨stored, progressed⟩

/-- A copy to the own devices says nothing about a recipient who is not the local account. -/
theorem lastStatus?_of_copied {scene : Scene Script} {message : Outgoing}
    {results : List SendResult} {delivery : Delivery} {copies : List Call} {recipient : Recipient}
    (copied : ToOwn Script message results
      ((scene.around.storage.value.reachable scene.progress.remaining).filter Recipient.isSelf)
      delivery copies)
    (held : recipient ∈ scene.around.storage.value.reachable scene.progress.remaining)
    (other : recipient.isSelf = false) :
    lastStatus? delivery.results recipient.id = lastStatus? results recipient.id := by
  have found := (Archive.mem_reachable_iff.1 held).2.1
  refine copied.lastStatus?_eq fun self own same => ?_
  obtain ⟨here, isSelf⟩ := List.mem_filter.1 own
  have alike := (Archive.mem_reachable_iff.1 here).2.1
  rw [same, found] at alike
  cases alike
  rw [other] at isSelf
  cases isSelf

/-- A recipient for whom the call of a run reported something was on the list and could be
reached, and the run went by the last status for it. -/
theorem run_of_reported {scene : Scene Script} {call : Call}
    (made : call ∈ scene.callsSince scene.run) {id : RecipientId} {status : SendStatus}
    (reported : ⟨id, status⟩ ∈ call.results) :
    ∃ target recipient marked, Reported scene call id target recipient marked := by
  obtain ⟨target, delivery, copies, dropped, after, ready, asked, copied, led⟩ :=
    scene.run_course.1.answered_of_results made reported
  obtain ⟨called, -, inside, answered⟩ := asked.call_eq (List.mem_singleton_self call)
  have recipients := Script.recipients_of_sendToGroup answered
  have listed : id ∈ call.results.map SendResult.recipient :=
    List.mem_map.2 ⟨_, reported, rfl⟩
  rw [recipients] at listed
  obtain ⟨recipient, among, rfl⟩ := List.mem_map.1 listed
  obtain ⟨held, notSelf⟩ := List.mem_filter.1 among
  have other : recipient.isSelf = false := by simpa using notSelf
  have last := lastStatus?_of_copied copied held other
  obtain ⟨onList, found, eligible⟩ := Archive.mem_reachable_iff.1 held
  have reached : scene.around.storage.value.reaches recipient.id = true := by
    rw [Archive.reaches, found]
    exact eligible
  obtain ⟨final, given⟩ := Option.isSome_iff_exists.1 (isSome_lastStatus?.2 ⟨_, reported, rfl⟩)
  obtain ⟨stored, progressed⟩ := run_of_account ready led
  refine ⟨target, recipient, _, ready, held, other, rfl, stored, fun marked => ?_, ?_, ?_⟩
  · rw [← last]
    simpa using (List.mem_filter.1 marked).2
  · rw [progressed, Progress.keep, Progress.keep, List.mem_filter, List.mem_filter, last, given]
    cases final <;> simp [onList, reached, SendStatus.settles]
  · rw [recipients, called, Call.addressees]

/-- Somebody whom a call reports and who stays on the list is addressed again by the next run, if
that follows at once. -/
theorem addressed_again {scene : Scene Script} {call : Call}
    (made : call ∈ scene.callsSince scene.run) {id : RecipientId} {status : SendStatus}
    (reported : ⟨id, status⟩ ∈ call.results) {reason : String}
    (last : lastStatus? call.results id = some (.failed reason)) :
    ∃ again ∈ scene.run.callsSince scene.run.run, id ∈ again.addressees := by
  obtain ⟨target, recipient, marked, run⟩ := run_of_reported made reported
  obtain ⟨-, found, eligible⟩ := Archive.mem_reachable_iff.1 run.held
  have unmarked : id ∉ marked := by
    intro among
    rw [run.gone among] at last
    cases last
  have readyAgain : targetOf scene.run.progress.target scene.run.around.storage = .ok target := by
    have ready := run.ready
    have same : scene.run.progress.target = scene.progress.target :=
      scene.run_course.1.narrows.target
    rw [eq_sound_of_targetOf ready] at ready
    rw [same, run.stored]
    exact (targetIn_markAll _ _ _).trans ready
  have heldAgain : recipient ∈
      scene.run.around.storage.value.reachable scene.run.progress.remaining := by
    rw [run.stored, Archive.mem_reachable_iff, Archive.get?_markAll, found, run.named]
    exact ⟨run.stays.2 ⟨reason, last⟩, by rw [Option.map_some, if_neg unmarked], eligible⟩
  obtain ⟨again, since, addressed⟩ :=
    scene.run.run_course.1.addresses readyAgain heldAgain run.other
  exact ⟨again, since, run.named ▸ addressed⟩

/-- A recipient that a call reached stays off the list of every later call, whatever happens to
storage and transport between the runs, exactly if the last status that the call reported for it
is not a failure. This is always so if the recipient was on the list only once. -/
theorem reached_for_good_iff {scene : Scene Script} {call : Call}
    (made : call ∈ scene.callsSince scene.run) {id : RecipientId}
    (reached : ⟨id, .delivered⟩ ∈ call.results) :
    ((∀ later, scene.run.Leads later → ∀ again ∈ scene.run.callsSince later,
        id ∉ again.addressees) ↔
      ∀ reason, lastStatus? call.results id ≠ some (.failed reason)) ∧
    (scene.progress.remaining.count id ≤ 1 →
      ∀ reason, lastStatus? call.results id ≠ some (.failed reason)) := by
  obtain ⟨target, recipient, marked, run⟩ := run_of_reported made reached
  refine ⟨⟨?_, ?_⟩, ?_⟩
  · intro never reason last
    obtain ⟨again, since, addressed⟩ := addressed_again made reached last
    exact never scene.run.run (.run .here) again since addressed
  · intro settled later leads again since addressed
    obtain ⟨reason, last⟩ := run.stays.1 ((leads.narrows.2.2 again since).subset addressed)
    exact settled reason last
  · intro once reason last
    have alone : (call.results.map SendResult.recipient).count id ≤ 1 := by
      rw [run.answered]
      exact Nat.le_trans ((scene.run_course.1.addressees_sublist made).count_le id) once
    rw [lastStatus?_of_alone reached alone] at last
    cases last

/-- A group of the second version. -/
def club : GroupId := .v2 (.zero 32)

/-- The local account, who is admin of the club. -/
def owner : Recipient := .individual ⟨1⟩ (some default)

/-- Another member of the club. -/
def member : Recipient := .individual ⟨2⟩ (some default)

/-- The conversation of the club, with a list of participants. -/
def conversation (participants : List RecipientId) : Recipient := .group ⟨3⟩ club participants

/-- An archive with one message of the owner in the club. -/
def clubArchive (participants : List RecipientId) : Archive :=
  ((((Archive.empty.registerSelf owner).insertRecipient member).insertRecipient
    (conversation participants)).insertGroup ⟨club, 0, [owner.id, member.id], [owner.id]⟩
    |>.insertThread ⟨⟨4⟩, ⟨3⟩, false, 0⟩).2.insertMessage ⟨⟨5⟩, ⟨4⟩, owner.id, 1000, none⟩

/-- The message of the club is to be deleted, and the other member will have given statuses. -/
def clubScene (participants : List RecipientId) (statuses : List SendStatus) : Scene Script where
  fanout := start ⟨5⟩ (conversation participants)
  around :=
    { storage := ⟨clubArchive participants, false⟩
      transport := { transport := ({} : Script).plan member.id statuses }
      now := .ofNanos 0 }

/-- The call to the club that a list of its members leads to. -/
def clubCall (members : List Recipient) (results : List SendResult) : Call :=
  .group club members ⟨5⟩ (.ofDelete 0 club ⟨default, 1000⟩) (.ok results)

/-- A member who is on the list once and is reached by the first run is never sent to again. -/
theorem reached_for_good_once :
    (clubScene [member.id] [.delivered]).callsSince (clubScene [member.id] [.delivered]).run =
        [clubCall [member] [⟨member.id, .delivered⟩]] ∧
      ∀ later, (clubScene [member.id] [.delivered]).run.Leads later →
        ∀ again ∈ (clubScene [member.id] [.delivered]).run.callsSince later,
          member.id ∉ again.addressees := by
  have since : (clubScene [member.id] [.delivered]).callsSince
      (clubScene [member.id] [.delivered]).run =
        [clubCall [member] [⟨member.id, .delivered⟩]] := rfl
  have made : clubCall [member] [⟨member.id, .delivered⟩] ∈
      (clubScene [member.id] [.delivered]).callsSince (clubScene [member.id] [.delivered]).run := by
    rw [since]
    exact List.mem_singleton_self _
  have law := reached_for_good_iff made (List.mem_singleton_self _)
  exact ⟨since, law.1.2 (law.2 (by decide))⟩

/-- A member who is on the list twice, reached the first time and not the second time in the same
call, is sent to again by the next run. -/
theorem sent_again_twice_on_list :
    let scene := clubScene [member.id, member.id] [.delivered, .failed "offline"]
    ∃ call ∈ scene.callsSince scene.run, ⟨member.id, .delivered⟩ ∈ call.results ∧
      ∃ again ∈ scene.run.callsSince scene.run.run, member.id ∈ again.addressees := by
  intro scene
  have first : scene.callsSince scene.run =
      [clubCall [member, member] [⟨member.id, .delivered⟩, ⟨member.id, .failed "offline"⟩]] := by
    cbv
  have second : scene.run.callsSince scene.run.run =
      [clubCall [member, member]
        [⟨member.id, .failed "offline"⟩, ⟨member.id, .failed "offline"⟩]] := by
    cbv
  rw [first, second]
  exact ⟨_, List.mem_singleton_self _, List.mem_cons_self, _, List.mem_singleton_self _,
    List.mem_cons_self⟩

end Scene

end Mailroom.Fanout
