import Mailroom.Proofs.Fanout.Contacts
import Mailroom.Proofs.Storage.Threads

/-!
# Runs that reach everybody they call

A copy counts for one recipient only: the first on the list who stands for the local account and
can be reached. Where every call of a run succeeds and reports everybody that it was given as
reached, the run is therefore done if no two recipients on the list stand for the local account.
If several do, the others stay on the list, although the copy went out, and the run wants another
one: `delivered_iff_single`.
-/

namespace Mailroom

namespace Call

/-- Whether a call succeeded and reports everybody that it was given as reached. -/
def Delivered : Call → Prop
  | .group _ recipients _ _ (.ok results) => ∀ recipient ∈ recipients,
      (∃ result ∈ results, result.recipient = recipient.id) ∧
        ∀ result ∈ results, result.recipient = recipient.id → result.status = .delivered
  | .copy _ (.ok .delivered) => True
  | _ => False

/-- Whether a call to a group reports on nobody but those that it was given. -/
def Confined (call : Call) : Prop := ∀ result ∈ call.results, result.recipient ∈ call.addressees

/-- A call that reached everybody did not fail as a whole. -/
theorem Delivered.error?_eq {call : Call} (delivered : call.Delivered) : call.error? = none := by
  rcases call with ⟨groupId, recipients, about, message, error | results⟩ |
    ⟨message, error | status⟩
  · exact delivered.elim
  · rfl
  · exact delivered.elim
  · rfl

end Call

namespace Archive

/-- Whether an identifier is on file as the local account. -/
def isOwn (archive : Archive) (id : RecipientId) : Bool :=
  (archive.recipients.get? id).any Recipient.isSelf

/-- Whom a copy counts for: the first on a list who is the local account and can be reached. -/
def copied? (ids : List RecipientId) (archive : Archive) : Option RecipientId :=
  ((archive.reachable ids).find? Recipient.isSelf).map Recipient.id

/-- Whether an identifier is on file as the local account, but a copy does not count for it. -/
def isPassedOver (ids : List RecipientId) (archive : Archive) (id : RecipientId) : Bool :=
  archive.isOwn id && archive.copied? ids != some id

/-- Those on a list who can be reached and are passed over. -/
def passedOver (ids : List RecipientId) (archive : Archive) : List RecipientId :=
  ids.filter fun id => archive.reaches id && archive.isPassedOver ids id

/-- Whether at most one recipient on a list is the local account and can be reached, though it may
be there several times. -/
def Single (ids : List RecipientId) (archive : Archive) : Prop :=
  ∀ first ∈ ids, ∀ second ∈ ids,
    (archive.reaches first && archive.isOwn first) = true →
      (archive.reaches second && archive.isOwn second) = true → first = second

variable {ids : List RecipientId} {archive : Archive} {id : RecipientId}

/-- A recipient who can be reached is the local account exactly if it is on file as that. -/
theorem isOwn_of_mem_reachable {recipient : Recipient} (held : recipient ∈ archive.reachable ids) :
    archive.isOwn recipient.id = recipient.isSelf := by
  rw [isOwn, (mem_reachable_iff.1 held).2.1]
  rfl

/-- Whom a copy counts for is on the list, can be reached and is the local account. -/
theorem of_copied? (counted : archive.copied? ids = some id) :
    id ∈ ids ∧ (archive.reaches id && archive.isOwn id) = true := by
  obtain ⟨self, found, rfl⟩ := Option.map_eq_some_iff.1 counted
  have held := List.mem_of_find?_eq_some found
  obtain ⟨listed, filed, eligible⟩ := mem_reachable_iff.1 held
  refine ⟨listed, ?_⟩
  rw [isOwn_of_mem_reachable held, List.find?_some found, reaches, filed, Option.any_some, eligible]
  rfl

/-- A copy counts for somebody if anybody on the list is the local account and can be reached. -/
theorem exists_copied? (listed : id ∈ ids)
    (own : (archive.reaches id && archive.isOwn id) = true) :
    ∃ counted, archive.copied? ids = some counted := by
  obtain ⟨reached, isOwn⟩ := Bool.and_eq_true_iff.1 own
  obtain ⟨recipient, held, rfl⟩ := exists_reachable listed reached
  rw [isOwn_of_mem_reachable held] at isOwn
  rw [← Option.isSome_iff_exists, copied?, Option.isSome_map, List.find?_isSome]
  exact ⟨recipient, held, isOwn⟩

/-- Nobody is passed over exactly if at most one recipient on the list is the local account. -/
theorem passedOver_eq_nil_iff : archive.passedOver ids = [] ↔ archive.Single ids := by
  rw [passedOver, List.filter_eq_nil_iff]
  constructor
  · intro nobody first listed second listedToo own ownToo
    have counts : ∀ id ∈ ids, (archive.reaches id && archive.isOwn id) = true →
        archive.copied? ids = some id := by
      intro id held isOwn
      have kept := nobody id held
      rw [isPassedOver, ← Bool.and_assoc, isOwn, Bool.true_and] at kept
      simpa using kept
    exact Option.some.inj ((counts first listed own).symm.trans (counts second listedToo ownToo))
  · intro single id listed passed
    rw [isPassedOver, ← Bool.and_assoc] at passed
    obtain ⟨own, uncounted⟩ := Bool.and_eq_true_iff.1 passed
    obtain ⟨counted, found⟩ := exists_copied? listed own
    obtain ⟨listedToo, ownToo⟩ := of_copied? found
    rw [found, single id listed counted listedToo own ownToo] at uncounted
    simp at uncounted

end Archive

namespace Fanout

variable {τ : Type} [GroupSender τ] {now : Instant} {target : Target} {about : MessageId}
  {message : Outgoing} {groupId : GroupId} {others own : List Recipient} {delivery : Delivery}
  {results : List SendResult} {calls : List Call}

/-- The members of a group that were reached have that as their last status. -/
theorem ToOthers.lastStatus?_eq
    (asked : ToOthers τ groupId about message others (.ok results) calls)
    (delivered : ∀ call ∈ calls, call.Delivered) {recipient : Recipient}
    (held : recipient ∈ others) : lastStatus? results recipient.id = some .delivered := by
  cases asked with
  | nobody => cases held
  | asked someone inside answered =>
    obtain ⟨given, same⟩ := delivered _ (List.mem_singleton_self _) recipient held
    exact lastStatus?_of_forall given same

/-- A confined call to the members of a group reports on nobody else. -/
theorem ToOthers.mem_of_confined
    (asked : ToOthers τ groupId about message others (.ok results) calls)
    (confined : ∀ call ∈ calls, call.Confined) {result : SendResult} (held : result ∈ results) :
    result.recipient ∈ others.map Recipient.id := by
  cases asked with
  | nobody => cases held
  | asked someone inside answered => exact confined _ (List.mem_singleton_self _) result held

/-- A copy that was delivered counts for the first recipient who is the local account. -/
theorem ToOwn.results_eq (copied : ToOwn τ message results own delivery calls)
    (delivered : ∀ call ∈ calls, call.Delivered) :
    delivery.results =
      results ++ ((own.head?.map Recipient.id).toList.map fun id => ⟨id, .delivered⟩) := by
  cases copied with
  | nobody => exact (List.append_nil results).symm
  | copied self rest inside answered =>
    rename_i status
    have reached := delivered _ (List.mem_singleton_self _)
    cases status with
    | delivered => rfl
    | unregistered | failed => exact reached.elim
  | failed self rest inside answered => exact (delivered _ (List.mem_singleton_self _)).elim

section

variable {ids : List RecipientId} {archive : Archive} {id : RecipientId}

/-- The results of a delivery that reached everybody are those of the group, and behind them that of
whom the copy counts for. -/
theorem Dispatch.results_eq
    (sent : Dispatch τ now target about (archive.reachable ids) (.ok delivery) calls)
    (delivered : ∀ call ∈ calls, call.Delivered) :
    ∃ results toGroup, (∀ call ∈ toGroup, call ∈ calls) ∧
      ToOthers τ target.groupId about (target.message now)
        ((archive.reachable ids).filter (not ∘ Recipient.isSelf)) (.ok results) toGroup ∧
      delivery.results =
        results ++ ((archive.copied? ids).toList.map fun id => ⟨id, .delivered⟩) := by
  cases sent with
  | answered results delivery toGroup copies asked copied =>
    refine ⟨results, toGroup, fun call made => List.mem_append_left copies made, asked, ?_⟩
    rw [copied.results_eq fun call made => delivered call (List.mem_append_right toGroup made),
      List.head?_filter]
    rfl

/-- A delivery that reached everybody says last of those who are not passed over that they were
reached, and, if it reports on nobody but those called, nothing about those who are. -/
theorem Dispatch.lastStatus?_eq
    (sent : Dispatch τ now target about (archive.reachable ids) (.ok delivery) calls)
    (delivered : ∀ call ∈ calls, call.Delivered) (listed : id ∈ ids)
    (reached : archive.reaches id = true) :
    (archive.isPassedOver ids id = false → lastStatus? delivery.results id = some .delivered) ∧
      ((∀ call ∈ calls, call.Confined) → archive.isPassedOver ids id = true →
        lastStatus? delivery.results id = none) := by
  obtain ⟨results, toGroup, among, asked, told⟩ := sent.results_eq delivered
  obtain ⟨recipient, held, rfl⟩ := Archive.exists_reachable listed reached
  -- The result of the copy stands behind those of the group and is about one recipient only.
  have others : archive.copied? ids ≠ some recipient.id →
      lastStatus? delivery.results recipient.id = lastStatus? results recipient.id := by
    intro uncounted
    rw [told]
    refine lastStatus?_append_of_ne fun result copy => ?_
    obtain ⟨counted, found, rfl⟩ := List.mem_map.1 copy
    rw [Option.mem_toList] at found
    rintro rfl
    exact uncounted found
  constructor
  · intro kept
    by_cases counted : archive.copied? ids = some recipient.id
    · rw [told, counted]
      exact lastStatus?_concat results recipient.id .delivered
    · have other : recipient.isSelf = false := by
        rw [← Archive.isOwn_of_mem_reachable held]
        simpa [Archive.isPassedOver, counted] using kept
      have member : recipient ∈ (archive.reachable ids).filter (not ∘ Recipient.isSelf) :=
        List.mem_filter.2 ⟨held, by simp [other]⟩
      rw [others counted]
      exact asked.lastStatus?_eq (fun call made => delivered call (among call made)) member
  · intro confined passed
    obtain ⟨own, uncounted⟩ := Bool.and_eq_true_iff.1 passed
    rw [others (by simpa using uncounted)]
    refine lastStatus?_eq_none fun result given same => ?_
    have called := asked.mem_of_confined (fun call made => confined call (among call made)) given
    obtain ⟨member, heldToo, named⟩ := List.mem_map.1 called
    obtain ⟨reachedToo, notSelf⟩ := List.mem_filter.1 heldToo
    have other : member.isSelf = false := by simpa using notSelf
    rw [← Archive.isOwn_of_mem_reachable reachedToo, named, same, own] at other
    cases other

/-- Calls that all reached everybody do not fail. -/
theorem intact_of_delivered (delivered : ∀ call ∈ calls, call.Delivered) :
    (∀ call ∈ calls, call.error? = none) ∧ ¬ Call.GroupFailed calls ∧ ¬ Call.Rejected calls := by
  have intact : ∀ call ∈ calls, call.error? = none :=
    fun call made => (delivered call made).error?_eq
  refine ⟨intact, ?_, ?_⟩
  · rintro ⟨groupId, recipients, about, message, error, made⟩
    cases intact _ made
  · rintro ⟨call, made, reason, rejected⟩
    rw [intact call made] at rejected
    cases rejected

end

/-- Where its delete is permitted and all its calls reach everybody, a run is done exactly if nobody
remains. Whoever remains was passed over, and if no call reports on anybody whom it was not given,
whoever was passed over remains. -/
theorem Course.remaining_of_delivered {progress : Progress} {storage : Storage}
    {transport : Observed τ} {led : Attempt Storage (Observed τ)}
    (course : Course now progress storage transport led calls)
    (permitted : Permits progress.target storage) (delivered : ∀ call ∈ calls, call.Delivered) :
    (∀ id ∈ led.progress.remaining, id ∈ storage.value.passedOver progress.remaining) ∧
      ((∀ call ∈ calls, call.Confined) →
        led.progress.remaining = storage.value.passedOver progress.remaining) ∧
      (led.outcome = .success ↔ led.progress.remaining = []) ∧
      (led.outcome = .retry ↔ led.progress.remaining ≠ []) := by
  rcases course.dispatch with ⟨forbidden, -⟩ | ⟨target, answer, ready, sent, account⟩
  · exact absurd permitted forbidden
  obtain ⟨intact, answered, accepted⟩ := intact_of_delivered delivered
  cases answer with
  | error error => exact absurd sent.of_error.1 answered
  | ok delivery =>
    have left := account.remaining answered
    rw [show reported _ _ _ = _ from sent.of_ok.2] at left
    have done : ∀ id ∈ progress.remaining, storage.value.reaches id = true →
        storage.value.isPassedOver progress.remaining id = false →
          doneWith delivery.results led.storage id = true := by
      intro id listed reached kept
      rw [doneWith, (sent.lastStatus?_eq delivered listed reached).1 kept]
    refine ⟨fun id held => ?_, fun confined => ?_, ?_, ?_⟩
    · rw [left] at held
      obtain ⟨listed, remains⟩ := List.mem_filter.1 held
      obtain ⟨reached, undone⟩ := Bool.and_eq_true_iff.1 remains
      refine List.mem_filter.2 ⟨listed, ?_⟩
      rw [reached, Bool.true_and, ← Bool.not_eq_false]
      intro kept
      rw [done id listed reached kept] at undone
      cases undone
    · rw [left]
      refine List.filter_congr fun id listed => ?_
      cases reached : storage.value.reaches id with
      | false => rfl
      | true =>
        rw [Bool.true_and, Bool.true_and]
        cases passed : storage.value.isPassedOver progress.remaining id with
        | false => rw [done id listed reached passed, Bool.not_true]
        | true =>
          rw [doneWith, (sent.lastStatus?_eq delivered listed reached).2 confined passed]
          rfl
    · rw [account.asks.done, and_iff_right intact]
    · rw [account.asks.again, and_iff_right accepted, and_iff_right intact]

/-- Where its delete is permitted and every call succeeds and reports everybody that it was given as
reached, a run is done and nobody remains if at most one recipient on the list is the local account
and can be reached. If no call reports on anybody whom it was not given, those who are passed over
remain, and the run is done in this case only; otherwise it wants another one. -/
theorem delivered_iff_single (now : Instant) (progress : Progress) (storage : Storage)
    (transport : τ) (permitted : Permits progress.target storage)
    (delivered : ∀ call ∈ callsOf now progress storage transport, call.Delivered) :
    (storage.value.Single progress.remaining →
      (attempt now progress storage transport).outcome = .success ∧
        (attempt now progress storage transport).progress.remaining = []) ∧
    ((∀ call ∈ callsOf now progress storage transport, call.Confined) →
      (attempt now progress storage transport).progress.remaining =
          storage.value.passedOver progress.remaining ∧
        ((attempt now progress storage transport).outcome = .success ↔
          storage.value.Single progress.remaining) ∧
        ((attempt now progress storage transport).outcome = .retry ↔
          ¬ storage.value.Single progress.remaining)) := by
  obtain ⟨led, course, same⟩ := callsOf_course now progress storage transport
  obtain ⟨among, exact, done, again⟩ := course.remaining_of_delivered permitted delivered
  rw [same]
  constructor
  · intro single
    have nobody : led.progress.remaining = [] := by
      rw [List.eq_nil_iff_forall_not_mem]
      intro id held
      have passed := among id held
      rw [Archive.passedOver_eq_nil_iff.2 single] at passed
      cases passed
    exact ⟨done.2 nobody, nobody⟩
  · intro confined
    rw [← Archive.passedOver_eq_nil_iff, ← exact confined]
    exact ⟨rfl, done, again⟩

/-- The club with its member and the local account on the list. -/
def wholeClub : Progress := ⟨⟨5⟩, [Scene.member.id, Scene.owner.id], 2⟩

/-- The member is reached by the call and the local account by the copy, and the run is done. -/
theorem delivered_iff_single_club :
    let storage : Storage := ⟨Scene.clubArchive [], false⟩
    (∀ call ∈ callsOf (.ofNanos 0) wholeClub storage ({} : Script), call.Delivered) ∧
      (attempt (.ofNanos 0) wholeClub storage ({} : Script)).outcome = .success ∧
      (attempt (.ofNanos 0) wholeClub storage ({} : Script)).progress.remaining = [] := by
  intro storage
  have made : callsOf (.ofNanos 0) wholeClub storage ({} : Script) =
      [Scene.clubCall [Scene.member] [⟨Scene.member.id, .delivered⟩],
        .copy (.ofDelete 0 Scene.club ⟨default, 1000⟩) (.ok .delivered)] := by
    rfl
  have delivered : ∀ call ∈ callsOf (.ofNanos 0) wholeClub storage ({} : Script),
      call.Delivered := by
    rw [made]
    simp [Scene.clubCall, Call.Delivered]
  have permitted : Permits wholeClub.target storage := permits_iff.2 ⟨_, rfl⟩
  have single : storage.value.Single wholeClub.remaining :=
    Archive.passedOver_eq_nil_iff.1 rfl
  exact ⟨delivered,
    (delivered_iff_single (.ofNanos 0) wholeClub storage ({} : Script) permitted delivered).1
      single⟩

/-- Another recipient that stands for the local account. -/
def otherOwner : Recipient := (Recipient.individual ⟨11⟩ (some default)).asSelf

/-- The club, with two recipients that stand for the local account. -/
def sharedClub : Storage := ⟨(Scene.clubArchive []).insertRecipient otherOwner, false⟩

/-- The club with its member and both recipients that stand for the local account on the list. -/
def sharedProgress : Progress := ⟨⟨5⟩, [otherOwner.id, Scene.owner.id, Scene.member.id], 3⟩

/-- Storage gets two recipients that stand for the local account by what it offers. -/
theorem reachable_sharedClub : sharedClub.Reachable :=
  .insertRecipient (.insertMessage (.insertThread (.insertGroup (.insertRecipient
    (.insertRecipient (.registerSelf .empty Scene.owner) Scene.member) (Scene.conversation []))
    ⟨Scene.club, 0, [Scene.owner.id, Scene.member.id], [Scene.owner.id]⟩)
    ⟨⟨4⟩, ⟨3⟩, false, 0⟩) ⟨⟨5⟩, ⟨4⟩, Scene.owner.id, 1000, none⟩) otherOwner

/-- Everybody is reached, by the call or by the copy, and still one of the two recipients that stand
for the local account remains and the run wants another one. -/
theorem retried_though_delivered :
    sharedClub.Reachable ∧ Permits sharedProgress.target sharedClub ∧
      (∀ call ∈ callsOf (.ofNanos 0) sharedProgress sharedClub ({} : Script), call.Delivered) ∧
      (attempt (.ofNanos 0) sharedProgress sharedClub ({} : Script)).outcome = .retry ∧
      (attempt (.ofNanos 0) sharedProgress sharedClub ({} : Script)).progress.remaining =
        [Scene.owner.id] := by
  have made : callsOf (.ofNanos 0) sharedProgress sharedClub ({} : Script) =
      [Scene.clubCall [Scene.member] [⟨Scene.member.id, .delivered⟩],
        .copy (.ofDelete 0 Scene.club ⟨default, 1000⟩) (.ok .delivered)] := by
    rfl
  refine ⟨reachable_sharedClub, permits_iff.2 ⟨_, rfl⟩, ?_, rfl, rfl⟩
  rw [made]
  simp [Scene.clubCall, Call.Delivered]

end Fanout

end Mailroom
