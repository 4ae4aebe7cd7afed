import Mathlib
import Mailroom.Proofs.Job.Release
import Mailroom.Proofs.Job.Submission

/-!
# No queue is ever stuck

A store that starts empty is tended by one worker: jobs are submitted to it, also by jobs that run,
and the worker takes its turns. `Tended` is what the store can become in this way as long as no turn
crashes. Between two turns nothing runs (`Tended.runsOnly`), because a turn that claimed a job ends
the claim. Where nothing runs and every wait is over, no queue is closed and the unfinished job that
was created first is ready, so it is the one to run next: `Jobs.candidate?_eq_head?`. Hence
`never_stuck`.
-/

namespace Mailroom.Job

/-- What an empty store becomes when jobs are submitted to it and one worker takes turns that do not
crash, for any jobs, settings and readings of the clock. -/
inductive Tended : Store → Prop where
  | empty : Tended .empty
  | add {store : Store} (tended : Tended store) {Work : Type} (craft : Craft Work Store)
    (stamp : Stamp) (work : Work) : Tended (Job.add craft stamp work store).2
  | addAll {store : Store} (tended : Tended store) {Work : Type} (craft : Craft Work Store)
    (stamps : Nat → Stamp) (works : List Work) : Tended (Job.addAll craft stamps works store).2
  | turn {store : Store} (tended : Tended store) {Work World : Type}
    {craft : Craft Work (Store × World)} (only : craft.OnlySubmits) (settings : Settings)
    (clock : Readings) (world : World)
    (returned : ∀ cause,
      (runNext craft settings clock (store, world)).answer ≠ .error (.crash cause)) :
    Tended (runNext craft settings clock (store, world)).state.1

namespace Store

/-- Whether a store is not poisoned and runs no other jobs than those allowed. -/
structure RunsOnly (allowed : JobId → Prop) (store : Store) : Prop where
  sound : store.poisoned = false
  only : ∀ record ∈ store.value.records, record.status = .running → allowed record.id

variable {allowed : JobId → Prop} {store later : Store}

/-- Jobs that are submitted do not run. -/
theorem RunsOnly.takesOn (runs : store.RunsOnly allowed) (taken : store.TakesOn later) :
    later.RunsOnly allowed := by
  cases taken with
  | refused => exact runs
  | filed sound records jobs fresh last =>
    refine ⟨rfl, fun record held running => ?_⟩
    change record ∈ jobs.records at held
    rw [last, List.mem_append] at held
    rcases held with old | new
    · exact runs.only record old running
    · have pending := (fresh record new).pending
      rw [running] at pending
      cases pending

/-- Submitting jobs keeps the records of a store. -/
theorem Keeps.takesOn {id : JobId} (keeps : store.Keeps id) (taken : store.TakesOn later) :
    later.Keeps id := by
  cases taken with
  | refused => exact keeps
  | filed sound records jobs fresh last => exact keeps.append last

/-- While a claim is handled in a store where nothing else runs, the store keeps the claim, and
still nothing else runs. -/
structure Holds (id : JobId) (store : Store) : Prop where
  keeps : store.Keeps id
  runs : store.RunsOnly (· = id)

/-- Submitting jobs does not take a claim away. -/
theorem Holds.submitted {id : JobId} (holds : store.Holds id) (submitted : store.Submitted later) :
    later.Holds id :=
  submitted.keeps (fun _ _ taken held => ⟨held.keeps.takesOn taken, held.runs.takesOn taken⟩) holds

/-- Filing a record leaves no other running than it and those that ran under other identifiers. -/
theorem RunsOnly.insert (runs : store.RunsOnly allowed) {wanted : JobId → Prop} {record : Record}
    (here : record.status = .running → wanted record.id)
    (others : ∀ id, allowed id → id ≠ record.id → wanted id) :
    RunsOnly wanted ⟨store.value.insert record, false⟩ := by
  refine ⟨rfl, fun other held running => ?_⟩
  rcases Table.mem_insert.1 held with rfl | ⟨old, different⟩
  · exact here running
  · exact others other.id (runs.only other old running) different

end Store

/-- Nothing runs in a store before or after a turn of its only worker. -/
theorem runsOnly_turn {Work World : Type} {craft : Craft Work (Store × World)}
    (only : craft.OnlySubmits) {settings : Settings} {clock : Readings} {store : Store}
    {world : World} (rests : store.RunsOnly fun _ => False)
    (returned : ∀ cause,
      (runNext craft settings clock (store, world)).answer ≠ .error (.crash cause)) :
    (runNext craft settings clock (store, world)).state.1.RunsOnly fun _ => False := by
  have led := store.claimNext_claiming clock.looked clock.claimed
  cases claiming : store.claimNext clock.looked clock.claimed with
  | mk answer held =>
    have claimed := claiming
    rw [claiming] at led
    cases led with
    | refused poisoned =>
      have sound := rests.sound
      rw [poisoned] at sound
      cases sound
    | nothing sound idle =>
      unfold runNext
      rw [claimNext_beside, claiming]
      exact rests
    | claimed sound record next room claim started =>
      have holds : Store.Holds claim.id ⟨store.value.insert claim, false⟩ :=
        ⟨Store.keeps_of_claimNext claimed,
          rests.insert (fun _ => rfl) (fun id absurdity => absurdity.elim)⟩
      have concluding : Concluding craft settings clock (Store.Holds claim.id) claim _ world
          (runNext craft settings clock (store, world)) :=
        runNext_concluding claimed (fun _ held => held.keeps) holds
          (fun work state held => held.submitted (only.run work state))
          (fun work state held => held.submitted (only.giveUp work state))
      generalize runNext craft settings clock (store, world) = turn at concluding returned ⊢
      cases concluding with
      | crashed cause after executed => exact absurd rfl (returned cause)
      | filed ended result left after executed still same ends =>
        exact still.runs.insert (fun running => absurd running ends)
          (fun id mine other => other (mine.trans same.id.symm))
    | crashed sound record next full =>
      refine absurd ?_ (returned .counterOverflow)
      unfold runNext
      rw [claimNext_beside, claiming]
      rfl

/-- Nothing runs in a tended store between the turns of its worker. -/
theorem Tended.runsOnly {store : Store} (tended : Tended store) :
    store.RunsOnly fun _ => False := by
  induction tended with
  | empty =>
    refine ⟨rfl, fun record held => ?_⟩
    cases held
  | @add before tended Work craft stamp work ih => exact ih.takesOn (add_takesOn craft stamp work _)
  | @addAll before tended Work craft stamps works ih =>
    exact ih.takesOn (addAll_takesOn craft stamps works _)
  | turn tended only settings clock world returned ih => exact runsOnly_turn only ih returned

/-- Whether no job of a store waits for an instant that is still to come. -/
def Jobs.AllDue (now : Instant) (jobs : Jobs) : Prop :=
  ∀ record ∈ jobs.records, ∀ due ∈ record.scheduled, due ≤ now

/-- Where nothing runs and every wait is over, the job to run next is the unfinished one that was
created first. -/
theorem Jobs.candidate?_eq_head? {jobs : Jobs} {now : Instant}
    (rests : ∀ record ∈ jobs.records, record.status ≠ .running) (due : jobs.AllDue now) :
    jobs.candidate? now = jobs.unfinished.head? := by
  have noneBusy : jobs.busyQueues = [] := by
    refine List.eq_nil_iff_forall_not_mem.2 fun queue busy => ?_
    obtain ⟨record, held, running, -⟩ := mem_busyQueues.1 busy
    exact rests record held running
  unfold Jobs.candidate?
  rw [← unfinished, noneBusy]
  cases waiting : jobs.unfinished with
  | nil => rfl
  | cons first others =>
    have listed : first ∈ jobs.unfinished := by
      rw [waiting]
      exact List.mem_cons_self
    obtain ⟨held, unended⟩ := mem_unfinished.1 listed
    have ready : first.isReady now = true := by
      have runnable : first.status.isRunnable = true := by
        have idle := rests first held
        cases status : first.status with
        | pending | retrying attempt => rfl
        | running => exact absurd status idle
        | completed | failed reason attempts =>
          rw [status] at unended
          cases unended
      rw [Record.isReady, runnable, Bool.true_and, Option.all_eq_true]
      intro wait scheduled
      exact decide_eq_true (due first held wait scheduled)
    have isOpen : OpenBehind now [] [] first := by
      refine ⟨ready, fun queue _ => ⟨List.not_mem_nil, fun passed inFront => ?_⟩⟩
      cases inFront
    rw [firstOpen?, if_pos (openBehind_nil.2 isOpen)]
    rfl

/-- No queue of a tended store is ever stuck, whatever became of the jobs before. When every wait is
over, the store hands out a job exactly if some job has not ended, and answers that there is none
exactly if all have. -/
theorem never_stuck {store : Store} (tended : Tended store) {now : Instant}
    (room : ∀ record ∈ store.value.records, record.attempt.toNat + 1 < UInt32.size)
    (due : store.value.AllDue now) (stamp : Instant) :
    ((∃ claim, (store.claimNext now stamp).1 = .ok (some claim)) ↔
      ∃ record ∈ store.value.records, record.status.isTerminal = false) ∧
    ((store.claimNext now stamp).1 = .ok none ↔
      ∀ record ∈ store.value.records, record.status.isTerminal = true) := by
  have rests := tended.runsOnly
  have next := Jobs.candidate?_eq_head? (fun record held running => rests.only record held running)
    due
  have led := store.claimNext_claiming now stamp
  generalize store.claimNext now stamp = turn at led ⊢
  cases led with
  | refused poisoned =>
    have sound := rests.sound
    rw [poisoned] at sound
    cases sound
  | nothing sound idle =>
    rw [idle, eq_comm, List.head?_eq_none_iff] at next
    have allEnded : ∀ record ∈ store.value.records, record.status.isTerminal = true := by
      intro record held
      by_contra unended
      have listed := Jobs.mem_unfinished.2 ⟨held, Bool.eq_false_iff.2 unended⟩
      rw [next] at listed
      cases listed
    refine ⟨⟨?_, ?_⟩, fun _ => allEnded, fun _ => rfl⟩
    · rintro ⟨claim, answered⟩
      cases answered
    · rintro ⟨record, held, unended⟩
      rw [allEnded record held] at unended
      cases unended
  | claimed sound record found free claim started =>
    obtain ⟨held, unended⟩ : record ∈ store.value.records ∧ record.status.isTerminal = false := by
      have claimable := Jobs.Claimable.of_candidate? found
      exact ⟨claimable.kept, Jobs.not_isTerminal_of_isReady claimable.ready⟩
    refine ⟨⟨fun _ => ⟨record, held, unended⟩, fun _ => ⟨claim, rfl⟩⟩, ?_, ?_⟩
    · intro answered
      cases answered
    · intro allEnded
      rw [allEnded record held] at unended
      cases unended
  | crashed sound record found full =>
    exact absurd (room record (Jobs.Claimable.of_candidate? found).kept) full

/-- Deliveries in a village: a letter that is addressed is delivered, any other is given up, and
nobody goes out when the road is closed. -/
def deliveries {σ : Type} (roadOpen : σ → Bool) : Craft Bool σ where
  key _ := "letter"
  parameters _ := { queue := some "village", constraints := ["road"] }
  save addressed := .ok [if addressed then 1 else 0]
  restore _ := some fun _ payload => .ok (payload == [1])
  check _ state := some (roadOpen state)
  run addressed state :=
    (if addressed then .success else .permanentFailure "no address", addressed, state)
  giveUp _ state := state

/-- The time of the deliveries. -/
def deliveryTime : Instant := .ofNanos 5

/-- The clock stands still while letters are delivered. -/
def deliveryClock : Readings := .still deliveryTime

/-- The claim of the letter at a place. -/
def deliveryClaim (place : Nat) (payload : List UInt8) : Record :=
  { Record.new ⟨⟨.ofNumber 16 place⟩⟩ (.ofNanos place) "letter"
      { queue := some "village", constraints := ["road"] } payload with
    status := .running, attempt := 1, updated := deliveryTime }

/-- A turn in the village, with the road open or closed. -/
def villageTurn (roadOpen : Bool) (store : Store) : Turn (Store × Bool) :=
  runNext (deliveries Prod.snd) Settings.standard deliveryClock (store, roadOpen)

/-- A turn in the village that answers leaves it tended. -/
theorem Tended.village {store : Store} (tended : Tended store) {roadOpen : Bool}
    {turn : Turn (Store × Bool)} {report : Option Report}
    (made : villageTurn roadOpen store = turn) (answered : turn.answer = .ok report) :
    Tended turn.state.1 := by
  subst made
  refine .turn tended ⟨fun _ _ => .unchanged, fun _ _ => .unchanged⟩ _ _ roadOpen ?_
  intro cause crashed
  change (villageTurn roadOpen store).answer = _ at crashed
  rw [answered] at crashed
  cases crashed

/-- Two letters for the village, the first of them without an address. -/
def village : Store :=
  (addAll (deliveries fun _ => true) (fun place => ⟨⟨⟨.ofNumber 16 place⟩⟩, .ofNanos place⟩)
    [false, true] Store.empty).2

/-- The village after the first letter was given up. -/
def villageBetween : Store :=
  ⟨(village.value.insert (deliveryClaim 0 [0])).insert
    ((deliveryClaim 0 [0]).fail deliveryTime deliveryTime "no address"), false⟩

/-- The village after the second letter was put off because the road was closed. -/
def villageClosed : Store :=
  ⟨(villageBetween.value.insert (deliveryClaim 1 [1])).insert
    ((deliveryClaim 1 [1]).defer (.ofNanos 100000005) deliveryTime), false⟩

/-- One letter of the village was given up and the other put off. Once its wait is over it is handed
out. -/
theorem never_stuck_village_closed :
    Tended villageClosed ∧
      villageClosed.value.records.map Record.status = [.failed "no address" 1, .pending] ∧
      villageClosed.value.AllDue (.ofNanos 100000005) ∧
      ∃ claim, (villageClosed.claimNext (.ofNanos 100000005) default).1 = .ok (some claim) := by
  have posted : Tended village := .addAll .empty _ _ _
  have claimedFirst : village.claimNext deliveryClock.looked deliveryClock.claimed =
      (.ok (some (deliveryClaim 0 [0])), ⟨village.value.insert (deliveryClaim 0 [0]), false⟩) := by
    cbv
  have first : villageTurn true village =
      ⟨.ok (some ⟨⟨⟨.ofNumber 16 0⟩⟩, "letter", .failed "no address"⟩),
        (villageBetween, true)⟩ :=
    runNext_of_claimNext claimedFirst
  have between : Tended villageBetween := posted.village first rfl
  have claimedSecond : villageBetween.claimNext deliveryClock.looked deliveryClock.claimed =
      (.ok (some (deliveryClaim 1 [1])),
        ⟨villageBetween.value.insert (deliveryClaim 1 [1]), false⟩) := by
    cbv
  have second : villageTurn false villageBetween =
      ⟨.ok (some ⟨⟨⟨.ofNumber 16 1⟩⟩, "letter", .deferred "road"⟩),
        (villageClosed, false)⟩ :=
    runNext_of_claimNext claimedSecond
  have tended : Tended villageClosed := between.village second rfl
  have records : villageClosed.value.records =
      [(deliveryClaim 0 [0]).fail deliveryTime deliveryTime "no address",
        (deliveryClaim 1 [1]).defer (.ofNanos 100000005) deliveryTime] := by
    cbv
  have room : ∀ record ∈ villageClosed.value.records,
      record.attempt.toNat + 1 < UInt32.size := by
    rw [records]
    decide
  have due : villageClosed.value.AllDue (.ofNanos 100000005) := by
    unfold Jobs.AllDue
    rw [records]
    decide
  have unended : ∃ record ∈ villageClosed.value.records, record.status.isTerminal = false := by
    rw [records]
    decide
  exact ⟨tended, by rw [records]; rfl, due, (never_stuck tended room due default).1.2 unended⟩

end Mailroom.Job
