import Mathlib.Data.List.Nodup
import Mathlib.Data.List.Range
import Mailroom.Proofs.Job.Bureau

/-!
# Attempts and history

A record counts the runs of its job that have begun, and its history notes how those that ended
went. `Record.Standing` is what the two have to do with each other: a job that has not ended asked
for another run every time, and one that has ended did so every time but the last. New records
stand so, a claim keeps it, and so does every way in which a visit can go. `history_accounts`
spells out what follows for every record of a store that schedulers work on.
-/

namespace Mailroom.Job

/-- Whether all runs of a history asked for another, and are numbered from one. -/
structure Retried (history : List Attempt) : Prop where
  numbered : history.map (fun entry => entry.attempt.toNat) = List.range' 1 history.length
  asked : ∀ entry ∈ history, entry.success = false ∧ entry.error = some Record.retryNote

/-- An empty history asked for nothing. -/
theorem retried_nil : Retried [] := ⟨rfl, fun _ noted => by cases noted⟩

/-- The numbers of a history go on with the next entry. -/
theorem numbered_append {history : List Attempt} {entry : Attempt}
    (numbered : history.map (fun entry => entry.attempt.toNat) = List.range' 1 history.length)
    (next : entry.attempt.toNat = history.length + 1) :
    (history ++ [entry]).map (fun entry => entry.attempt.toNat) =
      List.range' 1 (history ++ [entry]).length := by
  rw [List.map_append, numbered, List.length_append, List.length_singleton, List.range'_concat,
    List.map_singleton, next, Nat.one_mul, Nat.add_comm 1]

/-- A history goes on with a run that asks for another. -/
theorem Retried.append {history : List Attempt} (retried : Retried history) {entry : Attempt}
    (next : entry.attempt.toNat = history.length + 1) (failed : entry.success = false)
    (asked : entry.error = some Record.retryNote) : Retried (history ++ [entry]) := by
  refine ⟨numbered_append retried.numbered next, fun other noted => ?_⟩
  rcases List.mem_append.1 noted with old | new
  · exact retried.asked other old
  · obtain rfl := List.mem_singleton.1 new
    exact ⟨failed, asked⟩

namespace Record

/-- What a record that has not ended says by its status, if a number of runs have ended. -/
def Unended (record : Record) (runs : Nat) : Prop :=
  match record.status with
  | .pending => record.attempt = 0 ∧ runs = 0
  | .running => record.attempt.toNat = runs + 1
  | .retrying attempt => attempt = record.attempt ∧ record.attempt.toNat = runs ∧ 1 ≤ runs
  | .completed => False
  | .failed _ _ => False

/-- What a record that has ended says by its status, if its last run ended in a given way. -/
def Ended (record : Record) (last : Attempt) : Prop :=
  match record.status with
  | .completed => last.success = true ∧ last.error = none
  | .failed reason attempts =>
    attempts = record.attempt ∧ last.success = false ∧ last.error = some reason
  | _ => False

/-- How the count and the history of a record stand to each other. -/
inductive Standing (record : Record) : Prop where
  /-- Every run that has ended asked for another. -/
  | unended (retried : Retried record.history) (status : record.Unended record.history.length)
  /-- Every run but the last asked for another. -/
  | ended (past : List Attempt) (last : Attempt) (split : record.history = past ++ [last])
    (retried : Retried past) (counted : record.attempt.toNat = past.length + 1)
    (numbered : last.attempt = record.attempt) (status : record.Ended last)

/-- The record of a job that nobody has claimed yet stands so. -/
theorem IsNew.standing {record : Record} (fresh : record.IsNew) : record.Standing := by
  refine .unended ?_ ?_
  · rw [fresh.unrun]
    exact retried_nil
  · simp [Unended, fresh.pending, fresh.uncounted, fresh.unrun]

/-- Whether a claim is being handled: all its runs before this one asked for another. -/
structure InHand (claim : Record) : Prop where
  running : claim.status = .running
  retried : Retried claim.history
  counted : claim.attempt.toNat = claim.history.length + 1

/-- A running record that stands so is in hand. -/
theorem Standing.inHand {record : Record} (standing : record.Standing)
    (running : record.status = .running) : record.InHand := by
  cases standing with
  | unended retried status =>
    rw [Unended, running] at status
    exact ⟨running, retried, status⟩
  | ended past last split retried counted numbered status =>
    rw [Ended, running] at status
    exact status.elim

/-- Whether a job waits for a run: all its runs asked for another, and its status tells how many
they were. -/
structure AtRest (record : Record) : Prop where
  retried : Retried record.history
  counted : record.attempt.toNat = record.history.length
  status : record.status = if record.attempt = 0 then .pending else .retrying record.attempt

/-- A record that may be run and stands so is at rest. -/
theorem Standing.atRest {record : Record} (standing : record.Standing)
    (runnable : record.status.isRunnable = true) : record.AtRest := by
  cases standing with
  | unended retried status =>
    cases stands : record.status with
    | pending =>
      rw [Unended, stands] at status
      obtain ⟨unrun, none⟩ := status
      refine ⟨retried, ?_, ?_⟩
      · rw [unrun, none]
        rfl
      · rw [if_pos unrun, stands]
    | retrying attempt =>
      rw [Unended, stands] at status
      obtain ⟨rfl, counted, run⟩ := status
      have begun : record.attempt ≠ 0 := by
        intro none
        rw [none] at counted
        have unrun : record.history.length = 0 := counted.symm
        omega
      refine ⟨retried, counted, ?_⟩
      rw [if_neg begun, stands]
    | running | completed | failed =>
      rw [stands] at runnable
      cases runnable
  | ended past last split retried counted numbered status =>
    cases stands : record.status with
    | running | completed | failed =>
      rw [stands] at runnable
      cases runnable
    | pending | retrying =>
      rw [Ended, stands] at status
      exact status.elim

/-- A claim that is in hand stands so. -/
theorem InHand.standing {claim : Record} (inHand : claim.InHand) : claim.Standing := by
  refine .unended inHand.retried ?_
  rw [Unended, inHand.running]
  exact inHand.counted

variable {claim : Record}

/-- Giving a job up in its run leaves a record that stands so. -/
theorem InHand.fail (inHand : claim.InHand) (started now : Instant) (reason : String) :
    (claim.fail started now reason).Standing :=
  .ended claim.history _ rfl inHand.retried inHand.counted rfl ⟨rfl, rfl, rfl⟩

/-- Ending a job well leaves a record that stands so. -/
theorem InHand.complete (inHand : claim.InHand) (started now : Instant) :
    (claim.complete started now).Standing :=
  .ended claim.history _ rfl inHand.retried inHand.counted rfl ⟨rfl, rfl⟩

/-- Waiting for another run leaves a record that stands so, whatever the job saved. -/
theorem InHand.await (inHand : claim.InHand) (started now due : Instant) (payload : List UInt8) :
    (claim.await started now due payload).Standing := by
  refine .unended (inHand.retried.append inHand.counted rfl rfl) ?_
  show claim.attempt = claim.attempt ∧ claim.attempt.toNat = (claim.history ++ [_]).length ∧
    1 ≤ (claim.history ++ [_]).length
  rw [List.length_append, List.length_singleton]
  exact ⟨rfl, inHand.counted, Nat.le_add_left 1 _⟩

/-- Giving back a claim takes its run off the count. -/
theorem InHand.attempt_defer (inHand : claim.InHand) (due now : Instant) :
    (claim.defer due now).attempt.toNat = claim.history.length := by
  have counted := inHand.counted
  have begun : claim.attempt ≠ 0 := by
    intro none
    rw [none] at counted
    simp at counted
  show (if claim.attempt = 0 then 0 else claim.attempt - 1 : UInt32).toNat = _
  rw [if_neg begun, UInt32.toNat_sub_of_le]
  · rw [counted]
    rfl
  · rw [UInt32.le_iff_toNat_le, counted]
    exact Nat.le_add_left 1 _

/-- Giving back a claim leaves a record that stands so. -/
theorem InHand.defer (inHand : claim.InHand) (due now : Instant) :
    (claim.defer due now).Standing := by
  have counted := inHand.attempt_defer due now
  refine .unended inHand.retried ?_
  have status := claim.status_defer due now
  by_cases none : (claim.defer due now).attempt = 0
  · rw [if_pos none] at status
    rw [Unended, status]
    refine ⟨none, ?_⟩
    rw [none] at counted
    exact counted.symm
  · rw [if_neg none] at status
    rw [Unended, status]
    refine ⟨rfl, counted, ?_⟩
    rw [Nat.one_le_iff_ne_zero]
    intro unrun
    exact none (UInt32.toNat_inj.1 (counted.trans unrun))

/-- However a visit goes, its record stands so. -/
theorem InHand.ended {clock : Readings} {visit : Visit} (inHand : visit.claim.InHand)
    (course : visit.Course clock) : visit.ended.Standing := by
  cases course with
  | undecodable claim reason => exact inHand.fail ..
  | expired claim => exact inHand.fail ..
  | deferred claim due constraint => exact inHand.defer ..
  | done claim => exact inHand.complete ..
  | rejected claim reason => exact inHand.fail ..
  | exhausted claim last => exact inHand.fail ..
  | unsaved claim allowed reason => exact inHand.fail ..
  | waiting claim allowed payload due => exact inHand.await ..

end Record

namespace Bureau

/-- Whether count and history stand to each other as they should, in every record. -/
def Standing (bureau : Bureau) : Prop :=
  ∀ record ∈ bureau.store.value.records, record.Standing

/-- A claim that is being handled is in hand. -/
theorem Standing.inHand {bureau : Bureau} (standing : bureau.Standing) (sound : bureau.Sound)
    {claim : Record} (held : claim ∈ bureau.claims) : claim.InHand := by
  obtain ⟨kept, running⟩ := (sound.orderly.claims_iff claim).1 held
  exact (standing claim kept).inHand running

/-- A claim that was just handed out is in hand. -/
theorem inHand_of_claimed {clock : Readings} {store : Store} {record claim : Record}
    (claimed : Claimed clock store record claim) (standing : record.Standing) : claim.InHand := by
  have rest := standing.atRest claimed.runnable
  have counted := Record.toNat_attempt_add_one claimed.room
  rw [rest.counted] at counted
  obtain rfl := claimed.started
  exact ⟨rfl, rest.retried, counted⟩

/-- What a step changes leaves all records standing so. -/
theorem Change.standing {bureau later : Bureau} (change : Change bureau later)
    (sound : bureau.Sound) (standing : bureau.Standing) : later.Standing := by
  cases change with
  | nothing => exact standing
  | takenOn records jobs fresh filed =>
    intro record kept
    change record ∈ jobs.records at kept
    rw [filed] at kept
    rcases List.mem_append.1 kept with old | new
    · exact standing record old
    · exact (fresh record new).standing
  | claimed clock record claim claimed =>
    intro other kept
    rcases Table.mem_insert.1 kept with rfl | ⟨old, -⟩
    · exact (inHand_of_claimed claimed (standing record claimed.kept)).standing
    · exact standing other old
  | ended clock visit held course =>
    intro other kept
    rcases Table.mem_insert.1 kept with rfl | ⟨old, -⟩
    · exact (standing.inHand sound held).ended course
    · exact standing other old

/-- Every run leaves all records standing so. -/
theorem Reachable.standing {bureau : Bureau} (reached : bureau.Reachable) : bureau.Standing := by
  induction reached with
  | here =>
    intro record kept
    cases kept
  | next leads step ih =>
    have sound := Reachable.sound leads
    exact (step.change sound).standing sound ih

end Bureau

/-- What status, count and history of a record say of each other. -/
structure Record.Accounted (record : Record) : Prop where
  /-- Every run that has begun is noted, unless it goes on. -/
  noted : record.status ≠ .running → record.history.length = record.attempt.toNat
  /-- The run that goes on is counted and not noted yet. -/
  unnoted : record.status = .running → record.history.length + 1 = record.attempt.toNat
  /-- The runs are numbered from one. -/
  numbered : record.history.map (fun entry => entry.attempt.toNat) =
    List.range' 1 record.history.length
  /-- Every run asked for another, but the last one of a job that has ended. -/
  asked : ∀ entry ∈ if record.status.isTerminal then record.history.dropLast else record.history,
    entry.success = false ∧ entry.error = some "retry requested"
  /-- A job that waits for its first run has none behind it. -/
  pending : record.status = .pending → record.attempt = 0 ∧ record.history = []
  /-- A job that waits for another run says how many it had. -/
  retrying : ∀ attempt, record.status = .retrying attempt →
    attempt = record.attempt ∧ 1 ≤ attempt.toNat
  /-- A job is done exactly if its last run succeeded. -/
  done_iff : record.status = .completed ↔
    ∃ last, record.history.getLast? = some last ∧ last.success = true
  /-- A job that is done succeeded once. -/
  done_once : record.status = .completed → ∀ entry ∈ record.history.dropLast, entry.success = false
  /-- A job that was given up says why, and after how many runs. -/
  failed : ∀ reason attempts, record.status = .failed reason attempts →
    attempts = record.attempt ∧
      ∃ last, record.history.getLast? = some last ∧ last.error = some reason

namespace Record

/-- A record that has not ended is accounted for. -/
theorem Accounted.of_unended {record : Record} (retried : Retried record.history)
    (status : record.Unended record.history.length) : record.Accounted := by
  have unsuccessful : ¬ ∃ last, record.history.getLast? = some last ∧ last.success = true := by
    rintro ⟨last, ends, success⟩
    rw [(retried.asked last (List.mem_of_getLast? ends)).1] at success
    cases success
  have lasting : record.status.isTerminal = false := by
    cases stands : record.status with
    | pending | running | retrying => rfl
    | completed | failed =>
      rw [Unended, stands] at status
      exact status.elim
  refine ⟨?_, ?_, retried.numbered, ?_, ?_, ?_, ?_, ?_, ?_⟩
  · intro rests
    cases stands : record.status with
    | pending =>
      rw [Unended, stands] at status
      rw [status.1, status.2]
      rfl
    | retrying attempt =>
      rw [Unended, stands] at status
      exact status.2.1.symm
    | running => exact absurd stands rests
    | completed | failed =>
      rw [stands] at lasting
      cases lasting
  · intro running
    rw [Unended, running] at status
    exact status.symm
  · rw [lasting]
    exact retried.asked
  · intro pending
    rw [Unended, pending] at status
    exact ⟨status.1, List.length_eq_zero_iff.1 status.2⟩
  · intro attempt retrying
    rw [Unended, retrying] at status
    obtain ⟨rfl, counted, run⟩ := status
    exact ⟨rfl, counted ▸ run⟩
  · refine ⟨fun done => ?_, fun success => absurd success unsuccessful⟩
    rw [done] at lasting
    cases lasting
  · intro done
    rw [done] at lasting
    cases lasting
  · intro reason attempts failed
    rw [failed] at lasting
    cases lasting

/-- A record that has ended is accounted for. -/
theorem Accounted.of_ended {record : Record} {past : List Attempt} {last : Attempt}
    (split : record.history = past ++ [last]) (retried : Retried past)
    (counted : record.attempt.toNat = past.length + 1) (numbered : last.attempt = record.attempt)
    (status : record.Ended last) : record.Accounted := by
  have ends : record.history.getLast? = some last := by
    rw [split, List.getLast?_concat]
  have before : record.history.dropLast = past := by
    rw [split, List.dropLast_concat]
  have length : record.history.length = record.attempt.toNat := by
    rw [split, List.length_append, List.length_singleton, counted]
  have terminal : record.status.isTerminal = true := by
    cases stands : record.status with
    | completed | failed => rfl
    | pending | running | retrying =>
      rw [Ended, stands] at status
      exact status.elim
  refine ⟨fun _ => length, ?_, ?_, ?_, ?_, ?_, ?_, ?_, ?_⟩
  · intro running
    rw [running] at terminal
    cases terminal
  · rw [split]
    exact numbered_append retried.numbered (numbered ▸ counted)
  · rw [terminal, before]
    exact retried.asked
  · intro pending
    rw [pending] at terminal
    cases terminal
  · intro attempt retrying
    rw [retrying] at terminal
    cases terminal
  · rw [ends]
    constructor
    · intro done
      rw [Ended, done] at status
      exact ⟨last, rfl, status.1⟩
    · rintro ⟨found, same, success⟩
      obtain rfl := Option.some.inj same
      cases stands : record.status with
      | completed => rfl
      | failed reason attempts =>
        rw [Ended, stands] at status
        rw [status.2.1] at success
        cases success
      | pending | running | retrying =>
        rw [stands] at terminal
        cases terminal
  · intro _ entry noted
    rw [before] at noted
    exact (retried.asked entry noted).1
  · intro reason attempts failed
    rw [Ended, failed] at status
    exact ⟨status.1, last, ends, status.2.2⟩

/-- A record whose count and history stand to each other as they should is accounted for. -/
theorem Standing.accounted {record : Record} (standing : record.Standing) : record.Accounted := by
  cases standing with
  | unended retried status => exact .of_unended retried status
  | ended past last split retried counted numbered status =>
    exact .of_ended split retried counted numbered status

end Record

namespace Bureau

/-- Whatever jobs schedulers take on and run on one store, however their turns overlap, every
record says how often its job was run and how each of its runs ended. So it does after any further
turn that does not crash. -/
theorem history_accounts {bureau : Bureau} (reached : bureau.Reachable) :
    (∀ record ∈ bureau.store.value.records, record.Accounted) ∧
      ∀ {Work World : Type} {craft : Craft Work (Store × World)}, craft.OnlySubmits →
        ∀ (settings : Settings) (clock : Readings) (world : World),
          (∀ cause, (runNext craft settings clock (bureau.store, world)).answer ≠
            .error (.crash cause)) →
            ∀ record ∈ (runNext craft settings clock (bureau.store, world)).state.1.value.records,
              record.Accounted := by
  refine ⟨fun record kept => (reached.standing record kept).accounted, ?_⟩
  intro Work World craft only settings clock world ends record kept
  obtain ⟨later, turned⟩ := reached.sound.exists_turned only settings clock world ends
  have reachedLater : later.Reachable := Leads.trans reached turned.leads
  rw [← turned.store] at kept
  exact (Reachable.standing reachedLater record kept).accounted

/-- Parcels are taken out at most twice and only when the gate is open; all answer alike. -/
def parcels {σ : Type} (gateOpen : Bool) (answer : Outcome) : Craft Unit σ where
  key _ := "Parcel"
  parameters _ := { constraints := ["gate"], limit := .limited 2 }
  save _ := .ok []
  restore key := if key = "Parcel" then some fun _ _ => .ok () else none
  check _ _ := some gateOpen
  run work state := (answer, work, state)
  giveUp _ state := state

/-- A scheduler that does not let parcels wait. -/
def porter : Settings := ⟨.zero, "porter", .fixed .zero⟩

/-- A turn of the porter, at a time when the gate is open or not. -/
def porterTurn (gateOpen : Bool) (answer : Outcome) (bureau : Bureau) : Bureau :=
  match bureau.store.claimNext default default with
  | (.ok (some claim), store) =>
    match visit? (parcels gateOpen answer : Craft Unit Unit) porter (.still default) claim () with
    | some visit =>
      finish (.still default) visit ⟨store, bureau.claims ++ [claim], bureau.visits⟩
    | none => bureau
  | _ => bureau

/-- A turn of the porter is a claim and its end, or nothing. -/
theorem leads_porterTurn (gateOpen : Bool) (answer : Outcome) (bureau : Bureau) :
    bureau.Leads (bureau.porterTurn gateOpen answer) := by
  unfold porterTurn
  split
  · rename_i claim store claimed
    split
    · rename_i visit visited
      refine (Leads.here.next (.claim (.still default) claim store claimed)).next ?_
      exact .finish _ porter (.still default) () claim
        (List.mem_append_right _ List.mem_cons_self) visit visited
    · exact .here
  · exact .here

/-- A parcel that was taken on. -/
def parcelAccepted : Bureau :=
  ⟨(add (parcels true .success) ⟨default, default⟩ () Store.empty).2, [], []⟩

/-- The parcel was put off while the gate was closed, and then taken out twice in vain. -/
def parcelReturned : Bureau :=
  ((parcelAccepted.porterTurn false .retry).porterTurn true .retry).porterTurn true .retry

/-- The parcel is taken on in one step. -/
theorem reachable_parcelAccepted : parcelAccepted.Reachable :=
  Leads.here.next (.add (parcels true .success) ⟨default, default⟩ ())

/-- The returned parcel is what a run of the porter leads to. -/
theorem reachable_parcelReturned : parcelReturned.Reachable :=
  (reachable_parcelAccepted.trans (leads_porterTurn false .retry _)).trans
      ((leads_porterTurn true .retry _).trans (leads_porterTurn true .retry _))

/-- The record of the returned parcel notes two runs, of which the last was the last that it could
have. -/
theorem history_accounts_parcel :
    parcelReturned.Reachable ∧
      parcelReturned.store.value.records.map (fun record =>
        (record.status, record.attempt, record.history.map Attempt.error)) =
          [(.failed "attempts exhausted" 2, 2,
            [some "retry requested", some "attempts exhausted"])] ∧
      ∀ record ∈ parcelReturned.store.value.records, record.Accounted :=
  ⟨reachable_parcelReturned, by decide +kernel, (history_accounts reachable_parcelReturned).1⟩

end Bureau

end Mailroom.Job
