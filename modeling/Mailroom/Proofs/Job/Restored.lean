import Mailroom.Proofs.Job.Admission
import Mailroom.Proofs.Job.Bookkeeping
import Mailroom.Rehearsal.Store

/-!
# Undone claims

A claim is undone in two ways: the job is put off for an unmet constraint, or the result of its run
cannot be recorded and the claim is given back. Either way the record is as it was before the claim,
but for when it is due and when it changed: `undone_claim_restores`.

The record does not say what its status was before the claim, so giving back works it out from the
count of runs. That is right for the records that schedulers leave behind, in which the one tells
the other: `Record.AtRest`. A store whose writes can be refused is a keeper in front of it,
`Fronts`, and `Bureau.Attained` allows for claims that were given back earlier.
-/

namespace Mailroom.Job

namespace Record

/-- A record with another time at which the job is due. -/
def dueAt (due now : Instant) (record : Record) : Record :=
  { record with scheduled := some due, updated := now }

end Record

/-- Giving a claim back restores the record that was claimed, but for the times. -/
theorem Claimed.defer_eq {clock : Readings} {store : Store} {record claim : Record}
    (claimed : Claimed clock store record claim) (standing : record.Standing) (due now : Instant) :
    claim.defer due now = record.dueAt due now := by
  have rest := standing.atRest claimed.runnable
  have attempt := claimed.attempt_defer due now
  have status := claim.status_defer due now
  rw [attempt, ← rest.status] at status
  calc claim.defer due now
      = { claim with
          attempt := (claim.defer due now).attempt
          status := (claim.defer due now).status
          scheduled := some due
          updated := now } := rfl
    _ = record.dueAt due now := by
        rw [attempt, status, claimed.started]
        rfl

namespace Bureau

/-- The claim of a job is given back, because the result of its run could not be recorded. -/
def release (clock : Readings) (claim : Record) (bureau : Bureau) : Bureau where
  store := (bureau.store.update (claim.defer clock.released clock.restamped)).2
  claims := bureau.claims.filter fun other => decide (other.id ≠ claim.id)
  visits := bureau.visits

/-- What schedulers attain from an empty store, in steps of which some may give a claim back. -/
inductive Attained : Bureau → Prop where
  | empty : Attained empty
  | step {bureau later : Bureau} (attained : Attained bureau) (step : Step bureau later) :
    Attained later
  | release {bureau : Bureau} (attained : Attained bureau) (clock : Readings) (claim : Record)
    (held : claim ∈ bureau.claims) : Attained (bureau.release clock claim)

/-- What is reached without giving claims back is attained. -/
theorem Reachable.attained {bureau : Bureau} (reached : bureau.Reachable) : bureau.Attained := by
  induction reached with
  | here => exact .empty
  | next leads step ih => exact ih.step step

/-- The visit that giving a claim back is like: the job was put off. -/
def putOff (clock : Readings) (claim : Record) : Visit :=
  ⟨claim, claim.defer clock.released clock.restamped, .deferred "", true, []⟩

/-- Giving a claim back changes the store as a visit does in which the job was put off. -/
theorem Sound.change_of_release {bureau : Bureau} (sound : bureau.Sound) (clock : Readings)
    {claim : Record} (held : claim ∈ bureau.claims) :
    Change bureau
      ⟨(bureau.release clock claim).store, (bureau.release clock claim).claims,
        bureau.visits ++ [putOff clock claim]⟩ := by
  have course : (putOff clock claim).Course { clock with finished := clock.restamped } :=
    .deferred claim clock.released ""
  have filed : bureau.store.update (claim.defer clock.released clock.restamped) = _ :=
    sound.update_ended held course
  rw [release, filed]
  exact .ended _ (putOff clock claim) held course

/-- What is attained is sound, and count and history stand to each other as they should in every
record. -/
theorem Attained.standing {bureau : Bureau} (attained : bureau.Attained) :
    bureau.Sound ∧ bureau.Standing := by
  induction attained with
  | empty => exact ⟨sound_empty, fun record kept => by cases kept⟩
  | step attained step ih =>
    obtain ⟨sound, standing⟩ := ih
    have change := step.change sound
    exact ⟨change.sound sound, change.standing sound standing⟩
  | release attained clock claim held ih =>
    obtain ⟨sound, standing⟩ := ih
    have change := sound.change_of_release clock held
    have later := change.sound sound
    exact ⟨⟨later.intact, later.orderly⟩, change.standing sound standing⟩

end Bureau

/-- Whether a keeper of jobs stands in front of a store: it hands out the claims of the store, and
what it accepts is recorded there. It may refuse what the store would accept, and then the store
stays as it is. -/
structure Fronts {σ : Type} [JobKeeper σ] (behind : σ → Store) : Prop where
  claimNext : ∀ {now stamp : Instant} {state held : σ} {claim : Record},
    JobKeeper.claimNext now stamp state = (.ok (some claim), held) →
      (behind state).claimNext now stamp = (.ok (some claim), behind held)
  accepted : ∀ {record : Record} {state after : σ},
    JobKeeper.update record state = (.ok (), after) →
      (behind state).update record = (.ok (), behind after)
  refused : ∀ {record : Record} {state after : σ} {reason : StoreError},
    JobKeeper.update record state = (.error reason, after) → behind after = behind state

/-- A store stands in front of itself. -/
theorem fronts_store : Fronts (id : Store → Store) where
  claimNext claimed := claimed
  accepted updated := updated
  refused {record state after reason} updated := by
    rcases state.update_cases record with ⟨_, kept, -⟩ | ⟨-, -, filed⟩
    · exact (congrArg Prod.snd (updated.symm.trans kept))
    · cases updated.symm.trans filed

/-- A keeper beside anything else stands in front of the same store. -/
theorem Fronts.beside {σ World : Type} [JobKeeper σ] {behind : σ → Store} (fronts : Fronts behind) :
    Fronts fun state : σ × World => behind state.1 where
  claimNext {now stamp state held claim} claimed := by
    have handed := congrArg (fun answer => (answer.1, answer.2.1)) claimed
    exact fronts.claimNext handed
  accepted {record state after} updated := by
    have filed := congrArg (fun answer => (answer.1, answer.2.1)) updated
    exact fronts.accepted filed
  refused {record state after reason} updated := by
    have kept := congrArg (fun answer => (answer.1, answer.2.1)) updated
    exact fronts.refused kept

/-- A disk refuses a write and keeps its store, or passes the write on. -/
theorem update_disk (record : Record) (disk : Rehearsal.DiskStore) :
    (disk.update record).1 = .error Rehearsal.DiskStore.diskFull ∧
        (disk.update record).2.store = disk.store ∨
      ((disk.update record).1, (disk.update record).2.store) = disk.store.update record := by
  unfold Rehearsal.DiskStore.update
  cases disk.refusedUpdates with
  | succ rest => exact .inl ⟨rfl, rfl⟩
  | zero => exact .inr rfl

/-- A store on a disk that may be full stands in front of the store that it keeps. -/
theorem fronts_disk : Fronts Rehearsal.DiskStore.store where
  claimNext {now stamp state held claim} claimed := by
    have answer : (state.store.claimNext now stamp).1 = .ok (some claim) :=
      congrArg Prod.fst claimed
    have left : (state.store.claimNext now stamp).2 = held.store :=
      congrArg (fun turn => turn.2.store) claimed
    exact Prod.ext answer left
  accepted {record state after} updated := by
    change state.update record = _ at updated
    rcases update_disk record state with ⟨full, -⟩ | passed
    · rw [updated] at full
      cases full
    · rw [updated] at passed
      exact passed.symm
  refused {record state after reason} updated := by
    change state.update record = _ at updated
    rcases update_disk record state with ⟨-, kept⟩ | passed
    · rw [updated] at kept
      exact kept
    · rw [updated] at passed
      exact fronts_store.refused passed.symm

section

variable {Work σ : Type} {craft : Craft Work σ} {settings : Settings} {clock : Readings}
  {claim : Record} {held : σ}

/-- A job that is put off leaves everything as it was, and its claim is given back. -/
theorem deferred_of_executed {ended : Record} {constraint : String} {left : σ}
    (executed : execute craft settings clock claim held =
      ⟨.ok (ended, .deferred constraint), left⟩) :
    left = held ∧ ∃ due, ended = claim.defer due clock.finished := by
  have handling := execute_handling craft settings clock claim held
  generalize execute craft settings clock claim held = execution at handling executed
  cases handling with
  | deferred work rebuilt inTime unmetKey unmet due later =>
    cases executed
    exact ⟨rfl, due, rfl⟩
  | undecodable | expired | stuck | done | rejected | exhausted | unsaved | waiting
  | overflowing => cases executed

end

section

variable {Work σ : Type} [JobKeeper σ]

/-- How a turn undoes a claim, whose record was another before. -/
structure Restores (behind : σ → Store) (craft : Craft Work σ) (settings : Settings)
    (clock : Readings) (before : Store) (record claim : Record) (held : σ) (turn : Turn σ) :
    Prop where
  /-- The store has a place for the record of a job that is put off. -/
  welcome : ∀ ended constraint left,
    execute craft settings clock claim held = ⟨.ok (ended, .deferred constraint), left⟩ →
      ((behind left).update ended).1 = .ok ()
  /-- A job that is put off is reported so, and its record is as it was before the claim but for the
  times. No other record is changed. -/
  deferred : ∀ ended constraint left after,
    execute craft settings clock claim held = ⟨.ok (ended, .deferred constraint), left⟩ →
      JobKeeper.update ended left = (.ok (), after) →
        turn.answer = .ok (some ⟨record.id, record.factoryKey, .deferred constraint⟩) ∧
        ∃ due, ∀ id, (behind turn.state).value.get? id =
          if id = record.id then some (record.dueAt due clock.finished) else before.value.get? id
  /-- If the result of the run is refused and the next write is accepted, the refusal is answered,
  and the record is as it was before the claim but for the times. It is ready from the time on at
  which the claim is given back. No other record is changed after the run, which may have changed
  them. -/
  released : ∀ ended result left reason between after,
    execute craft settings clock claim held = ⟨.ok (ended, result), left⟩ →
      JobKeeper.update ended left = (.error reason, between) →
        JobKeeper.update (claim.defer clock.released clock.restamped) between = (.ok (), after) →
          turn.answer = .error (.error (.store reason)) ∧
          (∀ id, (behind turn.state).value.get? id =
            if id = record.id then some (record.dueAt clock.released clock.restamped)
            else (behind left).value.get? id) ∧
          (∀ t, clock.released ≤ t →
            (record.dueAt clock.released clock.restamped).isReady t = true) ∧
          (behind left = behind held → ∀ id, id ≠ record.id →
            (behind turn.state).value.get? id = before.value.get? id)

/-- Undoing a claim restores the record that was claimed, in every store that schedulers attain and
behind every keeper that stands in front of it. -/
theorem undone_claim_restores {behind : σ → Store} (fronts : Fronts behind) (craft : Craft Work σ)
    (settings : Settings) {clock : Readings} {bureau : Bureau} (attained : bureau.Attained)
    {state held : σ} (seen : behind state = bureau.store) {claim : Record}
    (claimed : JobKeeper.claimNext clock.looked clock.claimed state = (.ok (some claim), held)) :
    ∃ record, bureau.store.value.get? claim.id = some record ∧
      Restores behind craft settings clock bureau.store record claim held
        (runNext craft settings clock state) := by
  have handed := fronts.claimNext claimed
  rw [seen] at handed
  obtain ⟨record, made, filed⟩ := Store.exists_claimed handed
  have standing := attained.standing.2 record made.kept
  have place : claim.id = record.id := made.sameJob.id
  have found : bureau.store.value.get? record.id = some record :=
    Table.get?_eq_some_iff.2 ⟨made.kept, rfl⟩
  have others : ∀ id, id ≠ record.id →
      (behind held).value.get? id = bureau.store.value.get? id := by
    intro id different
    rw [filed, Table.get?_insert, if_neg (place ▸ different.symm)]
  -- Both ways to undo a claim record the claim given back.
  have restored : ∀ {due now : Instant} {left after : σ},
      JobKeeper.update (claim.defer due now) left = (.ok (), after) →
        ∀ id, (behind after).value.get? id =
          if id = record.id then some (record.dueAt due now) else (behind left).value.get? id := by
    intro due now left after updated id
    rw [made.defer_eq standing] at updated
    exact Store.get?_of_update (fronts.accepted updated) id
  have turned : runNext craft settings clock state = _ := runNext_eq_settle claimed
  refine ⟨record, place ▸ found, ?_, ?_, ?_⟩
  · intro ended constraint left executed
    obtain ⟨rfl, due, rfl⟩ := deferred_of_executed executed
    have keeps : (behind left).Keeps claim.id := Store.keeps_of_claimNext handed
    have same : (claim.defer due clock.finished).id = claim.id := rfl
    rw [keeps.update same]
  · intro ended constraint left after executed accepted
    obtain ⟨rfl, due, rfl⟩ := deferred_of_executed executed
    rw [executed, settle_of_updated accepted] at turned
    rw [turned]
    refine ⟨?_, due, fun id => ?_⟩
    · show Except.ok (some (⟨claim.id, claim.factoryKey, _⟩ : Report)) = _
      rw [place, made.sameJob.factoryKey]
    · rw [restored accepted id]
      by_cases here : id = record.id
      · rw [if_pos here, if_pos here]
      · rw [if_neg here, if_neg here, others id here]
  · intro ended result left reason between after executed refused accepted
    rw [executed, settle_of_refused refused, accepted] at turned
    rw [turned]
    have undone : ∀ id, (behind after).value.get? id =
        if id = record.id then some (record.dueAt clock.released clock.restamped)
        else (behind left).value.get? id := by
      intro id
      rw [restored accepted id, fronts.refused refused]
    refine ⟨rfl, undone, ?_, ?_⟩
    · intro t passed
      rw [Record.isReady, Bool.and_eq_true]
      exact ⟨made.runnable, decide_eq_true passed⟩
    · intro alone id different
      rw [undone id, if_neg different, alone, others id different]

end

namespace Bureau

/-- The claim of the parcel that was taken on. -/
def parcelClaim : Record :=
  { Record.new default default "Parcel" { constraints := ["gate"], limit := .limited 2 } [] with
    status := .running, attempt := 1 }

/-- The store while the parcel is claimed. -/
def parcelTaken : Store := ⟨parcelAccepted.store.value.insert parcelClaim, false⟩

/-- The parcel on a disk that refuses the next write. -/
def parcelOnDisk : Rehearsal.DiskStore := { store := parcelAccepted.store, refusedUpdates := 1 }

/-- If the gate is closed, the parcel is put off. If it is taken out well, but on a disk that does
not accept that, it is put back. -/
theorem undone_claim_restores_parcel :
    let closed := runNext (parcels false .success) porter (.still default)
      (parcelAccepted.store, ())
    let full := runNext (parcels true .success) porter (.still default) parcelOnDisk
    ∃ record, parcelAccepted.store.value.get? default = some record ∧
      closed.answer = .ok (some ⟨record.id, record.factoryKey, .deferred "gate"⟩) ∧
      (∃ due, closed.state.1.value.get? record.id = some (record.dueAt due default)) ∧
      full.answer = .error (.error (.store Rehearsal.DiskStore.diskFull)) ∧
      full.state.store.value.get? record.id = some (record.dueAt default default) := by
  intro closed full
  have claimed : JobKeeper.claimNext (Readings.still default).looked
      (Readings.still default).claimed (parcelAccepted.store, ()) =
        (.ok (some parcelClaim), parcelTaken, ()) := by
    cbv
  have claimedOnDisk : JobKeeper.claimNext (Readings.still default).looked
      (Readings.still default).claimed parcelOnDisk =
        (.ok (some parcelClaim), { store := parcelTaken, refusedUpdates := 1 }) := by
    cbv
  obtain ⟨record, found, putOff⟩ := undone_claim_restores fronts_store.beside
    (parcels false .success) porter reachable_parcelAccepted.attained rfl claimed
  obtain ⟨other, alike, putBack⟩ := undone_claim_restores fronts_disk (parcels true .success)
    porter reachable_parcelAccepted.attained rfl claimedOnDisk
  obtain rfl := Option.some.inj (found.symm.trans alike)
  obtain ⟨reported, due, deferred⟩ := putOff.deferred _ _ _ _ rfl rfl
  obtain ⟨answered, released, -, -⟩ := putBack.released _ _ _ _ _ _ rfl rfl rfl
  refine ⟨record, found, reported, ⟨due, ?_⟩, answered, ?_⟩
  · exact (deferred record.id).trans (if_pos rfl)
  · exact (released record.id).trans (if_pos rfl)

end Bureau

end Mailroom.Job
