import Mathlib
import Mailroom.Proofs.Job.Turn

/-!
# Claims are given up

A turn of the scheduler that has claimed a record is to end it or to give it back, so that the queue
of the job is free again. It does, whatever the job answers and whatever it does to the store while
it runs, with one exception: where the job has to wait, the turn works out when it is due, and if
that instant cannot be represented the turn crashes and the claim stays. `Craft.Waits` says what a
turn waits for, and `claim_released_iff` that a claim is released exactly if every such wait ends at
an instant that can be represented.

Jobs may use the store that they are kept in. `Store.Used` lists what the store offers; nothing of
it removes a record, and only a crash poisons the store.
-/

namespace Mailroom.Job

/-- What a store can become when it is used, short of a crash. -/
inductive Store.Used (store : Store) : Store → Prop where
  | unused : Used store store
  | enqueue {later : Store} (used : Used store later) (record : Record) :
    Used store (later.enqueue record).2
  | enqueueAll {later : Store} (used : Used store later) (records : List Record) :
    Used store (later.enqueueAll records).2
  | update {later : Store} (used : Used store later) (record : Record) :
    Used store (later.update record).2
  | claimNext {later : Store} (used : Used store later) (now stamp : Instant)
    (calm : ∀ cause, (later.claimNext now stamp).1 ≠ .error (.crash cause)) :
    Used store (later.claimNext now stamp).2

/-- Whether a store is not poisoned and keeps a record of a job. -/
structure Store.Keeps (id : JobId) (store : Store) : Prop where
  sound : store.poisoned = false
  present : store.value.contains id = true

namespace Store

variable {id : JobId} {store : Store}

/-- Filing a record keeps what the store kept. -/
theorem Keeps.insert (keeps : store.Keeps id) (record : Record) :
    Keeps id ⟨store.value.insert record, false⟩ := by
  refine ⟨rfl, ?_⟩
  rw [Table.contains_insert, keeps.present, Bool.or_true]

/-- Filing records behind those that were there keeps what the store kept. -/
theorem Keeps.append (keeps : store.Keeps id) {jobs : Jobs} {records : List Record}
    (last : jobs.records = store.value.records ++ records) : Keeps id ⟨jobs, false⟩ := by
  obtain ⟨record, held, here⟩ := Table.contains_iff.1 keeps.present
  refine ⟨rfl, Table.contains_iff.2 ⟨record, ?_, here⟩⟩
  rw [last]
  exact List.mem_append_left records held

/-- A store that is used keeps what it kept. -/
theorem Used.keeps {later : Store} (used : store.Used later) (keeps : store.Keeps id) :
    later.Keeps id := by
  induction used with
  | unused => exact keeps
  | @enqueue before used record ih =>
    rcases before.enqueue_cases record with ⟨reason, refused⟩ | ⟨sound, absent, filed⟩
    · rw [refused]
      exact ih
    · rw [filed]
      exact ih.insert record
  | @enqueueAll before used records ih =>
    rcases before.enqueueAll_cases records with ⟨reason, refused⟩ | ⟨sound, free, filed⟩
    · rw [refused]
      exact ih
    · obtain ⟨absent, distinct⟩ := Jobs.firstTaken?_eq_none_iff.1 free
      rw [filed]
      exact ih.append
        (Table.records_insertAll (fun record held => (absent record held).1) distinct)
  | @update before used record ih =>
    rcases before.update_cases record with ⟨reason, refused, -⟩ | ⟨sound, present, filed⟩
    · rw [refused]
      exact ih
    · rw [filed]
      exact ih.insert record
  | @claimNext before used now stamp calm ih =>
    have led := before.claimNext_claiming now stamp
    generalize before.claimNext now stamp = turn at led calm ⊢
    cases led with
    | refused poisoned => exact ih
    | nothing sound idle => exact ih
    | claimed sound record next room claim started => exact ih.insert claim
    | crashed sound record next full => exact absurd rfl (calm .counterOverflow)

/-- A claim that was handed out is kept by the store that handed it out. -/
theorem keeps_of_claimNext {held : Store} {claim : Record} {now stamp : Instant}
    (claimed : store.claimNext now stamp = (.ok (some claim), held)) : held.Keeps claim.id := by
  have led := store.claimNext_claiming now stamp
  rw [claimed] at led
  cases led with
  | claimed sound record next room claim started =>
    have filed : claim ∈ (store.value.insert claim).records := Table.mem_insert_self _ claim
    exact ⟨rfl, Table.contains_iff.2 ⟨claim, filed, rfl⟩⟩

/-- The record that ends a claim takes its place in a store that keeps it. -/
theorem Keeps.update (keeps : store.Keeps id) {ended : Record} (same : ended.id = id) :
    store.update ended = (.ok (), ⟨store.value.insert ended, false⟩) := by
  have present : store.value.contains ended.id = true := same ▸ keeps.present
  rcases store.update_cases ended with ⟨reason, -, poisoned | absent⟩ | ⟨-, -, filed⟩
  · rw [keeps.sound] at poisoned
    cases poisoned
  · rw [present] at absent
    cases absent
  · exact filed

end Store

/-- Whether jobs use the store that they are kept in only in the ways it offers. -/
structure Craft.UsesStore {Work World : Type} (craft : Craft Work (Store × World)) : Prop where
  run : ∀ work (state : Store × World), state.1.Used (craft.run work state).2.2.1
  giveUp : ∀ work (state : Store × World), state.1.Used (craft.giveUp work state).1

section

variable {Work σ : Type} {craft : Craft Work σ} {settings : Settings} {clock : Readings}
  {record : Record} {state : σ} {execution : Execution σ}

/-- A handled record does not run any more. -/
theorem Handling.rests {next : Record} {result : RunResult}
    (handling : Handling craft settings clock record state execution)
    (ending : execution.ending = .ok (next, result)) : next.status ≠ .running := by
  cases handling with
  | undecodable | expired | rejected | exhausted | unsaved =>
    cases ending
    exact Status.noConfusion
  | done =>
    cases ending
    exact Status.noConfusion
  | deferred work rebuilt inTime constraint unmet due later =>
    cases ending
    have ends : Mark.deferred due ≠ .running := Mark.noConfusion
    exact Mark.status_apply_ne_running ends clock.started clock.finished record
  | stuck | overflowing => cases ending
  | waiting work ready left after ran allowed payload saved next retried =>
    cases ending
    have ends : Mark.retry ((record.parameters.retryPolicy.getD settings.retryPolicy).delay
        record.attempt) ≠ .running := Mark.noConfusion
    have rests : (({ record with payload := payload } : Record).retry clock.started
        clock.finished ((record.parameters.retryPolicy.getD settings.retryPolicy).delay
          record.attempt)).2.status ≠ .running :=
      Mark.status_apply_ne_running ends clock.started clock.finished
        { record with payload := payload }
    rw [retried] at rests
    exact rests

/-- What the handling of a claimed record waits for: a delay, counted from an instant. -/
inductive Craft.Waits (craft : Craft Work σ) (settings : Settings) (clock : Readings)
    (record : Record) (state : σ) : Instant → Span → Prop where
  /-- A constraint is not met, and the job waits for the poll interval from the start of the run. -/
  | constraint (work : Work) (rebuilt : craft.rebuild record = .ok work)
    (inTime : record.isExpired clock.started = false) (constraint : String)
    (unmet : craft.unmet? record.parameters.constraints state = some constraint) :
    Waits craft settings clock record state clock.started settings.pollInterval
  /-- The job asked for another run that it may have, and waits for the delay of its policy from
  the end of the run. -/
  | backoff (work : Work) (ready : craft.Runs clock record state work) (left : Work) (after : σ)
    (ran : craft.run work state = (.retry, left, after))
    (allowed : record.parameters.limit.allowsAnother record.attempt = true) (payload : List UInt8)
    (saved : craft.save left = .ok payload) :
    Waits craft settings clock record state clock.finished
      ((record.parameters.retryPolicy.getD settings.retryPolicy).delay record.attempt)

/-- A record is marked for another run exactly if the time of that run can be represented. -/
theorem Record.retry_eq_error_iff {started now : Instant} {delay : Span} {cause : Crash} :
    (record.retry started now delay).1 = .error cause ↔
      cause = .instantOverflow ∧ now.add? delay.asDelay = none := by
  unfold Record.retry
  cases later : now.add? delay.asDelay with
  | none =>
    constructor
    · intro crashed
      cases crashed
      exact ⟨rfl, rfl⟩
    · rintro ⟨rfl, -⟩
      rfl
  | some due =>
    constructor
    · intro crashed
      cases crashed
    · rintro ⟨-, never⟩
      cases never

/-- A handling that crashes waits for an instant that cannot be represented. -/
theorem Handling.waits {cause : Crash}
    (handling : Handling craft settings clock record state execution)
    (crashed : execution.ending = .error cause) :
    cause = .instantOverflow ∧ ∃ start delay, craft.Waits settings clock record state start delay ∧
      start.add? delay.asDelay = none := by
  cases handling with
  | undecodable | expired | deferred | done | rejected | exhausted | unsaved | waiting =>
    cases crashed
  | stuck work rebuilt inTime constraint unmet never =>
    cases crashed
    exact ⟨rfl, _, _, .constraint work rebuilt inTime constraint unmet, never⟩
  | overflowing work ready left after ran allowed payload saved cause broken retried =>
    cases crashed
    obtain ⟨named, never⟩ := Record.retry_eq_error_iff.1 (congrArg Prod.fst retried)
    exact ⟨named, _, _, .backoff work ready left after ran allowed payload saved, never⟩

/-- A handling that waits for an instant that cannot be represented crashes. -/
theorem Craft.Waits.crashes {start : Instant} {delay : Span}
    (waits : craft.Waits settings clock record state start delay)
    (never : start.add? delay.asDelay = none) :
    (execute craft settings clock record state).ending = .error .instantOverflow := by
  cases waits with
  | constraint work rebuilt inTime constraint unmet =>
    simp only [execute, rebuilt, inTime, unmet, never, Bool.false_eq_true, if_false]
  | backoff work ready left after ran allowed payload saved =>
    have crashed : (({ record with payload := payload } : Record).retry clock.started
        clock.finished ((record.parameters.retryPolicy.getD settings.retryPolicy).delay
          record.attempt)).1 = .error .instantOverflow :=
      Record.retry_eq_error_iff.2 ⟨rfl, never⟩
    simp only [execute, ready.rebuilt, ready.inTime, ready.met, ran, rerun, allowed, saved,
      Bool.false_eq_true, if_false, if_true]
    generalize ({ record with payload := payload } : Record).retry clock.started clock.finished
      ((record.parameters.retryPolicy.getD settings.retryPolicy).delay record.attempt) = marked
      at crashed ⊢
    obtain ⟨answer, broken⟩ := marked
    change answer = _ at crashed
    rw [crashed]

end

section

variable {Work World : Type} {craft : Craft Work (Store × World)} {settings : Settings}
  {clock : Readings} {store held : Store} {world : World} {claim : Record}

/-- How a turn ends that has claimed a record, when the store keeps to what it offers while the
claim is handled. -/
inductive Concluding (craft : Craft Work (Store × World)) (settings : Settings) (clock : Readings)
    (kept : Store → Prop) (claim : Record) (held : Store) (world : World) :
    Turn (Store × World) → Prop where
  /-- The handling of the claim crashes. -/
  | crashed (cause : Crash) (after : Store × World)
    (executed : execute craft settings clock claim (held, world) = ⟨.error cause, after⟩) :
    Concluding craft settings clock kept claim held world ⟨.error (.crash cause), after⟩
  /-- The record with which the handling ends takes the place of the claim. -/
  | filed (ended : Record) (result : RunResult) (left : Store) (after : World)
    (executed : execute craft settings clock claim (held, world) =
      ⟨.ok (ended, result), (left, after)⟩)
    (still : kept left) (same : ended.SameJob claim) (rests : ended.status ≠ .running) :
    Concluding craft settings clock kept claim held world
      ⟨.ok (some ⟨ended.id, ended.factoryKey, result⟩),
        (⟨left.value.insert ended, false⟩, after)⟩

/-- The record that ends a claim takes its place in a store that keeps it. -/
theorem settle_of_keeps {left : Store} {ended : Record} (keeps : left.Keeps claim.id)
    (same : ended.id = claim.id) (result : RunResult) (after : World) :
    settle clock claim ⟨.ok (ended, result), (left, after)⟩ =
      ⟨.ok (some ⟨ended.id, ended.factoryKey, result⟩),
        (⟨left.value.insert ended, false⟩, after)⟩ := by
  apply settle_of_updated
  rw [update_beside, keeps.update same]

/-- A turn that has claimed a record ends in one of these ways, whatever it is that its job keeps to
in the use of the store. -/
theorem runNext_concluding {kept : Store → Prop}
    (claimed : store.claimNext clock.looked clock.claimed = (.ok (some claim), held))
    (keeps : ∀ left, kept left → left.Keeps claim.id) (holds : kept held)
    (run : ∀ work (state : Store × World), kept state.1 → kept (craft.run work state).2.2.1)
    (gaveUp : ∀ work (state : Store × World), kept state.1 → kept (craft.giveUp work state).1) :
    Concluding craft settings clock kept claim held world
      (runNext craft settings clock (store, world)) := by
  have handling := execute_handling craft settings clock claim (held, world)
  have still : kept (execute craft settings clock claim (held, world)).state.1 :=
    handling.preserves (fun work _ => run work _ holds) (fun work state => gaveUp work state) holds
  rw [runNext_of_claimNext claimed]
  cases executed : execute craft settings clock claim (held, world) with
  | mk ending state =>
    rw [executed] at handling still
    obtain ⟨left, after⟩ := state
    rcases ending with cause | ⟨ended, result⟩
    · exact .crashed cause _ executed
    · have same := (handling.ended rfl).1
      rw [settle_of_keeps (keeps left still) same.id]
      exact .filed ended result left after executed still same (handling.rests rfl)

/-- A claim is released when its turn ends: the turn answers with a report, and what the store then
keeps of the job does not run. -/
structure Released (claim : Record) (turn : Turn (Store × World)) : Prop where
  returned : ∃ result, turn.answer = .ok (some ⟨claim.id, claim.factoryKey, result⟩)
  rests : ∃ record, turn.state.1.value.get? claim.id = some record ∧ record.status ≠ .running

/-- A turn that crashes does not release a claim. -/
theorem not_released_of_crash {cause : Crash} {turn : Turn (Store × World)}
    (crashed : turn.answer = .error (.crash cause)) : ¬ Released claim turn := by
  rintro ⟨⟨result, returned⟩, -⟩
  rw [crashed] at returned
  cases returned

/-- A turn of the scheduler that has claimed a record releases it exactly if each wait that the turn
comes to ends at an instant that can be represented. If one does not, the turn crashes. -/
theorem claim_released_iff (uses : craft.UsesStore) (settings : Settings) (world : World)
    (claimed : store.claimNext clock.looked clock.claimed = (.ok (some claim), held)) :
    (Released claim (runNext craft settings clock (store, world)) ↔
      ∀ start delay, craft.Waits settings clock claim (held, world) start delay →
        (start.add? delay.asDelay).isSome = true) ∧
    (¬ Released claim (runNext craft settings clock (store, world)) →
      (runNext craft settings clock (store, world)).answer =
        .error (.crash .instantOverflow)) := by
  have concluding : Concluding craft settings clock (Store.Keeps claim.id) claim held world
      (runNext craft settings clock (store, world)) :=
    runNext_concluding claimed (fun _ keeps => keeps) (Store.keeps_of_claimNext claimed)
      (fun work state keeps => (uses.run work state).keeps keeps)
      (fun work state keeps => (uses.giveUp work state).keeps keeps)
  have handling := execute_handling craft settings clock claim (held, world)
  generalize runNext craft settings clock (store, world) = turn at concluding ⊢
  cases concluding with
  | crashed cause after executed =>
    rw [executed] at handling
    obtain ⟨rfl, start, delay, waits, never⟩ := handling.waits rfl
    have unreturned : ¬ Released claim
        (⟨.error (.crash .instantOverflow), after⟩ : Turn (Store × World)) :=
      not_released_of_crash rfl
    refine ⟨⟨fun released => absurd released unreturned, fun timely => ?_⟩, fun _ => rfl⟩
    have due := timely start delay waits
    rw [never] at due
    cases due
  | filed ended result left after executed still same rests =>
    have released : Released claim
        (⟨.ok (some ⟨ended.id, ended.factoryKey, result⟩),
          (⟨left.value.insert ended, false⟩, after)⟩ : Turn (Store × World)) := by
      refine ⟨⟨result, ?_⟩, ended, ?_, rests⟩
      · rw [same.id, same.factoryKey]
      · exact (Table.get?_insert ..).trans (if_pos same.id)
    have timely : ∀ start delay, craft.Waits settings clock claim (held, world) start delay →
        (start.add? delay.asDelay).isSome = true := by
      intro start delay waits
      rw [Option.isSome_iff_ne_none]
      intro never
      have crashed := waits.crashes never
      rw [executed] at crashed
      cases crashed
    exact ⟨⟨fun _ => timely, fun _ => released⟩, fun unreleased => absurd released unreleased⟩

end

/-- Crossings of a bridge that may be closed. Each crossing calls for another one. -/
def crossings (another : Record) : Craft Unit (Store × Bool) where
  key _ := "crossing"
  parameters _ := { queue := some "road", constraints := ["bridge"] }
  save _ := .ok []
  restore _ := some fun _ _ => .ok ()
  check _ state := some state.2
  run work state := (.success, work, (state.1.enqueue another).2, state.2)
  giveUp _ state := state

/-- The record of a crossing. -/
def crossing : Record :=
  .new default default "crossing" { queue := some "road", constraints := ["bridge"] } []

/-- The claim of that crossing. -/
def crossingClaim : Record := { crossing with status := .running, attempt := 1 }

/-- The store with that crossing alone. -/
def road : Store := (Store.empty.enqueue crossing).2

/-- The store while the crossing is claimed. -/
def roadTaken : Store := ⟨road.value.insert crossingClaim, false⟩

/-- The crossing is claimed first. -/
theorem claimNext_road :
    road.claimNext (Readings.still default).looked (Readings.still default).claimed =
      (.ok (some crossingClaim), roadTaken) := by
  cbv

/-- With the bridge closed, a crossing waits for the poll interval and is released. -/
theorem claim_released_iff_closed_bridge :
    (crossings crossing).UsesStore ∧
      Released crossingClaim (runNext (crossings crossing) Settings.standard (.still default)
        (road, false)) := by
  have uses : (crossings crossing).UsesStore :=
    ⟨fun _ _ => .enqueue .unused crossing, fun _ _ => .unused⟩
  refine ⟨uses, (claim_released_iff uses Settings.standard false claimNext_road).1.2 ?_⟩
  intro start delay waits
  cases waits with
  | constraint work rebuilt inTime constraint unmet => decide
  | backoff work ready =>
    have met := ready.met
    cases met

/-- Variables that ask for the longest poll interval there is. -/
def longestPoll (variableName : String) : Option String :=
  if variableName = Settings.pollVariable then some "9223372036854775807" else none

/-- The settings that they lead to. -/
def longPolling : Settings :=
  { Settings.standard with pollInterval := .ofMillis 9223372036854775807 }

/-- With a poll interval that is accepted but reaches beyond the last instant, the crossing is not
released, and nothing is handed out any more: its queue stays blocked. -/
theorem claim_kept_longest_poll :
    let turn := runNext (crossings crossing) longPolling (.still default) (road, false)
    Settings.ofVariables longestPoll = .ok longPolling ∧ ¬ Released crossingClaim turn ∧
      turn.answer = .error (.crash .instantOverflow) ∧
      turn.state.1.value.records = [crossingClaim] ∧ crossingClaim.status = .running ∧
      (turn.state.1.claimNext default default).1 = .ok none := by
  intro turn
  have accepted : Settings.ofVariables longestPoll = .ok longPolling := by
    have poll : Settings.spanOf longestPoll Settings.pollVariable =
        .ok (some (.ofMillis 9223372036854775807)) := by decide +kernel
    have base : Settings.spanOf longestPoll Settings.baseVariable = .ok none := by decide +kernel
    have longest : Settings.spanOf longestPoll Settings.longestVariable = .ok none := by
      decide +kernel
    unfold Settings.ofVariables
    rw [poll, base, longest]
    rfl
  have stuck : turn = ⟨.error (.crash .instantOverflow), (roadTaken, false)⟩ :=
    runNext_of_claimNext claimNext_road
  rw [stuck]
  exact ⟨accepted, not_released_of_crash rfl, rfl, by cbv, rfl, by cbv⟩

end Mailroom.Job
