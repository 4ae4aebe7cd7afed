import Mailroom.Proofs.Job.Store

/-!
# Workers on one store

Any number of workers share a store of jobs. New jobs are taken on, workers claim jobs, and a
worker that holds a claim ends its run by a mark on the record it was given, all in any order. A
`Workforce` is the store, the claims that are held and what was submitted so far.

`Orderly` is the invariant: the running records of the store are the claims, each as it was handed
out, and no two claims share a queue. A store that is poisoned has a job without room for one more
run. `Reachable.sound` says that every run keeps this, and from it follows that a queue has one job
in flight at a time.
-/

namespace Mailroom.Job

/-- A store of jobs, who works on it, and what it was given. -/
structure Workforce where
  store : Store
  /-- The claims that workers hold, each as it was handed out. -/
  claims : List Record
  /-- The records that were taken on, in this order. -/
  submitted : List Record

namespace Workforce

/-- An empty store that nobody works on. -/
def empty : Workforce := ⟨Store.empty, [], []⟩

/-- A job is submitted. -/
def enqueue (record : Record) (crew : Workforce) : Workforce :=
  match crew.store.enqueue record with
  | (.ok _, store) => { crew with store := store, submitted := crew.submitted ++ [record] }
  | (.error _, store) => { crew with store := store }

/-- Several jobs are submitted together. -/
def enqueueAll (records : List Record) (crew : Workforce) : Workforce :=
  match crew.store.enqueueAll records with
  | (.ok _, store) => { crew with store := store, submitted := crew.submitted ++ records }
  | (.error _, store) => { crew with store := store }

/-- A worker asks for the job to run next. -/
def claimNext (now stamp : Instant) (crew : Workforce) : Workforce :=
  match crew.store.claimNext now stamp with
  | (.ok (some claim), store) => { crew with store := store, claims := crew.claims ++ [claim] }
  | (_, store) => { crew with store := store }

/-- A worker hands in the record with which the run of its claim has ended. -/
def finish (ended : Record) (crew : Workforce) : Workforce where
  store := (crew.store.update ended).2
  claims := crew.claims.filter fun claim => decide (claim.id ≠ ended.id)
  submitted := crew.submitted

/-- One step of the store and its workers. -/
inductive Step (crew : Workforce) : Workforce → Prop where
  /-- A new job is submitted. -/
  | enqueue (record : Record) (fresh : record.status = .pending) : Step crew (crew.enqueue record)
  /-- New jobs are submitted together. -/
  | enqueueAll (records : List Record) (fresh : ∀ record ∈ records, record.status = .pending) :
    Step crew (crew.enqueueAll records)
  /-- A worker asks for a job. -/
  | claimNext (now stamp : Instant) : Step crew (crew.claimNext now stamp)
  /-- A worker ends the run of a claim that it holds. -/
  | finish (claim ended : Record) (mark : Mark) (started now : Instant) (held : claim ∈ crew.claims)
    (ends : mark ≠ .running) (marked : mark.apply started now claim = (.ok (), ended)) :
    Step crew (crew.finish ended)

/-- What any number of steps leads to from an empty store. -/
inductive Reachable : Workforce → Prop where
  | start : Reachable empty
  | next {crew next : Workforce} (reached : Reachable crew) (step : Step crew next) : Reachable next

/-- What a step can change. -/
inductive Change (crew : Workforce) : Workforce → Prop where
  /-- Nothing. -/
  | nothing : Change crew crew
  /-- New records, none of them running, come last in a sound store. -/
  | takenOn (sound : crew.store.poisoned = false) (records : List Record) (jobs : Jobs)
    (fresh : ∀ record ∈ records, record.status = .pending)
    (filed : jobs.records = crew.store.value.records ++ records) :
    Change crew { crew with store := ⟨jobs, false⟩, submitted := crew.submitted ++ records }
  /-- The job to run next is claimed. -/
  | claimed (sound : crew.store.poisoned = false) (record claim : Record) (now : Instant)
    (claimable : Jobs.Claimable now crew.store.value record) (same : claim.SameJob record)
    (running : claim.status = .running) :
    Change crew
      { crew with
        store := ⟨crew.store.value.insert claim, false⟩
        claims := crew.claims ++ [claim] }
  /-- The job to run next has no room for one more run, and the store is poisoned. -/
  | crashed (sound : crew.store.poisoned = false) (record broken : Record)
    (kept : record ∈ crew.store.value.records) (same : broken.SameJob record)
    (full : ¬ broken.attempt.toNat + 1 < UInt32.size) :
    Change crew { crew with store := ⟨crew.store.value.insert broken, true⟩ }
  /-- A claim has ended and its record takes the place of the one in a sound store. -/
  | ended (sound : crew.store.poisoned = false) (claim record : Record) (held : claim ∈ crew.claims)
    (same : record.SameJob claim) (rests : record.status ≠ .running) :
    Change crew
      { crew with
        store := ⟨crew.store.value.insert record, false⟩
        claims := crew.claims.filter fun claim => decide (claim.id ≠ record.id) }
  /-- A claim has ended whose record the store refuses. -/
  | dropped (claim record : Record) (held : claim ∈ crew.claims) (same : record.SameJob claim)
    (refused : crew.store.poisoned = true ∨ crew.store.value.contains record.id = false) :
    Change crew
      { crew with claims := crew.claims.filter fun claim => decide (claim.id ≠ record.id) }

/-- A step changes nothing else. -/
theorem Step.change {crew next : Workforce} (step : Step crew next) : Change crew next := by
  cases step with
  | enqueue record fresh =>
    unfold Workforce.enqueue
    rcases Store.enqueue_cases record crew.store with ⟨reason, refused⟩ | ⟨sound, absent, filed⟩
    · rw [refused]
      exact .nothing
    · rw [filed]
      refine .takenOn sound [record] _ ?_ (Table.records_insert_of_absent absent)
      simpa using fresh
  | enqueueAll records fresh =>
    unfold Workforce.enqueueAll
    rcases Store.enqueueAll_cases records crew.store with ⟨reason, refused⟩ | ⟨sound, free, filed⟩
    · rw [refused]
      exact .nothing
    · rw [filed]
      obtain ⟨absent, distinct⟩ := Jobs.firstTaken?_eq_none_iff.1 free
      exact .takenOn sound records _ fresh
        (Table.records_insertAll (fun record held => (absent record held).1) distinct)
  | claimNext now stamp =>
    unfold Workforce.claimNext
    have led := crew.store.claimNext_claiming now stamp
    generalize crew.store.claimNext now stamp = turn at led ⊢
    cases led with
    | refused poisoned => exact .nothing
    | nothing sound idle => exact .nothing
    | claimed sound record next room claim started =>
      subst started
      exact .claimed sound record _ now (.of_candidate? next) ⟨rfl, rfl, rfl, rfl⟩ rfl
    | crashed sound record next full =>
      exact .crashed sound record _ (Jobs.Claimable.of_candidate? next).kept ⟨rfl, rfl, rfl, rfl⟩
        full
  | finish claim ended mark started now held ends marked =>
    have same : ended.SameJob claim := by
      have kept := mark.apply_sameJob started now claim
      rwa [marked] at kept
    have rests : ended.status ≠ .running := by
      have kept := Mark.status_apply_ne_running ends started now claim
      rwa [marked] at kept
    unfold Workforce.finish
    rcases Store.update_cases ended crew.store with ⟨reason, refused, why⟩ | ⟨sound, -, filed⟩
    · rw [refused]
      exact .dropped claim ended held same why
    · rw [filed]
      exact .ended sound claim ended held same rests

/-- The claims are the running jobs, and no two of them share a queue. -/
structure Orderly (crew : Workforce) : Prop where
  /-- The running records of the store are those that were handed out. -/
  claims_iff : ∀ record,
    record ∈ crew.claims ↔ record ∈ crew.store.value.records ∧ record.status = .running
  /-- No job is claimed twice. -/
  distinct : (crew.claims.map Record.id).Nodup
  /-- A queue has at most one claim. -/
  alone : ∀ left ∈ crew.claims, ∀ right ∈ crew.claims, left.SharesQueue right → left = right

/-- A store that is not poisoned is worked on in order, and one that is has a job without room for
one more run. -/
structure Sound (crew : Workforce) : Prop where
  orderly : crew.store.poisoned = false → crew.Orderly
  full : crew.store.poisoned = true →
    ∃ record ∈ crew.store.value.records, ¬ record.attempt.toNat + 1 < UInt32.size

/-- An empty store is sound. -/
theorem sound_empty : empty.Sound := by
  refine ⟨fun _ => ⟨?_, List.nodup_nil, ?_⟩, fun poisoned => ?_⟩
  · intro record
    simp [empty, Store.empty, Table.empty]
  · intro left held
    cases held
  · cases poisoned

/-- Taking on jobs that do not run keeps the order. -/
theorem Orderly.takenOn {crew : Workforce} (orderly : crew.Orderly) {records : List Record}
    {jobs : Jobs} (fresh : ∀ record ∈ records, record.status = .pending)
    (filed : jobs.records = crew.store.value.records ++ records) (submitted : List Record) :
    Orderly ⟨⟨jobs, false⟩, crew.claims, submitted⟩ := by
  refine ⟨fun record => ?_, orderly.distinct, orderly.alone⟩
  show record ∈ crew.claims ↔ record ∈ jobs.records ∧ record.status = .running
  rw [filed, List.mem_append, orderly.claims_iff]
  constructor
  · rintro ⟨kept, running⟩
    exact ⟨.inl kept, running⟩
  · rintro ⟨kept | new, running⟩
    · exact ⟨kept, running⟩
    · have waits := fresh record new
      rw [running] at waits
      cases waits

/-- A record that can be claimed is not claimed. -/
theorem Orderly.id_ne_of_claimable {crew : Workforce} (orderly : crew.Orderly) {now : Instant}
    {record : Record} (claimable : Jobs.Claimable now crew.store.value record) :
    ∀ claim ∈ crew.claims, claim.id ≠ record.id := by
  intro claim held same
  obtain ⟨kept, running⟩ := (orderly.claims_iff claim).1 held
  obtain rfl : claim = record := Table.eq_of_key_eq kept claimable.kept same
  have ready := claimable.ready
  rw [Record.isReady, running] at ready
  cases ready

/-- Claiming the job to run next keeps the order. -/
theorem Orderly.claimed {crew : Workforce} (orderly : crew.Orderly) {record claim : Record}
    {now : Instant} (claimable : Jobs.Claimable now crew.store.value record)
    (same : claim.SameJob record) (running : claim.status = .running) :
    Orderly ⟨⟨crew.store.value.insert claim, false⟩, crew.claims ++ [claim], crew.submitted⟩ := by
  have unclaimed : ∀ other ∈ crew.claims, other.id ≠ claim.id := by
    rw [same.id]
    exact orderly.id_ne_of_claimable claimable
  have apart : ∀ other ∈ crew.claims, ¬ claim.SharesQueue other := by
    rintro other held ⟨queue, hc, ho⟩
    obtain ⟨kept, busy⟩ := (orderly.claims_iff other).1 held
    exact claimable.idle other kept busy ⟨queue, same.queue ▸ hc, ho⟩
  refine ⟨fun other => ?_, ?_, ?_⟩
  · show other ∈ crew.claims ++ [claim] ↔
      other ∈ (crew.store.value.insert claim).records ∧ other.status = .running
    rw [List.mem_append, List.mem_singleton, Table.mem_insert]
    constructor
    · rintro (held | rfl)
      · obtain ⟨kept, busy⟩ := (orderly.claims_iff other).1 held
        exact ⟨.inr ⟨kept, unclaimed other held⟩, busy⟩
      · exact ⟨.inl rfl, running⟩
    · rintro ⟨rfl | ⟨kept, -⟩, busy⟩
      · exact .inr rfl
      · exact .inl ((orderly.claims_iff other).2 ⟨kept, busy⟩)
  · show ((crew.claims ++ [claim]).map Record.id).Nodup
    rw [List.map_append, List.nodup_append]
    refine ⟨orderly.distinct, by simp, ?_⟩
    intro id held other once
    rw [List.map_singleton, List.mem_singleton] at once
    obtain ⟨source, hs, rfl⟩ := List.mem_map.1 held
    rw [once]
    exact unclaimed source hs
  · intro left hl right hr shared
    rw [List.mem_append, List.mem_singleton] at hl hr
    rcases hl with hl | rfl <;> rcases hr with hr | rfl
    · exact orderly.alone left hl right hr shared
    · obtain ⟨queue, first, second⟩ := shared
      exact absurd ⟨queue, second, first⟩ (apart left hl)
    · exact absurd shared (apart right hr)
    · rfl

/-- Ending the run of a claim keeps the order. -/
theorem Orderly.ended {crew : Workforce} (orderly : crew.Orderly) {record : Record}
    (rests : record.status ≠ .running) :
    Orderly ⟨⟨crew.store.value.insert record, false⟩,
      crew.claims.filter fun claim => decide (claim.id ≠ record.id), crew.submitted⟩ := by
  have held : ∀ {claim}, claim ∈ crew.claims.filter (fun claim => decide (claim.id ≠ record.id)) ↔
      claim ∈ crew.claims ∧ claim.id ≠ record.id := by
    intro claim
    rw [List.mem_filter, decide_eq_true_eq]
  refine ⟨fun other => ?_, ?_, ?_⟩
  · show other ∈ crew.claims.filter _ ↔
      other ∈ (crew.store.value.insert record).records ∧ other.status = .running
    rw [held, Table.mem_insert, orderly.claims_iff]
    constructor
    · rintro ⟨⟨kept, running⟩, different⟩
      exact ⟨.inr ⟨kept, different⟩, running⟩
    · rintro ⟨rfl | ⟨kept, different⟩, running⟩
      · exact absurd running rests
      · exact ⟨⟨kept, running⟩, different⟩
  · exact orderly.distinct.sublist (List.filter_sublist.map Record.id)
  · intro left hl right hr shared
    exact orderly.alone left (held.1 hl).1 right (held.1 hr).1 shared

/-- What a step changes keeps a workforce sound. -/
theorem Change.sound {crew next : Workforce} (change : Change crew next) (sound : crew.Sound) :
    next.Sound := by
  cases change with
  | nothing => exact sound
  | takenOn intact records jobs fresh filed =>
    refine ⟨fun _ => (sound.orderly intact).takenOn fresh filed _, fun poisoned => ?_⟩
    cases poisoned
  | claimed intact record claim now claimable same running =>
    refine ⟨fun _ => (sound.orderly intact).claimed claimable same running, fun poisoned => ?_⟩
    cases poisoned
  | crashed intact record broken kept same full =>
    refine ⟨fun unpoisoned => ?_, fun _ => ⟨broken, Table.mem_insert_self _ _, full⟩⟩
    cases unpoisoned
  | ended intact claim record held same rests =>
    refine ⟨fun _ => (sound.orderly intact).ended rests, fun poisoned => ?_⟩
    cases poisoned
  | dropped claim record held same refused =>
    refine ⟨fun unpoisoned => ?_, sound.full⟩
    rcases refused with poisoned | absent
    · exact absurd poisoned (by rw [unpoisoned]; exact Bool.noConfusion)
    · -- the record of a claim is in the store, so its replacement cannot be refused
      have kept := (((sound.orderly unpoisoned).claims_iff claim).1 held).1
      have present := Table.contains_iff.2 ⟨claim, kept, same.id.symm⟩
      rw [absent] at present
      cases present

/-- Every run keeps a workforce sound. -/
theorem Reachable.sound {crew : Workforce} (reached : crew.Reachable) : crew.Sound := by
  induction reached with
  | start => exact sound_empty
  | next _ step ih => exact step.change.sound ih

end Workforce

end Mailroom.Job
