import Mathlib.Data.List.Basic
import Mailroom.Proofs.Job.Bookkeeping

/-!
# The end of a job

A job that has ended is left alone: no step of the schedulers changes its record or calls anything
on it, and no record is ever removed. How often a job is run and given up until then can be counted
from the visits. `Told` is the invariant: what the visits of a job add up to, by whether its record
has ended. `Timely` says it of a visit and those before it.

A run counts when its visit ends. `ended_for_good` is the account of a whole run of the schedulers.
-/

namespace Mailroom.Job

namespace JobError

/-- A text begins as its front does. -/
theorem head?_append {front : String} {letter : Char} (begins : front.toList.head? = some letter)
    (rest : String) : (front ++ rest).toList.head? = some letter := by
  rw [String.toList_append, List.head?_append, begins, Option.some_or]

/-- No failure is worded like the end of the attempts. -/
theorem message_ne (error : JobError) : error.message ≠ "attempts exhausted" := by
  have other : ∃ letter, letter ≠ 'a' ∧ error.message.toList.head? = some letter := by
    cases error with
    | serialize key reason =>
      exact ⟨'f', by decide, head?_append (head?_append (head?_append rfl _) _) _⟩
    | decode key reason =>
      exact ⟨'f', by decide, head?_append (head?_append (head?_append rfl _) _) _⟩
    | unknownFactory key => exact ⟨'n', by decide, head?_append rfl _⟩
    | store error =>
      cases error with
      | notFound id => exact ⟨'j', by decide, head?_append rfl _⟩
      | alreadyExists id => exact ⟨'j', by decide, head?_append rfl _⟩
      | storage reason => exact ⟨'s', by decide, head?_append rfl _⟩
  intro same
  obtain ⟨letter, different, begins⟩ := other
  rw [same] at begins
  exact different (Option.some.inj begins).symm

end JobError

namespace AttemptLimit

/-- Whether a limit admits a number of runs; the first run is always admitted. -/
def Admits (limit : AttemptLimit) (runs : Nat) : Prop :=
  ∀ most, limit = .limited most → runs ≤ max most.toNat 1

/-- The first run is always admitted. -/
theorem admits_one (limit : AttemptLimit) : limit.Admits 1 := fun _ _ => Nat.le_max_right _ _

/-- What admits a number of runs admits fewer. -/
theorem Admits.mono {limit : AttemptLimit} {more fewer : Nat} (admits : limit.Admits more)
    (le : fewer ≤ more) : limit.Admits fewer :=
  fun most same => le.trans (admits most same)

/-- A job that may have another run is admitted to it. -/
theorem admits_of_allowsAnother {limit : AttemptLimit} {attempt : UInt32}
    (allowed : limit.allowsAnother attempt = true) : limit.Admits (attempt.toNat + 1) := by
  rintro most rfl
  have below : attempt < most := of_decide_eq_true allowed
  exact Nat.le_trans (UInt32.lt_iff_toNat_lt.1 below) (Nat.le_max_left _ _)

/-- Of the runs that a limit admits, exactly the last one may not be followed by another. -/
theorem allowsAnother_eq_false_iff {limit : AttemptLimit} {attempt : UInt32}
    (begun : 1 ≤ attempt.toNat) (admits : limit.Admits attempt.toNat) :
    limit.allowsAnother attempt = false ↔
      ∃ most, limit = .limited most ∧ attempt.toNat = max most.toNat 1 := by
  cases limit with
  | unlimited => simp [allowsAnother]
  | limited most =>
    have bound := admits most rfl
    rw [allowsAnother, decide_eq_false_iff_not, UInt32.lt_iff_toNat_lt]
    constructor
    · intro reached
      exact ⟨most, rfl, by omega⟩
    · rintro ⟨other, same, last⟩
      cases same
      omega

end AttemptLimit

namespace Visit

/-- How often calls of one kind were made in visits. -/
def total (kind : JobCall → Bool) (visits : List Visit) : Nat := (visits.flatMap calls).countP kind

/-- A visit adds its calls. -/
@[simp] theorem total_append (kind : JobCall → Bool) (visits : List Visit) (visit : Visit) :
    total kind (visits ++ [visit]) = total kind visits + visit.calls.countP kind := by
  simp [total]

/-- The visits of a job. -/
def ofJob (id : JobId) (visits : List Visit) : List Visit :=
  visits.filter fun visit => decide (visit.claim.id = id)

/-- A visit is one of its job. -/
theorem ofJob_append_self (visits : List Visit) (visit : Visit) :
    ofJob visit.claim.id (visits ++ [visit]) = ofJob visit.claim.id visits ++ [visit] := by
  simp [ofJob]

/-- A visit is none of another job. -/
theorem ofJob_append_of_ne {visit : Visit} {id : JobId} (other : visit.claim.id ≠ id)
    (visits : List Visit) : ofJob id (visits ++ [visit]) = ofJob id visits := by
  simp [ofJob, other]

namespace Course

variable {clock : Readings} {visit : Visit}

/-- A visit runs its job once at most. -/
theorem run_le (course : visit.Course clock) : visit.calls.countP JobCall.isRun ≤ 1 := by
  cases course with
  | undecodable | expired | deferred => exact Nat.zero_le 1
  | done | rejected | exhausted | unsaved | waiting => exact Nat.le_refl 1

/-- A job whose visit leaves it failed was given up once if it could be rebuilt, and else not. -/
theorem gaveUp (course : visit.Course clock) {reason : String} {attempts : UInt32}
    (failed : visit.ended.status = .failed reason attempts) :
    visit.calls.countP JobCall.isGiveUp = if visit.rebuilt then 1 else 0 := by
  cases course with
  | undecodable | expired | rejected | exhausted | unsaved => rfl
  | done | waiting => cases failed
  | deferred claim due constraint =>
    rw [claim.status_defer due clock.finished] at failed
    split at failed
    · cases failed
    · cases failed

/-- A job whose visit does not leave it failed was not given up. -/
theorem spared (course : visit.Course clock)
    (unfailed : ∀ reason attempts, visit.ended.status ≠ .failed reason attempts) :
    visit.calls.countP JobCall.isGiveUp = 0 := by
  cases course with
  | undecodable | expired | rejected | exhausted | unsaved => exact absurd rfl (unfailed _ _)
  | done | waiting | deferred => rfl

end Course

end Visit

open Visit

/-- What the visits of a job tell, given its record. -/
inductive Told (record : Record) (visits : List Visit) : Prop where
  /-- The job has not ended. It was run once for each entry of its history and may be run again. -/
  | unended (lasts : record.status.isTerminal = false)
    (ran : total JobCall.isRun visits = record.history.length)
    (spared : total JobCall.isGiveUp visits = 0)
    (admits : record.parameters.limit.Admits (record.history.length + 1))
  /-- The job has ended with its last visit. -/
  | ended (past : List Visit) (last : Visit) (split : visits = past ++ [last])
    (terminal : record.status.isTerminal = true) (left : last.ended = record) (clock : Readings)
    (course : last.Course clock) (spared : total JobCall.isGiveUp past = 0)
    (admits : record.parameters.limit.Admits (total JobCall.isRun past + 1))

namespace Told

/-- Nothing is told of a job that nobody has claimed yet. -/
theorem of_isNew {record : Record} (fresh : record.IsNew) : Told record [] := by
  refine .unended ?_ ?_ rfl ?_
  · rw [fresh.pending]
    rfl
  · rw [fresh.unrun]
    rfl
  · rw [fresh.unrun]
    exact AttemptLimit.admits_one _

/-- A claim leaves what is told of the job. -/
theorem claimed {clock : Readings} {store : Store} {record claim : Record} {visits : List Visit}
    (claimed : Claimed clock store record claim) (told : Told record visits) :
    Told claim visits := by
  have lasts := Jobs.not_isTerminal_of_isReady (Jobs.Claimable.of_candidate? claimed.next).ready
  obtain rfl := claimed.started
  cases told with
  | unended _ ran spared admits => exact .unended rfl ran spared admits
  | ended past last split terminal =>
    rw [lasts] at terminal
    cases terminal

/-- A visit goes on with what is told of the job. -/
theorem visited {clock : Readings} {visit : Visit} {visits : List Visit}
    (told : Told visit.claim visits) (inHand : visit.claim.InHand) (course : visit.Course clock) :
    Told visit.ended (visits ++ [visit]) := by
  cases told with
  | ended past last split terminal =>
    rw [inHand.running] at terminal
    cases terminal
  | unended lasts ran spared admits =>
    have ran' : visit.claim.parameters.limit.Admits (total JobCall.isRun visits + 1) := ran ▸ admits
    cases course with
    | undecodable claim reason =>
      exact .ended visits _ rfl rfl rfl clock (.undecodable claim reason) spared ran'
    | expired claim => exact .ended visits _ rfl rfl rfl clock (.expired claim) spared ran'
    | done claim => exact .ended visits _ rfl rfl rfl clock (.done claim) spared ran'
    | rejected claim reason =>
      exact .ended visits _ rfl rfl rfl clock (.rejected claim reason) spared ran'
    | exhausted claim last =>
      exact .ended visits _ rfl rfl rfl clock (.exhausted claim last) spared ran'
    | unsaved claim allowed reason =>
      exact .ended visits _ rfl rfl rfl clock (.unsaved claim allowed reason) spared ran'
    | deferred claim due constraint =>
      refine .unended ?_ ?_ ?_ admits
      · show (claim.defer due clock.finished).status.isTerminal = false
        rw [claim.status_defer due clock.finished]
        split
        · rfl
        · rfl
      · rw [total_append, ran]
        rfl
      · rw [total_append, spared]
        rfl
    | waiting claim allowed payload due =>
      refine .unended rfl ?_ ?_ ?_
      · rw [total_append, ran]
        show claim.history.length + 1 = (claim.history ++ [_]).length
        rw [List.length_append, List.length_singleton]
      · rw [total_append, spared]
        rfl
      · show claim.parameters.limit.Admits ((claim.history ++ [_]).length + 1)
        rw [List.length_append, List.length_singleton, ← inHand.counted]
        exact AttemptLimit.admits_of_allowsAnother allowed

end Told

/-- Whether a visit came at its time: the job had one run for each entry of the history, and one
more was admitted. -/
structure Timely (before : List Visit) (visit : Visit) : Prop where
  course : ∃ clock, visit.Course clock
  inHand : visit.claim.InHand
  ran : total JobCall.isRun (ofJob visit.claim.id before) = visit.claim.history.length
  admits : visit.claim.parameters.limit.Admits (visit.claim.history.length + 1)

namespace Timely

variable {before : List Visit} {visit : Visit}

/-- The visit of a job that is in hand comes at its time. -/
theorem of_told {clock : Readings} (told : Told visit.claim (ofJob visit.claim.id before))
    (inHand : visit.claim.InHand) (course : visit.Course clock) : Timely before visit := by
  cases told with
  | unended lasts ran spared admits => exact ⟨⟨clock, course⟩, inHand, ran, admits⟩
  | ended past last split terminal =>
    rw [inHand.running] at terminal
    cases terminal

/-- A visit in which the job was run is its run of the number that it has. -/
theorem run_number (timely : Timely before visit) (ran : visit.calls.countP JobCall.isRun = 1) :
    total JobCall.isRun (ofJob visit.claim.id (before ++ [visit])) = visit.claim.attempt.toNat := by
  rw [ofJob_append_self, total_append, timely.ran, ran, timely.inHand.counted]

/-- A job that asks for another run is refused it in the last run that its limit admits, and in no
other. -/
theorem refused_iff (timely : Timely before visit) (asked : visit.answer = some .retry) :
    visit.ended.status = .failed "attempts exhausted" visit.claim.attempt ↔
      ∃ most, visit.claim.parameters.limit = .limited most ∧
        total JobCall.isRun (ofJob visit.claim.id (before ++ [visit])) = max most.toNat 1 := by
  obtain ⟨clock, course⟩ := timely.course
  have begun : 1 ≤ visit.claim.attempt.toNat := by
    rw [timely.inHand.counted]
    exact Nat.le_add_left 1 _
  have admits := timely.admits
  rw [← timely.inHand.counted] at admits
  have last_iff := AttemptLimit.allowsAnother_eq_false_iff begun admits
  cases course with
  | undecodable | expired | deferred | done | rejected => cases asked
  | exhausted claim last =>
    rw [timely.run_number rfl]
    exact iff_of_true rfl (last_iff.1 last)
  | unsaved claim allowed reason =>
    rw [timely.run_number rfl]
    refine iff_of_false (fun worded => ?_) (fun last => ?_)
    · exact reason.message_ne (Status.failed.inj worded).1
    · rw [last_iff.2 last] at allowed
      cases allowed
  | waiting claim allowed payload due =>
    rw [timely.run_number rfl]
    refine iff_of_false Status.noConfusion (fun last => ?_)
    rw [last_iff.2 last] at allowed
    cases allowed

/-- Only a job that asked for another run is given up in the words for that, unless it chose them
itself. -/
theorem answer_of_exhausted (timely : Timely before visit) {attempts : UInt32}
    (exhausted : visit.ended.status = .failed "attempts exhausted" attempts) :
    visit.answer = some .retry ∨
      visit.answer = some (.permanentFailure "attempts exhausted") := by
  obtain ⟨clock, course⟩ := timely.course
  cases course with
  | exhausted | unsaved => exact .inl rfl
  | done | waiting => cases exhausted
  | undecodable claim reason =>
    exact absurd (Status.failed.inj exhausted).1 reason.message_ne
  | expired claim => exact absurd (Status.failed.inj exhausted).1 (by decide)
  | rejected claim reason =>
    obtain rfl := (Status.failed.inj exhausted).1
    exact .inr rfl
  | deferred claim due constraint =>
    rw [claim.status_defer due clock.finished] at exhausted
    split at exhausted
    · cases exhausted
    · cases exhausted

/-- A claim that is given back for a constraint calls nothing and takes its run off the count. -/
theorem deferred (timely : Timely before visit) {constraint : String}
    (deferred : visit.result = .deferred constraint) :
    visit.calls = [] ∧ visit.ended.attempt.toNat + 1 = visit.claim.attempt.toNat := by
  have inHand := timely.inHand
  obtain ⟨clock, course⟩ := timely.course
  cases course with
  | undecodable | expired | done | rejected | exhausted | unsaved | waiting => cases deferred
  | deferred claim due constraint =>
    refine ⟨rfl, ?_⟩
    rw [inHand.attempt_defer due clock.finished, inHand.counted]

end Timely

/-- Whether every visit of a list came at its time. -/
def Chronicle (visits : List Visit) : Prop :=
  ∀ before visit after, visits = before ++ visit :: after → Timely before visit

/-- A chronicle goes on with a visit that comes at its time. -/
theorem Chronicle.append {visits : List Visit} (chronicle : Chronicle visits) {visit : Visit}
    (timely : Timely visits visit) : Chronicle (visits ++ [visit]) := by
  intro before other after split
  rcases List.eq_nil_or_concat after with rfl | ⟨front, last, rfl⟩
  · obtain ⟨rfl, same⟩ := List.append_inj' split rfl
    obtain rfl := List.singleton_inj.1 same
    exact timely
  · rw [List.concat_eq_append, ← List.cons_append, ← List.append_assoc] at split
    exact chronicle before other front (List.append_inj' split rfl).1

namespace Bureau

/-- The visits of a bureau add up to its records, and each came at its time. -/
structure Regular (bureau : Bureau) : Prop where
  told : ∀ record ∈ bureau.store.value.records, Told record (ofJob record.id bureau.visits)
  known : ∀ visit ∈ bureau.visits, bureau.store.value.contains visit.claim.id = true
  chronicle : Chronicle bureau.visits

/-- A bureau that nobody has worked on is regular. -/
theorem regular_empty : empty.Regular := by
  refine ⟨?_, ?_, ?_⟩
  · intro record kept
    cases kept
  · intro visit made
    cases made
  · intro before visit after split
    exact absurd split (by simp [empty])

/-- What a step changes keeps a bureau regular. -/
theorem Change.regular {bureau later : Bureau} (change : Change bureau later)
    (sound : bureau.Sound) (standing : bureau.Standing) (regular : bureau.Regular) :
    later.Regular := by
  cases change with
  | nothing => exact regular
  | takenOn records jobs fresh filed =>
    have distinct := jobs.distinct
    rw [filed, List.map_append, List.nodup_append] at distinct
    refine ⟨fun record kept => ?_, fun visit made => ?_, regular.chronicle⟩
    · change record ∈ jobs.records at kept
      rw [filed] at kept
      rcases List.mem_append.1 kept with old | new
      · exact regular.told record old
      · have unvisited : ofJob record.id bureau.visits = [] := by
          refine List.filter_eq_nil_iff.2 fun visit made same => ?_
          obtain ⟨other, kept, here⟩ := Table.contains_iff.1 (regular.known visit made)
          exact distinct.2.2 other.id (List.mem_map_of_mem kept) record.id
            (List.mem_map_of_mem new) (here.trans (of_decide_eq_true same))
        show Told record (ofJob record.id bureau.visits)
        rw [unvisited]
        exact .of_isNew (fresh record new)
    · obtain ⟨record, kept, same⟩ := Table.contains_iff.1 (regular.known visit made)
      refine Table.contains_iff.2 ⟨record, ?_, same⟩
      show record ∈ jobs.records
      rw [filed]
      exact List.mem_append_left _ kept
  | claimed clock record claim claimed =>
    refine ⟨fun other kept => ?_, fun visit made => ?_, regular.chronicle⟩
    · rcases Table.mem_insert.1 kept with rfl | ⟨old, -⟩
      · rw [claimed.sameJob.id]
        exact (regular.told record claimed.kept).claimed claimed
      · exact regular.told other old
    · rw [Table.contains_insert, regular.known visit made, Bool.or_true]
  | ended clock visit held course =>
    have inHand := standing.inHand sound held
    obtain ⟨kept, -⟩ := (sound.orderly.claims_iff visit.claim).1 held
    have told := regular.told visit.claim kept
    refine ⟨fun other kept => ?_, fun other made => ?_, ?_⟩
    · show Told other (ofJob other.id (bureau.visits ++ [visit]))
      rcases Table.mem_insert.1 kept with rfl | ⟨old, different⟩
      · rw [course.sameJob.id, ofJob_append_self]
        exact told.visited inHand course
      · rw [ofJob_append_of_ne (course.sameJob.id ▸ different.symm)]
        exact regular.told other old
    · rw [Table.contains_insert, Bool.or_eq_true]
      rcases List.mem_append.1 made with old | new
      · exact .inr (regular.known other old)
      · obtain rfl := List.mem_singleton.1 new
        exact .inr (Table.contains_iff.2 ⟨_, kept, rfl⟩)
    · exact regular.chronicle.append (.of_told told inHand course)

/-- Every run keeps a bureau regular. -/
theorem Reachable.regular {bureau : Bureau} (reached : bureau.Reachable) : bureau.Regular := by
  induction reached with
  | here => exact regular_empty
  | next leads step ih =>
    have sound := Reachable.sound leads
    exact (step.change sound).regular sound (Reachable.standing leads) ih

/-- What a later bureau has to do with the record of a job: there still is one, and if the job had
ended, then it is the same and nothing has been called on the job since. -/
def Keeps (bureau later : Bureau) (id : JobId) (record : Record) : Prop :=
  ∃ now, later.store.value.get? id = some now ∧
    (record.status.isTerminal = true →
      now = record ∧ ofJob id later.visits = ofJob id bureau.visits)

/-- A step keeps every record, and leaves a job alone that has ended. -/
theorem Change.keeps {bureau later : Bureau} (change : Change bureau later)
    (sound : bureau.Sound) {id : JobId} {record : Record}
    (found : bureau.store.value.get? id = some record) : Keeps bureau later id record := by
  cases change with
  | nothing => exact ⟨record, found, fun _ => ⟨rfl, rfl⟩⟩
  | takenOn records jobs fresh filed =>
    refine ⟨record, ?_, fun _ => ⟨rfl, rfl⟩⟩
    obtain ⟨kept, here⟩ := Table.get?_eq_some_iff.1 found
    refine Table.get?_eq_some_iff.2 ⟨?_, here⟩
    show record ∈ jobs.records
    rw [filed]
    exact List.mem_append_left _ kept
  | claimed clock next claim claimed =>
    obtain ⟨now, holds, -, rfl | ⟨rfl, rfl⟩⟩ :=
      Jobs.get?_insert_sameJob claimed.kept claimed.sameJob found
    · exact ⟨now, holds, fun _ => ⟨rfl, rfl⟩⟩
    · refine ⟨_, holds, fun terminal => ?_⟩
      have ready := (Jobs.Claimable.of_candidate? claimed.next).ready
      rw [Jobs.not_isTerminal_of_isReady ready] at terminal
      cases terminal
  | ended clock visit held course =>
    obtain ⟨kept, running⟩ := (sound.orderly.claims_iff visit.claim).1 held
    have lasts : visit.claim.status.isTerminal = false := by
      rw [running]
      rfl
    obtain ⟨now, holds, -, same⟩ := Jobs.get?_insert_sameJob kept course.sameJob found
    refine ⟨now, holds, fun terminal => ?_⟩
    have other : record ≠ visit.claim := by
      rintro rfl
      rw [lasts] at terminal
      cases terminal
    rcases same with rfl | ⟨rfl, -⟩
    · refine ⟨rfl, ofJob_append_of_ne (fun visited => other ?_) _⟩
      exact Table.eq_of_key_eq (Table.mem_of_get? found) kept
        ((Table.key_of_get? found).trans visited.symm)
    · exact absurd rfl other

/-- A run keeps every record, and leaves a job alone that has ended. -/
theorem Leads.keeps {bureau later : Bureau} (leads : bureau.Leads later) (sound : bureau.Sound)
    {id : JobId} {record : Record} (found : bureau.store.value.get? id = some record) :
    Keeps bureau later id record := by
  induction leads with
  | here => exact ⟨record, found, fun _ => ⟨rfl, rfl⟩⟩
  | next leads step ih =>
    obtain ⟨between, holds, same⟩ := ih
    have reached := leads.sound sound
    obtain ⟨now, holdsNow, sameNow⟩ := (step.change reached).keeps reached holds
    refine ⟨now, holdsNow, fun terminal => ?_⟩
    obtain ⟨rfl, unvisited⟩ := same terminal
    obtain ⟨rfl, unvisitedNow⟩ := sameNow terminal
    exact ⟨rfl, unvisitedNow.trans unvisited⟩

/-- What the visits of a bureau say about how often jobs were run and given up. -/
structure Counts (bureau : Bureau) : Prop where
  /-- A job with a limit is run at most that often, but once in any case. A claim that is being
  handled counts as a run here, as it may come to one. -/
  limited : ∀ record ∈ bureau.store.value.records, ∀ most,
    record.parameters.limit = .limited most →
      total JobCall.isRun (ofJob record.id bureau.visits) +
        (bureau.claims.map Record.id).count record.id ≤ max most.toNat 1
  /-- A job that asks for another run is refused it in the last run that its limit admits, and in
  no other. -/
  refused_iff : ∀ before visit after, bureau.visits = before ++ visit :: after →
    visit.answer = some .retry →
      (visit.ended.status = .failed "attempts exhausted" visit.claim.attempt ↔
        ∃ most, visit.claim.parameters.limit = .limited most ∧
          total JobCall.isRun (ofJob visit.claim.id (before ++ [visit])) = max most.toNat 1)
  /-- Only a job that asks for another run ends in these words, unless it chose them itself. -/
  exhausted : ∀ visit ∈ bureau.visits, ∀ attempts,
    visit.ended.status = .failed "attempts exhausted" attempts →
      visit.answer = some .retry ∨ visit.answer = some (.permanentFailure "attempts exhausted")
  /-- A claim that is given back for a constraint calls nothing and does not count. -/
  deferred : ∀ visit ∈ bureau.visits, ∀ constraint, visit.result = .deferred constraint →
    visit.calls = [] ∧ visit.ended.attempt.toNat + 1 = visit.claim.attempt.toNat
  /-- A job that ended failed was given up once, unless its last visit could not rebuild it. -/
  failed : ∀ record ∈ bureau.store.value.records, ∀ reason attempts,
    record.status = .failed reason attempts →
      ∃ past last, ofJob record.id bureau.visits = past ++ [last] ∧ last.ended = record ∧
        total JobCall.isGiveUp (ofJob record.id bureau.visits) = if last.rebuilt then 1 else 0
  /-- Any other job was not given up. -/
  unfailed : ∀ record ∈ bureau.store.value.records,
    (∀ reason attempts, record.status ≠ .failed reason attempts) →
      total JobCall.isGiveUp (ofJob record.id bureau.visits) = 0

/-- Nobody handles a job that has ended. -/
theorem Sound.unclaimed {bureau : Bureau} (sound : bureau.Sound) {record : Record}
    (kept : record ∈ bureau.store.value.records) (terminal : record.status.isTerminal = true) :
    record.id ∉ bureau.claims.map Record.id := by
  intro claimed
  obtain ⟨claim, held, same⟩ := List.mem_map.1 claimed
  obtain ⟨here, running⟩ := (sound.orderly.claims_iff claim).1 held
  obtain rfl := Table.eq_of_key_eq here kept same
  rw [running] at terminal
  cases terminal

/-- The visits of a regular bureau count as they should. -/
theorem Regular.counts {bureau : Bureau} (regular : bureau.Regular) (sound : bureau.Sound) :
    bureau.Counts := by
  have timely : ∀ visit ∈ bureau.visits, ∃ before, Timely before visit := by
    intro visit made
    obtain ⟨before, after, split⟩ := List.append_of_mem made
    exact ⟨before, regular.chronicle before visit after split⟩
  refine ⟨?_, ?_, ?_, ?_, ?_, ?_⟩
  · intro record kept most limited
    cases regular.told record kept with
    | unended lasts ran spared admits =>
      rw [ran]
      have once := List.nodup_iff_count_le_one.1 sound.orderly.distinct record.id
      exact admits.mono (Nat.add_le_add_left once _) most limited
    | ended past last split terminal left clock course spared admits =>
      have unclaimed := sound.unclaimed kept terminal
      rw [List.count_eq_zero.2 unclaimed, split, total_append]
      exact admits.mono (Nat.add_le_add_left course.run_le _) most limited
  · intro before visit after split asked
    exact (regular.chronicle before visit after split).refused_iff asked
  · intro visit made attempts exhausted
    obtain ⟨before, timely⟩ := timely visit made
    exact timely.answer_of_exhausted exhausted
  · intro visit made constraint deferred
    obtain ⟨before, timely⟩ := timely visit made
    exact timely.deferred deferred
  · intro record kept reason attempts failed
    cases regular.told record kept with
    | unended lasts =>
      rw [failed] at lasts
      cases lasts
    | ended past last split terminal left clock course spared admits =>
      refine ⟨past, last, split, left, ?_⟩
      rw [split, total_append, spared, course.gaveUp (left ▸ failed), Nat.zero_add]
  · intro record kept unfailed
    cases regular.told record kept with
    | unended lasts ran spared admits => exact spared
    | ended past last split terminal left clock course spared admits =>
      rw [split, total_append, spared, course.spared (left ▸ unfailed)]

end Bureau

end Mailroom.Job
