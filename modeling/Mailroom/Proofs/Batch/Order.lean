import Mailroom.Proofs.Batch.Strategies

/-!
# The order of the thread list

After the same requests through both caches and one flush, two threads stand in the same order
unless both were asked for and their first requests came in another order than their last ones. For
the pass-through cache moves a thread at every request, so that the last one counts, while the
accumulating cache keeps the threads in the order in which they were first asked for.
`same_order_iff` says so, and which thread is on top.
-/

namespace Mailroom

section

variable {α : Type} [DecidableEq α]

/-- Without repetition, values stand in the order of their first occurrences. -/
theorem lastPlace_eraseDups_lt_iff {values : List α} {left right : α} (leftHeld : left ∈ values)
    (rightHeld : right ∈ values) :
    lastPlace values.eraseDups left < lastPlace values.eraseDups right ↔
      values.idxOf left < values.idxOf right := by
  induction values using List.reverseRecOn with
  | nil => cases leftHeld
  | append_singleton values last ih =>
    rw [Batch.eraseDups_concat]
    by_cases again : last ∈ values
    · have old : ∀ value ∈ values ++ [last], value ∈ values := by
        intro value held
        rcases List.mem_append.1 held with earlier | same
        · exact earlier
        · exact (List.mem_singleton.1 same).symm ▸ again
      have leftOld := old left leftHeld
      have rightOld := old right rightHeld
      rw [if_pos again, List.idxOf_append_of_mem leftOld, List.idxOf_append_of_mem rightOld]
      exact ih leftOld rightOld
    · -- The new value stands last in both lists, and the others keep their places.
      have here : lastPlace (values.eraseDups ++ [last]) last = values.eraseDups.length := by
        rw [lastPlace_concat, if_pos rfl]
      have first : (values ++ [last]).idxOf last = values.length := by
        rw [List.idxOf_append_of_notMem again, List.idxOf_cons_self, Nat.add_zero]
      have old : ∀ value ∈ values,
          lastPlace (values.eraseDups ++ [last]) value = lastPlace values.eraseDups value ∧
          lastPlace values.eraseDups value < values.eraseDups.length := by
        intro value held
        have other : value ≠ last := fun same => again (same ▸ held)
        rw [lastPlace_concat, if_neg other]
        exact ⟨rfl, lastPlace_lt (List.mem_eraseDups.2 held)⟩
      have oldFirst : ∀ value ∈ values, (values ++ [last]).idxOf value = values.idxOf value ∧
          values.idxOf value < values.length := by
        intro value held
        exact ⟨List.idxOf_append_of_mem held, List.idxOf_lt_length_of_mem held⟩
      rw [if_neg again]
      rw [List.mem_append, List.mem_singleton] at leftHeld rightHeld
      rcases leftHeld with leftOld | rfl
      · have leftPlace := old left leftOld
        have leftFirst := oldFirst left leftOld
        rcases rightHeld with rightOld | rfl
        · have rightPlace := old right rightOld
          have rightFirst := oldFirst right rightOld
          rw [leftPlace.1, rightPlace.1, leftFirst.1, rightFirst.1]
          exact ih leftOld rightOld
        · omega
      · rcases rightHeld with rightOld | rfl
        · have rightPlace := old right rightOld
          have rightFirst := oldFirst right rightOld
          omega
        · exact iff_of_false (Nat.lt_irrefl _) (Nat.lt_irrefl _)

end

namespace Archive

/-- Whether both threads are on file and the first one lies below the second. -/
def Below (archive : Archive) (low high : ThreadId) : Prop :=
  ∃ lower upper, archive.thread? low = some lower ∧ archive.thread? high = some upper ∧
    lower.position < upper.position

/-- Whether a thread is on file and every other thread lies below it. -/
def OnTop (archive : Archive) (id : ThreadId) : Prop :=
  archive.threads.contains id = true ∧
    ∀ other, other ≠ id → archive.threads.contains other = true → archive.Below other id

namespace Moved

variable {unarchive : Bool} {ids : List ThreadId} {before after : Archive}

/-- After moves, a thread that was asked for lies above the threads that were not and above those
whose last request was earlier. -/
theorem below_iff (moved : Moved unarchive ids before after) (stacked : ids ≠ [] → before.Stacked)
    (filed : ∀ id ∈ ids, before.threads.contains id = true) (low high : ThreadId) :
    after.Below low high ↔
      if high ∈ ids then
        before.threads.contains low = true ∧ (low ∈ ids → lastPlace ids low < lastPlace ids high)
      else low ∉ ids ∧ before.Below low high := by
  by_cases highAsked : high ∈ ids
  · rw [if_pos highAsked]
    obtain ⟨upper, foundHigh, highPlace⟩ := moved.asked_place filed highAsked
    by_cases lowAsked : low ∈ ids
    · obtain ⟨lower, foundLow, lowPlace⟩ := moved.asked_place filed lowAsked
      have places : lower.position < upper.position ↔ lastPlace ids low < lastPlace ids high := by
        rw [UInt64.lt_iff_toNat_lt, lowPlace, highPlace, Nat.add_lt_add_iff_left]
      unfold Below
      simp [foundLow, foundHigh, places, filed low lowAsked, lowAsked]
    · rw [and_iff_left fun asked => absurd asked lowAsked, ← moved.contains, contains_thread_iff]
      constructor
      · rintro ⟨lower, -, foundLow, -⟩
        exact ⟨lower, foundLow⟩
      · rintro ⟨lower, foundLow⟩
        have stack := stacked (List.ne_nil_of_mem highAsked)
        have below := moved.unasked_below stack lowAsked foundLow
        refine ⟨lower, upper, foundLow, foundHigh, ?_⟩
        rw [UInt64.lt_iff_toNat_lt]
        omega
  · rw [if_neg highAsked]
    by_cases lowAsked : low ∈ ids
    · refine iff_of_false ?_ fun unasked => unasked.1 lowAsked
      rintro ⟨lower, upper, foundLow, foundHigh, below⟩
      have stack := stacked (List.ne_nil_of_mem lowAsked)
      have highBelow := moved.unasked_below stack highAsked foundHigh
      obtain ⟨top, here, place⟩ := moved.asked_place filed lowAsked
      rw [foundLow] at here
      cases here
      rw [UInt64.lt_iff_toNat_lt] at below
      omega
    · rw [and_iff_right lowAsked]
      unfold Below
      rw [moved.thread?_of_not_mem lowAsked, moved.thread?_of_not_mem highAsked]

/-- After moves, the thread that was asked for last is on top. -/
theorem onTop (moved : Moved unarchive ids before after) (stacked : ids ≠ [] → before.Stacked)
    (filed : ∀ id ∈ ids, before.threads.contains id = true) {id : ThreadId}
    (last : ids.getLast? = some id) : after.OnTop id := by
  obtain ⟨front, rfl⟩ := List.getLast?_eq_some_iff.1 last
  have asked : id ∈ front ++ [id] := List.mem_append_right front (List.mem_singleton_self id)
  refine ⟨(moved.contains id).trans (filed id asked), fun other different there => ?_⟩
  rw [moved.below_iff stacked filed, if_pos asked]
  refine ⟨(moved.contains other).symm.trans there, fun otherAsked => ?_⟩
  rw [lastPlace_concat, lastPlace_concat, if_neg different, if_pos rfl]
  rcases List.mem_append.1 otherAsked with earlier | same
  · exact lastPlace_lt earlier
  · exact absurd (List.mem_singleton.1 same) different

end Moved

end Archive

namespace Batch

variable {Work World : Type}

/-- Whether two threads were both asked for, and for the first time in another order than for the
last time. -/
def Crossed (requested : List ThreadId) (low high : ThreadId) : Prop :=
  low ∈ requested ∧ high ∈ requested ∧
    ¬ (requested.idxOf low < requested.idxOf high ↔
      lastPlace requested low < lastPlace requested high)

/-- Moving every thread once, in the order of first requests, and moving threads at every request
differ in the order of the threads whose requests crossed. -/
theorem below_iff_below_iff {unarchive : Bool} {requested : List ThreadId}
    {before held eager : Archive}
    (once : Archive.Moved unarchive requested.eraseDups before held)
    (each : Archive.Moved unarchive requested before eager)
    (stacked : requested ≠ [] → before.Stacked)
    (filed : ∀ id ∈ requested, before.threads.contains id = true) (low high : ThreadId) :
    (held.Below low high ↔ eager.Below low high) ↔ ¬ Crossed requested low high := by
  have same : ∀ id, id ∈ requested.eraseDups ↔ id ∈ requested := fun id => List.mem_eraseDups
  have stackedOnce : requested.eraseDups ≠ [] → before.Stacked := by
    intro some
    obtain ⟨id, asked⟩ := List.exists_mem_of_ne_nil _ some
    exact stacked (List.ne_nil_of_mem ((same id).1 asked))
  rw [once.below_iff stackedOnce fun id asked => filed id ((same id).1 asked),
    each.below_iff stacked filed, Crossed]
  simp only [same]
  by_cases highAsked : high ∈ requested
  · by_cases lowAsked : low ∈ requested
    · have first := lastPlace_eraseDups_lt_iff lowAsked highAsked
      simp only [highAsked, lowAsked, filed low lowAsked, first, if_true, true_and, true_implies,
        not_not]
    · simp only [highAsked, lowAsked, if_true, false_implies, false_and, not_false_eq_true]
  · simp only [highAsked, if_false, false_and, and_false, not_false_eq_true]

/-- The order of the thread list depends on the cache only where requests crossed. Put any requests
but a flush to both caches over equal desks, and then flush once. If storage was filled from the
start, finds every thread that is asked for and has positions for all requests, then any two threads
stand in the same order exactly if their requests did not cross. With the pass-through cache the
thread that was asked for last is on top, with the accumulating cache it is the thread whose first
request came last. -/
theorem same_order_iff (craft : Job.Craft Work Job.Store)
    (heldStamps eagerStamps : Nat → Job.Stamp) (lookups : Lookups) {desk : Desk World}
    {asks : List (Ask Work World)}
    (quiet : ∀ ask ∈ asks, ask.use.flushes = false)
    (reached : desk.storage.Reachable) (ready : desk.storage.Ready (Ask.threads asks)) :
    let held := run craft heldStamps (.accumulating { lookups := lookups }) desk asks
    let eager := run craft eagerStamps (.passing ⟨lookups⟩) desk asks
    (∀ low high, (held.state.storage.value.Below low high ↔
      eager.state.storage.value.Below low high) ↔ ¬ Crossed (Ask.threads asks) low high) ∧
    (∀ id, (Ask.threads asks).getLast? = some id → eager.state.storage.value.OnTop id) ∧
    (∀ id, (Ask.threads asks).eraseDups.getLast? = some id →
      held.state.storage.value.OnTop id) := by
  intro held eager
  have runs := run_runs craft heldStamps eagerStamps lookups desk quiet ready
  have once := runs.heldThreads.archive
  have each := runs.eagerThreads.archive
  have filed : ∀ id ∈ Ask.threads asks, desk.storage.value.threads.contains id = true :=
    fun id asked => (ready.finds id asked).filed.2
  have filedOnce : ∀ id ∈ (Ask.threads asks).eraseDups,
      desk.storage.value.threads.contains id = true :=
    fun id asked => filed id (List.mem_eraseDups.1 asked)
  refine ⟨below_iff_below_iff once each (ready.stacked reached) filed, fun id last => ?_,
    fun id last => ?_⟩
  · exact each.onTop (ready.stacked reached) filed last
  · exact once.onTop (ready.eraseDups.stacked reached) filedOnce last

/-- The requests of the two threads cross: the first one is asked for before and after the other. -/
theorem same_order_iff_thereAndBack :
    let held := run notices (stampsFrom 10) (.accumulating {}) twoThreadDesk thereAndBack
    let eager := run notices (stampsFrom 20) (.passing {}) twoThreadDesk thereAndBack
    (∀ low high, (held.state.storage.value.Below low high ↔
      eager.state.storage.value.Below low high) ↔ ¬ Crossed [⟨1⟩, ⟨2⟩, ⟨1⟩] low high) ∧
    eager.state.storage.value.OnTop ⟨1⟩ ∧ held.state.storage.value.OnTop ⟨2⟩ := by
  intro held eager
  have ready : twoThreadDesk.storage.Ready (Ask.threads thereAndBack) := ready_thereAndBack
  have order := same_order_iff notices (stampsFrom 10) (stampsFrom 20) {} (quiet_of_all rfl)
    reachable_twoThreads ready
  exact ⟨order.1, order.2.1 ⟨1⟩ rfl, order.2.2 ⟨2⟩ rfl⟩

/-- Thread `1` is the one asked for last, but the accumulating cache leaves it below thread `2`. -/
theorem orders_differ_thereAndBack :
    twoThreads.Reachable ∧ twoThreads.Ready (Ask.threads thereAndBack) ∧
    let held := run notices (stampsFrom 10) (.accumulating {}) twoThreadDesk thereAndBack
    let eager := run notices (stampsFrom 20) (.passing {}) twoThreadDesk thereAndBack
    (Ask.threads thereAndBack).getLast? = some ⟨1⟩ ∧
    held.state.storage.value.Below ⟨1⟩ ⟨2⟩ ∧ ¬ eager.state.storage.value.Below ⟨1⟩ ⟨2⟩ := by
  refine ⟨reachable_twoThreads, ready_thereAndBack, rfl, ⟨_, _, rfl, rfl, by decide⟩, ?_⟩
  rintro ⟨lower, upper, foundLow, foundHigh, below⟩
  cases foundLow
  cases foundHigh
  exact absurd below (by decide)

end Batch

end Mailroom
