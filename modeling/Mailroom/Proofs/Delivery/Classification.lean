import Mailroom.Delivery.Classification

/-!
# Classified recipients

The three lists of a classification are the destinations whose last status asks for the list, in
their order. `SendStatus.settles` says which statuses end the work on a recipient.
-/

namespace Mailroom

/-- Whether nothing is left to do for a recipient after a status: it was reached or is gone. -/
def SendStatus.settles : SendStatus → Bool
  | .failed _ => false
  | _ => true

/-- The recipients that were reached are the destinations whose last status says so. -/
theorem completed_classify (destinations : List RecipientId) (results : List SendResult) :
    (classify destinations results).completed =
      destinations.filter fun id => decide (lastStatus? results id = some .delivered) := by
  induction destinations with
  | nil => rfl
  | cons id rest ih =>
    rw [List.filter_cons, ← ih]
    show ((classify rest results).place id (lastStatus? results id)).completed = _
    rcases lastStatus? results id with - | - | - | reason <;> rfl

/-- The recipients that are gone are the destinations whose last status says so. -/
theorem unregistered_classify (destinations : List RecipientId) (results : List SendResult) :
    (classify destinations results).unregistered =
      destinations.filter fun id => decide (lastStatus? results id = some .unregistered) := by
  induction destinations with
  | nil => rfl
  | cons id rest ih =>
    rw [List.filter_cons, ← ih]
    show ((classify rest results).place id (lastStatus? results id)).unregistered = _
    rcases lastStatus? results id with - | - | - | reason <;> rfl

/-- The recipients that are skipped are the destinations whose last status settles nothing, and
those without a status. -/
theorem skipped_classify (destinations : List RecipientId) (results : List SendResult) :
    (classify destinations results).skipped =
      destinations.filter fun id => !(lastStatus? results id).any SendStatus.settles := by
  induction destinations with
  | nil => rfl
  | cons id rest ih =>
    rw [List.filter_cons, ← ih]
    show ((classify rest results).place id (lastStatus? results id)).skipped = _
    rcases lastStatus? results id with - | - | - | reason <;> rfl

/-- A recipient has a last status exactly if there is a result for it. -/
theorem isSome_lastStatus? {results : List SendResult} {id : RecipientId} :
    (lastStatus? results id).isSome = true ↔ ∃ result ∈ results, result.recipient = id := by
  rw [lastStatus?, Option.isSome_map, List.isSome_find?]
  simp

/-- Results for other recipients behind those of a recipient leave its last status alone. -/
theorem lastStatus?_append_of_ne {results later : List SendResult} {id : RecipientId}
    (others : ∀ result ∈ later, result.recipient ≠ id) :
    lastStatus? (results ++ later) id = lastStatus? results id := by
  have none_later : later.reverse.find? (fun result => decide (result.recipient = id)) = none := by
    rw [List.find?_eq_none]
    intro result held
    simpa using others result (List.mem_reverse.1 held)
  rw [lastStatus?, lastStatus?, List.reverse_append, List.find?_append, none_later, Option.none_or]

/-- Where there are results for a recipient and all of them have one status, it is the last. -/
theorem lastStatus?_of_forall {results : List SendResult} {id : RecipientId} {status : SendStatus}
    (given : ∃ result ∈ results, result.recipient = id)
    (same : ∀ result ∈ results, result.recipient = id → result.status = status) :
    lastStatus? results id = some status := by
  obtain ⟨last, found⟩ := Option.isSome_iff_exists.1 (isSome_lastStatus?.2 given)
  obtain ⟨result, held, rfl⟩ := Option.map_eq_some_iff.1 found
  have named := List.find?_some held
  have listed := List.mem_reverse.1 (List.mem_of_find?_eq_some held)
  rw [found, same result listed (by simpa using named)]

/-- The status of a result behind all others is the last of its recipient. -/
theorem lastStatus?_concat (results : List SendResult) (id : RecipientId) (status : SendStatus) :
    lastStatus? (results ++ [⟨id, status⟩]) id = some status := by
  simp [lastStatus?]

/-- A recipient without results has no last status. -/
theorem lastStatus?_eq_none {results : List SendResult} {id : RecipientId}
    (silent : ∀ result ∈ results, result.recipient ≠ id) : lastStatus? results id = none := by
  rw [← Option.not_isSome_iff_eq_none, isSome_lastStatus?]
  rintro ⟨result, held, same⟩
  exact silent result held same

/-- A status is the last of a recipient exactly if a result gives it that no later result for the
recipient follows. -/
theorem lastStatus?_eq_some_iff {results : List SendResult} {id : RecipientId}
    {status : SendStatus} :
    lastStatus? results id = some status ↔ ∃ before after,
      results = before ++ ⟨id, status⟩ :: after ∧ ∀ result ∈ after, result.recipient ≠ id := by
  constructor
  case mp =>
    intro last
    obtain ⟨⟨recipient, _⟩, found, rfl⟩ := Option.map_eq_some_iff.1 last
    obtain ⟨named, later, earlier, split, others⟩ := List.find?_eq_some_iff_append.1 found
    cases of_decide_eq_true named
    refine ⟨earlier.reverse, later.reverse, ?_, fun result behind => ?_⟩
    · rw [← List.reverse_reverse results, split, List.reverse_append, List.reverse_cons,
        List.append_assoc, List.singleton_append]
    · simpa using others result (List.mem_reverse.1 behind)
  case mpr =>
    rintro ⟨before, after, rfl, others⟩
    rw [← List.singleton_append, ← List.append_assoc, lastStatus?_append_of_ne others,
      lastStatus?_concat]

/-- The last status of a recipient with one result is the status of that result. -/
theorem lastStatus?_of_alone {results : List SendResult} {id : RecipientId} {status : SendStatus}
    (held : ⟨id, status⟩ ∈ results) (alone : (results.map SendResult.recipient).count id ≤ 1) :
    lastStatus? results id = some status := by
  obtain ⟨before, after, rfl⟩ := List.append_of_mem held
  have others : ∀ result ∈ after, result.recipient ≠ id := by
    rintro result behind rfl
    have twice := List.count_pos_iff.2 (List.mem_map_of_mem (f := SendResult.recipient) behind)
    rw [List.map_append, List.map_cons, List.count_append, List.count_cons_self] at alone
    omega
  exact lastStatus?_eq_some_iff.2 ⟨before, after, rfl, others⟩

end Mailroom
