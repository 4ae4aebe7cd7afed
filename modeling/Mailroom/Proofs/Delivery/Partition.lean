import Mathlib.Data.List.Count
import Mathlib.Data.List.Induction
import Mailroom.Proofs.Delivery.Classification
import Mailroom.Proofs.Table

/-!
# Classification as a partition

Classifying recipients puts every one of them into one of three lists, as often as it is among the
destinations and in their order; the last result for a recipient says into which, and without one
it is skipped. `Apportions` states these laws for any three lists, without a word on how they come
about, and `Apportions.unique` says that they determine the lists. So where two lists of results
have the same last result for every destination, the recipients are classified alike:
`classification_laws` says so for results in another order and for results for other recipients.

`sortOut_noted` shows that a loop which notes results in a ledger, later ones in the place of
earlier ones, and then looks up each destination comes to the same lists.
-/

namespace Mailroom

/-- A status is that of the last result for a recipient. -/
def IsLast (results : List SendResult) (id : RecipientId) (status : SendStatus) : Prop :=
  ∃ before after, results = before ++ ⟨id, status⟩ :: after ∧
    ∀ result ∈ after, result.recipient ≠ id

/-- There is no result for a recipient. -/
def Silent (results : List SendResult) (id : RecipientId) : Prop :=
  ∀ result ∈ results, result.recipient ≠ id

/-- Three lists apportion destinations by the results for them. -/
structure Apportions (destinations : List RecipientId) (results : List SendResult)
    (sorted : Classification) : Prop where
  /-- Who was reached is listed in the order of the destinations. -/
  completed : sorted.completed.Sublist destinations
  /-- Who is gone is listed in the order of the destinations. -/
  unregistered : sorted.unregistered.Sublist destinations
  /-- Who is skipped is listed in the order of the destinations. -/
  skipped : sorted.skipped.Sublist destinations
  /-- The lists together have a recipient as often as the destinations. -/
  counted : ∀ id, sorted.completed.count id + sorted.unregistered.count id +
    sorted.skipped.count id = destinations.count id
  /-- Nobody who was reached is listed as gone. -/
  reachedOrGone : sorted.completed.Disjoint sorted.unregistered
  /-- Nobody who was reached is skipped. -/
  reachedOrSkipped : sorted.completed.Disjoint sorted.skipped
  /-- Nobody who is gone is skipped. -/
  goneOrSkipped : sorted.unregistered.Disjoint sorted.skipped
  /-- A destination was reached if its last result says so. -/
  delivered : ∀ id ∈ destinations, IsLast results id .delivered → id ∈ sorted.completed
  /-- A destination is gone if its last result says so. -/
  gone : ∀ id ∈ destinations, IsLast results id .unregistered → id ∈ sorted.unregistered
  /-- A destination is skipped if its last result is a failure. -/
  failed : ∀ id ∈ destinations, ∀ reason, IsLast results id (.failed reason) → id ∈ sorted.skipped
  /-- A destination without results is skipped. -/
  silent : ∀ id ∈ destinations, Silent results id → id ∈ sorted.skipped

/-- The last result of a recipient is the one that classification goes by. -/
theorem isLast_iff {results : List SendResult} {id : RecipientId} {status : SendStatus} :
    IsLast results id status ↔ lastStatus? results id = some status :=
  lastStatus?_eq_some_iff.symm

/-- A recipient is without results exactly if it has no last status. -/
theorem silent_iff {results : List SendResult} {id : RecipientId} :
    Silent results id ↔ lastStatus? results id = none := by
  rw [← Option.not_isSome_iff_eq_none, isSome_lastStatus?, not_exists]
  simp only [Silent, not_and]

/-- A list that takes all or nothing of each element of another, in its order, is what membership
selects of the other. -/
theorem eq_filter_of_sublist {taken all : List RecipientId} (ordered : taken.Sublist all)
    (wholly : ∀ id ∈ taken, taken.count id = all.count id) :
    taken = all.filter fun id => decide (id ∈ taken) := by
  have selects : taken.Sublist (all.filter fun id => decide (id ∈ taken)) := by
    have own : taken.filter (fun id => decide (id ∈ taken)) = taken :=
      List.filter_eq_self.2 fun id held => decide_eq_true held
    calc
      taken.Sublist (taken.filter fun id => decide (id ∈ taken)) := by rw [own]
      List.Sublist _ (all.filter fun id => decide (id ∈ taken)) := ordered.filter _
  have counts : taken.Perm (all.filter fun id => decide (id ∈ taken)) := by
    rw [List.perm_iff_count]
    intro id
    by_cases held : id ∈ taken
    · rw [wholly id held, List.count_filter (p := fun id => decide (id ∈ taken))
        (decide_eq_true held)]
    · rw [List.count_eq_zero_of_not_mem held, List.count_eq_zero_of_not_mem]
      simpa using fun _ => held
  exact selects.eq_of_length counts.length_eq

namespace Apportions

variable {destinations : List RecipientId} {results : List SendResult} {sorted : Classification}

/-- The lists of reached, gone and skipped recipients each take all or nothing of a destination. -/
theorem wholly (laws : Apportions destinations results sorted) (id : RecipientId) :
    (id ∈ sorted.completed → sorted.completed.count id = destinations.count id) ∧
    (id ∈ sorted.unregistered → sorted.unregistered.count id = destinations.count id) ∧
    (id ∈ sorted.skipped → sorted.skipped.count id = destinations.count id) := by
  have total := laws.counted id
  refine ⟨fun held => ?_, fun held => ?_, fun held => ?_⟩
  · have others := List.count_eq_zero_of_not_mem (laws.reachedOrGone held)
    have further := List.count_eq_zero_of_not_mem (laws.reachedOrSkipped held)
    omega
  · have others := List.count_eq_zero_of_not_mem fun other => laws.reachedOrGone other held
    have further := List.count_eq_zero_of_not_mem (laws.goneOrSkipped held)
    omega
  · have others := List.count_eq_zero_of_not_mem fun other => laws.reachedOrSkipped other held
    have further := List.count_eq_zero_of_not_mem fun other => laws.goneOrSkipped other held
    omega

/-- A destination is in one of the lists, and its last status says in which. -/
theorem placed (laws : Apportions destinations results sorted) {id : RecipientId}
    (called : id ∈ destinations) :
    (lastStatus? results id = some .delivered ∧ id ∈ sorted.completed) ∨
    (lastStatus? results id = some .unregistered ∧ id ∈ sorted.unregistered) ∨
    ((lastStatus? results id).any SendStatus.settles = false ∧ id ∈ sorted.skipped) := by
  cases last : lastStatus? results id with
  | none => exact .inr (.inr ⟨rfl, laws.silent id called (silent_iff.2 last)⟩)
  | some status =>
    have final := isLast_iff.2 last
    cases status with
    | delivered => exact .inl ⟨rfl, laws.delivered id called final⟩
    | unregistered => exact .inr (.inl ⟨rfl, laws.gone id called final⟩)
    | failed reason => exact .inr (.inr ⟨rfl, laws.failed id called reason final⟩)

/-- A destination was reached exactly if its last status says so. -/
theorem mem_completed_iff (laws : Apportions destinations results sorted) {id : RecipientId}
    (called : id ∈ destinations) :
    id ∈ sorted.completed ↔ lastStatus? results id = some .delivered := by
  rcases laws.placed called with ⟨last, held⟩ | ⟨last, held⟩ | ⟨last, held⟩
  · exact iff_of_true held last
  · exact iff_of_false (fun other => laws.reachedOrGone other held) (by simp [last])
  · refine iff_of_false (fun other => laws.reachedOrSkipped other held) fun other => ?_
    rw [other] at last
    cases last

/-- A destination is gone exactly if its last status says so. -/
theorem mem_unregistered_iff (laws : Apportions destinations results sorted) {id : RecipientId}
    (called : id ∈ destinations) :
    id ∈ sorted.unregistered ↔ lastStatus? results id = some .unregistered := by
  rcases laws.placed called with ⟨last, held⟩ | ⟨last, held⟩ | ⟨last, held⟩
  · exact iff_of_false (laws.reachedOrGone held) (by simp [last])
  · exact iff_of_true held last
  · refine iff_of_false (fun other => laws.goneOrSkipped other held) fun other => ?_
    rw [other] at last
    cases last

/-- A destination is skipped exactly if its last status settles nothing. -/
theorem mem_skipped_iff (laws : Apportions destinations results sorted) {id : RecipientId}
    (called : id ∈ destinations) :
    id ∈ sorted.skipped ↔ (lastStatus? results id).any SendStatus.settles = false := by
  rcases laws.placed called with ⟨last, held⟩ | ⟨last, held⟩ | ⟨last, held⟩
  · exact iff_of_false (laws.reachedOrSkipped held) (by simp [last, SendStatus.settles])
  · exact iff_of_false (laws.goneOrSkipped held) (by simp [last, SendStatus.settles])
  · exact iff_of_true held last

/-- The laws leave one classification. -/
theorem unique (laws : Apportions destinations results sorted) :
    sorted = classify destinations results := by
  have completed : sorted.completed = (classify destinations results).completed := by
    rw [completed_classify,
      eq_filter_of_sublist laws.completed fun id => (laws.wholly id).1]
    exact List.filter_congr fun id called => decide_eq_decide.2 (laws.mem_completed_iff called)
  have unregistered : sorted.unregistered = (classify destinations results).unregistered := by
    rw [unregistered_classify,
      eq_filter_of_sublist laws.unregistered fun id => (laws.wholly id).2.1]
    exact List.filter_congr fun id called => decide_eq_decide.2 (laws.mem_unregistered_iff called)
  have skipped : sorted.skipped = (classify destinations results).skipped := by
    rw [skipped_classify, eq_filter_of_sublist laws.skipped fun id => (laws.wholly id).2.2]
    refine List.filter_congr fun id called => ?_
    rw [Bool.eq_iff_iff, decide_eq_true_iff, laws.mem_skipped_iff called, Bool.not_eq_true']
  rcases sorted with ⟨_, _, _⟩
  cases completed
  cases unregistered
  cases skipped
  rfl

/-- Lists that apportion destinations by some results do so by all results that say the same last
of every destination. -/
theorem of_last {others : List SendResult} (laws : Apportions destinations results sorted)
    (same : ∀ id ∈ destinations, lastStatus? others id = lastStatus? results id) :
    Apportions destinations others sorted := by
  refine { laws with
    delivered := fun id called last => laws.delivered id called ?_
    gone := fun id called last => laws.gone id called ?_
    failed := fun id called reason last => laws.failed id called reason ?_
    silent := fun id called none => laws.silent id called ?_ }
  · rwa [isLast_iff, ← same id called, ← isLast_iff]
  · rwa [isLast_iff, ← same id called, ← isLast_iff]
  · rwa [isLast_iff, ← same id called, ← isLast_iff]
  · rwa [silent_iff, ← same id called, ← silent_iff]

end Apportions

/-- Putting a recipient into its list adds one occurrence of it. -/
theorem count_place (rest : Classification) (id : RecipientId) (status : Option SendStatus)
    (other : RecipientId) :
    (rest.place id status).completed.count other + (rest.place id status).unregistered.count other +
        (rest.place id status).skipped.count other =
      rest.completed.count other + rest.unregistered.count other + rest.skipped.count other +
        if id == other then 1 else 0 := by
  rcases status with - | - | - | reason
  all_goals
    simp only [Classification.place, List.count_cons]
    omega

/-- A classification has a recipient as often as the destinations. -/
theorem count_classify (destinations : List RecipientId) (results : List SendResult)
    (id : RecipientId) :
    (classify destinations results).completed.count id +
        (classify destinations results).unregistered.count id +
        (classify destinations results).skipped.count id = destinations.count id := by
  induction destinations with
  | nil => rfl
  | cons first rest ih =>
    rw [List.count_cons, ← ih]
    exact count_place (classify rest results) first (lastStatus? results first) id

/-- Classification apportions the destinations. -/
theorem apportions_classify (destinations : List RecipientId) (results : List SendResult) :
    Apportions destinations results (classify destinations results) where
  completed := by
    rw [completed_classify]
    exact List.filter_sublist
  unregistered := by
    rw [unregistered_classify]
    exact List.filter_sublist
  skipped := by
    rw [skipped_classify]
    exact List.filter_sublist
  counted := count_classify destinations results
  reachedOrGone := by
    intro id reached gone
    rw [completed_classify, List.mem_filter] at reached
    rw [unregistered_classify, List.mem_filter] at gone
    rw [of_decide_eq_true gone.2] at reached
    cases of_decide_eq_true reached.2
  reachedOrSkipped := by
    intro id reached skipped
    rw [completed_classify, List.mem_filter] at reached
    rw [skipped_classify, List.mem_filter, of_decide_eq_true reached.2] at skipped
    cases skipped.2
  goneOrSkipped := by
    intro id gone skipped
    rw [unregistered_classify, List.mem_filter] at gone
    rw [skipped_classify, List.mem_filter, of_decide_eq_true gone.2] at skipped
    cases skipped.2
  delivered := by
    intro id called last
    rw [completed_classify, List.mem_filter, isLast_iff.1 last]
    exact ⟨called, rfl⟩
  gone := by
    intro id called last
    rw [unregistered_classify, List.mem_filter, isLast_iff.1 last]
    exact ⟨called, rfl⟩
  failed := by
    intro id called reason last
    rw [skipped_classify, List.mem_filter, isLast_iff.1 last]
    exact ⟨called, rfl⟩
  silent := by
    intro id called none
    rw [skipped_classify, List.mem_filter, silent_iff.1 none]
    exact ⟨called, rfl⟩

/-- The destinations are classified alike by results that say the same last of each of them. -/
theorem classify_congr {destinations : List RecipientId} {results others : List SendResult}
    (same : ∀ id ∈ destinations, lastStatus? others id = lastStatus? results id) :
    classify destinations others = classify destinations results :=
  (((apportions_classify destinations results).of_last same).unique).symm

/-- Results for others than the destinations say nothing of a destination. -/
theorem lastStatus?_filter {destinations : List RecipientId} {id : RecipientId}
    (called : id ∈ destinations) (results : List SendResult) :
    lastStatus? (results.filter fun result => decide (result.recipient ∈ destinations)) id =
      lastStatus? results id := by
  rw [lastStatus?, lastStatus?, ← List.filter_reverse, List.find?_filter]
  congr 2
  funext result
  rw [decide_eq_decide]
  constructor
  case mp => exact fun both => of_decide_eq_true both.2
  case mpr =>
    rintro rfl
    exact ⟨decide_eq_true called, decide_eq_true rfl⟩

/-- Results in another order say the same last of a recipient if what was last of it stays so. -/
theorem lastStatus?_of_perm {results others : List SendResult} {id : RecipientId}
    (reordered : results.Perm others)
    (kept : ∀ status, IsLast results id status → IsLast others id status) :
    lastStatus? others id = lastStatus? results id := by
  cases last : lastStatus? results id with
  | none =>
    refine lastStatus?_eq_none fun result listed => ?_
    exact silent_iff.2 last result (reordered.mem_iff.2 listed)
  | some status => exact isLast_iff.1 (kept status (isLast_iff.2 last))

/-! ## A ledger of results -/

/-- The status noted for each recipient after a list of results, of which each takes the place of
an earlier one for its recipient. -/
def noted (results : List SendResult) : Ledger RecipientId SendStatus :=
  results.foldl (fun ledger result => ledger.put result.recipient result.status) Table.empty

/-- Puts a recipient behind those in the list that a status asks for. -/
def Classification.append (sorted : Classification) (id : RecipientId) :
    Option SendStatus → Classification
  | some .delivered => { sorted with completed := sorted.completed ++ [id] }
  | some .unregistered => { sorted with unregistered := sorted.unregistered ++ [id] }
  | some (.failed _) => { sorted with skipped := sorted.skipped ++ [id] }
  | none => { sorted with skipped := sorted.skipped ++ [id] }

/-- Goes through the destinations and puts each into the list that a ledger asks for. -/
def sortOut (destinations : List RecipientId) (ledger : Ledger RecipientId SendStatus) :
    Classification :=
  destinations.foldl (fun sorted id => sorted.append id (ledger.find? id)) {}

/-- A ledger of results has the last status of every recipient. -/
theorem find?_noted (results : List SendResult) (id : RecipientId) :
    (noted results).find? id = lastStatus? results id := by
  induction results using List.reverseRecOn with
  | nil => rfl
  | append_singleton before result ih =>
    rw [noted, List.foldl_concat, Ledger.find?_put]
    by_cases named : result.recipient = id
    · rw [if_pos named, ← named]
      exact (lastStatus?_concat before result.recipient result.status).symm
    · rw [if_neg named, lastStatus?_append_of_ne (by simpa using named)]
      exact ih

/-- Going through destinations puts those of each kind behind what is listed already. -/
theorem foldl_append (results : List SendResult) (destinations : List RecipientId)
    (sorted : Classification) :
    destinations.foldl (fun sorted id => sorted.append id ((noted results).find? id)) sorted =
      ⟨sorted.completed ++ (classify destinations results).completed,
        sorted.unregistered ++ (classify destinations results).unregistered,
        sorted.skipped ++ (classify destinations results).skipped⟩ := by
  induction destinations generalizing sorted with
  | nil =>
    show sorted = ⟨sorted.completed ++ [], sorted.unregistered ++ [], sorted.skipped ++ []⟩
    simp only [List.append_nil]
  | cons id rest ih =>
    have opened : classify (id :: rest) results =
        (classify rest results).place id (lastStatus? results id) := rfl
    rw [List.foldl_cons, ih, opened, find?_noted]
    rcases lastStatus? results id with - | - | - | reason
    all_goals
      simp only [Classification.append, Classification.place, List.append_assoc,
        List.singleton_append]

/-- Looking the destinations up in a ledger of the results classifies them. -/
theorem sortOut_noted (destinations : List RecipientId) (results : List SendResult) :
    sortOut destinations (noted results) = classify destinations results :=
  foldl_append results destinations {}

/-! ## The laws of classification -/

/-- Destinations are classified by the last result for each of them. The lists are as
`Apportions` has them and no other lists are, results for others than the destinations count for
nothing, neither does the order of results for different recipients, and it is all the same whether
results are searched or noted in a ledger. -/
theorem classification_laws (destinations : List RecipientId) (results : List SendResult) :
    Apportions destinations results (classify destinations results) ∧
    (∀ sorted, Apportions destinations results sorted → sorted = classify destinations results) ∧
    classify destinations (results.filter fun result => decide (result.recipient ∈ destinations)) =
      classify destinations results ∧
    (∀ others, results.Perm others →
      (∀ id ∈ destinations, ∀ status, IsLast results id status → IsLast others id status) →
      classify destinations others = classify destinations results) ∧
    sortOut destinations (noted results) = classify destinations results := by
  refine ⟨apportions_classify destinations results, fun sorted laws => laws.unique, ?_, ?_,
    sortOut_noted destinations results⟩
  · exact classify_congr fun id called => lastStatus?_filter called results
  · intro others reordered kept
    exact classify_congr fun id called => lastStatus?_of_perm reordered (kept id called)

/-- Results for different recipients that trade places classify a repeated recipient as before. -/
theorem classify_traded :
    let destinations : List RecipientId := [⟨1⟩, ⟨2⟩, ⟨1⟩, ⟨3⟩]
    let results : List SendResult :=
      [⟨⟨1⟩, .failed "offline"⟩, ⟨⟨2⟩, .unregistered⟩, ⟨⟨9⟩, .delivered⟩, ⟨⟨1⟩, .delivered⟩]
    let others : List SendResult :=
      [⟨⟨1⟩, .failed "offline"⟩, ⟨⟨1⟩, .delivered⟩, ⟨⟨9⟩, .delivered⟩, ⟨⟨2⟩, .unregistered⟩]
    results.Perm others ∧ classify destinations others = classify destinations results ∧
      classify destinations results = ⟨[⟨1⟩, ⟨1⟩], [⟨2⟩], [⟨3⟩]⟩ := by
  intro destinations results others
  have reordered : results.Perm others := by decide
  have same : ∀ id ∈ destinations, lastStatus? others id = lastStatus? results id := by decide
  refine ⟨reordered, (classification_laws destinations results).2.2.2.1 others reordered ?_,
    by decide⟩
  intro id called status last
  rwa [isLast_iff, same id called, ← isLast_iff]

end Mailroom
