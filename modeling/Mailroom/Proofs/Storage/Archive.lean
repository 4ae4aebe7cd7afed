import Mailroom.Delivery.Eligibility
import Mailroom.Proofs.Table
import Mailroom.Storage.Archive

/-!
# Recipients on file

An archive tells of a list of identifiers which recipients it has on file and whom of these a
message can reach. Marking recipients as gone changes what it says of those recipients and nothing
else that a fan-out asks for: `get?_markAll` gives what is on file about anybody after marks.
-/

namespace Mailroom

/-- A recipient that the service no longer knows. -/
def Recipient.gone (recipient : Recipient) : Recipient :=
  { recipient with registered := .notRegistered }

/-- Whoever is gone keeps the account. -/
theorem Recipient.serviceId_gone_or (lost : Prop) [Decidable lost] (recipient : Recipient) :
    (if lost then recipient.gone else recipient).serviceId = recipient.serviceId := by
  split <;> rfl

/-- Whoever is gone stands for the same group. -/
theorem Recipient.groupId?_gone_or (lost : Prop) [Decidable lost] (recipient : Recipient) :
    (if lost then recipient.gone else recipient).groupId? = recipient.groupId? := by
  split <;> rfl

namespace Archive

/-- The archive after recipients were marked as gone, one after another. Who is not on file is
passed over. -/
def markAll (ids : List RecipientId) (archive : Archive) : Archive :=
  ids.foldl (fun archive id => (archive.markGone id).2) archive

/-- Marking a recipient changes only what is on file about that recipient. -/
theorem get?_markGone (id other : RecipientId) (archive : Archive) :
    (archive.markGone id).2.recipients.get? other =
      (archive.recipients.get? other).map fun recipient =>
        if other = id then recipient.gone else recipient := by
  unfold markGone
  cases found : archive.recipients.get? id with
  | none =>
    by_cases same : other = id
    · rw [same, found]
      rfl
    · simp [same]
  | some recipient =>
    have filed : recipient.id = id := Table.key_of_get? found
    show (archive.recipients.insert recipient.gone).get? other = _
    rw [Table.get?_insert, show recipient.gone.id = id from filed]
    by_cases same : other = id
    · rw [if_pos same.symm, same, found, Option.map_some, if_pos rfl]
    · rw [if_neg (Ne.symm same)]
      simp [same]

/-- After marking recipients they are gone, and everybody else is as before. -/
theorem get?_markAll (ids : List RecipientId) (archive : Archive) (other : RecipientId) :
    (archive.markAll ids).recipients.get? other =
      (archive.recipients.get? other).map fun recipient =>
        if other ∈ ids then recipient.gone else recipient := by
  induction ids generalizing archive with
  | nil => simp [markAll]
  | cons id rest ih =>
    show ((archive.markGone id).2.markAll rest).recipients.get? other = _
    rw [ih, get?_markGone, Option.map_map]
    congr 1
    funext recipient
    by_cases first : other = id <;> by_cases later : other ∈ rest <;>
      simp [first, later, Recipient.gone]

/-- Marks touch nothing but the recipients and the count of the marks. -/
theorem markAll_frame (ids : List RecipientId) (archive : Archive) :
    ∃ recipients marks,
      archive.markAll ids = { archive with recipients := recipients, marks := marks } := by
  induction ids generalizing archive with
  | nil => exact ⟨archive.recipients, archive.marks, rfl⟩
  | cons id rest ih =>
    obtain ⟨recipients, marks, later⟩ := ih (archive.markGone id).2
    refine ⟨recipients, marks, ?_⟩
    show (archive.markGone id).2.markAll rest = _
    rw [later, markGone]
    cases archive.recipients.get? id <;> rfl

/-- The recipients on file for a list of identifiers. -/
def known (ids : List RecipientId) (archive : Archive) : List Recipient :=
  ids.filterMap archive.recipients.get?

/-- The identifiers that nothing is on file for. -/
def unknown (ids : List RecipientId) (archive : Archive) : List RecipientId :=
  ids.filter fun id => !archive.recipients.contains id

/-- Whether a message can reach the recipient of an identifier. -/
def reaches (archive : Archive) (id : RecipientId) : Bool :=
  (archive.recipients.get? id).any Recipient.isEligible

/-- The recipients of a list of identifiers that a message can reach. -/
def reachable (ids : List RecipientId) (archive : Archive) : List Recipient :=
  (archive.known ids).filter Recipient.isEligible

/-- The identifiers whose recipients cannot be reached or are not on file. -/
def leftOut (ids : List RecipientId) (archive : Archive) : List RecipientId :=
  ((archive.known ids).filter (not ∘ Recipient.isEligible)).map Recipient.id ++ archive.unknown ids

/-- A recipient on file carries the identifier that it was asked for by. -/
theorem get?_id_of_mem_known {ids : List RecipientId} {archive : Archive} {recipient : Recipient}
    (held : recipient ∈ archive.known ids) :
    recipient.id ∈ ids ∧ archive.recipients.get? recipient.id = some recipient := by
  obtain ⟨id, asked, found⟩ := List.mem_filterMap.1 held
  rw [Table.key_of_get? found]
  exact ⟨asked, found⟩

/-- Those who can be reached are the eligible recipients on file that were asked for. -/
theorem mem_reachable_iff {ids : List RecipientId} {archive : Archive} {recipient : Recipient} :
    recipient ∈ archive.reachable ids ↔ recipient.id ∈ ids ∧
      archive.recipients.get? recipient.id = some recipient ∧ recipient.isEligible = true := by
  rw [reachable, List.mem_filter]
  constructor
  · rintro ⟨held, eligible⟩
    obtain ⟨asked, found⟩ := get?_id_of_mem_known held
    exact ⟨asked, found, eligible⟩
  · rintro ⟨asked, found, eligible⟩
    exact ⟨List.mem_filterMap.2 ⟨recipient.id, asked, found⟩, eligible⟩

/-- Whoever is asked for and can be reached is among those who can be. -/
theorem exists_reachable {ids : List RecipientId} {archive : Archive} {id : RecipientId}
    (asked : id ∈ ids) (reached : archive.reaches id = true) :
    ∃ recipient ∈ archive.reachable ids, recipient.id = id := by
  unfold reaches at reached
  cases found : archive.recipients.get? id with
  | none =>
    rw [found] at reached
    cases reached
  | some recipient =>
    rw [found] at reached
    obtain rfl : recipient.id = id := Table.key_of_get? found
    exact ⟨recipient, mem_reachable_iff.2 ⟨asked, found, reached⟩, rfl⟩

/-- The identifiers of those who can be reached, in the order they were asked for. -/
theorem map_id_reachable (ids : List RecipientId) (archive : Archive) :
    (archive.reachable ids).map Recipient.id = ids.filter archive.reaches := by
  unfold reachable known
  induction ids with
  | nil => rfl
  | cons id rest ih =>
    cases found : archive.recipients.get? id with
    | none =>
      rw [List.filterMap_cons_none found, ih, List.filter_cons_of_neg]
      simp [reaches, found]
    | some recipient =>
      rw [List.filterMap_cons_some found]
      cases eligible : recipient.isEligible with
      | false =>
        rw [List.filter_cons_of_neg (by simp [eligible]), ih, List.filter_cons_of_neg]
        simp [reaches, found, eligible]
      | true =>
        rw [List.filter_cons_of_pos eligible, List.map_cons, ih, List.filter_cons_of_pos,
          show recipient.id = id from Table.key_of_get? found]
        simp [reaches, found, eligible]

/-- Whom a message can reach is on file. -/
theorem contains_of_reaches {archive : Archive} {id : RecipientId}
    (reached : archive.reaches id = true) : archive.recipients.contains id = true := by
  rw [Table.contains_eq_isSome]
  cases found : archive.recipients.get? id with
  | none =>
    rw [reaches, found] at reached
    cases reached
  | some recipient => rfl

/-- The identifiers of a list that are left out are those that no message reaches. -/
theorem mem_leftOut_iff {ids : List RecipientId} {archive : Archive} {id : RecipientId}
    (asked : id ∈ ids) : id ∈ archive.leftOut ids ↔ archive.reaches id = false := by
  rw [leftOut, List.mem_append, List.mem_map, unknown, List.mem_filter, Table.contains_eq_isSome]
  constructor
  · rintro (⟨recipient, held, rfl⟩ | ⟨-, missing⟩)
    · obtain ⟨known, ineligible⟩ := List.mem_filter.1 held
      rw [reaches, (get?_id_of_mem_known known).2]
      simpa using ineligible
    · have absent : archive.recipients.get? id = none := by simpa using missing
      rw [reaches, absent]
      rfl
  · intro missed
    cases found : archive.recipients.get? id with
    | none => exact .inr ⟨asked, rfl⟩
    | some recipient =>
      rw [reaches, found] at missed
      refine .inl ⟨recipient, List.mem_filter.2 ⟨List.mem_filterMap.2 ⟨id, asked, found⟩, ?_⟩,
        Table.key_of_get? found⟩
      simpa using missed

/-- Marks leave everybody on file. -/
theorem contains_markAll (ids : List RecipientId) (archive : Archive) (id : RecipientId) :
    (archive.markAll ids).recipients.contains id = archive.recipients.contains id := by
  rw [Table.contains_eq_isSome, Table.contains_eq_isSome, get?_markAll, Option.isSome_map]

/-- Marking a recipient who is on file raises the count of that recipient's marks. -/
theorem markCount_markGone (id other : RecipientId) (archive : Archive) :
    (archive.markGone id).2.markCount other = archive.markCount other +
      if archive.recipients.contains other then [id].count other else 0 := by
  rw [List.count_singleton, markGone, Table.contains_eq_isSome]
  cases found : archive.recipients.get? id with
  | none =>
    by_cases same : id = other
    · rw [← same, found]
      rfl
    · simp [same]
  | some recipient =>
    show (archive.marks.add id).count other = archive.marks.count other + _
    rw [Tally.count_add]
    by_cases same : id = other
    · simp [← same, found]
    · simp [same]

/-- Marks are counted for whoever is on file, as often as they are named. -/
theorem markCount_markAll (ids : List RecipientId) (archive : Archive) (other : RecipientId) :
    (archive.markAll ids).markCount other = archive.markCount other +
      if archive.recipients.contains other then ids.count other else 0 := by
  induction ids generalizing archive with
  | nil =>
    rw [List.count_nil, ite_self]
    rfl
  | cons id rest ih =>
    have kept : (archive.markGone id).2.recipients.contains other =
        archive.recipients.contains other :=
      archive.contains_markAll [id] other
    have named : ([id] ++ rest).count other = [id].count other + rest.count other :=
      List.count_append
    show ((archive.markGone id).2.markAll rest).markCount other = _ +
      if _ then ([id] ++ rest).count other else 0
    rw [ih, markCount_markGone, kept, Nat.add_assoc, named]
    split <;> rfl

/-- Whether a recipient is on file as gone. -/
def hasGone (archive : Archive) (id : RecipientId) : Bool :=
  (archive.recipients.get? id).any fun recipient => recipient.registered == .notRegistered

/-- Whoever could be reached and is marked is on file as gone. -/
theorem hasGone_markAll {archive : Archive} {ids : List RecipientId} {id : RecipientId}
    (reached : archive.reaches id = true) (named : id ∈ ids) :
    (archive.markAll ids).hasGone id = true := by
  rw [hasGone, get?_markAll]
  cases found : archive.recipients.get? id with
  | none =>
    rw [reaches, found] at reached
    cases reached
  | some recipient =>
    rw [Option.map_some, if_pos named]
    rfl

/-- Whoever is on file as gone stays so when recipients are marked. -/
theorem hasGone_markAll_of_hasGone {archive : Archive} {id : RecipientId}
    (gone : archive.hasGone id = true) (ids : List RecipientId) :
    (archive.markAll ids).hasGone id = true := by
  unfold hasGone at gone ⊢
  rw [get?_markAll]
  cases found : archive.recipients.get? id with
  | none =>
    rw [found] at gone
    cases gone
  | some recipient =>
    rw [found] at gone
    rw [Option.map_some, Option.any_some]
    split
    · rfl
    · exact gone

/-- No message reaches whoever is on file as gone. -/
theorem reaches_of_hasGone {archive : Archive} {id : RecipientId}
    (gone : archive.hasGone id = true) : archive.reaches id = false := by
  unfold hasGone at gone
  unfold reaches
  cases found : archive.recipients.get? id with
  | none => rfl
  | some recipient =>
    rw [found, Option.any_some] at gone
    have forgotten : recipient.registered = .notRegistered := by simpa using gone
    rw [Option.any_some, Recipient.isEligible, forgotten]
    exact Bool.and_false _

end Archive

end Mailroom
