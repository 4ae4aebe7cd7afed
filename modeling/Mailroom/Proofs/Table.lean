import Mailroom.Table
import Mathlib.Data.List.Nodup

/-!
# What tables hold

The laws of a table as a set of records with distinct keys: which records it holds after a record
is filed, and which record is found under which key. A key is held by at most one record, so a
record that is held is what is found under its key.
-/

namespace Mailroom.Table

variable {κ α : Type} {key : α → κ}

/-- Records of a table with the same key are the same record. -/
theorem eq_of_key_eq {table : Table key} {left right : α} (hl : left ∈ table.records)
    (hr : right ∈ table.records) (same : key left = key right) : left = right :=
  List.inj_on_of_nodup_map table.distinct hl hr same

variable [DecidableEq κ]

/-- What is found under a key is the record of the table with that key. -/
theorem get?_eq_some_iff {table : Table key} {k : κ} {record : α} :
    table.get? k = some record ↔ record ∈ table.records ∧ key record = k := by
  constructor
  · intro found
    exact ⟨mem_of_get? found, key_of_get? found⟩
  · rintro ⟨held, rfl⟩
    cases found : table.get? (key record) with
    | none => exact absurd rfl (get?_eq_none_iff.1 found record held)
    | some other =>
      rw [eq_of_key_eq (mem_of_get? found) held (key_of_get? found)]

/-- A key is contained exactly when a record of the table has it. -/
theorem contains_iff {table : Table key} {k : κ} :
    table.contains k = true ↔ ∃ record ∈ table.records, key record = k := by
  simp [contains, List.any_eq_true]

/-- A table holds a record that was just filed and the records with other keys. -/
theorem mem_insert {table : Table key} {record other : α} :
    other ∈ (table.insert record).records ↔
      other = record ∨ other ∈ table.records ∧ key other ≠ key record := by
  unfold insert
  split
  · rename_i present
    obtain ⟨old, held, same⟩ := contains_iff.1 present
    show other ∈ replaceIn key record table.records ↔ _
    rw [replaceIn, List.mem_map]
    constructor
    · rintro ⟨source, hs, rfl⟩
      by_cases replaced : key source = key record
      · exact .inl (if_pos replaced)
      · rw [if_neg replaced]
        exact .inr ⟨hs, replaced⟩
    · rintro (rfl | ⟨held, different⟩)
      · exact ⟨old, held, if_pos same⟩
      · exact ⟨other, held, if_neg different⟩
  · rename_i absent
    have fresh : ∀ old ∈ table.records, key old ≠ key record := by
      intro old held same
      exact absent (contains_iff.2 ⟨old, held, same⟩)
    rw [List.mem_append, List.mem_singleton]
    constructor
    · rintro (held | rfl)
      · exact .inr ⟨held, fresh other held⟩
      · exact .inl rfl
    · rintro (rfl | ⟨held, -⟩)
      · exact .inr rfl
      · exact .inl held

/-- A table holds a record that was just filed. -/
theorem mem_insert_self (table : Table key) (record : α) :
    record ∈ (table.insert record).records :=
  mem_insert.2 (.inl rfl)

/-- Filing a record changes only what is found under its key. -/
theorem get?_insert (table : Table key) (record : α) (k : κ) :
    (table.insert record).get? k = if key record = k then some record else table.get? k := by
  by_cases same : key record = k
  · rw [if_pos same]
    exact get?_eq_some_iff.2 ⟨mem_insert_self table record, same⟩
  · rw [if_neg same]
    refine Option.ext fun other => ?_
    rw [get?_eq_some_iff, get?_eq_some_iff, mem_insert]
    constructor
    · rintro ⟨rfl | ⟨held, -⟩, here⟩
      · exact absurd here same
      · exact ⟨held, here⟩
    · rintro ⟨held, rfl⟩
      exact ⟨.inr ⟨held, Ne.symm same⟩, rfl⟩

/-- A table contains the key of a record that was just filed and the keys it contained before. -/
theorem contains_insert (table : Table key) (record : α) (k : κ) :
    (table.insert record).contains k = (decide (key record = k) || table.contains k) := by
  rw [contains_eq_isSome, contains_eq_isSome, get?_insert]
  by_cases same : key record = k
  · rw [if_pos same, decide_eq_true same]
    rfl
  · rw [if_neg same, decide_eq_false same, Bool.false_or]

/-- A record filed under a new key comes last. -/
theorem records_insert_of_absent {table : Table key} {record : α}
    (absent : table.contains (key record) = false) :
    (table.insert record).records = table.records ++ [record] := by
  unfold insert
  rw [dif_neg (by simp [absent])]

/-- Records filed under new, distinct keys come last, in their order. -/
theorem records_insertAll {table : Table key} {records : List α}
    (absent : ∀ record ∈ records, table.contains (key record) = false)
    (distinct : (records.map key).Nodup) :
    (table.insertAll records).records = table.records ++ records := by
  induction records generalizing table with
  | nil => exact (List.append_nil _).symm
  | cons record rest ih =>
    rw [List.map_cons, List.nodup_cons] at distinct
    have first := records_insert_of_absent (absent record List.mem_cons_self)
    have later : ∀ other ∈ rest, (table.insert record).contains (key other) = false := by
      intro other held
      have unused := absent other (List.mem_cons_of_mem record held)
      rw [← Bool.not_eq_true, contains_iff] at unused ⊢
      rintro ⟨found, present, same⟩
      rw [first, List.mem_append, List.mem_singleton] at present
      rcases present with old | rfl
      · exact unused ⟨found, old, same⟩
      · exact distinct.1 (List.mem_map.2 ⟨other, held, same.symm⟩)
    show ((table.insert record).insertAll rest).records = _
    rw [ih later distinct.2, first, List.append_assoc, List.singleton_append]

/-- Tables that hold the same records hold the same records after one more is filed. -/
theorem records_insert_perm {left right : Table key} (same : left.records.Perm right.records)
    (record : α) : (left.insert record).records.Perm (right.insert record).records := by
  have known : left.contains (key record) = right.contains (key record) := same.any_eq
  cases present : right.contains (key record) with
  | true =>
    rw [insert, dif_pos (known.trans present), insert, dif_pos present]
    exact same.map _
  | false =>
    rw [records_insert_of_absent (known.trans present), records_insert_of_absent present]
    exact same.append_right [record]

end Mailroom.Table

namespace Mailroom.Ledger

variable {κ α : Type} [DecidableEq κ]

/-- Writing a value changes only what is found under its key. -/
theorem find?_put (ledger : Ledger κ α) (key : κ) (value : α) (k : κ) :
    (ledger.put key value).find? k = if key = k then some value else ledger.find? k := by
  rw [find?, put, Table.get?_insert, apply_ite (Option.map Prod.snd)]
  rfl

end Mailroom.Ledger

/-- Counting a key changes only its count. -/
theorem Mailroom.Tally.count_add {κ : Type} [DecidableEq κ] (tally : Tally κ) (key k : κ) :
    (tally.add key).count k = tally.count k + if key = k then 1 else 0 := by
  rw [count, add, Ledger.find?_put]
  by_cases same : key = k
  · rw [if_pos same, if_pos same, same]
    rfl
  · rw [if_neg same, if_neg same]
    rfl
