/-!
# Tables

A table files records under the key that each of them carries. No key occurs twice, and records
stay in the order in which their keys first came. A `Ledger` is a table of pairs, and a `Tally`
counts how often each key was met.

The laws beside the definitions say what each operation does to `get?`, the view through which
every other module reads a table.
-/

namespace Mailroom

/-- Records filed under the key that each carries, no key twice. -/
structure Table {κ α : Type} (key : α → κ) where
  /-- The records in the order in which their keys first came. -/
  records : List α
  /-- No two records carry the same key. -/
  distinct : (records.map key).Nodup
  deriving DecidableEq

namespace Table

variable {κ α : Type} {key : α → κ}

/-- The table without records. -/
def empty : Table key := ⟨[], List.nodup_nil⟩

instance : Inhabited (Table key) := ⟨empty⟩

/-- Two tables with the same records in the same order are equal. -/
@[ext] theorem ext {left right : Table key} (h : left.records = right.records) : left = right := by
  cases left
  cases right
  cases h
  rfl

variable [DecidableEq κ]

/-- The record filed under a key. -/
def get? (table : Table key) (k : κ) : Option α :=
  table.records.find? fun record => decide (key record = k)

/-- Whether a record is filed under a key. -/
def contains (table : Table key) (k : κ) : Bool :=
  table.records.any fun record => decide (key record = k)

/-- Puts a record in the place of the one with its key. -/
def replaceIn (key : α → κ) (record : α) (records : List α) : List α :=
  records.map fun old => if key old = key record then record else old

/-- Replacing a record by one with the same key keeps the list of keys. -/
theorem keys_replaceIn (record : α) (records : List α) :
    (replaceIn key record records).map key = records.map key := by
  rw [replaceIn, List.map_map]
  refine List.map_congr_left fun old _ => ?_
  show key (if key old = key record then record else old) = key old
  split
  · rename_i same
    exact same.symm
  · rfl

/-- A key that no record carries is not among the keys. -/
theorem not_mem_keys {table : Table key} {k : κ} (absent : ¬ table.contains k = true) :
    k ∉ table.records.map key := by
  intro present
  obtain ⟨record, hr, rfl⟩ := List.mem_map.1 present
  exact absent (List.any_eq_true.2 ⟨record, hr, decide_eq_true rfl⟩)

/-- Files a record, in the place of the one with its key if there is one and at the end
otherwise. -/
def insert (table : Table key) (record : α) : Table key :=
  if present : table.contains (key record) then
    ⟨replaceIn key record table.records, by
      rw [keys_replaceIn]
      exact table.distinct⟩
  else
    ⟨table.records ++ [record], by
      rw [List.map_append, List.nodup_append]
      refine ⟨table.distinct, by simp, fun k hk k' hk' same => ?_⟩
      rw [List.map_singleton, List.mem_singleton] at hk'
      exact not_mem_keys present (hk' ▸ same ▸ hk)⟩

/-- Removes the record filed under a key. -/
def erase (table : Table key) (k : κ) : Table key :=
  ⟨table.records.filter fun record => decide (key record ≠ k),
    List.Pairwise.sublist (List.Sublist.map key List.filter_sublist) table.distinct⟩

/-- Files the records of a list one after another. -/
def insertAll (table : Table key) (records : List α) : Table key :=
  records.foldl insert table

/-- What is found under a key carries that key. -/
theorem key_of_get? {table : Table key} {k : κ} {record : α} (h : table.get? k = some record) :
    key record = k := by
  have := List.find?_some h
  simpa using this

/-- What is found is filed. -/
theorem mem_of_get? {table : Table key} {k : κ} {record : α} (h : table.get? k = some record) :
    record ∈ table.records :=
  List.mem_of_find?_eq_some h

/-- Nothing is found exactly under the keys that no record carries. -/
theorem get?_eq_none_iff {table : Table key} {k : κ} :
    table.get? k = none ↔ ∀ record ∈ table.records, key record ≠ k := by
  simp [get?, List.find?_eq_none]

/-- A key is contained exactly when something is found under it. -/
theorem contains_eq_isSome (table : Table key) (k : κ) :
    table.contains k = (table.get? k).isSome := by
  rw [contains, get?, List.isSome_find?]

end Table

/-- A table of pairs, filed under their first components. -/
abbrev Ledger (κ α : Type) : Type := Table (Prod.fst : κ × α → κ)

namespace Ledger

variable {κ α : Type} [DecidableEq κ]

/-- The value written under a key. -/
def find? (ledger : Ledger κ α) (k : κ) : Option α := (Table.get? ledger k).map Prod.snd

/-- Writes a value under a key. -/
def put (ledger : Ledger κ α) (k : κ) (value : α) : Ledger κ α := Table.insert ledger (k, value)

end Ledger

/-- How often each key was met. -/
abbrev Tally (κ : Type) : Type := Ledger κ Nat

namespace Tally

variable {κ : Type} [DecidableEq κ]

/-- The count of a key, zero before it is first met. -/
def count (tally : Tally κ) (k : κ) : Nat := (Ledger.find? tally k).getD 0

/-- Counts a key once more. -/
def add (tally : Tally κ) (k : κ) : Tally κ := Ledger.put tally k (count tally k + 1)

end Tally

end Mailroom
