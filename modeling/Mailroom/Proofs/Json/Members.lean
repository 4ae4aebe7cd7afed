import Mailroom.Proofs.Json.RoundTrip

/-!
# Members of objects

The fields of an object are found by their names. Neither the order of the members nor members of
other names matter, and a field is there exactly if one member has its name: a name that is missing
or repeated has no field.
-/

namespace Mailroom.Json

variable {members : List (Option String × Json)}

/-- Leaving out members of other names leaves the values under a name. -/
theorem valuesOf_filter {keep : Option String × Json → Bool} {name : String}
    (kept : ∀ value, keep (some name, value) = true) (members : List (Option String × Json)) :
    valuesOf name (members.filter keep) = valuesOf name members := by
  induction members with
  | nil => rfl
  | cons member rest ih =>
    obtain ⟨key, value⟩ := member
    rw [valuesOf_cons, List.filter_cons]
    by_cases same : key = some name
    · subst same
      rw [if_pos (kept value), valuesOf_cons, if_pos rfl, if_pos rfl, ih]
    · rw [if_neg same]
      cases keep (key, value) with
      | false => exact ih
      | true =>
        rw [if_pos rfl, valuesOf_cons, if_neg same, ih]

/-- The order of members does not matter for which values are under a name. -/
theorem valuesOf_perm {left right : List (Option String × Json)} (same : left.Perm right)
    (name : String) : (valuesOf name left).Perm (valuesOf name right) :=
  same.filterMap _

/-- There are as many values under a name as members with that name. -/
theorem length_valuesOf (name : String) (members : List (Option String × Json)) :
    (valuesOf name members).length = (members.map Prod.fst).count (some name) := by
  induction members with
  | nil => rfl
  | cons member rest ih =>
    obtain ⟨key, value⟩ := member
    rw [valuesOf_cons, List.map_cons]
    by_cases same : key = some name
    · rw [if_pos same, List.length_cons, ih, same, List.count_cons_self]
    · rw [if_neg same, ih, List.count_cons_of_ne same]

/-- A field that is there once has its value. -/
theorem field?_of_valuesOf {name : String} {value : Json} (alone : valuesOf name members = [value]) :
    field? members name = some (some value) := by
  rw [field?, alone]

/-- Only a field that is there once has a value. -/
theorem valuesOf_of_field? {name : String} {value : Json}
    (found : field? members name = some (some value)) : valuesOf name members = [value] := by
  unfold field? at found
  split at found
  · cases found
  · rename_i other alone
    cases found
    exact alone
  · cases found

/-- What is read of a list is read of its items one by one. -/
theorem forall₂_of_mapM {α β : Type} {read : α → Option β} {items : List α} {results : List β}
    (all : items.mapM read = some results) :
    List.Forall₂ (fun item result => read item = some result) items results := by
  induction items generalizing results with
  | nil =>
    cases all
    exact .nil
  | cons item rest ih =>
    rw [List.mapM_cons] at all
    obtain ⟨first, here, all⟩ := Option.bind_eq_some_iff.1 all
    obtain ⟨others, there, made⟩ := Option.bind_eq_some_iff.1 all
    cases made
    exact .cons here (ih there)

/-- The fields of an object are those of its members. -/
theorem field?_of_fields? {names : List String} {fields : List (Option Json)}
    (listed : (object members).fields? names = some fields) :
    List.Forall₂ (fun name field => field? members name = some field) names fields := by
  rw [fields?] at listed
  by_cases proper : members.all (fun member => member.1.isSome) = true
  · rw [if_pos proper] at listed
    exact forall₂_of_mapM listed
  · rw [if_neg proper] at listed
    cases listed

end Mailroom.Json
