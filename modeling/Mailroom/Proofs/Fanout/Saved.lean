import Mailroom.Proofs.Fanout.Progress
import Mailroom.Proofs.Json.Members

/-!
# Saved progress stays readable

What is saved of progress is an object with three members. A later writer may put them in another
order, lay the text out with blanks and add members of its own, of whatever kind: the three members
still say what the progress is. Each of them has to be there once; a text without one of them, or
with one of them twice, is refused, whatever else it holds.
-/

namespace Mailroom.Fanout.Progress

/-- The names of the members. -/
def fieldNames : List String :=
  ["targetMessageId", "remainingRecipients", "initialRecipientCount"]

/-- Whether a member of an object is one of those that progress has. -/
def isField (member : Option String × Json) : Bool := member.1.any fieldNames.contains

theorem isField_of_mem {name : String} (known : name ∈ fieldNames) (value : Json) :
    isField (some name, value) = true := by
  simpa [isField] using known

/-- An object that holds the members of progress, in any order and among any others, has the value
of each of them once. -/
theorem valuesOf_of_perm {progress : Progress} {members : List (Option String × Json)}
    (own : (members.filter isField).Perm
      (progress.members.map fun member => (some member.1, member.2)))
    {member : String × Json} (held : member ∈ progress.members) :
    Json.valuesOf member.1 members = [member.2] := by
  have distinct : (progress.members.map Prod.fst).Nodup := by
    show fieldNames.Nodup
    decide
  have known : member.1 ∈ fieldNames := List.mem_map_of_mem held
  have filtered := Json.valuesOf_filter (isField_of_mem known) members
  have same := Json.valuesOf_perm own member.1
  rw [filtered, Json.valuesOf_record distinct held] at same
  exact List.perm_singleton.1 same

/-- Such an object is progress. -/
theorem ofJson?_of_perm {progress : Progress} {members : List (Option String × Json)}
    (named : ∀ member ∈ members, member.1.isSome = true)
    (own : (members.filter isField).Perm
      (progress.members.map fun member => (some member.1, member.2))) :
    ofJson? (.object members) = some progress := by
  have proper : members.all (fun member => member.1.isSome) = true := List.all_eq_true.2 named
  have found : ∀ member ∈ progress.members,
      Json.field? members member.1 = some (some member.2) :=
    fun member held => Json.field?_of_valuesOf (valuesOf_of_perm own held)
  have fields : (Json.object members).fields? (progress.members.map Prod.fst) =
      some (progress.members.map fun member => some member.2) := by
    rw [Json.fields?, if_pos proper, List.mapM_map]
    exact Json.mapM_eq_some found
  have record : progress.toJson.fields? (progress.members.map Prod.fst) =
      some (progress.members.map fun member => some member.2) :=
    Json.fields?_record (by show fieldNames.Nodup; decide)
  rw [← ofJson?_toJson progress]
  unfold ofJson?
  show ((Json.object members).fields? (progress.members.map Prod.fst) >>= _) =
    (progress.toJson.fields? (progress.members.map Prod.fst) >>= _)
  rw [fields, record]

/-- An object is progress only if it has each of the three members once. -/
theorem exists_valuesOf {progress : Progress} {members : List (Option String × Json)}
    (read : ofJson? (.object members) = some progress) {name : String}
    (known : name ∈ fieldNames) : ∃ value, Json.valuesOf name members = [value] := by
  change ((Json.object members).fields? fieldNames >>= _) = _ at read
  cases listed : (Json.object members).fields? fieldNames with
  | none =>
    rw [listed] at read
    cases read
  | some fields =>
    rw [listed] at read
    have found := Json.field?_of_fields? listed
    -- a field that is missing is `none` here, and no field of progress may be missing
    rcases fields with - | ⟨- | target, - | ⟨- | remaining, - | ⟨- | count, - | ⟨_, _⟩⟩⟩⟩ <;>
      simp [Json.required] at read
    obtain - | ⟨target, - | ⟨remaining, - | ⟨count, -⟩⟩⟩ := found
    simp only [fieldNames, List.mem_cons, List.not_mem_nil, or_false] at known
    rcases known with rfl | rfl | rfl
    · exact ⟨_, Json.valuesOf_of_field? target⟩
    · exact ⟨_, Json.valuesOf_of_field? remaining⟩
    · exact ⟨_, Json.valuesOf_of_field? count⟩

/-- An object in which a member is missing or repeated is refused. -/
theorem decode_of_count_ne_one {members : List (Option String × Json)} {bytes : List UInt8}
    (spelled : Json.Grammar.Padded (.object members) bytes) {name : String}
    (known : name ∈ fieldNames) (odd : (members.map Prod.fst).count (some name) ≠ 1) :
    ∃ reason, decode bytes = .error (.decode factoryKey reason) := by
  have refused : decode? bytes = none := by
    rw [decode?, Json.read?_of_spelled spelled, Option.bind_some]
    cases read : ofJson? (.object members) with
    | none => rfl
    | some progress =>
      obtain ⟨value, alone⟩ := exists_valuesOf read known
      have count := Json.length_valuesOf name members
      rw [alone] at count
      exact absurd count.symm odd
  exact ⟨_, by rw [decode, refused]⟩

/-- The laws of texts that hold progress. -/
structure Lasting (progress : Progress) : Prop where
  /-- What is saved is read back. -/
  readBack : decode progress.encode = .ok progress
  /-- The three members say what the progress is: in any order, spelled in any way with any blanks,
  and among any members of other names. -/
  readAmong : ∀ members bytes, (∀ member ∈ members, member.1.isSome = true) →
    (members.filter isField).Perm (progress.members.map fun member => (some member.1, member.2)) →
    Json.Grammar.Padded (.object members) bytes → decode bytes = .ok progress
  /-- An object in which one of them is missing or repeated is refused, whatever else it holds. -/
  refused : ∀ members bytes, Json.Grammar.Padded (.object members) bytes →
    ∀ name ∈ fieldNames, (members.map Prod.fst).count (some name) ≠ 1 →
      ∃ reason, decode bytes = .error (.decode factoryKey reason)

/-- Saved progress is read back, also from a text that a later writer made of its members and of
others, and from no text without each of its members once. -/
theorem saved_progress_lasts (progress : Progress) : Lasting progress where
  readBack := decode_eq_ok_iff.2 (decode?_encode progress)
  readAmong members bytes named own spelled := by
    apply decode_eq_ok_iff.2
    rw [decode?, Json.read?_of_spelled spelled, Option.bind_some]
    exact ofJson?_of_perm named own
  refused members bytes spelled name known odd := decode_of_count_ne_one spelled known odd

/-- Progress of two recipients out of three. -/
def halfway : Progress := ⟨⟨5⟩, [⟨-7⟩, ⟨8⟩], 3⟩

/-- The members of `halfway` from the last to the first, between two notes of the same name. -/
def annotated : List (String × Json) :=
  ("note", .array [.null, .record [("targetMessageId", .int 0)]]) ::
    halfway.members.reverse ++ [("note", .text "\u00fc")]

/-- Progress is read from a text with notes and blanks, and not from its first member alone. -/
theorem saved_progress_lasts_annotated :
    decode (0x20 :: ((Json.record annotated).write ++ [0x0a])) = .ok halfway ∧
      ∃ reason, decode (Json.record (halfway.members.take 1)).write =
        .error (.decode factoryKey reason) := by
  have laws := saved_progress_lasts halfway
  constructor
  · have notes : ∀ member ∈ annotated, member.2.Written := by
      intro member held
      simp only [annotated, List.cons_append, List.mem_cons, List.mem_append, List.mem_reverse,
        List.not_mem_nil, or_false] at held
      rcases held with rfl | own | rfl
      · apply Json.written_array
        intro item among
        simp only [List.mem_cons, List.not_mem_nil, or_false] at among
        rcases among with rfl | rfl
        · exact Json.written_null
        · exact Json.written_record (by simp [Json.written_int])
      · exact halfway.written_members member own
      · exact Json.written_text _
    have before : Json.Grammar.Blanks [0x20] := by
      intro byte among
      rw [List.mem_singleton.1 among]
      decide
    have after : Json.Grammar.Blanks [0x0a] := by
      intro byte among
      rw [List.mem_singleton.1 among]
      decide
    apply laws.readAmong (annotated.map fun member => (some member.1, member.2))
    · intro member held
      obtain ⟨source, -, rfl⟩ := List.mem_map.1 held
      rfl
    · have own : (annotated.map fun member => (some member.1, member.2)).filter isField =
          (halfway.members.map fun member => (some member.1, member.2)).reverse := by
        simp [annotated, isField, fieldNames, members]
      rw [own]
      exact List.reverse_perm _
    · exact .between before after (Json.written_record notes)
  · apply laws.refused _ _ (Json.Grammar.Value.padded (Json.written_record ?_))
      "remainingRecipients" (by decide)
    · simp [members]
    · intro member held
      exact halfway.written_members member (List.mem_of_mem_take held)

end Mailroom.Fanout.Progress
