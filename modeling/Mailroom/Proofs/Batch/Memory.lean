import Mathlib
import Mailroom.Batch.Lookups
import Mailroom.Proofs.Batch.HandOver
import Mailroom.Proofs.Table

/-!
# Lookups remember one batch

Lookups are asked for all sorts of things, in any order, the state of a group each time with
another loader, and now and then they are cleared. Every answer is told by what was asked since the
last clear: parameters are those of a direct derivation, the state of a group is what the first
loader that did not fail gave, a revision is the last one that was set, and a marker is news once.
Nothing is derived or loaded twice between two clears, and nothing outlives a clear but the number
of derivations.

The notes of a course of questions say what was answered and how often a loader was called. The
invariant is that each table of the lookups is a function of the notes since the last clear.
-/

namespace Mailroom.Batch

variable {ε σ : Type}

/-- Something asked of lookups. -/
inductive Question (ε σ : Type) where
  /-- The parameters and the group of a key. -/
  | groupInfo (key : MasterKey)
  /-- The state of a group, with a loader that may read and change a state of its own. -/
  | roster (id : GroupId) (load : GroupId → σ → Except ε (Option Roster) × σ)
  | revision (id : GroupId)
  | setRevision (id : GroupId) (revision : UInt32)
  | isQueueEmpty (marker : String)
  | markQueueEmpty (marker : String)
  /-- To forget all that is remembered. -/
  | clear

/-- A question and its answer. -/
inductive Note (ε : Type) where
  | groupInfo (key : MasterKey) (found : GroupSecret × GroupId)
  /-- The answer comes behind all that the loader answered, one entry for every time it was
  called. -/
  | roster (id : GroupId) (loads : List (Except ε (Option Roster)))
    (answer : Except ε (Option Roster))
  | revision (id : GroupId) (found : Option UInt32)
  | setRevision (id : GroupId) (revision : UInt32)
  | isQueueEmpty (marker : String) (empty : Bool)
  | markQueueEmpty (marker : String) (news : Bool)
  | clear

namespace Note

/-- Whether a note is about a question. -/
inductive About : Note ε → Question ε σ → Prop where
  | groupInfo (key : MasterKey) (found : GroupSecret × GroupId) :
    About (.groupInfo key found) (.groupInfo key)
  | roster (id : GroupId) (loads : List (Except ε (Option Roster)))
    (answer : Except ε (Option Roster)) (load : GroupId → σ → Except ε (Option Roster) × σ) :
    About (.roster id loads answer) (.roster id load)
  | revision (id : GroupId) (found : Option UInt32) : About (.revision id found) (.revision id)
  | setRevision (id : GroupId) (revision : UInt32) :
    About (.setRevision id revision) (.setRevision id revision)
  | isQueueEmpty (marker : String) (empty : Bool) :
    About (.isQueueEmpty marker empty) (.isQueueEmpty marker)
  | markQueueEmpty (marker : String) (news : Bool) :
    About (.markQueueEmpty marker news) (.markQueueEmpty marker)
  | clear : About .clear .clear

/-- Whether all that was remembered is forgotten. -/
def clears : Note ε → Bool
  | .clear => true
  | _ => false

/-- The key whose parameters were asked for. -/
def key? : Note ε → Option MasterKey
  | .groupInfo key _ => some key
  | _ => none

/-- The state of a group that a loader gave without failing. -/
def loaded? (id : GroupId) : Note ε → Option (Option Roster)
  | .roster other loads _ => if other = id then loads.findSome? Except.toOption else none
  | _ => none

/-- The revision that was set for a group. -/
def revised? (id : GroupId) : Note ε → Option UInt32
  | .setRevision other set => if other = id then some set else none
  | _ => none

/-- The marker that was set. -/
def marker? : Note ε → Option String
  | .markQueueEmpty marker _ => some marker
  | _ => none

/-- The notes since the last clear among them. -/
def sinceClear (notes : List (Note ε)) : List (Note ε) := notes.rtakeWhile (!·.clears)

/-- The keys whose parameters were asked for, each once. -/
def keys (notes : List (Note ε)) : List MasterKey := (notes.filterMap key?).eraseDups

/-- The first state of a group that a loader gave. -/
def firstLoaded? (id : GroupId) (notes : List (Note ε)) : Option (Option Roster) :=
  notes.findSome? (loaded? id)

/-- The last revision that was set for a group. -/
def lastRevised? (id : GroupId) (notes : List (Note ε)) : Option UInt32 :=
  notes.reverse.findSome? (revised? id)

/-- The markers that were set. -/
def markers (notes : List (Note ε)) : List String := notes.filterMap marker?

/-- How many distinct keys were asked for between clears, all in all. -/
def distinctKeys (notes : List (Note ε)) : Nat :=
  ((notes.splitOnP clears).map fun batch => (keys batch).length).sum

/-- What a key gives by direct derivation. -/
def direct (key : MasterKey) : GroupSecret × GroupId :=
  (GroupSecret.derive key, GroupId.ofMasterKey key)

/-- What a note says is told by the notes since the last clear before it. -/
def Told (since : List (Note ε)) : Note ε → Prop
  | .groupInfo key found => found = direct key
  | .roster id loads answer =>
    match firstLoaded? id since with
    | some found => loads = [] ∧ answer = .ok found
    | none => loads = [answer]
  | .revision id found => found = lastRevised? id since
  | .isQueueEmpty marker empty => empty = decide (marker ∈ markers since)
  | .markQueueEmpty marker news => news = decide (marker ∉ markers since)
  | .setRevision _ _ => True
  | .clear => True

theorem firstLoaded?_concat (id : GroupId) (notes : List (Note ε)) (note : Note ε) :
    firstLoaded? id (notes ++ [note]) = (firstLoaded? id notes).or (note.loaded? id) := by
  rw [firstLoaded?, List.findSome?_append, List.findSome?_singleton]
  rfl

theorem lastRevised?_concat (id : GroupId) (notes : List (Note ε)) (note : Note ε) :
    lastRevised? id (notes ++ [note]) = (note.revised? id).or (lastRevised? id notes) := by
  rw [lastRevised?, List.reverse_append, List.findSome?_append, List.reverse_singleton,
    List.findSome?_singleton]
  rfl

theorem mem_markers_concat (marker : String) (notes : List (Note ε)) (note : Note ε) :
    marker ∈ markers (notes ++ [note]) ↔ note.marker? = some marker ∨ marker ∈ markers notes := by
  rw [markers, List.filterMap_append, List.mem_append, List.mem_filterMap (l := [note])]
  simp only [List.mem_singleton, exists_eq_left]
  exact or_comm

theorem mem_keys_concat (key : MasterKey) (notes : List (Note ε)) (note : Note ε) :
    key ∈ keys (notes ++ [note]) ↔ note.key? = some key ∨ key ∈ keys notes := by
  rw [keys, List.mem_eraseDups, List.filterMap_append, List.mem_append,
    List.mem_filterMap (l := [note]), keys, List.mem_eraseDups]
  simp only [List.mem_singleton, exists_eq_left]
  exact or_comm

/-- A question that is not about a key asks for no new key. -/
theorem keys_concat_of_none {note : Note ε} (other : note.key? = none) (notes : List (Note ε)) :
    keys (notes ++ [note]) = keys notes := by
  simp [keys, other]

/-- A key counts when it is first asked for. -/
theorem length_keys_concat {note : Note ε} {key : MasterKey} (asked : note.key? = some key)
    (notes : List (Note ε)) :
    (keys (notes ++ [note])).length =
      if key ∈ keys notes then (keys notes).length else (keys notes).length + 1 := by
  have split : keys (notes ++ [note]) = (notes.filterMap key? ++ [key]).eraseDups := by
    simp [keys, asked]
  have known : key ∈ keys notes ↔ key ∈ notes.filterMap key? := List.mem_eraseDups
  rw [split, eraseDups_concat, if_congr known rfl rfl]
  split
  · rfl
  · rw [List.length_append, List.length_singleton]
    rfl

theorem sinceClear_concat_of_clears {note : Note ε} (clears : note.clears = true)
    (notes : List (Note ε)) : sinceClear (notes ++ [note]) = [] := by
  simp [sinceClear, clears]

theorem sinceClear_concat_of_keeps {note : Note ε} (keeps : note.clears = false)
    (notes : List (Note ε)) : sinceClear (notes ++ [note]) = sinceClear notes ++ [note] := by
  simp [sinceClear, keeps]

/-- The notes between clears end with those since the last clear, which may go on. -/
theorem splitOnP_clears (notes : List (Note ε)) :
    ∃ earlier, ∀ later : List (Note ε), (∀ note ∈ later, note.clears = false) →
      (notes ++ later).splitOnP clears = earlier ++ [sinceClear notes ++ later] := by
  induction notes using List.reverseRecOn with
  | nil => exact ⟨[], fun later keep => List.splitOnP_eq_singleton keep⟩
  | append_singleton notes note ih =>
    obtain ⟨earlier, ih⟩ := ih
    cases clears : note.clears with
    | true =>
      refine ⟨notes.splitOnP Note.clears, fun later keep => ?_⟩
      rw [sinceClear_concat_of_clears clears, List.append_assoc, List.singleton_append,
        List.splitOnP_append_cons _ _ clears, List.splitOnP_eq_singleton keep, List.nil_append]
    | false =>
      refine ⟨earlier, fun later keep => ?_⟩
      rw [sinceClear_concat_of_keeps clears, List.append_assoc, List.singleton_append,
        ih (note :: later) (List.forall_mem_cons.2 ⟨clears, keep⟩), List.append_assoc,
        List.singleton_append]

/-- A clear begins a batch without keys. -/
theorem distinctKeys_concat_of_clears {note : Note ε} (clears : note.clears = true)
    (notes : List (Note ε)) : distinctKeys (notes ++ [note]) = distinctKeys notes := by
  rw [distinctKeys, List.splitOnP_append_cons _ _ clears, List.splitOnP_nil, List.map_append,
    List.sum_append]
  exact Nat.add_zero _

/-- Any other question adds to the keys of the batch that goes on. -/
theorem distinctKeys_concat_of_keeps {note : Note ε} (keeps : note.clears = false)
    (notes : List (Note ε)) :
    distinctKeys (notes ++ [note]) + (keys (sinceClear notes)).length =
      distinctKeys notes + (keys (sinceClear notes ++ [note])).length := by
  obtain ⟨earlier, split⟩ := splitOnP_clears notes
  have before := split [] (by simp)
  have after := split [note] (by simpa using keeps)
  rw [List.append_nil, List.append_nil] at before
  simp only [distinctKeys, before, after, List.map_append, List.sum_append, List.map_cons,
    List.map_nil, List.sum_singleton]
  omega

end Note

/-- A loader that notes what it answers. -/
def noted (load : GroupId → σ → Except ε (Option Roster) × σ) (id : GroupId)
    (seen : σ × List (Except ε (Option Roster))) :
    Except ε (Option Roster) × σ × List (Except ε (Option Roster)) :=
  let (answer, state) := load id seen.1
  (answer, state, seen.2 ++ [answer])

/-- Asks lookups a question and notes the answer. -/
def ask (lock : GroupLock) (question : Question ε σ) (lookups : Lookups) (state : σ) :
    Except Crash (Note ε) × Lookups × σ :=
  match question with
  | .groupInfo key =>
    let (answer, lookups) := Lookups.groupInfo lock key lookups
    (answer.map (.groupInfo key), lookups, state)
  | .roster id load =>
    let loads := (lookups.roster lock (noted load) id (state, [])).2.2.2
    match lookups.roster lock load id state with
    | (.ok found, lookups, state) => (.ok (.roster id loads (.ok found)), lookups, state)
    | (.error (.error reason), lookups, state) =>
      (.ok (.roster id loads (.error reason)), lookups, state)
    | (.error (.crash cause), lookups, state) => (.error cause, lookups, state)
  | .revision id =>
    let (answer, lookups) := Lookups.revision lock id lookups
    (answer.map (.revision id), lookups, state)
  | .setRevision id revision =>
    let (answer, lookups) := Lookups.setRevision lock id revision lookups
    (answer.map fun () => .setRevision id revision, lookups, state)
  | .isQueueEmpty marker =>
    let (answer, lookups) := Lookups.isQueueEmpty lock marker lookups
    (answer.map (.isQueueEmpty marker), lookups, state)
  | .markQueueEmpty marker =>
    let (answer, lookups) := Lookups.markQueueEmpty lock marker lookups
    (answer.map (.markQueueEmpty marker), lookups, state)
  | .clear => (.ok .clear, lookups.clear, state)

/-- The tables of lookups in terms of the notes since the last clear. -/
structure Remembers (since : List (Note ε)) (lookups : Lookups) : Prop where
  secrets : ∀ key, lookups.secrets.find? key =
    if key ∈ Note.keys since then some (Note.direct key) else none
  rosters : ∀ id, lookups.rosters.find? id = Note.firstLoaded? id since
  revisions : ∀ id, lookups.revisions.find? id = Note.lastRevised? id since
  emptyQueues : ∀ marker,
    lookups.emptyQueues.contains marker = decide (marker ∈ Note.markers since)

namespace Remembers

variable {since : List (Note ε)} {lookups after : Lookups}

/-- Cleared lookups remember nothing. -/
theorem clear (lookups : Lookups) : Remembers ([] : List (Note ε)) lookups.clear :=
  ⟨fun _ => rfl, fun _ => rfl, fun _ => rfl, fun _ => rfl⟩

/-- One more note is remembered when each table takes in what the note adds to it. -/
theorem concat (remembers : Remembers since lookups) {note : Note ε}
    (secrets : ∀ key, after.secrets.find? key =
      if note.key? = some key then some (Note.direct key) else lookups.secrets.find? key)
    (rosters : ∀ id, after.rosters.find? id = (lookups.rosters.find? id).or (note.loaded? id))
    (revisions : ∀ id, after.revisions.find? id =
      (note.revised? id).or (lookups.revisions.find? id))
    (emptyQueues : ∀ marker, after.emptyQueues.contains marker =
      (decide (note.marker? = some marker) || lookups.emptyQueues.contains marker)) :
    Remembers (since ++ [note]) after where
  secrets key := by
    rw [secrets, remembers.secrets, if_congr (Note.mem_keys_concat key since note) rfl rfl, ite_or]
  rosters id := by rw [rosters, remembers.rosters, Note.firstLoaded?_concat]
  revisions id := by rw [revisions, remembers.revisions, Note.lastRevised?_concat]
  emptyQueues marker := by
    rw [emptyQueues, remembers.emptyQueues, ← Bool.decide_or]
    exact decide_eq_decide.2 (Note.mem_markers_concat marker since note).symm

end Remembers

/-- Lookups are what the notes of all that was asked of them make them. -/
structure Recalls (notes : List (Note ε)) (lookups : Lookups) : Prop where
  remembers : Remembers (Note.sinceClear notes) lookups
  derivations : lookups.derivations = Note.distinctKeys notes

namespace Recalls

variable {notes : List (Note ε)} {lookups after : Lookups} {lock : GroupLock}

/-- Fresh lookups have nothing to recall. -/
theorem fresh (bound : Bool) : Recalls ([] : List (Note ε)) { bound := bound } :=
  ⟨⟨fun _ => rfl, fun _ => rfl, fun _ => rfl, fun _ => rfl⟩, rfl⟩

/-- A question about no key leaves the count of derivations alone. -/
theorem concat_of_no_key (recalls : Recalls notes lookups) {note : Note ε}
    (keeps : note.clears = false) (other : note.key? = none)
    (remembers : Remembers (Note.sinceClear notes ++ [note]) after)
    (same : after.derivations = lookups.derivations) : Recalls (notes ++ [note]) after where
  remembers := by rwa [Note.sinceClear_concat_of_keeps keeps]
  derivations := by
    have count := Note.distinctKeys_concat_of_keeps keeps notes
    rw [Note.keys_concat_of_none other] at count
    rw [same, recalls.derivations]
    omega

/-- A question that adds nothing to what is remembered is recalled without a change. -/
theorem concat_silent (recalls : Recalls notes lookups) {note : Note ε}
    (keeps : note.clears = false) (noKey : note.key? = none)
    (noRoster : ∀ id, note.loaded? id = none) (noRevision : ∀ id, note.revised? id = none)
    (noMarker : note.marker? = none) : Recalls (notes ++ [note]) lookups := by
  refine recalls.concat_of_no_key keeps noKey (recalls.remembers.concat ?_ ?_ ?_ ?_) rfl
  · simp [noKey]
  · simp [noRoster]
  · simp [noRevision]
  · simp [noMarker]

/-- A key that was asked for since the last clear is known. -/
theorem secret_of_mem (recalls : Recalls notes lookups) {key : MasterKey}
    (asked : key ∈ Note.keys (Note.sinceClear notes)) :
    lookups.secrets.find? key = some (Note.direct key) := by
  rw [recalls.remembers.secrets, if_pos asked]

/-- A key that was not asked for since the last clear is not known. -/
theorem secret_of_not_mem (recalls : Recalls notes lookups) {key : MasterKey}
    (unasked : key ∉ Note.keys (Note.sinceClear notes)) : lookups.secrets.find? key = none := by
  rw [recalls.remembers.secrets, if_neg unasked]

/-- Asking for a key again is recalled without a change. -/
theorem concat_known_key (recalls : Recalls notes lookups) {key : MasterKey}
    (asked : key ∈ Note.keys (Note.sinceClear notes)) :
    Recalls (notes ++ [.groupInfo key (Note.direct key)]) lookups := by
  have known := recalls.secret_of_mem asked
  have count := Note.distinctKeys_concat_of_keeps
    (rfl : (Note.groupInfo key (Note.direct key) : Note ε).clears = false) notes
  rw [Note.length_keys_concat rfl, if_pos asked] at count
  constructor
  · rw [Note.sinceClear_concat_of_keeps rfl]
    refine recalls.remembers.concat ?_ ?_ ?_ ?_
    · intro other
      by_cases same : key = other
      · subst same
        simp [Note.key?, known]
      · simp [Note.key?, same]
    · simp [Note.loaded?]
    · simp [Note.revised?]
    · simp [Note.marker?]
  · rw [recalls.derivations]
    omega

/-- A key that is asked for first is derived and counts. -/
theorem concat_new_key (recalls : Recalls notes lookups) {key : MasterKey}
    (unasked : key ∉ Note.keys (Note.sinceClear notes)) :
    Recalls (notes ++ [.groupInfo key (Note.direct key)])
      { lookups with
        derivations := lookups.derivations + 1
        secrets := lookups.secrets.put key (Note.direct key) } := by
  have count := Note.distinctKeys_concat_of_keeps
    (rfl : (Note.groupInfo key (Note.direct key) : Note ε).clears = false) notes
  rw [Note.length_keys_concat rfl, if_neg unasked] at count
  constructor
  · rw [Note.sinceClear_concat_of_keeps rfl]
    refine recalls.remembers.concat ?_ ?_ ?_ ?_
    · intro other
      rw [Ledger.find?_put]
      by_cases same : key = other
      · subst same
        simp [Note.key?]
      · simp [Note.key?, same]
    · simp [Note.loaded?]
    · simp [Note.revised?]
    · simp [Note.marker?]
  · show lookups.derivations + 1 = _
    rw [recalls.derivations]
    omega

/-- The state of a group that a loader gave is recalled. -/
theorem concat_loaded (recalls : Recalls notes lookups) {id : GroupId}
    (unknown : lookups.rosters.find? id = none) (found : Option Roster) :
    Recalls (notes ++ [.roster id [.ok found] (.ok found)])
      { lookups with rosters := lookups.rosters.put id found } := by
  refine recalls.concat_of_no_key rfl rfl (recalls.remembers.concat ?_ ?_ ?_ ?_) rfl
  · simp [Note.key?]
  · intro other
    rw [Ledger.find?_put]
    by_cases same : id = other
    · subst same
      simp [Note.loaded?, unknown, Except.toOption]
    · simp [Note.loaded?, same]
  · simp [Note.revised?]
  · simp [Note.marker?]

/-- A revision that is set is recalled in the place of the one before. -/
theorem concat_revised (recalls : Recalls notes lookups) (id : GroupId) (revision : UInt32) :
    Recalls (notes ++ [.setRevision id revision])
      { lookups with revisions := lookups.revisions.put id revision } := by
  refine recalls.concat_of_no_key rfl rfl (recalls.remembers.concat ?_ ?_ ?_ ?_) rfl
  · simp [Note.key?]
  · simp [Note.loaded?]
  · intro other
    rw [Ledger.find?_put]
    by_cases same : id = other <;> simp [Note.revised?, same]
  · simp [Note.marker?]

/-- A marker that is set is recalled. -/
theorem concat_marked (recalls : Recalls notes lookups) (marker : String) (news : Bool) :
    Recalls (notes ++ [.markQueueEmpty marker news])
      { lookups with emptyQueues := lookups.emptyQueues.insert marker } := by
  refine recalls.concat_of_no_key rfl rfl (recalls.remembers.concat ?_ ?_ ?_ ?_) rfl
  · simp [Note.key?]
  · simp [Note.loaded?]
  · simp [Note.revised?]
  · intro other
    rw [Table.contains_insert]
    simp [Note.marker?]

/-- A clear leaves nothing but the count of derivations. -/
theorem concat_clear (recalls : Recalls notes lookups) :
    Recalls (notes ++ [.clear]) lookups.clear where
  remembers := by
    rw [Note.sinceClear_concat_of_clears rfl]
    exact .clear lookups
  derivations := by
    rw [Note.distinctKeys_concat_of_clears rfl]
    exact recalls.derivations

end Recalls

/-- What a question led to: a note that is about it and told by those since the last clear, and
lookups that recall the note as well. -/
structure Answered (notes : List (Note ε)) (lookups : Lookups) (question : Question ε σ)
    (note : Note ε) (after : Lookups) : Prop where
  about : note.About question
  told : note.Told (Note.sinceClear notes)
  recalls : Recalls (notes ++ [note]) after
  bound : after.bound = lookups.bound

/-- The state of a group is what the first loader gave that did not fail. -/
theorem ask_roster {notes : List (Note ε)} {lookups : Lookups} {lock : GroupLock}
    (recalls : Recalls notes lookups) (allowed : lookups.allowed lock = true) (id : GroupId)
    (load : GroupId → σ → Except ε (Option Roster) × σ) (state : σ) :
    ∃ note after later, ask lock (.roster id load) lookups state = (.ok note, after, later) ∧
      Answered notes lookups (.roster id load) note after := by
  have known := recalls.remembers.rosters id
  cases first : Note.firstLoaded? id (Note.sinceClear notes) with
  | some found =>
    rw [first] at known
    refine ⟨.roster id [] (.ok found), lookups, state, ?_, .roster id _ _ load, ?_, ?_, rfl⟩
    · simp [ask, Lookups.roster, allowed, known]
    · simp only [Note.Told, first, and_self]
    · exact recalls.concat_silent rfl rfl (by simp [Note.loaded?]) (fun id => rfl) rfl
  | none =>
    rw [first] at known
    rcases given : load id state with ⟨reason | found, later⟩
    · refine ⟨.roster id [.error reason] (.error reason), lookups, later, ?_,
        .roster id _ _ load, ?_, ?_, rfl⟩
      · simp [ask, Lookups.roster, allowed, known, given, noted]
      · simp only [Note.Told, first]
      · exact recalls.concat_silent rfl rfl (by simp [Note.loaded?, Except.toOption])
          (fun id => rfl) rfl
    · refine ⟨.roster id [.ok found] (.ok found), _, later, ?_, .roster id _ _ load, ?_,
        recalls.concat_loaded known found, rfl⟩
      · simp [ask, Lookups.roster, allowed, known, given, noted]
      · simp only [Note.Told, first]

/-- Every question that is allowed is answered as the notes since the last clear tell. -/
theorem ask_answered {notes : List (Note ε)} {lookups : Lookups} {lock : GroupLock}
    (recalls : Recalls notes lookups) (allowed : lookups.allowed lock = true)
    (question : Question ε σ) (state : σ) :
    ∃ note after later, ask lock question lookups state = (.ok note, after, later) ∧
      Answered notes lookups question note after := by
  cases question with
  | groupInfo key =>
    by_cases asked : key ∈ Note.keys (Note.sinceClear notes)
    · refine ⟨_, _, state, ?_, .groupInfo key _, rfl, recalls.concat_known_key asked, rfl⟩
      simp [ask, Lookups.groupInfo, Lookups.whenAllowed, allowed, recalls.secret_of_mem asked,
        Except.map]
    · refine ⟨_, _, state, ?_, .groupInfo key _, rfl, recalls.concat_new_key asked, rfl⟩
      simp [ask, Lookups.groupInfo, Lookups.whenAllowed, allowed, recalls.secret_of_not_mem asked,
        Except.map, Note.direct, GroupId.ofMasterKey]
  | roster id load => exact ask_roster recalls allowed id load state
  | revision id =>
    refine ⟨.revision id (Note.lastRevised? id (Note.sinceClear notes)), lookups, state, ?_,
      .revision id _, rfl, ?_, rfl⟩
    · simp [ask, Lookups.revision, Lookups.whenAllowed, allowed, Except.map,
        recalls.remembers.revisions]
    · exact recalls.concat_silent rfl rfl (fun id => rfl) (fun id => rfl) rfl
  | setRevision id revision =>
    refine ⟨.setRevision id revision, _, state, ?_, .setRevision id revision, trivial,
      recalls.concat_revised id revision, rfl⟩
    simp [ask, Lookups.setRevision, Lookups.whenAllowed, allowed, Except.map]
  | isQueueEmpty marker =>
    refine ⟨.isQueueEmpty marker (decide (marker ∈ Note.markers (Note.sinceClear notes))), lookups,
      state, ?_, .isQueueEmpty marker _, rfl, ?_, rfl⟩
    · simp [ask, Lookups.isQueueEmpty, Lookups.whenAllowed, allowed, Except.map,
        recalls.remembers.emptyQueues]
    · exact recalls.concat_silent rfl rfl (fun id => rfl) (fun id => rfl) rfl
  | markQueueEmpty marker =>
    refine ⟨.markQueueEmpty marker (decide (marker ∉ Note.markers (Note.sinceClear notes))), _,
      state, ?_, .markQueueEmpty marker _, rfl, recalls.concat_marked marker _, rfl⟩
    simp [ask, Lookups.markQueueEmpty, Lookups.whenAllowed, allowed, Except.map,
      recalls.remembers.emptyQueues]
  | clear => exact ⟨.clear, _, state, rfl, .clear, trivial, recalls.concat_clear, rfl⟩

/-- Lookups in use: the state that loaders act on, and the notes so far, with the crash of a
question that was not allowed. -/
structure Memory (ε σ : Type) where
  lookups : Lookups
  state : σ
  notes : List (Except Crash (Note ε)) := []

namespace Memory

/-- A question under a lock. -/
abbrev Asked (ε σ : Type) : Type := GroupLock × Question ε σ

/-- Asks one more question. -/
def next (memory : Memory ε σ) (asked : Asked ε σ) : Memory ε σ :=
  let (note, lookups, state) := ask asked.1 asked.2 memory.lookups memory.state
  ⟨lookups, state, memory.notes ++ [note]⟩

/-- Asks several questions, one after another. -/
def after (memory : Memory ε σ) (asked : List (Asked ε σ)) : Memory ε σ := asked.foldl next memory

/-- Fresh lookups, bound to the group lock or not. -/
def fresh (bound : Bool) (state : σ) : Memory ε σ :=
  { lookups := { bound := bound }, state := state }

theorem after_concat (memory : Memory ε σ) (earlier : List (Asked ε σ)) (asked : Asked ε σ) :
    memory.after (earlier ++ [asked]) = (memory.after earlier).next asked := by
  simp [after]

theorem after_append (memory : Memory ε σ) (earlier later : List (Asked ε σ)) :
    memory.after (earlier ++ later) = (memory.after earlier).after later :=
  List.foldl_append

/-- A loader that fails leaves no trace in the lookups. -/
theorem lookups_of_failed {memory : Memory ε σ} {id : GroupId}
    {load : GroupId → σ → Except ε (Option Roster) × σ} {reason : ε}
    (failed : (load id memory.state).1 = .error reason) (lock : GroupLock) :
    (memory.next (lock, .roster id load)).lookups = memory.lookups := by
  simp only [next, ask, Lookups.roster]
  by_cases allowed : memory.lookups.allowed lock
  · cases known : memory.lookups.rosters.find? id with
    | some found => simp [allowed]
    | none =>
      rcases given : load id memory.state with ⟨other | found, later⟩
      · simp [allowed]
      · rw [given] at failed
        cases failed
  · simp [allowed]

/-- Lookups that remember the same, whatever each of them derived before. -/
def Alike (left right : Lookups) : Prop := ∃ count, right = { left with derivations := count }

/-- No answer depends on the number of derivations. -/
theorem ask_alike {left right : Lookups} (alike : Alike left right) (lock : GroupLock)
    (question : Question ε σ) (state : σ) :
    (ask lock question left state).1 = (ask lock question right state).1 ∧
      Alike (ask lock question left state).2.1 (ask lock question right state).2.1 ∧
      (ask lock question left state).2.2 = (ask lock question right state).2.2 := by
  obtain ⟨count, rfl⟩ := alike
  have allowed : ({ left with derivations := count } : Lookups).allowed lock = left.allowed lock :=
    rfl
  have unchanged : Alike left { left with derivations := count } := ⟨count, rfl⟩
  cases permitted : left.allowed lock with
  | false =>
    cases question with
    | clear => exact ⟨rfl, ⟨count, rfl⟩, rfl⟩
    | _ =>
      simp [ask, Lookups.groupInfo, Lookups.roster, Lookups.revision, Lookups.setRevision,
        Lookups.isQueueEmpty, Lookups.markQueueEmpty, Lookups.whenAllowed, allowed, permitted,
        unchanged]
  | true =>
    cases question with
    | groupInfo key =>
      cases known : left.secrets.find? key with
      | some info =>
        simp [ask, Lookups.groupInfo, Lookups.whenAllowed, allowed, permitted, known, unchanged]
      | none =>
        simp only [ask, Lookups.groupInfo, Lookups.whenAllowed, allowed, permitted, known, if_true]
        exact ⟨trivial, ⟨count + 1, rfl⟩, trivial⟩
    | roster id load =>
      cases known : left.rosters.find? id with
      | some roster => simp [ask, Lookups.roster, allowed, permitted, known, unchanged]
      | none =>
        rcases given : load id state with ⟨reason | found, later⟩
        · simp [ask, Lookups.roster, allowed, permitted, known, noted, given, unchanged]
        · simp only [ask, Lookups.roster, allowed, permitted, known, noted, given, if_true]
          exact ⟨trivial, ⟨count, rfl⟩, trivial⟩
    | setRevision id revision =>
      simp only [ask, Lookups.setRevision, Lookups.whenAllowed, allowed, permitted, if_true]
      exact ⟨trivial, ⟨count, rfl⟩, trivial⟩
    | markQueueEmpty marker =>
      simp only [ask, Lookups.markQueueEmpty, Lookups.whenAllowed, allowed, permitted, if_true]
      exact ⟨trivial, ⟨count, rfl⟩, trivial⟩
    | revision id =>
      simp [ask, Lookups.revision, Lookups.whenAllowed, allowed, permitted, unchanged]
    | isQueueEmpty marker =>
      simp [ask, Lookups.isQueueEmpty, Lookups.whenAllowed, allowed, permitted, unchanged]
    | clear => exact ⟨rfl, ⟨count, rfl⟩, rfl⟩

/-- Lookups that remember the same answer all questions to come alike. -/
theorem after_alike {left right : Memory ε σ} (alike : Alike left.lookups right.lookups)
    (same : left.state = right.state) (asked : List (Asked ε σ)) :
    ∃ notes, (left.after asked).notes = left.notes ++ notes ∧
      (right.after asked).notes = right.notes ++ notes ∧
      Alike (left.after asked).lookups (right.after asked).lookups ∧
      (left.after asked).state = (right.after asked).state := by
  induction asked using List.reverseRecOn with
  | nil => exact ⟨[], (List.append_nil _).symm, (List.append_nil _).symm, alike, same⟩
  | append_singleton earlier one ih =>
    obtain ⟨notes, here, there, alike, same⟩ := ih
    obtain ⟨answer, lookups, state⟩ :=
      ask_alike alike one.1 one.2 (left.after earlier).state
    rw [same] at answer lookups state
    have same_note : ∀ memory : Memory ε σ, (memory.next one).notes =
        memory.notes ++ [(ask one.1 one.2 memory.lookups memory.state).1] := fun _ => rfl
    refine ⟨notes ++ [(ask one.1 one.2 (right.after earlier).lookups
      (right.after earlier).state).1], ?_, ?_, ?_, ?_⟩
    · rw [after_concat, same_note, here, same, answer, List.append_assoc]
    · rw [after_concat, same_note, there, List.append_assoc]
    · simp only [after_concat, next, same]
      exact lookups
    · simp only [after_concat, next, same]
      exact state

/-- What fresh lookups were asked so far: the notes of it, and that they make the lookups what they
are. -/
structure Kept (bound : Bool) (asked : List (Asked ε σ)) (memory : Memory ε σ)
    (notes : List (Note ε)) : Prop where
  answered : memory.notes = notes.map .ok
  about : List.Forall₂ (fun note one => note.About one.2) notes asked
  told : ∀ earlier note later, notes = earlier ++ note :: later →
    note.Told (Note.sinceClear earlier)
  recalls : Recalls notes memory.lookups
  bound : memory.lookups.bound = bound

/-- One more question that is allowed is answered as it has to be. -/
theorem Kept.next {bound : Bool} {asked : List (Asked ε σ)} {memory : Memory ε σ}
    {notes : List (Note ε)} (kept : Kept bound asked memory notes) {one : Asked ε σ}
    (held : bound = true → one.1.held = true) :
    ∃ note, Kept bound (asked ++ [one]) (memory.next one) (notes ++ [note]) := by
  have allowed : memory.lookups.allowed one.1 = true := by
    rw [Lookups.allowed, kept.bound]
    cases bound with
    | false => rfl
    | true => simpa using held
  obtain ⟨note, after, later, answered, asking⟩ :=
    ask_answered kept.recalls allowed one.2 memory.state
  refine ⟨note, ?_, ?_, ?_, ?_, ?_⟩
  · rw [Memory.next, answered, kept.answered, List.map_append]
    rfl
  · exact List.rel_append kept.about (.cons asking.about .nil)
  · intro earlier other behind split
    rcases List.eq_nil_or_concat' behind with rfl | ⟨rest, last, rfl⟩
    · obtain ⟨rfl, same⟩ := List.append_inj' split rfl
      obtain rfl := (List.cons.inj same).1
      exact asking.told
    · rw [← List.cons_append, ← List.append_assoc] at split
      exact kept.told earlier other rest (List.append_inj' split rfl).1
  · rw [Memory.next, answered]
    exact asking.recalls
  · rw [Memory.next, answered]
    exact asking.bound.trans kept.bound

/-- Whatever is asked of fresh lookups, there are notes of it. -/
theorem exists_kept (bound : Bool) (state : σ) {asked : List (Asked ε σ)}
    (held : ∀ one ∈ asked, bound = true → one.1.held = true) :
    ∃ notes, Kept bound asked ((fresh bound state).after asked) notes := by
  induction asked using List.reverseRecOn with
  | nil =>
    refine ⟨[], rfl, .nil, fun earlier note later split => ?_, .fresh bound, rfl⟩
    exact absurd split (by simp)
  | append_singleton earlier one ih =>
    obtain ⟨notes, kept⟩ := ih fun other before =>
      held other (List.mem_append_left [one] before)
    obtain ⟨note, kept⟩ := kept.next (held one (by simp))
    exact ⟨notes ++ [note], by rwa [after_concat]⟩

/-- The account of what fresh lookups answered. -/
structure Exact (bound : Bool) (state : σ) (asked : List (Asked ε σ)) (notes : List (Note ε)) :
    Prop where
  /-- Every question is answered, and the notes are about the questions one by one. -/
  answered : ((fresh bound state).after asked).notes = notes.map .ok
  about : List.Forall₂ (fun note one => note.About one.2) notes asked
  /-- Every answer is told by the notes since the last clear before it. -/
  told : ∀ earlier note later, notes = earlier ++ note :: later →
    note.Told (Note.sinceClear earlier)
  /-- Every key is derived once between two clears. -/
  derivations : ((fresh bound state).after asked).lookups.derivations = Note.distinctKeys notes
  /-- A loader that fails leaves the lookups as they were. -/
  failed : ∀ lock id load reason,
    (load id ((fresh bound state).after asked).state).1 = .error reason →
      ((fresh bound state).after (asked ++ [(lock, .roster id load)])).lookups =
        ((fresh bound state).after asked).lookups
  /-- Behind a clear, lookups answer as if they were fresh. -/
  forgets : ∀ lock later,
    ((fresh bound state).after (asked ++ (lock, .clear) :: later)).notes =
      notes.map .ok ++ .ok .clear ::
        ((fresh bound ((fresh bound state).after asked).state).after later).notes

/-- Lookups answer every question by what was asked since the last clear, and derive and load
nothing twice in between. -/
theorem remembers_one_batch (bound : Bool) (state : σ) (asked : List (Asked ε σ))
    (held : ∀ one ∈ asked, bound = true → one.1.held = true) :
    ∃ notes, Exact bound state asked notes := by
  obtain ⟨notes, kept⟩ := exists_kept bound state held
  refine ⟨notes, kept.answered, kept.about, kept.told, kept.recalls.derivations, ?failed, ?forgets⟩
  case failed =>
    intro lock id load reason failed
    rw [after_concat]
    exact lookups_of_failed failed lock
  case forgets =>
    intro lock later
    rw [after_append]
    generalize (fresh bound state).after asked = memory at kept
    have alike : Alike (memory.next (lock, .clear)).lookups
        (fresh bound memory.state : Memory ε σ).lookups :=
      ⟨0, by rw [fresh, ← kept.bound]; rfl⟩
    obtain ⟨behind, here, there, -, -⟩ :=
      after_alike alike (rfl : (memory.next (lock, .clear)).state = _) later
    calc
      _ = (memory.next (lock, .clear)).notes ++ behind := here
      _ = notes.map .ok ++ [.ok .clear] ++ behind := by
        rw [← kept.answered]
        rfl
      _ = notes.map .ok ++ .ok .clear :: ((fresh bound memory.state).after later).notes := by
        rw [there, List.append_assoc, List.singleton_append]
        rfl

/-- A group whose state is asked for. -/
def club : GroupId := .v2 (.zero 32)

/-- In a first batch, a key is asked for twice, a loader fails, and the next ones find no state; in
a second batch, all is asked for again. The state counts the calls of loaders. -/
def twoBatches : List (Asked StorageError Nat) :=
  [.groupInfo ⟨.zero 32⟩, .groupInfo ⟨.zero 32⟩,
    .roster club fun _ calls => (.error .poisoned, calls + 1),
    .roster club fun _ calls => (.ok none, calls + 1),
    .roster club fun _ calls => (.ok (some ⟨club, 7, [], []⟩), calls + 1),
    .setRevision club 7, .markQueueEmpty "club", .clear,
    .groupInfo ⟨.zero 32⟩, .revision club, .isQueueEmpty "club",
    .roster club fun _ calls => (.ok (some ⟨club, 7, [], []⟩), calls + 1)].map
    fun question => (.acquired, question)

/-- Two batches derive their key once each, and call three loaders of four. -/
theorem remembers_one_batch_twoBatches :
    (∀ one ∈ twoBatches, true = true → one.1.held = true) ∧
      (∃ notes, Exact true 0 twoBatches notes) ∧
      ((fresh true 0).after twoBatches).lookups.derivations = 2 ∧
      ((fresh true 0).after twoBatches).state = 3 := by
  have held : ∀ one ∈ twoBatches, true = true → one.1.held = true := by
    intro one asked _
    obtain ⟨question, -, rfl⟩ := List.mem_map.1 asked
    rfl
  exact ⟨held, remembers_one_batch true 0 twoBatches held, by rfl, by rfl⟩

end Memory

end Mailroom.Batch
