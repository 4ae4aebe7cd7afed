import Mailroom.Job.Settings
import Mailroom.Proofs.Text.Whole

/-!
# Which variables are accepted

What comes of the variables depends on their texts together: each that is set has to ask for a span,
and the base delay must not exceed the longest, where either of them may be the standard one.
`Settings.Outcome` has one case for each way this can end, and `Settings.governed` says exactly when
each of them comes about, for whatever the variables hold.

What a text asks for is said of the text as a whole and not of the way it is read: blanks, an
optional plus, digits of a value that 64 bits hold, and blanks.
-/

namespace Mailroom.Job.Settings

/-- The variables in the order in which they are read. -/
def variableNames : List String := [pollVariable, baseVariable, longestVariable]

/-- A text that asks for a span: a whole number of milliseconds with blanks around it. -/
def Asks (raw : String) (span : Span) : Prop :=
  ∃ body millis, Text.Padded raw.toList body ∧ Text.Whole body millis ∧
    millis ≤ 18446744073709551615 ∧ span.nanos = millis * 1000000

/-- The span that a variable leads to: the standard one if it is not set, and otherwise the one that
its text asks for. -/
def Gives (value : Option String) (standard span : Span) : Prop :=
  match value with
  | none => span = standard
  | some raw => Asks raw span

variable (lookup : String → Option String)

/-- A variable is set to a text that asks for nothing. -/
def Bad (name raw : String) : Prop :=
  lookup name = some raw ∧ ∀ span, ¬ Asks raw span

/-- A variable is set to a text that asks for nothing, and none that is read before it is. -/
def FirstBad (name raw : String) : Prop :=
  Bad lookup name raw ∧ ∃ front back, variableNames = front ++ name :: back ∧
    ∀ earlier ∈ front, ∀ other, ¬ Bad lookup earlier other

/-- Settings in which the variables decide what is theirs to decide. -/
structure Chosen (settings : Settings) : Prop where
  poll : Gives (lookup pollVariable) standard.pollInterval settings.pollInterval
  base : Gives (lookup baseVariable) RetryPolicy.standard.base settings.retryPolicy.base
  longest : Gives (lookup longestVariable) RetryPolicy.standard.longest settings.retryPolicy.longest
  ordered : settings.retryPolicy.base.nanos ≤ settings.retryPolicy.longest.nanos
  name : settings.name = standard.name
  strategy : settings.retryPolicy.strategy = RetryPolicy.standard.strategy
  jitter : settings.retryPolicy.jitter = RetryPolicy.standard.jitter

/-- The delays that the variables lead to are the wrong way round. -/
def Disordered : Prop :=
  ∃ base longest, Gives (lookup baseVariable) RetryPolicy.standard.base base ∧
    Gives (lookup longestVariable) RetryPolicy.standard.longest longest ∧
    longest.nanos < base.nanos

/-- What the variables can lead to. -/
inductive Outcome : Except SettingsError Settings → Prop where
  /-- A variable asks for nothing, and is the first that does. -/
  | refused (name raw : String) (reason : Text.WholeError) (first : FirstBad lookup name raw) :
    Outcome (.error (.notWhole name raw reason))
  /-- Every variable that is set asks for a span, but the base delay exceeds the longest. -/
  | disordered (sound : ∀ name ∈ variableNames, ∀ raw, ¬ Bad lookup name raw)
    (disordered : Disordered lookup) : Outcome (.error .baseExceedsLongest)
  /-- The variables are accepted. -/
  | accepted (settings : Settings) (chosen : Chosen lookup settings) : Outcome (.ok settings)

variable {lookup}

/-- What a text asks for is what is read of it. -/
theorem asks_iff {raw : String} {span : Span} :
    Asks raw span ↔
      ∃ millis, Text.readUnsigned (Text.trim raw.toList) = .ok millis ∧
        span = .ofMillis millis := by
  simp only [Text.readUnsigned_trim_eq_ok_iff]
  constructor
  · rintro ⟨body, millis, padded, whole, small, length⟩
    have exact : (UInt64.ofNat millis).toNat = millis :=
      UInt64.toNat_ofNat_of_lt' (Nat.lt_succ_of_le small)
    refine ⟨UInt64.ofNat millis, ⟨body, padded, ?_⟩, Span.ext ?_⟩
    · rw [exact]
      exact whole
    · show span.nanos = (UInt64.ofNat millis).toNat * 1000000
      rw [exact]
      exact length
  · rintro ⟨millis, ⟨body, padded, whole⟩, rfl⟩
    exact ⟨body, millis.toNat, padded, whole, Nat.le_of_lt_succ millis.toNat_lt, rfl⟩

/-- A text asks for one span only. -/
theorem Asks.unique {raw : String} {left right : Span} (hl : Asks raw left) (hr : Asks raw right) :
    left = right := by
  obtain ⟨millis, read, rfl⟩ := asks_iff.1 hl
  obtain ⟨again, readAgain, rfl⟩ := asks_iff.1 hr
  cases read.symm.trans readAgain
  rfl

/-- A variable leads to one span only. -/
theorem Gives.unique {value : Option String} {standard left right : Span}
    (hl : Gives value standard left) (hr : Gives value standard right) : left = right := by
  cases value with
  | none => exact hl.trans hr.symm
  | some raw => exact Asks.unique hl hr

/-- A variable that leads to a span asks for something. -/
theorem Gives.not_bad {name raw : String} {standard span : Span}
    (gives : Gives (lookup name) standard span) : ¬ Bad lookup name raw := by
  rintro ⟨set, nothing⟩
  rw [set] at gives
  exact nothing span gives

/-- A variable that asks for nothing is the first that does, or not read before that one. -/
theorem Bad.eq_of_front {left right raw : String} {front between back back' : List String}
    (bad : Bad lookup left raw)
    (sound : ∀ earlier ∈ front ++ between, ∀ other, ¬ Bad lookup earlier other)
    (place : left :: back = between ++ right :: back') : left = right := by
  cases between with
  | nil => exact (List.cons.inj place).1
  | cons name between =>
    obtain rfl := (List.cons.inj place).1
    exact absurd bad (sound left (by simp) raw)

/-- There is one first variable only that asks for nothing. -/
theorem FirstBad.unique {left right raw other : String} (hl : FirstBad lookup left raw)
    (hr : FirstBad lookup right other) : left = right ∧ raw = other := by
  obtain ⟨badLeft, front, back, place, soundFront⟩ := hl
  obtain ⟨badRight, front', back', place', soundFront'⟩ := hr
  have same : left = right := by
    -- Whichever has more in front of it has the other one there, unless both have as much.
    rcases List.append_eq_append_iff.1 (place.symm.trans place') with
      ⟨between, rfl, rest⟩ | ⟨between, rfl, rest⟩
    · exact badLeft.eq_of_front soundFront' rest
    · exact (badRight.eq_of_front soundFront rest).symm
  subst same
  exact ⟨rfl, Option.some.inj (badLeft.1.symm.trans badRight.1)⟩

/-- The variables choose one setting of each kind. -/
theorem Chosen.unique {left right : Settings} (hl : Chosen lookup left)
    (hr : Chosen lookup right) : left = right := by
  obtain ⟨poll, name, base, longest, strategy, jitter⟩ := left
  obtain ⟨poll', name', base', longest', strategy', jitter'⟩ := right
  obtain rfl : poll = poll' := hl.poll.unique hr.poll
  obtain rfl : base = base' := hl.base.unique hr.base
  obtain rfl : longest = longest' := hl.longest.unique hr.longest
  obtain rfl : name = name' := hl.name.trans hr.name.symm
  obtain rfl : strategy = strategy' := hl.strategy.trans hr.strategy.symm
  obtain rfl : jitter = jitter' := hl.jitter.trans hr.jitter.symm
  rfl

/-- A variable is read as what it leads to, or refused because it asks for nothing. -/
theorem spanOf_cases (lookup : String → Option String) (name : String) :
    (∃ span, spanOf lookup name = .ok span ∧
        ∀ standard, Gives (lookup name) standard (span.getD standard)) ∨
      ∃ raw reason, Bad lookup name raw ∧
        spanOf lookup name = .error (.notWhole name raw reason) := by
  cases set : lookup name with
  | none =>
    refine .inl ⟨none, ?_, fun standard => rfl⟩
    rw [spanOf, set]
  | some raw =>
    cases read : Text.readUnsigned (Text.trim raw.toList) with
    | ok millis =>
      refine .inl ⟨some (.ofMillis millis), ?_, fun standard => asks_iff.2 ⟨millis, read, rfl⟩⟩
      simp only [spanOf, set, read]
    | error reason =>
      refine .inr ⟨raw, reason, ⟨set, fun span asks => ?_⟩, ?_⟩
      · obtain ⟨millis, accepted, -⟩ := asks_iff.1 asks
        cases read.symm.trans accepted
      · simp only [spanOf, set, read]

/-- The variables lead to nothing else. -/
theorem ofVariables_outcome (lookup : String → Option String) :
    Outcome lookup (ofVariables lookup) := by
  unfold ofVariables
  -- A variable that is read leads to a span, so it is not bad when a later one is refused.
  rcases spanOf_cases lookup pollVariable with
    ⟨poll, readPoll, givesPoll⟩ | ⟨raw, reason, bad, read⟩
  · rw [readPoll]
    rcases spanOf_cases lookup baseVariable with
      ⟨base, readBase, givesBase⟩ | ⟨raw, reason, bad, read⟩
    · rw [readBase]
      rcases spanOf_cases lookup longestVariable with
        ⟨longest, readLongest, givesLongest⟩ | ⟨raw, reason, bad, read⟩
      · rw [readLongest]
        dsimp only [bind, Except.bind]
        split
        · rename_i ordered
          exact .accepted _ ⟨givesPoll standard.pollInterval,
            givesBase RetryPolicy.standard.base, givesLongest RetryPolicy.standard.longest,
            ordered, rfl, rfl, rfl⟩
        · rename_i exceeds
          refine .disordered ?_ ⟨_, _, givesBase RetryPolicy.standard.base,
            givesLongest RetryPolicy.standard.longest, Nat.lt_of_not_le exceeds⟩
          rw [variableNames, List.forall_mem_cons, List.forall_mem_cons, List.forall_mem_singleton]
          exact ⟨fun _ => (givesPoll .zero).not_bad, fun _ => (givesBase .zero).not_bad,
            fun _ => (givesLongest .zero).not_bad⟩
      · rw [read]
        refine .refused longestVariable raw reason
          ⟨bad, [pollVariable, baseVariable], [], rfl, ?_⟩
        rw [List.forall_mem_cons, List.forall_mem_singleton]
        exact ⟨fun _ => (givesPoll .zero).not_bad, fun _ => (givesBase .zero).not_bad⟩
    · rw [read]
      refine .refused baseVariable raw reason ⟨bad, [pollVariable], [longestVariable], rfl, ?_⟩
      rw [List.forall_mem_singleton]
      exact fun _ => (givesPoll .zero).not_bad
  · rw [read]
    exact .refused pollVariable raw reason
      ⟨bad, [], [baseVariable, longestVariable], rfl, List.forall_mem_nil _⟩

/-- Where all settings are chosen, no variable asks for nothing. -/
theorem Chosen.sound {settings : Settings} (chosen : Chosen lookup settings) :
    ∀ name ∈ variableNames, ∀ raw, ¬ Bad lookup name raw := by
  rw [variableNames, List.forall_mem_cons, List.forall_mem_cons, List.forall_mem_singleton]
  exact ⟨fun _ => chosen.poll.not_bad, fun _ => chosen.base.not_bad,
    fun _ => chosen.longest.not_bad⟩

/-- The first variable that asks for nothing is one of the variables. -/
theorem FirstBad.mem {name raw : String} (first : FirstBad lookup name raw) :
    name ∈ variableNames := by
  obtain ⟨-, front, back, place, -⟩ := first
  rw [place]
  exact List.mem_append_right front List.mem_cons_self

/-- Chosen delays are not the wrong way round. -/
theorem Chosen.not_disordered {settings : Settings} (chosen : Chosen lookup settings) :
    ¬ Disordered lookup := by
  rintro ⟨base, longest, givesBase, givesLongest, exceeds⟩
  have ordered := chosen.ordered
  rw [chosen.base.unique givesBase, chosen.longest.unique givesLongest] at ordered
  omega

/-- Settings are accepted exactly if the variables choose them. -/
theorem ofVariables_eq_ok_iff {settings : Settings} :
    ofVariables lookup = .ok settings ↔ Chosen lookup settings := by
  have led := ofVariables_outcome lookup
  generalize ofVariables lookup = outcome at led
  constructor
  · rintro rfl
    cases led with
    | accepted settings chosen => exact chosen
  · intro chosen
    cases led with
    | refused name raw reason first => exact absurd first.1 (chosen.sound name first.mem raw)
    | disordered sound disordered => exact absurd disordered chosen.not_disordered
    | accepted other also => rw [also.unique chosen]

/-- A variable is refused exactly if it is the first that asks for nothing. -/
theorem ofVariables_eq_refused_iff {name raw : String} :
    (∃ reason, ofVariables lookup = .error (.notWhole name raw reason)) ↔
      FirstBad lookup name raw := by
  have led := ofVariables_outcome lookup
  generalize ofVariables lookup = outcome at led
  constructor
  · rintro ⟨reason, rfl⟩
    cases led with
    | refused name raw reason first => exact first
  · intro first
    cases led with
    | refused other text reason also =>
      obtain ⟨rfl, rfl⟩ := first.unique also
      exact ⟨reason, rfl⟩
    | disordered sound disordered => exact absurd first.1 (sound name first.mem raw)
    | accepted settings chosen => exact absurd first.1 (chosen.sound name first.mem raw)

/-- The order of the delays is objected to exactly if there is nothing else to object to. -/
theorem ofVariables_eq_disordered_iff :
    ofVariables lookup = .error .baseExceedsLongest ↔
      (∀ name ∈ variableNames, ∀ raw, ¬ Bad lookup name raw) ∧ Disordered lookup := by
  have led := ofVariables_outcome lookup
  generalize ofVariables lookup = outcome at led
  constructor
  · rintro rfl
    cases led with
    | disordered sound disordered => exact ⟨sound, disordered⟩
  · rintro ⟨sound, disordered⟩
    cases led with
    | refused name raw reason first => exact absurd first.1 (sound name first.mem raw)
    | disordered _ _ => rfl
    | accepted settings chosen => exact absurd disordered chosen.not_disordered

/-- Something is accepted exactly if there is nothing to object to. -/
theorem exists_ofVariables_iff :
    (∃ settings, ofVariables lookup = .ok settings) ↔
      (∀ name ∈ variableNames, ∀ raw, ¬ Bad lookup name raw) ∧ ¬ Disordered lookup := by
  constructor
  · rintro ⟨settings, accepted⟩
    have chosen := ofVariables_eq_ok_iff.1 accepted
    exact ⟨chosen.sound, chosen.not_disordered⟩
  · rintro ⟨sound, ordered⟩
    have led := ofVariables_outcome lookup
    generalize ofVariables lookup = outcome at led
    cases led with
    | refused name raw reason first => exact absurd first.1 (sound name first.mem raw)
    | disordered _ disordered => exact absurd disordered ordered
    | accepted settings chosen => exact ⟨settings, rfl⟩

/-- When variables are accepted, and what is said of them otherwise. -/
structure Governed (lookup : String → Option String) : Prop where
  /-- The variables are accepted exactly if each that is set asks for a span and the base delay that
  they lead to does not exceed the longest. -/
  accepted_iff : (∃ settings, ofVariables lookup = .ok settings) ↔
    (∀ name ∈ variableNames, ∀ raw, lookup name = some raw → ∃ span, Asks raw span) ∧
      ∀ base longest, Gives (lookup baseVariable) RetryPolicy.standard.base base →
        Gives (lookup longestVariable) RetryPolicy.standard.longest longest →
          base.nanos ≤ longest.nanos
  /-- Then they decide the settings. -/
  chosen_iff : ∀ settings, ofVariables lookup = .ok settings ↔ Chosen lookup settings
  /-- Of the variables that ask for nothing the first is named, and its text is quoted as it
  stands. -/
  refused_iff : ∀ name raw, FirstBad lookup name raw ↔
    ∃ reason, ofVariables lookup = .error (.notWhole name raw reason) ∧
      (SettingsError.notWhole name raw reason).message =
        name ++ " must be a whole number of milliseconds, got " ++ Text.quote raw ++ ": "
          ++ reason.message
  /-- If each that is set asks for a span, the order of the delays is all that is objected to. -/
  disordered_iff : ofVariables lookup = .error .baseExceedsLongest ↔
    (∀ name ∈ variableNames, ∀ raw, lookup name = some raw → ∃ span, Asks raw span) ∧
      Disordered lookup

/-- Variables are accepted exactly if they make sense together, and of those that make none by
themselves the first is reported. -/
theorem governed (lookup : String → Option String) : Governed lookup := by
  have sound_iff : (∀ name ∈ variableNames, ∀ raw, ¬ Bad lookup name raw) ↔
      ∀ name ∈ variableNames, ∀ raw, lookup name = some raw → ∃ span, Asks raw span := by
    simp only [Bad, not_and, not_forall, not_not]
  have ordered_iff : ¬ Disordered lookup ↔
      ∀ base longest, Gives (lookup baseVariable) RetryPolicy.standard.base base →
        Gives (lookup longestVariable) RetryPolicy.standard.longest longest →
          base.nanos ≤ longest.nanos := by
    simp only [Disordered, not_exists, not_and, Nat.not_lt]
  constructor
  case accepted_iff => rw [exists_ofVariables_iff, sound_iff, ordered_iff]
  case chosen_iff => exact fun settings => ofVariables_eq_ok_iff
  case refused_iff =>
    intro name raw
    rw [← ofVariables_eq_refused_iff]
    exact exists_congr fun reason => (and_iff_left rfl).symm
  case disordered_iff => rw [ofVariables_eq_disordered_iff, sound_iff]

/-- A longest delay below the standard base delay does not go with the standard base delay. -/
example : ofVariables (fun name => if name = longestVariable then some "999" else none) =
    .error .baseExceedsLongest := by
  rfl

/-- The standard longest delay is still reached by a base delay of an hour. -/
example : ofVariables (fun name => if name = baseVariable then some " +3600000\n" else none) =
    .ok { standard with retryPolicy := { RetryPolicy.standard with base := .ofSeconds 3600 } } := by
  rfl

end Mailroom.Job.Settings
