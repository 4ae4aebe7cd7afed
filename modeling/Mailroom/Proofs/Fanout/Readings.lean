import Mailroom.Proofs.Fanout.Contacts
import Mailroom.Proofs.Storage.Consulted
import Mailroom.Proofs.Storage.Threads

/-!
# What a run reads

A run over a consulted storage is the run over the storage inside, and what it read stands beside
it (`attempt_consulted`). `Telling` says what the readings of a check tell about its answer: all is
found where it goes on; where it is given up, something else than the local account may be missing;
and where it halts for the storage, the local account is missing. `checkTarget_reads` proves this of
the check of all conditions, step by step.

So a run over storage that wants another run before any call was refused by the storage itself or
did not find the local account, and nothing else that is missing has this effect:
`readings_explain`.
-/

namespace Mailroom.Fanout

/-- What the readings of a check tell about its answer, over an archive that can be read. -/
def Telling {α : Type} : Except Halt α → List Reading → Prop
  | .ok _, readings => ∀ reading ∈ readings, reading.finding = .found
  | .error (.unmet _), readings => ∀ reading ∈ readings,
      reading.finding = .found ∨ reading.finding = .missing ∧ reading.question ≠ .self
  | .error (.storage _), readings => ⟨.self, .missing⟩ ∈ readings ∧
      ∀ reading ∈ readings, reading.finding = .found ∨ reading = ⟨.self, .missing⟩

/-- A check that found all it asked for before tells the same. -/
theorem Telling.behind {α : Type} {answer : Except Halt α} {readings before : List Reading}
    (tells : Telling answer readings) (found : ∀ reading ∈ before, reading.finding = .found) :
    Telling answer (before ++ readings) := by
  rcases answer with (condition | error) | value
  · intro reading held
    rcases List.mem_append.1 held with first | second
    · exact .inl (found reading first)
    · exact tells reading second
  · refine ⟨List.mem_append_right before tells.1, fun reading held => ?_⟩
    rcases List.mem_append.1 held with first | second
    · exact .inl (found reading first)
    · exact tells.2 reading second
  · intro reading held
    rcases List.mem_append.1 held with first | second
    · exact found reading first
    · exact tells reading second

/-- Whether something that must be there was found tells whether its condition is met. -/
theorem telling_need {α : Type} {condition : Precondition} {question : Question}
    (other : question ≠ .self) (found : Option α) :
    Telling (need condition found) [⟨question, .ofFound found⟩] := by
  cases found with
  | none =>
    intro reading held
    rw [List.mem_singleton.1 held]
    exact .inr ⟨rfl, other⟩
  | some value =>
    intro reading held
    rw [List.mem_singleton.1 held]
    rfl

/-- A check over an archive that can be read gives an answer and keeps telling readings, behind
those before. -/
def Reads {α : Type} (archive : Archive) (check : Check (Consulted Storage) α)
    (answer : Except Halt α) : Prop :=
  ∃ readings, Telling answer readings ∧
    ∀ before, check (⟨⟨archive, false⟩, before⟩ : Consulted Storage) =
      (answer, ⟨⟨archive, false⟩, before ++ readings⟩)

/-- Looking something up in an archive that can be read answers with what is found and keeps what
came of it. -/
def Asked {α : Type} (archive : Archive)
    (question : Consulted Storage → Except StorageError α × Consulted Storage) (reading : Reading)
    (answer : Except StorageError α) : Prop :=
  ∀ before, question ⟨⟨archive, false⟩, before⟩ =
    (answer, ⟨⟨archive, false⟩, before ++ [reading]⟩)

/-- What storage answers is answered over it, with what came of the question. -/
theorem asked_of_eq {α : Type} {archive : Archive}
    {read : Storage → Except StorageError α × Storage} {answer : Except StorageError α}
    (question : Question) (finding : Except StorageError α → Finding)
    (answered : read ⟨archive, false⟩ = (answer, ⟨archive, false⟩)) :
    Asked archive (Consulted.ask question finding read) ⟨question, finding answer⟩ answer := by
  intro before
  rw [Consulted.ask, answered]

/-- Something that must be there is read as found or missing. -/
theorem ofAnswer_foundOr {α : Type} (kind id : String) (found : Option α) :
    Finding.ofAnswer (foundOr kind id found) = .ofFound found := by
  cases found <;> rfl

/-- Something that need not be there is read as found or missing. -/
theorem ofOptional_ok {α : Type} (found : Option α) :
    Finding.ofOptional (.ok found) = .ofFound found := by
  cases found <;> rfl

/-- Storage that can be read gives the local account of its archive. -/
theorem selfId_of_archive (archive : Archive) :
    MessageKeeper.selfId (⟨archive, false⟩ : Storage) =
      (foundOr "self recipient" "local account" archive.selfId, ⟨archive, false⟩) := by
  show (archive.selfId?, _) = _
  rw [Archive.selfId?]
  cases archive.selfId <;> rfl

namespace Reads

variable {α β : Type} {archive : Archive}

/-- Checks one after the other read one after the other. -/
theorem bind {check : Check (Consulted Storage) α} {next : α → Check (Consulted Storage) β}
    {answer : Except Halt α} {later : α → Except Halt β} (first : Reads archive check answer)
    (second : ∀ value, answer = .ok value → Reads archive (next value) (later value)) :
    Reads archive (check >>= next) (answer >>= later) := by
  obtain ⟨readings, tells, made⟩ := first
  cases answer with
  | error halt =>
    refine ⟨readings, ?_, fun before => ?_⟩
    · cases halt with
      | unmet condition => exact tells
      | storage error => exact tells
    · show (match check _ with | (answer, state) => ExceptT.bindCont next answer state) = _
      rw [made before]
      rfl
  | ok value =>
    obtain ⟨more, tellsMore, madeMore⟩ := second value rfl
    refine ⟨readings ++ more, tellsMore.behind tells, fun before => ?_⟩
    show (match check _ with | (answer, state) => ExceptT.bindCont next answer state) = _
    rw [made before, ← List.append_assoc]
    exact madeMore _

/-- An answer reads nothing. -/
theorem pure (value : α) :
    Reads archive (Pure.pure value : Check (Consulted Storage) α) (Pure.pure value) := by
  refine ⟨[], ?_, fun before => ?_⟩
  · exact fun reading held => nomatch held
  · rw [List.append_nil]
    rfl

/-- A demand reads nothing. -/
theorem demand (condition : Precondition) (value : Option α) :
    Reads archive (Fanout.demand condition value) (need condition value) := by
  refine ⟨[], ?_, fun before => ?_⟩
  · cases value <;> exact fun reading held => nomatch held
  · rw [List.append_nil]
    cases value <;> rfl

/-- A question about what must be there reads whether it is there. -/
theorem askFor {condition : Precondition} {kind id : String} {found : Option α}
    {read : Consulted Storage → Except StorageError α × Consulted Storage} {question : Question}
    (asked : Asked archive read ⟨question, .ofFound found⟩ (foundOr kind id found))
    (other : question ≠ .self) :
    Reads archive (Fanout.askFor condition read) (need condition found) := by
  refine ⟨[⟨question, .ofFound found⟩], telling_need other found, fun before => ?_⟩
  rw [Fanout.askFor, asked before]
  cases found <;> rfl

/-- A question whose answer must not be empty reads whether it is. -/
theorem ask_demand {condition : Precondition} {found : Option α}
    {read : Consulted Storage → Except StorageError (Option α) × Consulted Storage}
    {question : Question} {next : α → Check (Consulted Storage) β} {later : α → Except Halt β}
    (asked : Asked archive read ⟨question, .ofFound found⟩ (.ok found)) (other : question ≠ .self)
    (second : ∀ value, Reads archive (next value) (later value)) :
    Reads archive (Fanout.ask read >>= fun answer => Fanout.demand condition answer >>= next)
      (need condition found >>= later) := by
  rw [← bind_assoc]
  refine .bind ⟨[⟨question, .ofFound found⟩], telling_need other found, fun before => ?_⟩
    fun value _ => second value
  show (match Fanout.ask read _ with
    | (answer, state) => ExceptT.bindCont (Fanout.demand condition) answer state) = _
  rw [Fanout.ask, asked before]
  cases found <;> rfl

/-- A question that is answered is found, and what comes after it goes on with the answer. -/
theorem ask_bind {question : Question}
    {read : Consulted Storage → Except StorageError α × Consulted Storage} (answer : α)
    {next : α → Check (Consulted Storage) β} {later : Except Halt β}
    (asked : Asked archive read ⟨question, .found⟩ (.ok answer))
    (second : Reads archive (next answer) later) :
    Reads archive (Fanout.ask read >>= next) later := by
  have first : Reads archive (Fanout.ask read) (.ok answer) := by
    refine ⟨[⟨question, .found⟩], fun reading held => ?_, fun before => ?_⟩
    · rw [List.mem_singleton.1 held]
    · rw [Fanout.ask, asked before]
  show Reads archive _ ((Except.ok answer : Except Halt α) >>= fun _ => later)
  refine first.bind fun value same => ?_
  cases same
  exact second

/-- The question who the local account is reads whether it is known, and halts where it is not. -/
theorem askSelf :
    Reads archive (Fanout.ask MessageKeeper.selfId) (archive.selfId?.mapError Halt.storage) := by
  have asked := asked_of_eq .self .ofAnswer (selfId_of_archive archive)
  rw [ofAnswer_foundOr] at asked
  refine ⟨[⟨.self, .ofFound archive.selfId⟩], ?_, fun before => ?_⟩
  · rw [Archive.selfId?]
    cases archive.selfId with
    | none =>
      exact ⟨List.mem_singleton_self _, fun reading held => .inr (List.mem_singleton.1 held)⟩
    | some self =>
      intro reading held
      rw [List.mem_singleton.1 held]
      rfl
  · rw [Fanout.ask, show MessageKeeper.selfId _ = _ from asked before, Archive.selfId?]
    cases archive.selfId <;> rfl

end Reads

/-- The check of all conditions over an archive that can be read answers `targetIn`, and its
readings tell why. -/
theorem checkTarget_reads (target : MessageId) (archive : Archive) :
    Reads archive (checkTarget target) (targetIn target archive) := by
  have message := asked_of_eq (.message target) .ofAnswer (message_of_archive target archive)
  have recipient (id : RecipientId) :=
    asked_of_eq (.recipient id) .ofAnswer (recipient_of_archive id archive)
  have conversation (id : ThreadId) : Asked archive (MessageKeeper.conversation id)
      ⟨.conversation id, .ofOptional (.ok (archive.conversation? id))⟩
        (.ok (archive.conversation? id)) :=
    asked_of_eq (.conversation id) .ofOptional rfl
  have group (id : GroupId) : Asked archive (MessageKeeper.group id)
      ⟨.group id, .ofOptional (.ok (archive.groups.get? id))⟩ (.ok (archive.groups.get? id)) :=
    asked_of_eq (.group id) .ofOptional rfl
  simp only [ofAnswer_foundOr, ofOptional_ok] at message recipient conversation group
  refine .ask_bind archive.registered (asked_of_eq .registered .ofAnswer rfl) ?_
  refine .bind (.demand _ _) fun _ _ => ?_
  refine .bind (.askFor message (by simp)) fun message _ => ?_
  refine .bind (.askFor (recipient message.sender) (by simp)) fun author _ => ?_
  refine .bind (.demand _ _) fun serviceId _ => ?_
  refine .ask_demand (conversation message.threadId) (by simp) fun conversation => ?_
  refine .bind (.demand _ _) fun groupId _ => ?_
  refine .ask_demand (group groupId) (by simp) fun roster => ?_
  refine .bind .askSelf fun self _ => ?_
  exact .bind (.demand _ _) fun _ _ => .pure _

/-- What comes of looking somebody up. -/
def lookup (archive : Archive) (id : RecipientId) : Reading :=
  ⟨.recipient id, .ofFound (archive.recipients.get? id)⟩

/-- Looking everybody up in an archive that can be read reads who is on file. -/
theorem resolve_consulted (ids : List RecipientId) (archive : Archive) (before : List Reading) :
    resolve ids (⟨⟨archive, false⟩, before⟩ : Consulted Storage) =
      (.ok (archive.known ids, archive.unknown ids),
        ⟨⟨archive, false⟩, before ++ ids.map (lookup archive)⟩) := by
  induction ids generalizing before with
  | nil => rw [List.map_nil, List.append_nil]; rfl
  | cons id rest ih =>
    have asked : MessageKeeper.recipient id (⟨⟨archive, false⟩, before⟩ : Consulted Storage) =
        (foundOr "recipient" id.text (archive.recipients.get? id),
          ⟨⟨archive, false⟩, before ++ [lookup archive id]⟩) := by
      have answered :=
        asked_of_eq (.recipient id) .ofAnswer (recipient_of_archive id archive) before
      rw [ofAnswer_foundOr] at answered
      exact answered
    have later := ih (before ++ [lookup archive id])
    rw [List.append_assoc, List.singleton_append] at later
    rw [resolve, asked, Archive.known, Archive.unknown, List.filter_cons, Table.contains_eq_isSome]
    cases found : archive.recipients.get? id with
    | none =>
      rw [List.filterMap_cons_none found]
      simp only [foundOr, StorageError.isNotFound, if_pos, later]
      rfl
    | some recipient =>
      rw [List.filterMap_cons_some found]
      simp only [foundOr, later]
      rfl

section

variable {σ τ : Type} [MessageKeeper σ] [GroupSender τ]

/-- A run, with what was read beside its storage. -/
def Attempt.consulted (readings : List Reading) (led : Attempt σ τ) : Attempt (Consulted σ) τ :=
  ⟨led.outcome, led.progress, ⟨led.storage, readings⟩, led.transport, led.log⟩

/-- Marking recipients as gone reads nothing. -/
theorem markGone_consulted (ids : List RecipientId) (storage : σ) (readings : List Reading) :
    markGone ids (⟨storage, readings⟩ : Consulted σ) =
      ⟨(markGone ids storage).marked, ⟨(markGone ids storage).storage, readings⟩,
        (markGone ids storage).log⟩ := by
  induction ids generalizing storage with
  | nil => rfl
  | cons id rest ih =>
    have changed : MessageKeeper.markGone id (⟨storage, readings⟩ : Consulted σ) =
        Consulted.change (MessageKeeper.markGone id) ⟨storage, readings⟩ := rfl
    unfold markGone
    rw [changed, Consulted.change]
    rcases MessageKeeper.markGone id storage with ⟨error | isNews, after⟩
    · simp only [ih]
    · simp only [ih]

omit [GroupSender τ] in
/-- Drawing results in reads nothing. -/
theorem account_consulted (progress : Progress) (eligible : List RecipientId) (dropped : Nat)
    (delivery : Delivery) (storage : σ) (readings : List Reading) (transport : τ) :
    account progress eligible dropped delivery (⟨storage, readings⟩ : Consulted σ) transport =
      (account progress eligible dropped delivery storage transport).consulted readings := by
  unfold account
  dsimp only
  rw [markGone_consulted]
  rfl

/-- Sending out reads nothing. -/
theorem sendOut_consulted (now : Instant) (target : Target) (progress : Progress)
    (known : List Recipient) (unknown : List RecipientId) (storage : σ) (readings : List Reading)
    (transport : τ) :
    sendOut now target progress known unknown (⟨storage, readings⟩ : Consulted σ) transport =
      (sendOut now target progress known unknown storage transport).consulted readings := by
  unfold sendOut
  dsimp only
  rcases deliver now target _ (Recipient.splitEligible known).1 transport
    with ⟨error | delivery, after⟩
  · dsimp only
    split <;> rfl
  · exact account_consulted ..

/-- What a run reads, in order. -/
def readingsOf (now : Instant) (progress : Progress) (storage : σ) (transport : τ) :
    List Reading :=
  (attempt now progress (⟨storage, []⟩ : Consulted σ) transport).storage.readings

end

/-- What a run over storage reads, by what comes of the check of the conditions. -/
inductive Consultation (progress : Progress) (storage : Storage) : List Reading → Prop
  /-- Storage that was poisoned refuses the first question. -/
  | refused (poisoned : storage.poisoned = true) :
    Consultation progress storage [⟨.registered, .failed "lock poisoned"⟩]
  /-- The check stops, and its readings tell why. -/
  | halted (sound : storage.poisoned = false) (halt : Halt)
    (stops : targetOf progress.target storage = .error halt) (readings : List Reading)
    (tells : Telling (.error halt : Except Halt Target) readings) :
    Consultation progress storage readings
  /-- The check finds all it asks for, and then everybody on the list is looked up. -/
  | went (target : Target) (ready : targetOf progress.target storage = .ok target)
    (readings : List Reading) (found : ∀ reading ∈ readings, reading.finding = .found) :
    Consultation progress storage (readings ++ progress.remaining.map (lookup storage.value))

/-- How the readings of a run explain what it asks for. -/
structure Explains {τ : Type} (progress : Progress) (storage : Storage) (readings : List Reading)
    (calls : List Call) (led : Attempt Storage τ) : Prop where
  /-- It wants another one before any call exactly if storage failed to answer a question, or did
  not find the local account. -/
  again : led.outcome = .retry ∧ calls = [] ↔
    (∃ question reason, ⟨question, .failed reason⟩ ∈ readings) ∨ ⟨.self, .missing⟩ ∈ readings
  /-- Where anything else was not found, the run is given up with the first condition that is not
  met; or it is a recipient on the list, who is dropped. -/
  missing : ∀ question, question ≠ .self → ⟨question, .missing⟩ ∈ readings →
    (∃ condition, firstUnmet? progress.target storage.value = some condition ∧
      led.outcome = .permanentFailure condition.message) ∨
    ∃ id ∈ progress.remaining, question = .recipient id ∧ id ∉ led.progress.remaining
  /-- Where the local account was not found, nobody is known as it, and all conditions are met that
  do not ask for it. -/
  self : ⟨.self, .missing⟩ ∈ readings →
    storage.value.selfId = none ∧ ∀ condition : Precondition, condition ≠ .admin →
      condition.isMet progress.target storage.value = true

section

variable {τ : Type} [GroupSender τ]

/-- What a run reads does not change it, and is as its check of the conditions goes. -/
theorem attempt_consulted (now : Instant) (progress : Progress) (storage : Storage)
    (transport : τ) :
    Consultation progress storage (readingsOf now progress storage transport) ∧
      attempt now progress (⟨storage, []⟩ : Consulted Storage) transport =
        (attempt now progress storage transport).consulted
          (readingsOf now progress storage transport) := by
  obtain ⟨archive, poisoned⟩ := storage
  cases poisoned with
  | true => exact ⟨.refused rfl, rfl⟩
  | false =>
    obtain ⟨readings, tells, checked⟩ := checkTarget_reads progress.target archive
    have asked := checked []
    rw [List.nil_append] at asked
    have plain := checkTarget_answers progress.target archive
    have answers : targetOf progress.target ⟨archive, false⟩ = targetIn progress.target archive :=
      rfl
    unfold readingsOf attempt
    rw [asked, show checkTarget _ _ = _ from plain]
    cases answered : targetIn progress.target archive with
    | error halt =>
      rw [answered] at tells
      have halted : Consultation progress ⟨archive, false⟩ readings :=
        .halted rfl halt (answers.trans answered) readings tells
      cases halt with
      | unmet condition => exact ⟨halted, rfl⟩
      | storage error => exact ⟨halted, rfl⟩
    | ok target =>
      rw [answered] at tells
      have resolved := resolve_consulted progress.remaining archive readings
      have went : Consultation progress ⟨archive, false⟩
          (readings ++ progress.remaining.map (lookup archive)) :=
        .went target (answers.trans answered) readings tells
      dsimp only
      rw [resolved, resolve_sound]
      dsimp only
      rw [sendOut_consulted]
      exact ⟨went, rfl⟩

/-- A run whose check stops asks for what the check says, and makes no call. -/
theorem outcome_of_halt (now : Instant) {progress : Progress} {storage : Storage} (transport : τ)
    {halt : Halt} (stops : targetOf progress.target storage = .error halt) :
    (attempt now progress storage transport).outcome = halt.outcome ∧
      callsOf now progress storage transport = [] := by
  obtain ⟨led, course, same⟩ := callsOf_course now progress storage transport
  rw [same]
  generalize callsOf now progress storage transport = calls at course
  cases course with
  | halted other stopsToo log =>
    rw [stops] at stopsToo
    cases stopsToo
    exact ⟨rfl, rfl⟩
  | failed target ready error calls sent after log =>
    rw [stops] at ready
    cases ready
  | answered target ready delivery calls sent after =>
    rw [stops] at ready
    cases ready

omit [GroupSender τ] in
/-- Whoever remains after a run that is accounted for could be reached. -/
theorem Accounted.reaches_of_remains {progress : Progress} {archive : Archive} {calls : List Call}
    {led : Attempt Storage τ} (account : Accounted progress archive calls led) {id : RecipientId}
    (held : id ∈ led.progress.remaining) : archive.reaches id = true := by
  by_cases broken : Call.GroupFailed calls
  · rw [(account.failed broken).1] at held
    exact (List.mem_filter.1 held).2
  · rw [account.remaining broken] at held
    exact (Bool.and_eq_true_iff.1 (List.mem_filter.1 held).2).1

/-- Where nobody is called although the delete is permitted, nobody on the list can be reached. -/
theorem Contacted.unreached {progress : Progress} {storage : Storage}
    (contacted : Contacted progress storage []) (permitted : Permits progress.target storage)
    {id : RecipientId} (listed : id ∈ progress.remaining) : storage.value.reaches id = false := by
  rw [← Bool.not_eq_true]
  intro reached
  obtain ⟨recipient, held, rfl⟩ := Archive.exists_reachable listed reached
  cases own : recipient.isSelf with
  | false =>
    have member : recipient ∈ storage.value.members progress.remaining := by
      rw [Archive.members_eq]
      exact List.mem_filter.2 ⟨held, by simp [own]⟩
    obtain ⟨call, made, -⟩ := contacted.called.2 ⟨permitted, List.ne_nil_of_mem member⟩
    cases made
  | true =>
    obtain ⟨-, filed, eligible⟩ := Archive.mem_reachable_iff.1 held
    have intact : ¬ Call.GroupFailed [] := by
      rintro ⟨groupId, recipients, about, message, error, made⟩
      cases made
    obtain ⟨call, made, -⟩ := contacted.copied.2
      ⟨permitted, ⟨recipient.id, listed, recipient, filed, own, eligible⟩, intact⟩
    cases made

/-- A run whose delete is permitted and that calls nobody is done. -/
theorem Course.success_of_silent {now : Instant} {progress : Progress} {storage : Storage}
    {transport : Observed τ} {led : Attempt Storage (Observed τ)}
    (course : Course now progress storage transport led [])
    (permitted : Permits progress.target storage) : led.outcome = .success := by
  rcases course.dispatch with ⟨forbidden, -⟩ | ⟨target, answer, -, -, account⟩
  · exact absurd permitted forbidden
  · refine account.asks.done.2 ⟨nofun, ?_⟩
    rw [List.eq_nil_iff_forall_not_mem]
    intro id held
    have reached := account.reaches_of_remains held
    have listed := course.narrows.remaining.subset held
    rw [course.contacted.unreached permitted listed] at reached
    cases reached

/-- Looking somebody up never fails, and asks for somebody else than the local account. -/
theorem lookup_sound {archive : Archive} {ids : List RecipientId} {reading : Reading}
    (held : reading ∈ ids.map (lookup archive)) :
    ∃ id ∈ ids, reading.question = .recipient id ∧
      (reading.finding = .found ∨ reading.finding = .missing ∧ archive.reaches id = false) := by
  obtain ⟨id, listed, rfl⟩ := List.mem_map.1 held
  refine ⟨id, listed, rfl, ?_⟩
  unfold lookup Archive.reaches
  cases archive.recipients.get? id with
  | none => exact .inr ⟨rfl, rfl⟩
  | some recipient => exact .inl rfl

/-- Poisoned storage explains why a run wants another one. -/
theorem explains_of_refused (now : Instant) (progress : Progress) {storage : Storage}
    (transport : τ) (poisoned : storage.poisoned = true) :
    Explains progress storage [⟨.registered, .failed "lock poisoned"⟩]
      (callsOf now progress storage transport) (attempt now progress storage transport) := by
  have stops : targetOf progress.target storage = .error (.storage .poisoned) := by
    rw [targetOf, if_pos poisoned]
  constructor
  case again =>
    exact iff_of_true (outcome_of_halt now transport stops) (.inl ⟨_, _, List.mem_singleton_self _⟩)
  case missing =>
    intro question other held
    cases List.mem_singleton.1 held
  case self =>
    intro held
    cases List.mem_singleton.1 held

/-- The readings of a check that stops explain what the run asks for. -/
theorem explains_of_halted (now : Instant) (progress : Progress) {storage : Storage}
    (transport : τ) (sound : storage.poisoned = false) {halt : Halt}
    (stops : targetOf progress.target storage = .error halt) {readings : List Reading}
    (tells : Telling (.error halt : Except Halt Target) readings) :
    Explains progress storage readings (callsOf now progress storage transport)
      (attempt now progress storage transport) := by
  have verdict := targetIn_verdict progress.target storage.value
  have checked : targetOf progress.target storage = targetIn progress.target storage.value := by
    rw [targetOf, sound, if_neg Bool.false_ne_true]
  rw [← checked, stops] at verdict
  obtain ⟨outcome, silent⟩ := outcome_of_halt now transport stops
  cases verdict with
  | unmet condition first =>
    have harmless : ∀ question finding, ⟨question, finding⟩ ∈ readings →
        finding = .found ∨ finding = .missing ∧ question ≠ .self :=
      fun question finding held => tells _ held
    constructor
    case again =>
      rw [outcome]
      apply iff_of_false
      · rintro ⟨again, -⟩
        cases again
      · rintro (⟨question, reason, held⟩ | held)
        · rcases harmless _ _ held with found | ⟨missing, -⟩
          · cases found
          · cases missing
        · rcases harmless _ _ held with found | ⟨-, other⟩
          · cases found
          · exact other rfl
    case missing => exact fun question other held => .inl ⟨condition, first, outcome⟩
    case self =>
      intro held
      rcases harmless _ _ held with found | ⟨-, other⟩
      · cases found
      · exact absurd rfl other
  | selfless unknown others =>
    constructor
    case again => exact iff_of_true ⟨outcome, silent⟩ (.inr tells.1)
    case missing =>
      intro question other held
      rcases tells.2 _ held with found | same
      · cases found
      · cases same
        exact absurd rfl other
    case self => exact fun _ => ⟨unknown, others⟩

/-- The readings of a run whose delete is permitted explain what it drops. -/
theorem explains_of_went (now : Instant) (progress : Progress) {storage : Storage} (transport : τ)
    (permitted : Permits progress.target storage) {readings : List Reading}
    (found : ∀ reading ∈ readings, reading.finding = .found) :
    Explains progress storage (readings ++ progress.remaining.map (lookup storage.value))
      (callsOf now progress storage transport) (attempt now progress storage transport) := by
  have recipients : ∀ question finding,
      ⟨question, finding⟩ ∈ readings ++ progress.remaining.map (lookup storage.value) →
        finding = .found ∨ finding = .missing ∧ ∃ id ∈ progress.remaining,
          question = .recipient id ∧ storage.value.reaches id = false := by
    intro question finding held
    rcases List.mem_append.1 held with before | after
    · exact .inl (found _ before)
    · obtain ⟨id, listed, asked, present | ⟨missing, missed⟩⟩ := lookup_sound after
      · exact .inl present
      · exact .inr ⟨missing, id, listed, asked, missed⟩
  obtain ⟨led, course, same⟩ := callsOf_course now progress storage transport
  rw [same]
  generalize callsOf now progress storage transport = calls at course
  constructor
  case again =>
    refine iff_of_false ?_ ?_
    · rintro ⟨again, rfl⟩
      have done : led.unobserved.outcome = .success := course.success_of_silent permitted
      rw [again] at done
      cases done
    · rintro (⟨question, reason, held⟩ | held)
      · rcases recipients _ _ held with found | ⟨missing, -⟩
        · cases found
        · cases missing
      · rcases recipients _ _ held with found | ⟨-, id, -, asked, -⟩
        · cases found
        · cases asked
  case missing =>
    intro question other held
    rcases recipients _ _ held with found | ⟨-, id, listed, asked, missed⟩
    · cases found
    · refine .inr ⟨id, listed, asked, fun remains => ?_⟩
      rcases course.dispatch with ⟨forbidden, -⟩ | ⟨target, answer, -, -, account⟩
      · exact forbidden permitted
      · rw [account.reaches_of_remains remains] at missed
        cases missed
  case self =>
    intro held
    rcases recipients _ _ held with found | ⟨-, id, -, asked, -⟩
    · cases found
    · cases asked

/-- A run wants another one before any call exactly if storage failed to answer or the local account
is missing. Nothing else that is missing has this effect: the run is given up with the first
condition that is not met, or somebody on the list is dropped. The local account is looked for last,
where all other conditions are met. -/
theorem readings_explain (now : Instant) (progress : Progress) (storage : Storage)
    (transport : τ) :
    Explains progress storage (readingsOf now progress storage transport)
      (callsOf now progress storage transport) (attempt now progress storage transport) := by
  have consultation := (attempt_consulted now progress storage transport).1
  generalize readingsOf now progress storage transport = readings at consultation
  cases consultation with
  | refused poisoned => exact explains_of_refused now progress transport poisoned
  | halted sound halt stops readings tells =>
    exact explains_of_halted now progress transport sound stops tells
  | went target ready readings found =>
    exact explains_of_went now progress transport (permits_iff.2 ⟨target, ready⟩) found

/-- The club where the local account is registered, but nobody is known as it. -/
def selflessClub : Storage :=
  ⟨((((Archive.empty.setRegistered true).insertRecipient Scene.owner).insertRecipient
    (Scene.conversation [])).insertGroup ⟨Scene.club, 0, [Scene.owner.id], [Scene.owner.id]⟩
    |>.insertThread ⟨⟨4⟩, ⟨3⟩, false, 0⟩).2.insertMessage ⟨⟨5⟩, ⟨4⟩, Scene.owner.id, 1000, none⟩,
    false⟩

/-- Storage gets to be registered without a local account by what it offers. -/
theorem reachable_selflessClub : selflessClub.Reachable :=
  .insertMessage (.insertThread (.insertGroup (.insertRecipient (.insertRecipient
    (.setRegistered .empty true) Scene.owner) (Scene.conversation []))
    ⟨Scene.club, 0, [Scene.owner.id], [Scene.owner.id]⟩) ⟨⟨4⟩, ⟨3⟩, false, 0⟩)
    ⟨⟨5⟩, ⟨4⟩, Scene.owner.id, 1000, none⟩

/-- Where nobody is known as the local account a run wants another one, though it made no call and
storage answered every question. -/
theorem retried_without_self :
    selflessClub.Reachable ∧
      (attempt (.ofNanos 0) clubProgress selflessClub ({} : Script)).outcome = .retry ∧
      callsOf (.ofNanos 0) clubProgress selflessClub ({} : Script) = [] ∧
      ∀ question reason, ⟨question, .failed reason⟩ ∉
        readingsOf (.ofNanos 0) clubProgress selflessClub ({} : Script) := by
  have read : readingsOf (.ofNanos 0) clubProgress selflessClub ({} : Script) =
      [⟨.registered, .found⟩, ⟨.message ⟨5⟩, .found⟩, ⟨.recipient Scene.owner.id, .found⟩,
        ⟨.conversation ⟨4⟩, .found⟩, ⟨.group Scene.club, .found⟩, ⟨.self, .missing⟩] := by
    rfl
  refine ⟨reachable_selflessClub, rfl, rfl, fun question reason held => ?_⟩
  rw [read] at held
  simp at held

end

end Mailroom.Fanout
