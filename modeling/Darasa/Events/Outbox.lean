import Darasa.Events.Contracts
import Darasa.Foundation.Program
import Darasa.Runtime.Columns
import Darasa.Runtime.Renderings
import Darasa.Runtime.Validation
import Mathlib.Data.List.Sort

/-!
The event tables, the statements the services issue against them, and the
outbox's write side.

Every statement is one database query, one reading of the clock or one call of
a handler; `execute` says what it does to the tables.  A handler's answer and
the time a statement takes are the environment's choice.  `write_outbox_event`
and the two model `save` methods are programs over these statements, so they
can be run alone (`Program.run`) or interleaved with others.

A UUID is modelled by a number, a time by its microseconds.
-/

namespace Darasa.Events

open Darasa (Outcome Exn Json Unicode refuseIf refuseUnstorable Interface Program)

/-! ## Rows -/

/-- `EventOutbox.Status`. -/
inductive OutboxStatus where
  | pending | locked | dispatched | failedRetryable | deadLettered | discardedInvalid
  deriving DecidableEq, Repr

/-- Nothing more is to happen to the event. -/
def OutboxStatus.isFinal : OutboxStatus → Bool
  | dispatched | deadLettered => true
  | _ => false

/-- An `EventOutbox` row. -/
structure EventOutbox where
  id : ℕ
  eventType : String
  eventVersion : ℕ
  tenant : Option ℕ
  actorId : Option ℕ
  idempotencyKey : String
  sourceModule : String
  partitionKey : String
  priority : Priority
  payload : Json
  status : OutboxStatus
  availableAt : ℕ
  occurredAt : ℕ
  lockedAt : Option ℕ
  lockedBy : String
  dispatchedAt : Option ℕ
  deriving DecidableEq, Repr

/-- `EventDispatchAttempt.Status`. -/
inductive AttemptStatus where
  | started | succeeded | failedRetryable | deadLettered
  deriving DecidableEq, Repr

/-- An `EventDispatchAttempt` row. -/
structure EventDispatchAttempt where
  id : ℕ
  eventOutbox : ℕ
  attemptNumber : ℕ
  dispatcherName : String
  status : AttemptStatus
  errorMessage : String
  startedAt : ℕ
  finishedAt : Option ℕ
  deriving DecidableEq, Repr

/-- `EventConsumerState.Status`. -/
inductive ConsumerStatus where
  | started | processed | failed
  deriving DecidableEq, Repr

/-- An `EventConsumerState` row; `event` is both its foreign key and its
`event_id`. -/
structure EventConsumerState where
  event : ℕ
  consumerName : String
  tenant : Option ℕ
  status : ConsumerStatus
  processedAt : Option ℕ
  failureReason : String
  deriving DecidableEq, Repr

/-- A `DeadLetterEvent` row. -/
structure DeadLetterEvent where
  eventOutbox : ℕ
  eventType : String
  eventVersion : ℕ
  tenant : Option ℕ
  reason : String
  sanitizedError : String
  failedAfterAttempts : ℕ
  deriving DecidableEq, Repr

/-- The tables of the `events` app, the clock and the next identifier. -/
structure Tables where
  registry : List EventTypeRegistry
  outbox : List EventOutbox
  attempts : List EventDispatchAttempt
  consumers : List EventConsumerState
  deadLetters : List DeadLetterEvent
  clock : ℕ
  nextId : ℕ

/-- Microseconds of a number of seconds. -/
def seconds (n : ℕ) : ℕ := n * 1000000

namespace Tables

/-- No row yet. -/
def empty (clock : ℕ) : Tables := ⟨[], [], [], [], [], clock, 0⟩

/-- The outbox row with an identifier. -/
def event? (t : Tables) (id : ℕ) : Option EventOutbox := t.outbox.find? (·.id == id)

/-- The state of a consumer on an event. -/
def consumer? (t : Tables) (event : ℕ) (consumer : String) : Option EventConsumerState :=
  t.consumers.find? fun state => state.event == event && state.consumerName == consumer

/-- The active contract of an event type and version. -/
def contract? (t : Tables) (eventType : String) (eventVersion : ℕ) : Option EventTypeRegistry :=
  t.registry.find? fun contract =>
    contract.eventType == eventType && contract.eventVersion == eventVersion && contract.isActive

/-- One more outbox row, under the next identifier. -/
def insertEvent (t : Tables) (row : EventOutbox) : Tables :=
  { t with outbox := t.outbox ++ [{ row with id := t.nextId }], nextId := t.nextId + 1 }

/-- The idempotency key is taken. -/
def keyTaken (t : Tables) (key : String) : Bool := t.outbox.any (·.idempotencyKey == key)

/-- `event.dispatch_attempts.count()`. -/
def attemptCount (t : Tables) (event : ℕ) : ℕ := t.attempts.countP (·.eventOutbox == event)

end Tables

/-! ## Statements -/

/-- What `save(update_fields=[..])` writes to an outbox row. -/
inductive OutboxChange where
  | dispatched (dispatchedAt : ℕ)
  | failedRetryable (availableAt : ℕ)
  | deadLettered
  deriving DecidableEq, Repr

namespace OutboxChange

/-- The status it leaves. -/
def status : OutboxChange → OutboxStatus
  | dispatched _ => .dispatched
  | failedRetryable _ => .failedRetryable
  | deadLettered => .deadLettered

/-- The row after it. -/
def apply : OutboxChange → EventOutbox → EventOutbox
  | dispatched at_, row => { row with status := .dispatched, dispatchedAt := some at_ }
  | failedRetryable at_, row => { row with status := .failedRetryable, availableAt := at_ }
  | deadLettered, row => { row with status := .deadLettered }

@[simp] theorem apply_id (change : OutboxChange) (row : EventOutbox) :
    (change.apply row).id = row.id := by
  cases change <;> rfl

@[simp] theorem apply_status (change : OutboxChange) (row : EventOutbox) :
    (change.apply row).status = change.status := by
  cases change <;> rfl

@[simp] theorem apply_eventType (change : OutboxChange) (row : EventOutbox) :
    (change.apply row).eventType = row.eventType := by
  cases change <;> rfl

end OutboxChange

/-- What `save(update_fields=[..])` writes to a consumer state. -/
inductive ConsumerChange where
  | processed (processedAt : ℕ)
  | failed (failureReason : String)
  deriving DecidableEq, Repr

namespace ConsumerChange

/-- The status it leaves. -/
def status : ConsumerChange → ConsumerStatus
  | processed _ => .processed
  | failed _ => .failed

/-- The row after it. -/
def apply : ConsumerChange → EventConsumerState → EventConsumerState
  | processed at_, row => { row with status := .processed, processedAt := some at_ }
  | failed reason, row => { row with status := .failed, failureReason := reason }

/-- The columns can hold what it writes. -/
def storable : ConsumerChange → Bool
  | processed _ => true
  | failed reason => Text.storable reason

end ConsumerChange

/-- An outbox row rewritten in place. -/
def Tables.changeEvent (t : Tables) (event : ℕ) (change : OutboxChange) : Tables :=
  { t with outbox := t.outbox.map fun row => if row.id = event then change.apply row else row }

/-- A consumer state rewritten in place. -/
def Tables.changeConsumer (t : Tables) (event : ℕ) (consumer : String) (change : ConsumerChange) :
    Tables :=
  { t with consumers := t.consumers.map fun row =>
    if row.event = event ∧ row.consumerName = consumer then change.apply row else row }

/-- One query, reading of the clock, or call of a handler. -/
inductive Statement where
  | timezoneNow
  /-- The registry row of an active contract. -/
  | selectContract (eventType : String) (eventVersion : ℕ)
  | outboxKeyExists (idempotencyKey : String)
  | insertOutbox (row : EventOutbox)
  /-- The candidates of `lock_pending_events`, at most `limit`. -/
  | selectCandidates (now limit : ℕ)
  /-- Its `UPDATE`. -/
  | lockSelected (ids : List ℕ) (now : ℕ) (dispatcherName : String)
  /-- Its final `SELECT`. -/
  | selectLocked (ids : List ℕ)
  | countAttempts (event : ℕ)
  | insertAttempt (row : EventDispatchAttempt)
  | updateAttempt (id : ℕ) (status : AttemptStatus) (errorMessage : Option String)
      (finishedAt : ℕ)
  /-- The `SELECT` of `already_processed`. -/
  | checkConsumer (event : ℕ) (consumer : String)
  /-- The `get` of `get_or_create`. -/
  | getConsumer (event : ℕ) (consumer : String)
  /-- The constraint check of `full_clean`. -/
  | consumerExists (event : ℕ) (consumer : String)
  | insertConsumer (row : EventConsumerState)
  | updateConsumer (event : ℕ) (consumer : String) (change : ConsumerChange)
  | callHandler (event : EventOutbox) (consumer : String)
  | updateEvent (event : ℕ) (change : OutboxChange)
  | deadLetterExists (event : ℕ)
  | insertDeadLetter (row : DeadLetterEvent)

/-- What a statement is answered with; an insertion answers whether the unique
constraint let the row in, an `UPDATE` of a shared row whether it found one. -/
@[reducible] def Statement.Answer : Statement → Type
  | timezoneNow => ℕ
  | selectContract .. => Option EventTypeRegistry
  | outboxKeyExists _ => Bool
  | insertOutbox _ => Option EventOutbox
  | selectCandidates .. => List EventOutbox
  | lockSelected .. => Unit
  | selectLocked _ => List EventOutbox
  | countAttempts _ => ℕ
  | insertAttempt _ => EventDispatchAttempt
  | updateAttempt .. => Unit
  | checkConsumer .. => Option ConsumerStatus
  | getConsumer .. => Option EventConsumerState
  | consumerExists .. => Bool
  | insertConsumer _ => Bool
  | updateConsumer .. => Bool
  | callHandler .. => Outcome Unit
  | updateEvent .. => Bool
  | deadLetterExists _ => Bool
  | insertDeadLetter _ => Bool

/-- The interface of the event services. -/
@[reducible] def statements : Interface := ⟨Statement, Statement.Answer⟩

/-- Code of the event services. -/
abbrev Code (α : Type) := Program statements Exn α

/-- Issue one statement. -/
abbrev query (statement : Statement) : Code statement.Answer :=
  @Program.issue statements Exn statement

/-- What the environment decides about a statement: how much time passes, and
what a handler does. -/
structure Choice where
  elapsed : ℕ
  answer : Outcome Unit
  deriving DecidableEq

instance : Inhabited Choice := ⟨⟨0, .ok ()⟩⟩

/-- Oldest first by `available_at`, then `occurred_at`. -/
def candidateOrder (a b : EventOutbox) : Prop :=
  a.availableAt < b.availableAt ∨ (a.availableAt = b.availableAt ∧ a.occurredAt ≤ b.occurredAt)

instance : DecidableRel candidateOrder := fun _ _ => inferInstanceAs (Decidable (_ ∨ _))

/-- Rows `lock_pending_events` selects. -/
def isCandidate (now : ℕ) (row : EventOutbox) : Bool :=
  [.pending, .failedRetryable, .locked].contains row.status && decide (row.availableAt ≤ now)

/-- The tables after one statement, and its answer. -/
def execute : (statement : Statement) → Choice → Tables → statement.Answer × Tables
  | .timezoneNow, choice, t => (t.clock, { t with clock := t.clock + choice.elapsed })
  | .selectContract eventType eventVersion, _, t => (t.contract? eventType eventVersion, t)
  | .outboxKeyExists key, _, t => (t.keyTaken key, t)
  | .insertOutbox row, _, t =>
    if t.keyTaken row.idempotencyKey then (none, t)
    else (some { row with id := t.nextId }, t.insertEvent row)
  | .selectCandidates now limit, _, t =>
    (((t.outbox.filter (isCandidate now)).insertionSort candidateOrder).take limit, t)
  | .lockSelected ids now dispatcherName, _, t =>
    ((), { t with outbox := t.outbox.map fun row =>
      if ids.contains row.id then
        { row with status := .locked, lockedAt := some now, lockedBy := dispatcherName }
      else row })
  | .selectLocked ids, _, t =>
    ((t.outbox.filter fun row => ids.contains row.id).insertionSort
      fun a b => a.occurredAt ≤ b.occurredAt, t)
  | .countAttempts event, _, t => (t.attemptCount event, t)
  | .insertAttempt row, _, t =>
    let row := { row with id := t.nextId }
    (row, { t with attempts := t.attempts ++ [row], nextId := t.nextId + 1 })
  | .updateAttempt id status errorMessage finishedAt, _, t =>
    ((), { t with attempts := t.attempts.map fun row =>
      if row.id = id then
        { row with
          status := status
          errorMessage := errorMessage.getD row.errorMessage
          finishedAt := some finishedAt }
      else row })
  | .checkConsumer event consumer, _, t =>
    ((t.consumer? event consumer).map EventConsumerState.status, t)
  | .getConsumer event consumer, _, t => (t.consumer? event consumer, t)
  | .consumerExists event consumer, _, t => ((t.consumer? event consumer).isSome, t)
  | .insertConsumer row, _, t =>
    if (t.consumer? row.event row.consumerName).isSome then (false, t)
    else (true, { t with consumers := t.consumers ++ [row] })
  | .updateConsumer event consumer change, _, t =>
    if (t.consumer? event consumer).isSome then (true, t.changeConsumer event consumer change)
    else (false, t)
  | .callHandler _ _, choice, t =>
    (choice.answer, { t with clock := t.clock + choice.elapsed })
  | .updateEvent event change, _, t =>
    if (t.event? event).isSome then (true, t.changeEvent event change) else (false, t)
  | .deadLetterExists event, _, t => (t.deadLetters.any (·.eventOutbox == event), t)
  | .insertDeadLetter row, _, t =>
    if t.deadLetters.any (·.eventOutbox == row.eventOutbox) then (false, t)
    else (true, { t with deadLetters := t.deadLetters ++ [row] })

/-- `execute` with time standing still. -/
def executeNow (statement : Statement) (t : Tables) : statement.Answer × Tables :=
  execute statement default t

section Running

variable {σ β : Type} {exec : (statement : Statement) → σ → statement.Answer × σ} {s : σ}

theorem run_query_bind {statement : Statement} {f : statement.Answer → Code β} :
    (query statement >>= f).run exec s = (f (exec statement s).1).run exec (exec statement s).2 :=
  rfl

end Running

/-! ## Model validation -/

section

/-- `save(update_fields=[..])` raises where its `UPDATE` finds no row. -/
def affecting (found : Bool) : Outcome Unit :=
  if found then .ok ()
  else .error (.other "DatabaseError" "Save with update_fields did not affect any rows.")

variable [Unicode]

namespace EventOutbox

/-- The fields of an `EventOutbox`. -/
def cleanFields (event : EventOutbox) : Outcome Unit := do
  cleanText "event_type" 128 event.eventType
  cleanText "idempotency_key" 160 event.idempotencyKey
  cleanText "source_module" 64 event.sourceModule
  cleanText "partition_key" 128 event.partitionKey
  cleanJson "payload" event.payload

/-- `EventOutbox.clean`, on the registry row its query finds.  The priority of a
row is one already validated. -/
def clean (event : EventOutbox) : Option EventTypeRegistry → Outcome Unit
  | none => .error (.validationError "event_type" "Active event type is required.")
  | some registry => do
    let _ ← authorizeProducer event.sourceModule registry.allowedProducers
    refuseIf (registry.requiresTenant && event.tenant.isNone) "tenant"
      "Tenant is required for this event."
    refuseIf (Text.isBlank event.idempotencyKey) "idempotency_key"
      "Idempotency key is required."
    let _ ← validateEventNamespace event.eventType
    let _ ← validatePartitionKey event.partitionKey
    validateEventPayload event.payload registry.payloadSchema

/-- What `full_clean` decides about a stored event, given its contract. -/
def validate (event : EventOutbox) (registry : Option EventTypeRegistry) : Outcome Unit :=
  fullClean event.cleanFields (event.clean registry)

/-- `EventOutbox.save(update_fields=[..])` of a stored event.  Its idempotency
key is its own, so the uniqueness check finds nothing. -/
def save (event : EventOutbox) (change : OutboxChange) : Code Unit := do
  let registry ← query (.selectContract event.eventType event.eventVersion)
  Program.ofOutcome (event.validate registry)
  let found ← query (.updateEvent event.id change)
  Program.ofOutcome (affecting found)

/-- `EventOutbox.objects.create`, from a row whose identifier is still open.  The check for
the key sends the key to the database, the insertion the other texts. -/
def create (event : EventOutbox) : Code EventOutbox := do
  let registry ← query (.selectContract event.eventType event.eventVersion)
  Program.ofOutcome (event.validate registry)
  Program.ofOutcome (refuseUnstorable (Text.storable event.idempotencyKey))
  if ← query (.outboxKeyExists event.idempotencyKey) then
    throw (.validationError "idempotency_key"
      "Event outbox with this Idempotency key already exists.")
  Program.ofOutcome
    (refuseUnstorable (Text.storable event.sourceModule && event.payload.storable))
  match ← query (.insertOutbox event) with
  | some row => return row
  | none => throw (.integrityError "events_eventoutbox_idempotency_key_key")

end EventOutbox

/-! ## `write_outbox_event` -/

/-- The arguments of `write_outbox_event` a service gives. -/
structure OutboxRequest where
  eventType : String
  eventVersion : ℕ
  sourceModule : String
  idempotencyKey : String
  payload : Json
  tenant : Option ℕ
  actorId : Option ℕ
  deriving DecidableEq, Repr

/-- `validate_event_contract`: the active contract of an event type. -/
def validateEventContract (eventType : String) (eventVersion : ℕ) : Code EventTypeRegistry := do
  let name ← Program.ofOutcome (validateEventNamespace eventType)
  match ← query (.selectContract name eventVersion) with
  | some registry => return registry
  | none => throw (.doesNotExist "EventTypeRegistry")

/-- `write_outbox_event`. -/
def writeOutboxEvent (request : OutboxRequest) : Code EventOutbox := do
  let registry ← validateEventContract request.eventType request.eventVersion
  let _ ← Program.ofOutcome (authorizeProducer request.sourceModule registry.allowedProducers)
  Program.ofOutcome (validateEventContractAlgorithm registry registry.eventType
    registry.eventVersion request.sourceModule request.tenant.isSome request.payload)
  let partition ← Program.ofOutcome
    (buildPartitionKey (request.tenant.map uuidText) registry.eventType registry.requiresTenant)
  let partitionKey ← Program.ofOutcome (validatePartitionKey partition)
  let occurredAt ← query .timezoneNow
  let availableAt ← query .timezoneNow
  EventOutbox.create
    { id := 0
      eventType := registry.eventType
      eventVersion := registry.eventVersion
      tenant := request.tenant
      actorId := request.actorId
      idempotencyKey := request.idempotencyKey
      sourceModule := request.sourceModule
      partitionKey := partitionKey
      priority := registry.priority
      payload := request.payload
      status := .pending
      availableAt := availableAt
      occurredAt := occurredAt
      lockedAt := none
      lockedBy := ""
      dispatchedAt := none }

/-! ### What it leaves -/

section

attribute [local irreducible] EventOutbox.validate validateEventNamespace authorizeProducer
  validateEventContractAlgorithm buildPartitionKey validatePartitionKey

/-- `EventOutbox.objects.create` inserts a valid row whose key is free and whose texts the
columns can hold. -/
theorem create_run {event : EventOutbox} {t : Tables} :
    event.create.run executeNow t =
      match event.validate (t.contract? event.eventType event.eventVersion) with
      | .error e => (.error e, t)
      | .ok _ =>
        match refuseUnstorable (Text.storable event.idempotencyKey) with
        | .error e => (.error e, t)
        | .ok _ =>
          if t.keyTaken event.idempotencyKey then
            (.error (.validationError "idempotency_key"
              "Event outbox with this Idempotency key already exists."), t)
          else
            match refuseUnstorable (Text.storable event.sourceModule && event.payload.storable) with
            | .error e => (.error e, t)
            | .ok _ => (.ok { event with id := t.nextId }, t.insertEvent event) := by
  have looked : executeNow (.selectContract event.eventType event.eventVersion) t =
    (t.contract? event.eventType event.eventVersion, t) := rfl
  rw [EventOutbox.create, run_query_bind, looked]
  cases event.validate (t.contract? event.eventType event.eventVersion) with
  | error e => exact Program.run_check_of_error rfl
  | ok _ =>
    rw [Program.run_check_of_ok rfl]
    cases refuseUnstorable (Text.storable event.idempotencyKey) with
    | error e => exact Program.run_check_of_error rfl
    | ok _ =>
      rw [Program.run_check_of_ok rfl, run_query_bind]
      have asked : executeNow (.outboxKeyExists event.idempotencyKey) t =
        (t.keyTaken event.idempotencyKey, t) := rfl
      by_cases taken : t.keyTaken event.idempotencyKey = true
      · rw [if_pos (by rwa [asked]), if_pos taken]
        rfl
      · rw [if_neg (by rwa [asked]), if_neg taken, asked]
        cases refuseUnstorable (Text.storable event.sourceModule && event.payload.storable) with
        | error e => exact Program.run_check_of_error rfl
        | ok _ =>
          have inserted : executeNow (.insertOutbox event) t =
            (some { event with id := t.nextId }, t.insertEvent event) := if_neg taken
          rw [Program.run_check_of_ok rfl, run_query_bind, inserted]
          rfl

private theorem validate_contract_run {eventType : String} {version : ℕ} {t : Tables} :
    ((validateEventContract eventType version).run executeNow t).2 = t := by
  rw [validateEventContract]
  cases validateEventNamespace eventType with
  | error e => rw [Program.run_check_of_error rfl]
  | ok name =>
    have looked : executeNow (.selectContract name version) t = (t.contract? name version, t) := rfl
    rw [Program.run_check_of_ok rfl, run_query_bind, looked]
    cases t.contract? name version <;> rfl

/-- `write_outbox_event` raises and leaves the tables as they were, or leaves
one more pending row, under a key nobody had. -/
theorem write_outbox_event_run (request : OutboxRequest) (t : Tables) :
    (∃ e, (writeOutboxEvent request).run executeNow t = (.error e, t)) ∨
      ∃ row : EventOutbox, row.status = .pending ∧ row.idempotencyKey = request.idempotencyKey ∧
        t.keyTaken row.idempotencyKey = false ∧
        (writeOutboxEvent request).run executeNow t =
          (.ok { row with id := t.nextId }, t.insertEvent row) := by
  rw [writeOutboxEvent]
  have same : ((validateEventContract request.eventType request.eventVersion).run executeNow t).2 =
    t := validate_contract_run
  obtain ⟨outcome, t', looked⟩ : ∃ outcome t',
    (validateEventContract request.eventType request.eventVersion).run executeNow t =
      (outcome, t') := ⟨_, _, rfl⟩
  rw [looked] at same
  obtain rfl : t' = t := same
  rcases outcome with e | registry
  · exact .inl ⟨e, Program.run_bind_of_error looked⟩
  rw [Program.run_bind_of_ok looked]
  rcases authorizeProducer request.sourceModule registry.allowedProducers with e | _
  · exact .inl ⟨e, Program.run_check_of_error rfl⟩
  rw [Program.run_check_of_ok rfl]
  rcases validateEventContractAlgorithm registry registry.eventType registry.eventVersion
    request.sourceModule request.tenant.isSome request.payload with e | _
  · exact .inl ⟨e, Program.run_check_of_error rfl⟩
  rw [Program.run_check_of_ok rfl]
  rcases buildPartitionKey (request.tenant.map uuidText) registry.eventType
    registry.requiresTenant with e | partition
  · exact .inl ⟨e, Program.run_check_of_error rfl⟩
  rw [Program.run_check_of_ok rfl]
  rcases validatePartitionKey partition with e | partitionKey
  · exact .inl ⟨e, Program.run_check_of_error rfl⟩
  rw [Program.run_check_of_ok rfl, run_query_bind, run_query_bind, create_run]
  split
  · exact .inl ⟨_, rfl⟩
  split
  · exact .inl ⟨_, rfl⟩
  split
  · exact .inl ⟨_, rfl⟩
  next free =>
    split
    · exact .inl ⟨_, rfl⟩
    · exact .inr ⟨_, rfl, rfl, Bool.eq_false_iff.mpr free, rfl⟩

end

end

end Darasa.Events
