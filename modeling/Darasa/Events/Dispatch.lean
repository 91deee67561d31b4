import Darasa.Events.Outbox

/-!
The relay: claiming a batch of events, handing each to its consumers, and
filing how that went.

`dispatchPendingEvents` is the whole pass of one worker, statement by
statement.  Nothing holds it in a transaction: a statement done before an
uncaught exception stays done.
-/

namespace Darasa.Events

open Darasa (Outcome Exn Json Unicode refuseIf refuseUnstorable Interface Program)

/-! ## Exceptions handlers raise -/

/-- `RetryableEventError(message)`. -/
@[match_pattern] abbrev retryableEventError (message : String) : Exn :=
  .other "RetryableEventError" message

/-- `PermanentEventError(message)`. -/
@[match_pattern] abbrev permanentEventError (message : String) : Exn :=
  .other "PermanentEventError" message

/-- `except RetryableEventError` catches it. -/
def isRetryable : Exn → Bool
  | retryableEventError _ => true
  | _ => false

/-- `except (PermanentEventError, ValidationError, IntegrityError)` catches it. -/
def isPermanent : Exn → Bool
  | permanentEventError _ => true
  | .validationError _ _ => true
  | .integrityError _ => true
  | _ => false

/-! ## Handlers -/

/-- The handler registry: the consumers of each event type, in the order
`register_handler` added them; it refuses a name twice. -/
structure Handlers where
  of : String → List String
  distinct : ∀ eventType, (of eventType).Nodup

/-- `get_handlers`. -/
def Handlers.getHandlers (handlers : Handlers) (eventType : String) : List String :=
  handlers.of eventType

/-! ## Claiming -/

/-- A row the plan takes at `now`: due, and not under a fresh lock. -/
def isReady (now : ℕ) (event : EventOutbox) : Bool :=
  decide (event.availableAt ≤ now) &&
    match event.status with
    | .pending | .failedRetryable => true
    | .locked => event.lockedAt.any fun lockedAt =>
      decide (seconds lockTimeoutSeconds + lockedAt < now)
    | _ => false

/-- `sort_events_for_dispatch`: by priority, then age. -/
def dispatchOrder (a b : EventOutbox) : Prop :=
  a.priority.rank < b.priority.rank ∨
    (a.priority.rank = b.priority.rank ∧ a.occurredAt ≤ b.occurredAt)

instance : DecidableRel dispatchOrder := fun _ _ => inferInstanceAs (Decidable (_ ∨ _))

/-- `plan_dispatch_batch`. -/
def planDispatchBatch (events : List EventOutbox) (maxBatchSize now : ℕ) :
    Outcome (List EventOutbox) := do
  refuseIf (decide (maxBatchSize < 1)) "batch_size" "Batch size must be positive."
  return ((events.filter (isReady now)).insertionSort dispatchOrder).take maxBatchSize

/-- `lock_pending_events`. -/
def lockPendingEvents (dispatcherName : String) (batchSize : ℕ) : Code (List EventOutbox) := do
  let now ← query .timezoneNow
  let safeBatchSize := max 1 (min batchSize maxRelayBatchSize)
  let candidates ← query (.selectCandidates now (safeBatchSize * 3))
  let selected ← Program.ofOutcome (planDispatchBatch candidates safeBatchSize now)
  let ids := selected.map EventOutbox.id
  query (.lockSelected ids now dispatcherName)
  query (.selectLocked ids)

/-! ## Consumer states -/

section

variable [Unicode]

/-- `should_skip_consumer`. -/
def shouldSkipConsumer : Option ConsumerStatus → Bool
  | some .started | some .processed => true
  | _ => false

/-- `already_processed`. -/
def alreadyProcessed (event : ℕ) (consumerName : String) : Code Bool := do
  Program.ofOutcome (refuseUnstorable (Text.storable consumerName))
  let status ← query (.checkConsumer event consumerName)
  return shouldSkipConsumer status

/-- `ensure_consumer_tenant_matches`. -/
def ensureConsumerTenantMatches (eventTenant consumerTenant : Option ℕ) : Outcome Unit :=
  refuseIf (eventTenant.isSome && consumerTenant.isSome && eventTenant != consumerTenant) "tenant"
    "Consumer tenant mismatch."

namespace EventConsumerState

/-- What `full_clean` decides about the fields of a state and its `clean`; the
tenant is always the event's. -/
def validate (state : EventConsumerState) : Outcome Unit :=
  fullClean (cleanText "consumer_name" 128 state.consumerName)
    (if state.failureReason.isEmpty then .ok ()
      else rejectSensitivePayload (.obj [("failure_reason", .str state.failureReason)]))

/-- `EventConsumerState.objects.create`. -/
def create (state : EventConsumerState) : Code Unit := do
  Program.ofOutcome state.validate
  if ← query (.consumerExists state.event state.consumerName) then
    throw (.validationError "__all__"
      "Event consumer state with this Event id and Consumer name already exists.")
  if !(← query (.insertConsumer state)) then
    throw (.integrityError "events_consumer_once_unique")

/-- `EventConsumerState.save(update_fields=[..])`. -/
def save (state : EventConsumerState) (change : ConsumerChange) : Code Unit := do
  Program.ofOutcome (change.apply state).validate
  Program.ofOutcome (refuseUnstorable change.storable)
  let found ← query (.updateConsumer state.event state.consumerName change)
  Program.ofOutcome (affecting found)

end EventConsumerState

/-- `record_consumer_started`: `get_or_create`, as the dispatcher calls it. -/
def recordConsumerStarted (event : EventOutbox) (consumerName : String) :
    Code EventConsumerState := do
  Program.ofOutcome (ensureConsumerTenantMatches event.tenant none)
  Program.ofOutcome (refuseUnstorable (Text.storable consumerName))
  match ← query (.getConsumer event.id consumerName) with
  | some state => return state
  | none =>
    let state : EventConsumerState :=
      { event := event.id
        consumerName := consumerName
        tenant := event.tenant
        status := .started
        processedAt := none
        failureReason := "" }
    (do EventConsumerState.create state; return state).tryCatch fun exn =>
      match exn with
      | .integrityError _ => do
        match ← query (.getConsumer event.id consumerName) with
        | some state => return state
        | none => throw exn
      | _ => throw exn

/-- `record_consumer_processed`. -/
def recordConsumerProcessed (event : EventOutbox) (consumerName : String) : Code Unit := do
  let state ← recordConsumerStarted event consumerName
  let processedAt ← query .timezoneNow
  state.save (.processed processedAt)

/-- `record_consumer_failed`. -/
def recordConsumerFailed (event : EventOutbox) (consumerName failureReason : String) :
    Code Unit := do
  let state ← recordConsumerStarted event consumerName
  state.save (.failed (sanitizeError failureReason))

/-! ## Filing the outcome -/

/-- `mark_event_dispatched`, with its attempt. -/
def markEventDispatched (event : EventOutbox) (attempt : EventDispatchAttempt) : Code Unit := do
  let dispatchedAt ← query .timezoneNow
  event.save (.dispatched dispatchedAt)
  let finishedAt ← query .timezoneNow
  query (.updateAttempt attempt.id .succeeded none finishedAt)

namespace DeadLetterEvent

/-- What `full_clean` decides about a dead letter's fields and its `clean`. -/
def validate (letter : DeadLetterEvent) : Outcome Unit :=
  fullClean
    (do cleanText "event_type" 128 letter.eventType
        cleanText "reason" 255 letter.reason)
    (rejectSensitivePayload
      (.obj [("reason", .str letter.reason), ("sanitized_error", .str letter.sanitizedError)]))

/-- `DeadLetterEvent.objects.create`. -/
def create (letter : DeadLetterEvent) : Code Unit := do
  Program.ofOutcome letter.validate
  if ← query (.deadLetterExists letter.eventOutbox) then
    throw (.validationError "event_outbox"
      "Dead letter event with this Event outbox already exists.")
  Program.ofOutcome
    (refuseUnstorable (Text.storable letter.reason && Text.storable letter.sanitizedError))
  if !(← query (.insertDeadLetter letter)) then
    throw (.integrityError "events_deadletterevent_event_outbox_id_key")

end DeadLetterEvent

/-- `move_event_to_dead_letter`. -/
def moveEventToDeadLetter (event : EventOutbox) (reason errorMessage : String)
    (failedAfterAttempts : ℕ) : Code Unit := do
  event.save .deadLettered
  DeadLetterEvent.create
    { eventOutbox := event.id
      eventType := event.eventType
      eventVersion := event.eventVersion
      tenant := event.tenant
      reason := sanitizeError reason
      sanitizedError := sanitizeError errorMessage
      failedAfterAttempts := failedAfterAttempts }

/-- `mark_event_failed_retryable`.  The failure class is retryable, so the
classifier's reason is the exhausted retries. -/
def markEventFailedRetryable (event : EventOutbox) (attempt : EventDispatchAttempt)
    (errorMessage : String) : Code Unit := do
  let finishedAt ← query .timezoneNow
  let message := sanitizeError errorMessage
  Program.ofOutcome (refuseUnstorable (Text.storable message))
  query (.updateAttempt attempt.id .failedRetryable (some message) finishedAt)
  if shouldRetry attempt.attemptNumber then
    let now ← query .timezoneNow
    event.save (.failedRetryable (seconds (calculateBackoffSeconds attempt.attemptNumber) + now))
  else
    moveEventToDeadLetter event "max_retries_exceeded" errorMessage attempt.attemptNumber

/-! ## The pass -/

/-- The loop body over the handlers of one event. -/
def handleConsumer (event : EventOutbox) (consumerName : String) : Code Unit := do
  let registry ← validateEventContract event.eventType event.eventVersion
  let _ ← Program.ofOutcome (authorizeConsumer consumerName registry.allowedConsumers)
  if ← alreadyProcessed event.id consumerName then
    return
  let _ ← recordConsumerStarted event consumerName
  let outcome ← query (.callHandler event consumerName)
  Program.ofOutcome outcome
  recordConsumerProcessed event consumerName

/-- The `try` block of one event.  What it raises comes with the value of
`active_consumer` at that point: the consumer in the loop, the last one after
it, and empty for an event without handlers. -/
def deliver (handlers : Handlers) (event : EventOutbox) (attempt : EventDispatchAttempt) :
    Program statements (String × Exn) Unit := do
  let consumers := handlers.getHandlers event.eventType
  consumers.forM fun consumerName =>
    (handleConsumer event consumerName).raising (consumerName, ·)
  (markEventDispatched event attempt).raising ((consumers.getLast?.getD ""), ·)

/-- `if active_consumer: record_consumer_failed(..)`, in both `except` clauses. -/
def recordActiveFailed (event : EventOutbox) (activeConsumer : String) (exn : Exn) : Code Unit :=
  if activeConsumer.isEmpty then pure () else recordConsumerFailed event activeConsumer exn.text

/-- The `except` clauses. -/
def fileFailure (event : EventOutbox) (attempt : EventDispatchAttempt) (activeConsumer : String)
    (exn : Exn) : Code Unit :=
  if isRetryable exn then do
    recordActiveFailed event activeConsumer exn
    markEventFailedRetryable event attempt exn.text
  else if isPermanent exn then do
    recordActiveFailed event activeConsumer exn
    moveEventToDeadLetter event "permanent_failure" exn.text attempt.attemptNumber
    let finishedAt ← query .timezoneNow
    query (.updateAttempt attempt.id .deadLettered none finishedAt)
  else
    throw exn

/-- `EventDispatchAttempt.objects.create`, with `_attempt_number`. -/
def startAttempt (event : EventOutbox) (dispatcherName : String) : Code EventDispatchAttempt := do
  let attempts ← query (.countAttempts event.id)
  let startedAt ← query .timezoneNow
  query (.insertAttempt
    { id := 0
      eventOutbox := event.id
      attemptNumber := attempts + 1
      dispatcherName := dispatcherName
      status := .started
      errorMessage := ""
      startedAt := startedAt
      finishedAt := none })

/-- The loop body over the claimed events: how many it dispatched. -/
def dispatchEvent (handlers : Handlers) (dispatcherName : String) (event : EventOutbox) :
    Code ℕ := do
  let attempt ← startAttempt event dispatcherName
  (do deliver handlers event attempt; return 1).tryCatch fun (activeConsumer, exn) => do
    fileFailure event attempt activeConsumer exn
    return 0

/-- The loop over the claimed events. -/
def dispatchEvents (handlers : Handlers) (dispatcherName : String) : List EventOutbox → Code ℕ
  | [] => return 0
  | event :: events => do
    let dispatched ← dispatchEvent handlers dispatcherName event
    return dispatched + (← dispatchEvents handlers dispatcherName events)

/-- `dispatch_pending_events`. -/
def dispatchPendingEvents (handlers : Handlers) (dispatcherName : String) (batchSize : ℕ) :
    Code ℕ := do
  let events ← lockPendingEvents dispatcherName batchSize
  dispatchEvents handlers dispatcherName events

end

end Darasa.Events
