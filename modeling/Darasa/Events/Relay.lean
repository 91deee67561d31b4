import Darasa.Events.Dispatch
import Darasa.Foundation.Workers

/-!
Relay workers over the shared event tables.

A worker's `Ledger` is what its own statements tell: the rows it selected, the
events it has in hand (claimed by its `UPDATE`, status not yet written back),
the consumers it found not processed, and the consumers it settled (skipped or
processed).  `discipline` is the duty a worker's code owes by that ledger, and
`dispatch_follows` is the proof that `dispatchPendingEvents` owes no more: it
touches only events in hand, calls a handler only after a check, and marks an
event dispatched only with every consumer settled.  Whether the shared tables
bear the ledger out is a matter of who else is running, and is left to the
theorems about `relaySystem`.
-/

namespace Darasa.Events

open Darasa (Outcome Exn Json Unicode Interface Program System Pool Happening)
open Darasa.Program

/-! ## The ledger -/

/-- What a worker knows from its own statements of this pass. -/
structure Ledger where
  /-- The rows its `SELECT` of candidates answered. -/
  known : List EventOutbox
  /-- The events it has claimed and not yet filed. -/
  hand : List ℕ
  /-- The `locked_at` of its claim. -/
  claimedAt : ℕ
  /-- The instances it works on. -/
  loaded : List EventOutbox
  /-- Consumers it found neither started nor processed. -/
  begun : List (ℕ × String)
  /-- Consumers it skipped or recorded as processed. -/
  settled : List (ℕ × String)
  deriving DecidableEq

namespace Ledger

def blank : Ledger := ⟨[], [], 0, [], [], []⟩

/-- The ledger after a statement. -/
def after (ledger : Ledger) : (statement : Statement) → statement.Answer → Ledger
  | .selectCandidates .., rows => { ledger with known := rows }
  | .lockSelected ids now _, _ =>
    { ledger with hand := ids, claimedAt := now, begun := [], settled := [] }
  | .selectLocked _, rows => { ledger with loaded := rows }
  | .checkConsumer event consumer, status =>
    if shouldSkipConsumer status then
      { ledger with settled := (event, consumer) :: ledger.settled }
    else { ledger with begun := (event, consumer) :: ledger.begun }
  | .updateConsumer event consumer (.processed _), true =>
    { ledger with
      begun := ledger.begun.filter (· ≠ (event, consumer))
      settled := (event, consumer) :: ledger.settled }
  | .updateConsumer event consumer (.failed _), true =>
    { ledger with settled := ledger.settled.filter (· ≠ (event, consumer)) }
  | .updateEvent event _, true =>
    { ledger with
      hand := ledger.hand.filter (· ≠ event)
      begun := ledger.begun.filter (·.1 ≠ event)
      settled := ledger.settled.filter (·.1 ≠ event) }
  | _, _ => ledger

end Ledger

/-! ## The discipline -/

/-- Every handler of the event is settled. -/
def Ledger.Complete (handlers : Handlers) (ledger : Ledger) (event : ℕ) : Prop :=
  ∃ loaded ∈ ledger.loaded, loaded.id = event ∧
    ∀ consumer ∈ handlers.getHandlers loaded.eventType, (event, consumer) ∈ ledger.settled

/-- What a worker's ledger allows it to issue. -/
def Ledger.Allows (handlers : Handlers) (ledger : Ledger) : Statement → Prop
  | .insertOutbox _ => False
  | .lockSelected ids _ _ => ∀ id ∈ ids, ∃ row ∈ ledger.known, row.id = id
  | .selectLocked ids => ∀ id ∈ ids, id ∈ ledger.hand
  | .checkConsumer event _ => event ∈ ledger.hand
  | .insertConsumer row => row.event ∈ ledger.hand ∧ row.status = .started
  | .updateConsumer event _ _ => event ∈ ledger.hand
  | .callHandler event consumer => (event.id, consumer) ∈ ledger.begun
  | .updateEvent event (.dispatched _) => event ∈ ledger.hand ∧ ledger.Complete handlers event
  | .updateEvent event _ => event ∈ ledger.hand
  | _ => True

/-- What a worker may expect as an answer, whoever else is running. -/
def Admits : (statement : Statement) → statement.Answer → Prop
  | .selectLocked ids, rows => (∀ row ∈ rows, row.id ∈ ids) ∧ (rows.map EventOutbox.id).Nodup
  | .getConsumer event consumer, some state =>
    state.event = event ∧ state.consumerName = consumer
  | _, _ => True

/-- The duty of a relay worker. -/
def discipline (handlers : Handlers) : Protocol statements Ledger where
  allows := Ledger.Allows handlers
  admits _ := Admits
  after := Ledger.after

/-! ## The code owes no more -/

-- the duty does not depend on what the checks decide, so they stay folded
attribute [local irreducible] sanitizeError EventOutbox.validate EventConsumerState.validate
  DeadLetterEvent.validate validateEventNamespace authorizeConsumer

variable {handlers : Handlers} {ledger ledger' ledger'' : Ledger} {event : EventOutbox}
  {consumer : String}

/-- What handling a consumer leaves of the ledger: the same events in hand and
loaded. -/
structure Ledger.SameHand (ledger ledger' : Ledger) : Prop where
  hand : ledger'.hand = ledger.hand
  loaded : ledger'.loaded = ledger.loaded

namespace Ledger.SameHand

theorem refl : SameHand ledger ledger := ⟨rfl, rfl⟩

theorem trans (first : SameHand ledger ledger') (second : SameHand ledger' ledger'') :
    SameHand ledger ledger'' :=
  ⟨second.hand.trans first.hand, second.loaded.trans first.loaded⟩

end Ledger.SameHand

/-- Going on from one consumer: the hand is the same, and what was settled is. -/
structure Ledger.Goes (ledger ledger' : Ledger) : Prop extends ledger.SameHand ledger' where
  settled : ∀ pair ∈ ledger.settled, pair ∈ ledger'.settled

theorem Ledger.Goes.refl : ledger.Goes ledger := ⟨.refl, fun _ settled => settled⟩

theorem Ledger.Goes.trans (first : ledger.Goes ledger') (second : ledger'.Goes ledger'') :
    ledger.Goes ledger'' :=
  ⟨first.toSameHand.trans second.toSameHand,
    fun pair old => second.settled pair (first.settled pair old)⟩

/-- Filing an event: it may leave the hand, the others stay. -/
structure Ledger.Filed (ledger : Ledger) (event : EventOutbox) (ledger' : Ledger) : Prop where
  loaded : ledger'.loaded = ledger.loaded
  others : ∀ other ∈ ledger.hand, other ≠ event.id → other ∈ ledger'.hand

theorem Ledger.SameHand.filed (same : ledger.SameHand ledger') : ledger.Filed event ledger' :=
  ⟨same.loaded, fun _ inHand _ => same.hand ▸ inHand⟩

theorem Ledger.SameHand.then_filed (same : ledger.SameHand ledger')
    (filed : ledger'.Filed event ledger'') : ledger.Filed event ledger'' :=
  ⟨filed.loaded.trans same.loaded,
    fun other inHand differs => filed.others other (same.hand ▸ inHand) differs⟩

private theorem filed_after (change : OutboxChange) :
    ledger.Filed event (ledger.after (.updateEvent event.id change) true) :=
  ⟨rfl, fun other inHand differs => by simpa [Ledger.after] using ⟨inHand, differs⟩⟩

private theorem start_attempt_follows {name : String} :
    Follows (discipline handlers) ledger (startAttempt event name) fun ledger' x =>
      ledger' = ledger ∧ ∃ attempt, x = .ok attempt :=
  ⟨trivial, fun _ _ => ⟨trivial, fun _ _ => ⟨trivial, fun attempt _ => ⟨rfl, attempt, rfl⟩⟩⟩⟩

private theorem plan_subset {events selected : List EventOutbox} {size now : ℕ}
    (planned : planDispatchBatch events size now = .ok selected) : selected ⊆ events := by
  simp only [planDispatchBatch, Outcome.bind_ok] at planned
  obtain ⟨_, -, ⟨⟩⟩ := planned
  intro event member
  have sorted := List.mem_of_mem_take member
  rw [List.mem_insertionSort] at sorted
  exact List.mem_of_mem_filter sorted

private theorem already_processed_follows (mine : event.id ∈ ledger.hand) :
    Follows (discipline handlers) ledger (alreadyProcessed event.id consumer) fun ledger' x =>
      match x with
      | .ok skipped => ∃ status,
          ledger' = ledger.after (.checkConsumer event.id consumer) status ∧
            skipped = shouldSkipConsumer status
      | .error _ => ledger' = ledger := by
  refine Follows.check (fun e => rfl) fun _ => ?_
  exact ⟨mine, fun status _ => ⟨status, rfl, rfl⟩⟩

/-- What claiming leaves: the loaded events are distinct and all in hand. -/
private theorem lock_pending_follows {name : String} {batchSize : ℕ} :
    Follows (discipline handlers) ledger (lockPendingEvents name batchSize) fun ledger' x =>
      ∀ events, x = .ok events → ledger'.loaded = events ∧
        (∀ event ∈ events, event.id ∈ ledger'.hand) ∧ (events.map EventOutbox.id).Nodup := by
  refine ⟨trivial, fun now _ => ⟨trivial, fun candidates _ => ?_⟩⟩
  show Follows _ _ (ofOutcome _ >>= _) _
  rw [follows_bind, follows_ofOutcome]
  cases planned : planDispatchBatch candidates (max 1 (min batchSize maxRelayBatchSize)) now with
  | error e => simp [thenFollows]
  | ok selected =>
    refine ⟨?_, fun _ _ => ⟨fun _ chosen => chosen, fun rows admitted => ?_⟩⟩
    · intro id chosen
      obtain ⟨row, member, rfl⟩ := List.mem_map.mp chosen
      exact ⟨row, plan_subset planned member, rfl⟩
    · rintro events ⟨⟩
      exact ⟨rfl, admitted⟩

section

variable [Unicode]

private theorem validate_contract_follows {eventType : String} {version : ℕ} :
    Follows (discipline handlers) ledger (validateEventContract eventType version)
      fun ledger' _ => ledger' = ledger := by
  rw [validateEventContract, follows_bind, follows_ofOutcome]
  cases validateEventNamespace eventType with
  | error e => exact rfl
  | ok name =>
    refine ⟨trivial, fun answer _ => ?_⟩
    cases answer <;> exact rfl

/-- Saving an event files it, or raises with the event still in hand. -/
private theorem save_follows {change : OutboxChange}
    (allowed : ledger.Allows handlers (.updateEvent event.id change)) :
    Follows (discipline handlers) ledger (event.save change) fun ledger' x =>
      match x with
      | .ok _ => ledger' = ledger.after (.updateEvent event.id change) true
      | .error _ => ledger' = ledger := by
  refine ⟨trivial, fun registry _ => Follows.check (fun e => rfl) fun _ => ?_⟩
  exact ⟨allowed, fun found _ => by cases found <;> exact rfl⟩

private theorem create_state_follows {state : EventConsumerState}
    (mine : state.event ∈ ledger.hand) (started : state.status = .started) :
    Follows (discipline handlers) ledger state.create fun ledger' _ => ledger' = ledger := by
  rw [EventConsumerState.create]
  refine Follows.check (fun e => rfl) fun _ => ⟨trivial, fun taken _ => ?_⟩
  cases taken with
  | true => exact rfl
  | false =>
    refine ⟨⟨mine, started⟩, fun inserted _ => ?_⟩
    cases inserted <;> exact rfl

/-- `get_or_create` answers a state of the consumer on the event. -/
private theorem record_started_follows (mine : event.id ∈ ledger.hand) :
    Follows (discipline handlers) ledger (recordConsumerStarted event consumer) fun ledger' x =>
      ledger' = ledger ∧
        ∀ state, x = .ok state → state.event = event.id ∧ state.consumerName = consumer := by
  rw [recordConsumerStarted]
  refine Follows.check (fun e => ⟨rfl, by simp⟩) fun _ => ?_
  refine Follows.check (fun e => ⟨rfl, by simp⟩) fun _ => ⟨trivial, fun found admitted => ?_⟩
  cases found with
  | some state => exact ⟨rfl, by rintro state ⟨⟩; exact admitted⟩
  | none =>
    show Follows _ _ (Program.tryCatch _ _) _
    rw [follows_tryCatch, follows_bind]
    refine (create_state_follows mine rfl).mono fun ledger' x same => ?_
    subst same
    cases x with
    | ok _ => exact ⟨rfl, by rintro state ⟨⟩; exact ⟨rfl, rfl⟩⟩
    | error e =>
      cases e with
      | integrityError _ =>
        -- another worker's row came in between
        refine ⟨trivial, fun found admitted => ?_⟩
        cases found with
        | some state => exact ⟨rfl, by rintro state ⟨⟩; exact admitted⟩
        | none => exact ⟨rfl, by simp⟩
      | _ => exact ⟨rfl, by simp⟩

private theorem save_state_follows {state : EventConsumerState} {change : ConsumerChange}
    (mine : state.event ∈ ledger.hand) :
    Follows (discipline handlers) ledger (state.save change) fun ledger' x =>
      match x with
      | .ok _ =>
        ledger' = ledger.after (.updateConsumer state.event state.consumerName change) true
      | .error _ => ledger' = ledger := by
  rw [EventConsumerState.save]
  refine Follows.check (fun e => rfl) fun _ => Follows.check (fun e => rfl) fun _ => ?_
  exact ⟨mine, fun found _ => by cases found <;> cases change <;> exact rfl⟩

/-- Recording a consumer as processed settles it. -/
private theorem record_processed_follows (mine : event.id ∈ ledger.hand) :
    Follows (discipline handlers) ledger (recordConsumerProcessed event consumer)
      fun ledger' x => ledger.Goes ledger' ∧
        (x = .ok () → (event.id, consumer) ∈ ledger'.settled) := by
  rw [recordConsumerProcessed]
  refine (record_started_follows mine).andThen ?_ ?_
  · rintro ledger' state ⟨rfl, found⟩
    obtain ⟨sameEvent, sameConsumer⟩ := found state rfl
    refine ⟨trivial, fun now _ => ?_⟩
    refine (save_state_follows (sameEvent ▸ mine)).mono fun ledger'' x saved => ?_
    cases x with
    | error e => cases saved; exact ⟨.refl, by simp⟩
    | ok _ =>
      cases saved
      refine ⟨⟨⟨rfl, rfl⟩, fun _ settled => .tail _ settled⟩, fun _ => ?_⟩
      rw [← sameEvent, ← sameConsumer]
      exact .head _
  · rintro ledger' e ⟨rfl, -⟩
    exact ⟨.refl, by simp⟩

private theorem record_failed_follows {reason : String} (mine : event.id ∈ ledger.hand) :
    Follows (discipline handlers) ledger (recordConsumerFailed event consumer reason)
      fun ledger' _ => ledger.SameHand ledger' := by
  rw [recordConsumerFailed]
  refine (record_started_follows mine).andThen ?_ ?_
  · rintro ledger' state ⟨rfl, found⟩
    obtain ⟨sameEvent, -⟩ := found state rfl
    refine (save_state_follows (sameEvent ▸ mine)).mono fun ledger'' x saved => ?_
    cases x with
    | error e => cases saved; exact .refl
    | ok _ => cases saved; exact ⟨rfl, rfl⟩
  · rintro ledger' e ⟨rfl, -⟩
    exact .refl

/-- One consumer: settled when the loop goes on. -/
private theorem handle_consumer_follows (mine : event.id ∈ ledger.hand) :
    Follows (discipline handlers) ledger (handleConsumer event consumer)
      fun ledger' x => ledger.Goes ledger' ∧
        (x = .ok () → (event.id, consumer) ∈ ledger'.settled) := by
  rw [handleConsumer]
  refine validate_contract_follows.andThen ?_ ?_
  · rintro ledger₁ registry rfl
    refine Follows.check (fun e => ⟨.refl, by simp⟩) fun _ => ?_
    refine (already_processed_follows mine).andThen ?_ ?_
    · rintro ledger₂ skipped ⟨status, checked, rfl⟩
      cases skip : shouldSkipConsumer status with
      | true =>
        rw [if_pos rfl, follows_pure]
        simp only [Ledger.after, skip, ↓reduceIte] at checked
        subst checked
        exact ⟨⟨⟨rfl, rfl⟩, fun _ settled => .tail _ settled⟩, fun _ => .head _⟩
      | false =>
        simp only [Ledger.after, skip, Bool.false_eq_true, ↓reduceIte] at checked
        have goes : ledger₁.Goes ledger₂ := by
          subst checked
          exact ⟨⟨rfl, rfl⟩, fun _ settled => settled⟩
        have mine₂ : event.id ∈ ledger₂.hand := goes.hand ▸ mine
        rw [if_neg (by simp)]
        refine (record_started_follows mine₂).andThen ?_ ?_
        · rintro ledger₃ state ⟨rfl, -⟩
          refine ⟨by subst checked; exact .head _, fun outcome _ => ?_⟩
          refine Follows.check (fun e => ⟨goes, by simp⟩) fun _ => ?_
          refine (record_processed_follows mine₂).mono fun ledger₄ x ended => ?_
          exact ⟨goes.trans ended.1, ended.2⟩
        · rintro ledger₃ e ⟨rfl, -⟩
          exact ⟨goes, by simp⟩
    · rintro ledger₂ e rfl
      exact ⟨.refl, by simp⟩
  · rintro ledger' e rfl
    exact ⟨.refl, by simp⟩

/-- The handlers of an event, one after the other: all settled at the end. -/
private theorem consumers_follow (consumers : List String) (mine : event.id ∈ ledger.hand) :
    Follows (discipline handlers) ledger
      (consumers.forM fun consumerName =>
        (handleConsumer event consumerName).raising (consumerName, ·))
      fun ledger' x => ledger.Goes ledger' ∧
        (x = .ok () → ∀ consumer ∈ consumers, (event.id, consumer) ∈ ledger'.settled) := by
  induction consumers generalizing ledger with
  | nil => exact ⟨.refl, by simp⟩
  | cons consumer consumers ih =>
    show Follows _ _ ((handleConsumer event consumer).raising _ >>= fun _ => consumers.forM _) _
    rw [follows_bind, follows_raising]
    refine (handle_consumer_follows mine).mono ?_
    rintro ledger₁ (e | _) ⟨goes, settled⟩
    · exact ⟨goes, by simp⟩
    · refine (ih (goes.hand ▸ mine)).mono fun ledger₂ x ended => ⟨goes.trans ended.1, ?_⟩
      rintro rfl other member
      rcases List.mem_cons.mp member with rfl | later
      · exact ended.1.settled _ (settled rfl)
      · exact ended.2 rfl other later

private theorem mark_dispatched_follows {attempt : EventDispatchAttempt}
    (mine : event.id ∈ ledger.hand) (complete : ledger.Complete handlers event.id) :
    Follows (discipline handlers) ledger (markEventDispatched event attempt) fun ledger' x =>
      match x with
      | .ok _ => ledger.Filed event ledger'
      | .error _ => ledger.SameHand ledger' := by
  rw [markEventDispatched]
  refine ⟨trivial, fun now _ => ?_⟩
  have allowed : ledger.Allows handlers (.updateEvent event.id (.dispatched now)) :=
    ⟨mine, complete⟩
  refine (save_follows allowed).andThen ?_ ?_
  · rintro ledger₁ - rfl
    exact ⟨trivial, fun _ _ => ⟨trivial, fun _ _ => filed_after (.dispatched now)⟩⟩
  · rintro ledger₁ e rfl
    exact .refl

/-- The `try` block: the event is filed as dispatched, or it is still in hand. -/
private theorem deliver_follows {attempt : EventDispatchAttempt} (mine : event.id ∈ ledger.hand)
    (loaded : event ∈ ledger.loaded) :
    Follows (discipline handlers) ledger (deliver handlers event attempt) fun ledger' x =>
      match x with
      | .ok _ => ledger.Filed event ledger'
      | .error _ => ledger.SameHand ledger' := by
  rw [deliver]
  refine (consumers_follow _ mine).andThen ?_ ?_
  · rintro ledger₁ ⟨⟩ ⟨goes, settled⟩
    rw [follows_raising]
    have complete : ledger₁.Complete handlers event.id :=
      ⟨event, goes.loaded ▸ loaded, rfl, settled rfl⟩
    refine (mark_dispatched_follows (goes.hand ▸ mine) complete).mono fun ledger₂ x ended => ?_
    cases x with
    | ok _ => exact goes.toSameHand.then_filed ended
    | error e => exact goes.toSameHand.trans ended
  · rintro ledger₁ e ⟨goes, -⟩
    exact goes.toSameHand

private theorem move_to_dead_letter_follows {reason message : String} {attempts : ℕ}
    (mine : event.id ∈ ledger.hand) :
    Follows (discipline handlers) ledger (moveEventToDeadLetter event reason message attempts)
      fun ledger' _ => ledger.Filed event ledger' := by
  rw [moveEventToDeadLetter]
  have allowed : ledger.Allows handlers (.updateEvent event.id .deadLettered) := mine
  refine (save_follows allowed).andThen ?_ ?_
  · rintro ledger₁ - rfl
    have filed := @filed_after ledger event .deadLettered
    rw [DeadLetterEvent.create]
    refine Follows.check (fun e => filed) fun _ => ⟨trivial, fun taken _ => ?_⟩
    cases taken with
    | true => exact filed
    | false =>
      refine Follows.check (fun e => filed) fun _ => ⟨trivial, fun inserted _ => ?_⟩
      cases inserted <;> exact filed
  · rintro ledger₁ e rfl
    exact Ledger.SameHand.refl.filed

private theorem mark_retryable_follows {attempt : EventDispatchAttempt} {message : String}
    (mine : event.id ∈ ledger.hand) :
    Follows (discipline handlers) ledger (markEventFailedRetryable event attempt message)
      fun ledger' _ => ledger.Filed event ledger' := by
  rw [markEventFailedRetryable]
  refine ⟨trivial, fun finishedAt _ => ?_⟩
  refine Follows.check (fun e => Ledger.SameHand.refl.filed) fun _ => ⟨trivial, fun _ _ => ?_⟩
  cases retry : shouldRetry attempt.attemptNumber with
  | true =>
    refine ⟨trivial, fun now _ => ?_⟩
    have allowed : ledger.Allows handlers (.updateEvent event.id (.failedRetryable
        (seconds (calculateBackoffSeconds attempt.attemptNumber) + now))) := mine
    refine (save_follows allowed).mono fun ledger₁ x ended => ?_
    cases x with
    | ok _ => cases ended; exact filed_after (.failedRetryable _)
    | error e => cases ended; exact Ledger.SameHand.refl.filed
  | false => exact move_to_dead_letter_follows mine

private theorem record_active_failed_follows {active : String} {exn : Exn}
    (mine : event.id ∈ ledger.hand) :
    Follows (discipline handlers) ledger (recordActiveFailed event active exn)
      fun ledger' _ => ledger.SameHand ledger' := by
  rw [recordActiveFailed]
  split
  · exact .refl
  · exact record_failed_follows mine

/-- The `except` clauses file the event or leave it. -/
private theorem file_failure_follows {attempt : EventDispatchAttempt} {active : String} {exn : Exn}
    (mine : event.id ∈ ledger.hand) :
    Follows (discipline handlers) ledger (fileFailure event attempt active exn)
      fun ledger' _ => ledger.Filed event ledger' := by
  rw [fileFailure]
  split
  · refine (record_active_failed_follows mine).andThen ?_ fun ledger₁ e same => same.filed
    rintro ledger₁ - same
    exact (mark_retryable_follows (same.hand ▸ mine)).mono fun _ _ filed => same.then_filed filed
  split
  · refine (record_active_failed_follows mine).andThen ?_ fun ledger₁ e same => same.filed
    rintro ledger₁ - same
    refine (move_to_dead_letter_follows (same.hand ▸ mine)).andThen ?_ ?_
    · rintro ledger₂ - filed
      exact ⟨trivial, fun _ _ => ⟨trivial, fun _ _ => same.then_filed filed⟩⟩
    · exact fun _ _ filed => same.then_filed filed
  · exact Ledger.SameHand.refl.filed

/-- One event: the others stay in hand. -/
private theorem dispatch_event_follows {name : String} (mine : event.id ∈ ledger.hand)
    (loaded : event ∈ ledger.loaded) :
    Follows (discipline handlers) ledger (dispatchEvent handlers name event)
      fun ledger' _ => ledger.Filed event ledger' := by
  rw [dispatchEvent]
  refine start_attempt_follows.andThen ?_ (by simp)
  rintro ledger₁ attempt ⟨rfl, -⟩
  rw [follows_tryCatch, follows_bind]
  refine (deliver_follows mine loaded).mono ?_
  rintro ledger₂ (⟨active, exn⟩ | _) ended
  · show Follows _ _ (fileFailure event attempt active exn >>= _) _
    have same : ledger₁.SameHand ledger₂ := ended
    refine (file_failure_follows (same.hand ▸ mine)).andThen ?_ ?_
    · exact fun _ _ filed => same.then_filed filed
    · exact fun _ _ filed => same.then_filed filed
  · exact ended

/-- The loop over the claimed events. -/
private theorem dispatch_events_follow {name : String} {events : List EventOutbox}
    (mine : ∀ event ∈ events, event.id ∈ ledger.hand) (loaded : events ⊆ ledger.loaded)
    (distinct : (events.map EventOutbox.id).Nodup) :
    Follows (discipline handlers) ledger (dispatchEvents handlers name events)
      fun _ _ => True := by
  induction events generalizing ledger with
  | nil => trivial
  | cons event events ih =>
    rw [List.map_cons, List.nodup_cons] at distinct
    rw [dispatchEvents]
    refine (dispatch_event_follows (mine event (.head _)) (loaded (.head _))).andThen ?_ (by simp)
    rintro ledger₁ count filed
    refine (ih ?_ ?_ distinct.2).andThen (by simp) (by simp)
    · intro other member
      refine filed.others _ (mine other (.tail _ member)) fun same => distinct.1 ?_
      exact same ▸ List.mem_map_of_mem member
    · exact fun other member => filed.loaded ▸ loaded (.tail _ member)

end

/-! ## The machine -/

/-- What happens to the tables besides the relay. -/
inductive OutboxWorld where
  /-- Time passes. -/
  | tick (elapsed : ℕ)
  /-- An administrator changes the event contracts. -/
  | registry (contracts : List EventTypeRegistry)
  /-- A service calls `write_outbox_event`. -/
  | write (request : OutboxRequest)
  deriving DecidableEq

/-- The arguments of `dispatch_pending_events`, with a name the `locked_by` column
holds. -/
structure PassRequest where
  dispatcherName : String
  batchSize : ℕ
  fits : dispatcherName.length ≤ 128
  storable : Text.storable dispatcherName = true
  deriving DecidableEq

section

variable [Unicode]

/-- The tables after a change from outside. -/
def OutboxWorld.apply : OutboxWorld → Tables → Tables
  | tick elapsed, t => { t with clock := t.clock + elapsed }
  | registry contracts, t => { t with registry := contracts }
  | write request, t => ((writeOutboxEvent request).run executeNow t).2

/-- Workers running `dispatch_pending_events` over the event tables. -/
def relaySystem (handlers : Handlers) :
    System statements Exn Tables Choice OutboxWorld Ledger PassRequest where
  perform statement choice t := some (execute statement choice t)
  world change t := some (change.apply t)
  program request := do
    let _ ← dispatchPendingEvents handlers request.dispatcherName request.batchSize
  blank := Ledger.blank
  after := Ledger.after

/-- **A relay worker keeps its discipline.** -/
theorem dispatch_follows (request : PassRequest) :
    Follows (discipline handlers) Ledger.blank ((relaySystem handlers).program request)
      fun _ _ => True := by
  have pass : Follows (discipline handlers) Ledger.blank
      (dispatchPendingEvents handlers request.dispatcherName request.batchSize)
      fun _ _ => True := by
    rw [dispatchPendingEvents]
    refine lock_pending_follows.andThen ?_ (fun _ _ _ => trivial)
    intro ledger events claimed
    obtain ⟨loaded, mine, distinct⟩ := claimed events rfl
    exact dispatch_events_follow mine (loaded ▸ List.Subset.refl _) distinct
  exact pass.andThen (fun _ _ _ => trivial) (fun _ _ _ => trivial)

end

/-! ### A contract and a handler to run it with -/

section Sample

/-- The contract of `grading.batch_submitted`, with one required field. -/
def batchSubmittedContract : EventTypeRegistry where
  eventType := "grading.batch_submitted"
  eventVersion := 1
  sourceModule := "grading"
  allowedProducers := ["grading"]
  allowedConsumers := ["audit"]
  requiresTenant := true
  payloadSchema := .obj [("required", .arr [.str "id"])]
  priority := .normal
  isActive := true

/-- An event of that type. -/
def batchSubmittedRequest : OutboxRequest where
  eventType := "grading.batch_submitted"
  eventVersion := 1
  sourceModule := "grading"
  idempotencyKey := "grading.batch_submitted:7"
  payload := .obj [("id", .int 7)]
  tenant := some 3
  actorId := none

/-- The audit consumer. -/
def auditHandlers : Handlers where
  of eventType := if eventType = "grading.batch_submitted" then ["audit"] else []
  distinct eventType := by split <;> simp

/-- What the management command asks for. -/
def relayRequest : PassRequest := ⟨"relay", 100, by decide, by decide⟩

variable {W : Type}

/-- One event on file. -/
def oneEvent : List (Happening Choice OutboxWorld PassRequest W) :=
  [.world (.registry [batchSubmittedContract]), .world (.write batchSubmittedRequest)]

/-- A worker's next statements, its handler calls returning. -/
def statementsOf (w : W) (n : ℕ) : List (Happening Choice OutboxWorld PassRequest W) :=
  List.replicate n (.advance w default)

end Sample

end Darasa.Events
