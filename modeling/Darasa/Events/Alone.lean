import Darasa.Events.Frames

/-!
The relay's code, run alone.

Here each statement takes effect at once, and a statement done before an
exception stays done.  Every function of a pass gets the lemma that says what it
returns or raises, and what it leaves: `trouble` is what the loop body raises for
a consumer, `Aside` what recording consumers changes, and `Files` what filing an
event does to it.
-/

namespace Darasa.Events

open Darasa (Outcome Exn Json Unicode Interface Program Machine refuseIf refuseUnstorable)

/-! ## Running a pass -/

/-- What surrounds a pass: how each handler answers, and how much time goes by
when the clock is read or a handler called. -/
structure Surroundings where
  answer : ℕ → String → Outcome Unit
  delay : ℕ → ℕ

namespace Surroundings

/-- The environment's choice for a statement. -/
def choice (env : Surroundings) (t : Tables) : Statement → Choice
  | .callHandler event consumer => ⟨env.delay t.clock, env.answer event.id consumer⟩
  | _ => ⟨env.delay t.clock, .ok ()⟩

/-- One statement of a pass. -/
def exec (env : Surroundings) (statement : Statement) (t : Tables) : statement.Answer × Tables :=
  execute statement (env.choice t statement) t

end Surroundings

section

variable [Unicode]

/-! ## What a pass leaves aside -/

/-- Every consumer state passes its own validation. -/
def StatesValid (t : Tables) : Prop := ∀ state ∈ t.consumers, state.validate = .ok ()

/-- The tables differ in the clock, the texts of attempts and the states of the
named consumers at most. -/
structure Aside (named : ℕ → String → Prop) (t t' : Tables) : Prop where
  registry : t'.registry = t.registry
  outbox : t'.outbox = t.outbox
  deadLetters : t'.deadLetters = t.deadLetters
  nextId : t'.nextId = t.nextId
  attempts : t'.attempts.map EventDispatchAttempt.eventOutbox =
    t.attempts.map EventDispatchAttempt.eventOutbox
  consumers : ∀ event consumer, ¬ named event consumer →
    t'.consumer? event consumer = t.consumer? event consumer
  valid : StatesValid t → StatesValid t'

namespace Aside

variable {named : ℕ → String → Prop} {t t' t'' : Tables}

theorem refl : Aside named t t := ⟨rfl, rfl, rfl, rfl, rfl, fun _ _ _ => rfl, id⟩

theorem trans (first : Aside named t t') (second : Aside named t' t'') : Aside named t t'' where
  registry := second.registry.trans first.registry
  outbox := second.outbox.trans first.outbox
  deadLetters := second.deadLetters.trans first.deadLetters
  nextId := second.nextId.trans first.nextId
  attempts := second.attempts.trans first.attempts
  consumers event consumer other :=
    (second.consumers event consumer other).trans (first.consumers event consumer other)
  valid := second.valid ∘ first.valid

theorem mono {wider : ℕ → String → Prop} (aside : Aside named t t')
    (within : ∀ event consumer, named event consumer → wider event consumer) : Aside wider t t' :=
  { aside with
    consumers := fun event consumer other =>
      aside.consumers event consumer fun here => other (within event consumer here) }

/-- Reading the clock or a table. -/
theorem clock {clock : ℕ} : Aside named t { t with clock := clock } :=
  ⟨rfl, rfl, rfl, rfl, rfl, fun _ _ _ => rfl, id⟩

theorem attemptCount (aside : Aside named t t') (event : ℕ) :
    t'.attemptCount event = t.attemptCount event := by
  have count (t : Tables) : t.attemptCount event =
      (t.attempts.map EventDispatchAttempt.eventOutbox).countP (· == event) := by
    simp [Tables.attemptCount, List.countP_map, Function.comp_def]
  rw [count, count, aside.attempts]

theorem contract (aside : Aside named t t') (eventType : String) (version : ℕ) :
    t'.contract? eventType version = t.contract? eventType version := by
  rw [Tables.contract?, aside.registry, ← Tables.contract?]

end Aside

/-- The one pair an event's consumer is. -/
def Pair (event : ℕ) (consumer : String) : ℕ → String → Prop :=
  fun other name => other = event ∧ name = consumer

/-! ## Consumer states -/

section

attribute [local irreducible] sanitizeError EventOutbox.validate DeadLetterEvent.validate
  validateEventNamespace authorizeConsumer cleanText

variable {env : Surroundings} {t : Tables} {event : EventOutbox} {consumer : String}

/-- A name that fits its column: the query for it is accepted, and so is the row. -/
def nameFits (consumer : String) : Outcome Unit := do
  refuseUnstorable (Text.storable consumer)
  cleanText "consumer_name" 128 consumer

theorem clean_of_valid {state : EventConsumerState} (valid : state.validate = .ok ()) :
    cleanText "consumer_name" 128 state.consumerName = .ok () :=
  (full_clean_ok.mp valid).1

/-- Inserting a consumer state nobody has. -/
private theorem create_state_run {state : EventConsumerState}
    (free : t.consumer? state.event state.consumerName = none) (valid : state.validate = .ok ()) :
    state.create.run env.exec t = (.ok (), { t with consumers := t.consumers ++ [state] }) := by
  rw [EventConsumerState.create, Program.run_check_of_ok valid, run_query_bind]
  have asked : env.exec (.consumerExists state.event state.consumerName) t = (false, t) := by
    simp [Surroundings.exec, execute, free]
  have inserted : env.exec (.insertConsumer state) t =
    (true, { t with consumers := t.consumers ++ [state] }) := by
    simp [Surroundings.exec, execute, free]
  rw [asked, if_neg (by simp), run_query_bind, inserted]
  rfl

/-- `get_or_create` of a consumer state, alone: it answers the state on file
when the name fits. -/
theorem record_started_run (valid : StatesValid t) :
    (∀ e, nameFits consumer = .error e →
      (recordConsumerStarted event consumer).run env.exec t = (.error e, t)) ∧
    (nameFits consumer = .ok () →
      ∃ state t', (recordConsumerStarted event consumer).run env.exec t = (.ok state, t') ∧
        t'.consumer? event.id consumer = some state ∧ Aside (Pair event.id consumer) t t') := by
  have noTenant : ensureConsumerTenantMatches event.tenant none = .ok () := by
    simp [ensureConsumerTenantMatches]
  have asked : env.exec (.getConsumer event.id consumer) t = (t.consumer? event.id consumer, t) :=
    rfl
  rw [recordConsumerStarted, Program.run_check_of_ok noTenant]
  cases storable : refuseUnstorable (Text.storable consumer) with
  | error refusal =>
    have misfit : nameFits consumer = .error refusal := by
      rw [nameFits, storable]
      rfl
    rw [misfit, Program.run_check_of_error rfl]
    exact ⟨fun e same => by cases same; rfl, fun fits => by cases fits⟩
  | ok _ =>
    have fitting : nameFits consumer = cleanText "consumer_name" 128 consumer := by
      rw [nameFits, storable]
      rfl
    rw [fitting, Program.run_check_of_ok rfl, run_query_bind, asked]
    cases found : t.consumer? event.id consumer with
    | some state =>
      have fits := clean_of_valid (valid state (List.mem_of_find?_eq_some found))
      rw [(Tables.consumer_some found).2] at fits
      refine ⟨fun e misfit => ?_, fun _ => ⟨state, t, rfl, found, .refl⟩⟩
      rw [fits] at misfit
      cases misfit
    | none =>
      let state : EventConsumerState := ⟨event.id, consumer, event.tenant, .started, none, ""⟩
      have validated : state.validate = cleanText "consumer_name" 128 consumer := rfl
      refine ⟨fun e misfit => ?_, fun fits =>
        ⟨state, { t with consumers := t.consumers ++ [state] }, ?_, ?_, ?_⟩⟩
      · obtain ⟨message, rfl⟩ := clean_text_error misfit
        have refused : state.create.run env.exec t =
            (.error (.validationError "consumer_name" message), t) := by
          rw [EventConsumerState.create, Program.run_check_of_error (validated.trans misfit)]
        show (Program.tryCatch (state.create >>= fun _ => pure state) _).run env.exec t = _
        rw [Program.run_tryCatch, Program.run_bind, refused]
        rfl
      · show (Program.tryCatch (state.create >>= fun _ => pure state) _).run env.exec t = _
        rw [Program.run_tryCatch, Program.run_bind, create_state_run found (validated.trans fits)]
        rfl
      · rw [Tables.consumer_insert found, if_pos ⟨rfl, rfl⟩]
      · refine ⟨rfl, rfl, rfl, rfl, rfl, fun other name apart => ?_, fun _ old member => ?_⟩
        · exact (Tables.consumer_insert found).trans (if_neg apart)
        · rcases List.mem_append.mp member with here | new
          · exact valid old here
          · rw [List.mem_singleton.mp new]
            exact validated.trans fits

/-- A stored consumer state rewritten in place. -/
private theorem save_state_run {state : EventConsumerState} {change : ConsumerChange} {id : ℕ}
    (valid : StatesValid t) (found : t.consumer? id consumer = some state)
    (storable : change.storable = true)
    (apply : ∀ state : EventConsumerState, state.validate = .ok () →
      (change.apply state).validate = .ok ()) :
    ∃ t', (state.save change).run env.exec t = (.ok (), t') ∧ Aside (Pair id consumer) t t' := by
  obtain ⟨rfl, rfl⟩ := Tables.consumer_some found
  have stored := valid state (List.mem_of_find?_eq_some found)
  have hit : env.exec (.updateConsumer state.event state.consumerName change) t =
      (true, t.changeConsumer state.event state.consumerName change) :=
    if_pos (by simp [found])
  refine ⟨t.changeConsumer state.event state.consumerName change, ?_, ?_⟩
  · rw [EventConsumerState.save, Program.run_check_of_ok (apply state stored),
      Program.run_check_of_ok (Darasa.refuse_unstorable_ok.mpr storable), run_query_bind, hit]
    rfl
  · refine ⟨rfl, rfl, rfl, rfl, rfl, fun other name apart => ?_, fun valid row member => ?_⟩
    · rw [Tables.consumer_update]
      exact if_neg apart
    · obtain ⟨old, here, rfl⟩ := List.mem_map.mp member
      split
      · exact apply old (valid old here)
      · exact valid old here

/-- The keys under which failures are checked. -/
private theorem failure_key_calm {key : String}
    (known : key ∈ ["failure_reason", "reason", "sanitized_error"]) : sensitiveKey key = false := by
  have ascii : ∀ key ∈ ["failure_reason", "reason", "sanitized_error"],
      key.toList.all Unicode.isAscii = true := by decide
  have calm : ∀ key ∈ ["failure_reason", "reason", "sanitized_error"],
      @sensitiveKey .ascii key = false := by decide +kernel
  exact calm_of_ascii (ascii key known) (calm key known)

theorem processed_valid {at_ : ℕ} (state : EventConsumerState) (valid : state.validate = .ok ()) :
    ((ConsumerChange.processed at_).apply state).validate = .ok () := valid

theorem failed_valid {message : String} (state : EventConsumerState)
    (valid : state.validate = .ok ()) :
    ((ConsumerChange.failed (sanitizeError message)).apply state).validate = .ok () := by
  refine full_clean_ok.mpr ⟨(full_clean_ok.mp valid).1, ?_⟩
  have key : sensitiveKey "failure_reason" = false := failure_key_calm (by decide)
  split
  · rfl
  · rw [rejectSensitivePayload, reject_sensitive_fields_ok, rejectSensitivePayload]
    exact ⟨key, by simp [ConsumerChange.apply, sanitize_error_safe], rfl⟩

/-- `record_consumer_processed`, alone. -/
theorem record_processed_run (valid : StatesValid t) (fits : nameFits consumer = .ok ()) :
    ∃ t', (recordConsumerProcessed event consumer).run env.exec t = (.ok (), t') ∧
      Aside (Pair event.id consumer) t t' := by
  obtain ⟨state, t₁, started, found, aside⟩ := (record_started_run valid).2 fits
  let t' : Tables := { t₁ with clock := t₁.clock + env.delay t₁.clock }
  obtain ⟨t₂, saved, aside'⟩ :=
    save_state_run (t := t') (aside.valid valid) found rfl (@processed_valid _ t₁.clock)
  refine ⟨t₂, ?_, (aside.trans .clock).trans aside'⟩
  exact (Program.run_bind_of_ok started).trans saved

/-- A text no column can hold, recorded as the failure of a stored consumer state. -/
private theorem save_failed_refused {state : EventConsumerState} {reason : String}
    (valid : state.validate = .ok ()) (unstorable : Text.storable (sanitizeError reason) = false) :
    ∃ e, (state.save (.failed (sanitizeError reason))).run env.exec t = (.error e, t) := by
  obtain ⟨e, refused⟩ : ∃ e, refuseUnstorable
      (ConsumerChange.storable (.failed (sanitizeError reason))) = .error e :=
    Darasa.refuse_unstorable_error unstorable
  refine ⟨e, ?_⟩
  rw [EventConsumerState.save, Program.run_check_of_ok (failed_valid state valid),
    Program.run_check_of_error refused]

/-- `record_consumer_failed`, alone: it does its work when the name fits and the text can be
stored, and raises otherwise. -/
theorem record_failed_run {reason : String} (valid : StatesValid t) :
    (nameFits consumer = .ok () → Text.storable (sanitizeError reason) = true →
      ∃ t', (recordConsumerFailed event consumer reason).run env.exec t = (.ok (), t') ∧
        Aside (Pair event.id consumer) t t') ∧
    (¬ (nameFits consumer = .ok () ∧ Text.storable (sanitizeError reason) = true) →
      ∃ e t', (recordConsumerFailed event consumer reason).run env.exec t = (.error e, t')) := by
  obtain ⟨refuses, starts⟩ := record_started_run valid
  cases fits : nameFits consumer with
  | error e =>
    refine ⟨fun named => ?_, fun _ => ⟨e, t, Program.run_bind_of_error (refuses e fits)⟩⟩
    cases named
  | ok _ =>
    obtain ⟨state, t₁, started, found, aside⟩ := starts fits
    refine ⟨fun _ storable => ?_, fun unfit => ?_⟩
    · have kept : (ConsumerChange.failed (sanitizeError reason)).storable = true := storable
      obtain ⟨t₂, saved, aside'⟩ :=
        save_state_run (aside.valid valid) found kept (@failed_valid _ reason)
      exact ⟨t₂, (Program.run_bind_of_ok started).trans saved, aside.trans aside'⟩
    · have unstorable := Bool.eq_false_iff.mpr fun storable => unfit ⟨rfl, storable⟩
      have stored := aside.valid valid state (List.mem_of_find?_eq_some found)
      obtain ⟨e, refused⟩ := @save_failed_refused _ env t₁ state reason stored unstorable
      exact ⟨e, t₁, (Program.run_bind_of_ok started).trans refused⟩

/-! ## One consumer -/

/-- The contract `validate_event_contract` answers. -/
def contractOf (t : Tables) (event : EventOutbox) : Outcome EventTypeRegistry := do
  let name ← validateEventNamespace event.eventType
  match t.contract? name event.eventVersion with
  | some registry => return registry
  | none => throw (.doesNotExist "EventTypeRegistry")

/-- What the loop body raises for a consumer, by the tables it starts from. -/
def trouble (env : Surroundings) (t : Tables) (event : EventOutbox) (consumer : String) :
    Outcome Unit := do
  let registry ← contractOf t event
  let _ ← authorizeConsumer consumer registry.allowedConsumers
  refuseUnstorable (Text.storable consumer)
  if shouldSkipConsumer ((t.consumer? event.id consumer).map EventConsumerState.status) then
    return
  nameFits consumer
  env.answer event.id consumer

private theorem contract_run :
    (validateEventContract event.eventType event.eventVersion).run env.exec t =
      (contractOf t event, t) := by
  rw [validateEventContract, contractOf]
  cases validateEventNamespace event.eventType with
  | error e => exact Program.run_check_of_error rfl
  | ok name =>
    have asked : env.exec (.selectContract name event.eventVersion) t =
      (t.contract? name event.eventVersion, t) := rfl
    rw [Program.run_check_of_ok rfl, run_query_bind, asked]
    show _ = ((match t.contract? name event.eventVersion with
      | some registry => .ok registry
      | none => .error (.doesNotExist "EventTypeRegistry") : Outcome EventTypeRegistry), t)
    cases t.contract? name event.eventVersion <;> rfl

omit [Unicode] in
private theorem already_processed_run :
    (alreadyProcessed event.id consumer).run env.exec t =
      (refuseUnstorable (Text.storable consumer) >>= fun _ => .ok (shouldSkipConsumer
        ((t.consumer? event.id consumer).map EventConsumerState.status)), t) := by
  rw [alreadyProcessed]
  cases refuseUnstorable (Text.storable consumer) <;> rfl

/-- The loop body, alone: `trouble` is what it raises. -/
theorem handle_consumer_run (valid : StatesValid t) :
    ∃ t', (handleConsumer event consumer).run env.exec t = (trouble env t event consumer, t') ∧
      Aside (Pair event.id consumer) t t' := by
  rw [handleConsumer, trouble, Program.run_bind, contract_run]
  cases contractOf t event with
  | error e => exact ⟨t, rfl, .refl⟩
  | ok registry =>
    rw [Program.andThen_ok, Program.run_bind, Program.run_ofOutcome]
    show ∃ t', _ = ((authorizeConsumer consumer registry.allowedConsumers >>= fun _ => _), t') ∧ _
    cases authorizeConsumer consumer registry.allowedConsumers with
    | error e => exact ⟨t, rfl, .refl⟩
    | ok _ =>
      rw [Program.andThen_ok, Program.run_bind, already_processed_run]
      show ∃ t', _ = ((refuseUnstorable (Text.storable consumer) >>= fun _ => _), t') ∧ _
      cases refuseUnstorable (Text.storable consumer) with
      | error e => exact ⟨t, rfl, .refl⟩
      | ok _ =>
        show ∃ t', (if shouldSkipConsumer
            ((t.consumer? event.id consumer).map EventConsumerState.status) = true then pure ()
          else _ : Code Unit).run env.exec t = ((if shouldSkipConsumer
            ((t.consumer? event.id consumer).map EventConsumerState.status) = true then pure ()
          else _ : Outcome Unit), t') ∧ _
        cases shouldSkipConsumer
          ((t.consumer? event.id consumer).map EventConsumerState.status) with
        | true => exact ⟨t, rfl, .refl⟩
        | false =>
          obtain ⟨refuses, starts⟩ := record_started_run valid
          show ∃ t', _ = ((nameFits consumer >>= fun _ => env.answer event.id consumer), t') ∧ _
          cases fits : nameFits consumer with
          | error e => exact ⟨t, Program.run_bind_of_error (refuses e fits), .refl⟩
          | ok _ =>
            obtain ⟨state, t₁, started, found, aside⟩ := starts fits
            have called : env.exec (.callHandler event consumer) t₁ =
              (env.answer event.id consumer,
                { t₁ with clock := t₁.clock + env.delay t₁.clock }) := rfl
            show ∃ t', (recordConsumerStarted event consumer >>= fun _ => _).run env.exec t =
              (env.answer event.id consumer, t') ∧ _
            rw [Program.run_bind_of_ok started, run_query_bind, called]
            cases env.answer event.id consumer with
            | error e => exact ⟨_, Program.run_check_of_error rfl, aside.trans .clock⟩
            | ok _ =>
              have aside₂ : Aside (Pair event.id consumer) t
                  { t₁ with clock := t₁.clock + env.delay t₁.clock } := aside.trans .clock
              obtain ⟨t₃, processed, aside₃⟩ := record_processed_run (aside₂.valid valid) fits
              exact ⟨t₃, (Program.run_check_of_ok rfl).trans processed, aside₂.trans aside₃⟩

/-- Where the loop over the handlers raises: at the first consumer in trouble. -/
def course (env : Surroundings) (t : Tables) (event : EventOutbox) :
    List String → Except (String × Exn) Unit
  | [] => .ok ()
  | consumer :: rest =>
    match trouble env t event consumer with
    | .ok _ => course env t event rest
    | .error e => .error (consumer, e)

/-- A consumer's trouble comes from the contracts and its own state. -/
theorem trouble_same {t' : Tables} (registry : t'.registry = t.registry)
    (state : t'.consumer? event.id consumer = t.consumer? event.id consumer) :
    trouble env t' event consumer = trouble env t event consumer := by
  have contract : contractOf t' event = contractOf t event := by
    simp only [contractOf, Tables.contract?, registry]
  rw [trouble, trouble, contract, state]

theorem course_same {t' : Tables} {consumers : List String} (registry : t'.registry = t.registry)
    (states : ∀ consumer ∈ consumers,
      t'.consumer? event.id consumer = t.consumer? event.id consumer) :
    course env t' event consumers = course env t event consumers := by
  induction consumers with
  | nil => rfl
  | cons consumer rest ih =>
    rw [course, course, trouble_same registry (states consumer (.head _)),
      ih fun other member => states other (.tail _ member)]

/-- The consumers of an event. -/
def Among (event : ℕ) (consumers : List String) : ℕ → String → Prop :=
  fun other name => other = event ∧ name ∈ consumers

/-- The loop over the handlers, alone. -/
theorem handlers_run {consumers : List String} (valid : StatesValid t)
    (distinct : consumers.Nodup) :
    ∃ t', (consumers.forM fun consumer =>
        (handleConsumer event consumer).raising (consumer, ·)).run env.exec t =
          (course env t event consumers, t') ∧
      Aside (Among event.id consumers) t t' := by
  induction consumers generalizing t with
  | nil => exact ⟨t, rfl, .refl⟩
  | cons consumer rest ih =>
    obtain ⟨new, distinct⟩ := List.nodup_cons.mp distinct
    obtain ⟨t₁, handled, aside⟩ := @handle_consumer_run _ env t event consumer valid
    have wide : Aside (Among event.id (consumer :: rest)) t t₁ := by
      refine aside.mono fun other name here => ?_
      obtain ⟨rfl, rfl⟩ := here
      exact ⟨rfl, .head _⟩
    rw [List.forM, Program.run_bind, Program.run_raising, handled, course]
    cases trouble env t event consumer with
    | error e => exact ⟨t₁, rfl, wide⟩
    | ok _ =>
      obtain ⟨t₂, ran, aside₂⟩ := ih (aside.valid valid) distinct
      rw [course_same aside.registry fun other member =>
        aside.consumers event.id other fun same => new (same.2 ▸ member)] at ran
      refine ⟨t₂, ran, wide.trans (aside₂.mono fun other name here => ?_)⟩
      exact ⟨here.1, .tail _ here.2⟩

end

/-! ## Filing -/

/-- The event has a dead letter. -/
def Tables.lettered (t : Tables) (event : ℕ) : Bool := t.deadLetters.any (·.eventOutbox == event)

/-- Everything about other events is as it was. -/
structure Around (id : ℕ) (t t' : Tables) : Prop where
  registry : t'.registry = t.registry
  nextId : t.nextId ≤ t'.nextId
  ids : t'.outbox.map EventOutbox.id = t.outbox.map EventOutbox.id
  valid : StatesValid t → StatesValid t'
  same : ∀ other, other ≠ id → t.SameEvent t' other
  counts : ∀ other, other ≠ id → t'.attemptCount other = t.attemptCount other
  letters : ∀ other, other ≠ id → t'.lettered other = t.lettered other

/-- The event is filed: as dispatched, as due again while attempts are left, or
as a dead letter. -/
structure Files (id attempt : ℕ) (t t' : Tables) : Prop extends Around id t t' where
  count : t'.attemptCount id = t.attemptCount id
  status : ∃ status, (∀ row ∈ t'.outbox, row.id = id → row.status = status) ∧
    (status = .dispatched ∨ (status = .failedRetryable ∧ attempt < maxRetryAttempts) ∨
      status = .deadLettered) ∧
    (t'.lettered id = true → t.lettered id = true ∨ status = .deadLettered)

section

variable {id attempt : ℕ} {t t' t'' : Tables} {named : ℕ → String → Prop}

theorem Aside.around (aside : Aside named t t')
    (within : ∀ other consumer, named other consumer → other = id) : Around id t t' where
  registry := aside.registry
  nextId := aside.nextId.ge
  ids := by rw [aside.outbox]
  valid := aside.valid
  same other apart := ⟨fun row _ => by rw [aside.outbox],
    fun consumer => aside.consumers other consumer fun here => apart (within other consumer here)⟩
  counts other _ := aside.attemptCount other
  letters other _ := by rw [Tables.lettered, aside.deadLetters, ← Tables.lettered]

theorem Around.trans (first : Around id t t') (second : Around id t' t'') : Around id t t'' where
  registry := second.registry.trans first.registry
  nextId := first.nextId.trans second.nextId
  ids := second.ids.trans first.ids
  valid := second.valid ∘ first.valid
  same other apart :=
    ⟨fun row here => ((second.same other apart).rows row here).trans
        ((first.same other apart).rows row here),
      fun consumer => ((second.same other apart).consumers consumer).trans
        ((first.same other apart).consumers consumer)⟩
  counts other apart := (second.counts other apart).trans (first.counts other apart)
  letters other apart := (second.letters other apart).trans (first.letters other apart)

theorem Around.keyed (around : Around id t t') (keyed : t.Keyed) : t'.Keyed := by
  constructor
  · exact around.ids ▸ keyed.distinct
  · intro row member
    have old := List.mem_map_of_mem (f := EventOutbox.id) member
    rw [around.ids] at old
    obtain ⟨before, here, same⟩ := List.mem_map.mp old
    exact same ▸ (keyed.fresh before here).trans_le around.nextId

theorem Files.after_aside (aside : Aside named t t') (files : Files id attempt t' t'')
    (within : ∀ other consumer, named other consumer → other = id) : Files id attempt t t'' where
  toAround := (aside.around within).trans files.toAround
  count := files.count.trans (aside.attemptCount id)
  status := by
    obtain ⟨status, rows, which, letter⟩ := files.status
    refine ⟨status, rows, which, fun lettered => ?_⟩
    rw [Tables.lettered, ← aside.deadLetters]
    exact letter lettered

theorem Files.then_aside (files : Files id attempt t t') (aside : Aside named t' t'')
    (within : ∀ other consumer, named other consumer → other = id) : Files id attempt t t'' where
  toAround := files.toAround.trans (aside.around within)
  count := (aside.attemptCount id).trans files.count
  status := by
    obtain ⟨status, rows, which, letter⟩ := files.status
    refine ⟨status, ?_, which, ?_⟩
    · rwa [aside.outbox]
    · rwa [Tables.lettered, aside.deadLetters, ← Tables.lettered]

omit [Unicode] in
theorem changed_status {change : OutboxChange} {row : EventOutbox}
    (member : row ∈ (t.changeEvent id change).outbox) (here : row.id = id) :
    row.status = change.status := by
  obtain ⟨old, _, rfl⟩ := List.mem_map.mp member
  split at here
  next mine => rw [if_pos mine, OutboxChange.apply_status]
  next others => exact absurd here others

omit [Unicode] in
theorem changed_ids {change : OutboxChange} :
    (t.changeEvent id change).outbox.map EventOutbox.id = t.outbox.map EventOutbox.id := by
  rw [Tables.changeEvent, List.map_map]
  refine List.map_congr_left fun row _ => ?_
  simp only [Function.comp_apply]
  split <;> simp

theorem around_change {change : OutboxChange} : Around id t (t.changeEvent id change) where
  registry := rfl
  nextId := le_rfl
  ids := changed_ids
  valid valid := valid
  same other apart := by
    refine ⟨fun row here => ?_, fun _ => rfl⟩
    rw [Tables.changeEvent, List.mem_map]
    constructor
    · rintro ⟨old, member, rfl⟩
      split at here
      next mine => exact absurd (here.symm.trans (by simpa using mine)) apart
      next others => rwa [if_neg others]
    · exact fun member => ⟨row, member, if_neg (here ▸ apart)⟩
  counts _ _ := rfl
  letters _ _ := rfl

/-- A change to the event's row. -/
theorem files_change {change : OutboxChange}
    (which : change.status = .dispatched ∨
      (change.status = .failedRetryable ∧ attempt < maxRetryAttempts) ∨
      change.status = .deadLettered) : Files id attempt t (t.changeEvent id change) where
  toAround := around_change
  count := rfl
  status := ⟨change.status, fun _ member here => changed_status member here, which, .inl⟩

/-- The event dead-lettered, with its letter. -/
def Tables.bury (t : Tables) (letter : DeadLetterEvent) : Tables :=
  { t.changeEvent letter.eventOutbox .deadLettered with
    deadLetters := t.deadLetters ++ [letter] }

theorem files_bury {letter : DeadLetterEvent} :
    Files letter.eventOutbox attempt t (t.bury letter) where
  registry := rfl
  nextId := le_rfl
  ids := changed_ids
  valid valid := valid
  same other apart :=
    have changed : t.SameEvent (t.changeEvent letter.eventOutbox .deadLettered) other :=
      around_change.same other apart
    ⟨changed.rows, changed.consumers⟩
  counts _ _ := rfl
  letters other apart := by simp [Tables.lettered, Tables.bury, apart.symm]
  count := rfl
  status := ⟨.deadLettered, fun row member here => changed_status (t := t) member here,
    .inr (.inr rfl), fun _ => .inr rfl⟩

end

/-- What `full_clean` decides about an event under the registry as it is. -/
def validity (t : Tables) (event : EventOutbox) : Outcome Unit :=
  event.validate (t.contract? event.eventType event.eventVersion)

/-- What is left of a text fits the column it goes to. -/
theorem sanitize_error_fits {message : String} (some : message.isEmpty = false) :
    cleanText "reason" 255 (sanitizeError message) = .ok () := by
  have long (text : String) (filled : text.isEmpty = false) (short : text.length ≤ 255) :
      cleanText "reason" 255 text = .ok () := by
    rw [cleanText, cleanLength, filled, decide_eq_false (Nat.not_lt.mpr short)]
    rfl
  rw [sanitizeError]
  rcases sanitize_failure_cases with ⟨is, -⟩ | is
  · rw [is]
    refine long _ ?_ ?_
    · simpa [String.isEmpty_iff, String.ofList_eq_empty_iff] using some
    · simp
  · rw [is]
    exact long _ rfl (by decide)

/-- What is left of a text a column can hold is one too. -/
theorem sanitize_error_storable {message : String} (storable : Text.storable message = true) :
    Text.storable (sanitizeError message) = true := by
  have kept (text : String) (storable : Text.storable text = true) :
      Text.storable (.ofList (text.toList.take 255)) = true := by
    rw [Text.storable_iff] at storable ⊢
    rw [String.toList_ofList]
    exact fun member => storable (List.mem_of_mem_take member)
  rw [sanitizeError]
  rcases sanitize_failure_cases with ⟨is, -⟩ | is
  · rw [is]
    exact kept _ (kept message storable)
  · rw [is]
    decide

/-- A letter with a fitting type and reason and safe texts passes its validation. -/
theorem letter_valid {letter : DeadLetterEvent}
    (typed : cleanText "event_type" 128 letter.eventType = .ok ())
    (reason : cleanText "reason" 255 letter.reason = .ok ())
    (safe : sensitiveText letter.reason = false ∧ sensitiveText letter.sanitizedError = false) :
    letter.validate = .ok () := by
  have keys : sensitiveKey "reason" = false ∧ sensitiveKey "sanitized_error" = false :=
    ⟨failure_key_calm (by decide), failure_key_calm (by decide)⟩
  rw [DeadLetterEvent.validate, full_clean_ok, typed, reason, rejectSensitivePayload,
    reject_sensitive_fields_ok, reject_sensitive_fields_ok, rejectSensitivePayload,
    rejectSensitivePayload, safe.1, safe.2]
  exact ⟨rfl, keys.1, rfl, keys.2, rfl, rfl⟩

/-- A valid event has a fitting type. -/
theorem typed_of_valid {t : Tables} {event : EventOutbox} (valid : validity t event = .ok ()) :
    cleanText "event_type" 128 event.eventType = .ok () := by
  have fields := (full_clean_ok.mp valid).1
  rw [EventOutbox.cleanFields] at fields
  cases typed : cleanText "event_type" 128 event.eventType with
  | error e => rw [typed] at fields; cases fields
  | ok _ => rfl

section

attribute [local irreducible] sanitizeError EventOutbox.validate validateEventNamespace
  authorizeConsumer rejectSensitivePayload

variable {env : Surroundings} {t : Tables} {event : EventOutbox} {attempt : EventDispatchAttempt}

/-- `EventOutbox.save`, alone. -/
theorem save_run {change : OutboxChange} (stored : (t.event? event.id).isSome) :
    (event.save change).run env.exec t =
      match validity t event with
      | .ok _ => (.ok (), t.changeEvent event.id change)
      | .error e => (.error e, t) := by
  have asked : env.exec (.selectContract event.eventType event.eventVersion) t =
    (t.contract? event.eventType event.eventVersion, t) := rfl
  rw [EventOutbox.save, run_query_bind, asked, validity]
  cases event.validate (t.contract? event.eventType event.eventVersion) with
  | error e => exact Program.run_check_of_error rfl
  | ok _ =>
    have hit : env.exec (.updateEvent event.id change) t =
      (true, t.changeEvent event.id change) := if_pos stored
    rw [Program.run_check_of_ok rfl, run_query_bind, hit]
    rfl

/-- A letter no column can hold is not filed. -/
private theorem create_letter_refused {letter : DeadLetterEvent}
    (unstorable : Text.storable letter.sanitizedError = false) :
    ∃ e, letter.create.run env.exec t = (.error e, t) := by
  have asked : env.exec (.deadLetterExists letter.eventOutbox) t =
    (t.lettered letter.eventOutbox, t) := rfl
  rw [DeadLetterEvent.create]
  cases letter.validate with
  | error e => exact ⟨e, Program.run_check_of_error rfl⟩
  | ok _ =>
    rw [Program.run_check_of_ok rfl, run_query_bind, asked]
    cases t.lettered letter.eventOutbox with
    | true => exact ⟨_, rfl⟩
    | false =>
      rw [if_neg (by simp), unstorable, Bool.and_false]
      exact ⟨_, rfl⟩

/-- `move_event_to_dead_letter`, alone. -/
theorem move_run {reason message : String} {attempts : ℕ} (stored : (t.event? event.id).isSome)
    (some : reason.isEmpty = false) (named : Text.storable reason = true) :
    (validity t event = .ok () → Text.storable (sanitizeError message) = true →
      t.lettered event.id = false →
      ∃ t', (moveEventToDeadLetter event reason message attempts).run env.exec t = (.ok (), t') ∧
        Files event.id attempts t t') ∧
    (¬ (Text.storable (sanitizeError message) = true ∧ validity t event = .ok ()) →
      ∃ e t', (moveEventToDeadLetter event reason message attempts).run env.exec t =
        (.error e, t')) := by
  cases valid : validity t event with
  | error e =>
    have refused : (event.save .deadLettered).run env.exec t = (.error e, t) := by
      rw [save_run stored, valid]
    exact ⟨nofun, fun _ => ⟨e, t, Program.run_bind_of_error refused⟩⟩
  | ok _ =>
    let letter : DeadLetterEvent := ⟨event.id, event.eventType, event.eventVersion, event.tenant,
      sanitizeError reason, sanitizeError message, attempts⟩
    let t₁ := t.changeEvent event.id .deadLettered
    have saved : (event.save .deadLettered).run env.exec t = (.ok (), t₁) := by
      rw [save_run stored, valid]
    refine ⟨fun _ storable free => ⟨t.bury letter, (Program.run_bind_of_ok saved).trans ?_,
      (files_bury : Files letter.eventOutbox attempts t (t.bury letter))⟩, fun unfit => ?_⟩
    · have accepted : letter.validate = .ok () := letter_valid (typed_of_valid valid)
        (sanitize_error_fits some) ⟨sanitize_error_safe reason, sanitize_error_safe message⟩
      have asked : env.exec (.deadLetterExists letter.eventOutbox) t₁ = (false, t₁) :=
        congrArg (·, t₁) free
      have held : refuseUnstorable
          (Text.storable letter.reason && Text.storable letter.sanitizedError) = .ok () := by
        rw [Darasa.refuse_unstorable_ok, Bool.and_eq_true]
        exact ⟨sanitize_error_storable named, storable⟩
      have inserted : env.exec (.insertDeadLetter letter) t₁ = (true, t.bury letter) :=
        if_neg (Bool.eq_false_iff.mp free)
      rw [DeadLetterEvent.create, Program.run_check_of_ok accepted, run_query_bind, asked,
        if_neg (by simp), Program.run_check_of_ok held, run_query_bind, inserted]
      rfl
    · have unstorable := Bool.eq_false_iff.mpr fun storable => unfit ⟨storable, rfl⟩
      obtain ⟨e, refused⟩ := @create_letter_refused _ env t₁ letter unstorable
      exact ⟨e, t₁, (Program.run_bind_of_ok saved).trans refused⟩

/-- The attempt's row is its own. -/
theorem updated_attempt {named : ℕ → String → Prop} {id finishedAt : ℕ} {status : AttemptStatus}
    {message : Option String} :
    Aside named t (env.exec (.updateAttempt id status message finishedAt) t).2 := by
  refine ⟨rfl, rfl, rfl, rfl, ?_, fun _ _ _ => rfl, fun valid => valid⟩
  show (List.map _ t.attempts).map EventDispatchAttempt.eventOutbox = _
  rw [List.map_map]
  refine List.map_congr_left fun row _ => ?_
  simp only [Function.comp_apply]
  split <;> rfl

/-- `mark_event_dispatched`, alone. -/
theorem mark_dispatched_run {number : ℕ} (stored : (t.event? event.id).isSome) :
    (∀ e, validity t event = .error e →
      ∃ t', (markEventDispatched event attempt).run env.exec t = (.error e, t') ∧
        Aside (Among event.id []) t t') ∧
    (validity t event = .ok () →
      ∃ t', (markEventDispatched event attempt).run env.exec t = (.ok (), t') ∧
        Files event.id number t t') := by
  let t₁ : Tables := { t with clock := t.clock + env.delay t.clock }
  have read : env.exec .timezoneNow t = (t.clock, t₁) := rfl
  have marks : (event.save (.dispatched t.clock)).run env.exec t₁ = _ := save_run stored
  rw [markEventDispatched, run_query_bind, read]
  refine ⟨fun e invalid => ⟨t₁, Program.run_bind_of_error ?_, .clock⟩, fun valid => ?_⟩
  · rw [marks, show validity t₁ event = .error e from invalid]
  · let t₂ := t₁.changeEvent event.id (.dispatched t.clock)
    let t₃ : Tables := { t₂ with clock := t₂.clock + env.delay t₂.clock }
    have saved : (event.save (.dispatched t.clock)).run env.exec t₁ = (.ok (), t₂) := by
      rw [marks, show validity t₁ event = .ok () from valid]
    refine ⟨(env.exec (.updateAttempt attempt.id .succeeded none t₂.clock) t₃).2,
      (Program.run_bind_of_ok saved).trans rfl, ?_⟩
    have changed : Files event.id number t₁ t₂ := files_change (.inl rfl)
    have before : Aside (Among event.id []) t t₁ := .clock
    have read' : Aside (Among event.id []) t₂ t₃ := .clock
    exact (changed.after_aside before fun _ _ => And.left).then_aside
      (read'.trans updated_attempt) fun _ _ => And.left

/-- `mark_event_failed_retryable`, alone. -/
theorem mark_retryable_run {message : String} (stored : (t.event? event.id).isSome) :
    (validity t event = .ok () → Text.storable (sanitizeError message) = true →
      t.lettered event.id = false →
      ∃ t', (markEventFailedRetryable event attempt message).run env.exec t = (.ok (), t') ∧
        Files event.id attempt.attemptNumber t t') ∧
    (¬ (Text.storable (sanitizeError message) = true ∧ validity t event = .ok ()) →
      ∃ e t', (markEventFailedRetryable event attempt message).run env.exec t =
        (.error e, t')) := by
  let t₁ : Tables := { t with clock := t.clock + env.delay t.clock }
  have read : env.exec .timezoneNow t = (t.clock, t₁) := rfl
  rw [markEventFailedRetryable, run_query_bind, read]
  by_cases storable : Text.storable (sanitizeError message) = true
  swap
  · obtain ⟨e, refused⟩ := Darasa.refuse_unstorable_error (Bool.eq_false_iff.mpr storable)
    exact ⟨fun _ held => absurd held storable,
      fun _ => ⟨e, t₁, Program.run_check_of_error refused⟩⟩
  have held := Darasa.refuse_unstorable_ok.mpr storable
  let t₂ := (env.exec (.updateAttempt attempt.id .failedRetryable (some (sanitizeError message))
    t.clock) t₁).2
  have updated : env.exec (.updateAttempt attempt.id .failedRetryable
    (some (sanitizeError message)) t.clock) t₁ = ((), t₂) := rfl
  have before : Aside (Among event.id []) t t₁ := .clock
  have aside : Aside (Among event.id []) t t₂ := before.trans updated_attempt
  rw [Program.run_check_of_ok held, run_query_bind, updated]
  by_cases again : shouldRetry attempt.attemptNumber = true
  · let t₃ : Tables := { t₂ with clock := t₂.clock + env.delay t₂.clock }
    let due := seconds (calculateBackoffSeconds attempt.attemptNumber) + t₂.clock
    have read' : env.exec .timezoneNow t₂ = (t₂.clock, t₃) := rfl
    have marks : (event.save (.failedRetryable due)).run env.exec t₃ = _ := save_run stored
    rw [if_pos again, run_query_bind, read']
    refine ⟨fun valid _ _ => ⟨t₃.changeEvent event.id (.failedRetryable due), ?_, ?_⟩,
      fun unfit => ?_⟩
    · rw [marks, show validity t₃ event = .ok () from valid]
    · have later : Aside (Among event.id []) t₂ t₃ := .clock
      refine (files_change ?_).after_aside (aside.trans later) fun _ _ => And.left
      exact .inr (.inl ⟨rfl, of_decide_eq_true again⟩)
    · cases valid : validity t event with
      | ok _ => exact absurd ⟨storable, valid⟩ unfit
      | error e => exact ⟨e, t₃, by rw [marks, show validity t₃ event = .error e from valid]⟩
  · rw [if_neg again]
    have moves := @move_run _ env t₂ event "max_retries_exceeded" message attempt.attemptNumber
      stored rfl rfl
    refine ⟨fun valid _ free => ?_, moves.2⟩
    obtain ⟨t₃, moved, files⟩ := moves.1 valid storable free
    exact ⟨t₃, moved, files.after_aside aside fun _ _ => And.left⟩

/-- The `except` clauses know the exception, the failure of the consumer at work can be
recorded, and what is left of the exception's text can be stored. -/
def Fileable (activeConsumer : String) (exn : Exn) : Prop :=
  (isRetryable exn || isPermanent exn) = true ∧
    (activeConsumer.isEmpty = true ∨ nameFits activeConsumer = .ok ()) ∧
      Text.storable (sanitizeError exn.text) = true

/-- Recording the failure of the consumer at work, if there is one. -/
private theorem record_active_run {active : String} {exn : Exn} (valid : StatesValid t) :
    ((active.isEmpty = true ∨ nameFits active = .ok ()) ∧
      ∃ t', (recordActiveFailed event active exn).run env.exec t = (.ok (), t') ∧
        Aside (Pair event.id active) t t') ∨
    (¬ ((active.isEmpty = true ∨ nameFits active = .ok ()) ∧
        Text.storable (sanitizeError exn.text) = true) ∧
      ∃ e t', (recordActiveFailed event active exn).run env.exec t = (.error e, t')) := by
  rw [recordActiveFailed]
  by_cases empty : active.isEmpty = true
  · rw [if_pos empty]
    exact .inl ⟨.inl empty, t, rfl, .refl⟩
  · rw [if_neg empty]
    obtain ⟨records, refuses⟩ := @record_failed_run _ env t event active exn.text valid
    by_cases fits : nameFits active = .ok () ∧ Text.storable (sanitizeError exn.text) = true
    · exact .inl ⟨.inr fits.1, records fits.1 fits.2⟩
    · exact .inr ⟨fun both => fits ⟨both.1.resolve_left empty, both.2⟩, refuses fits⟩

/-- The `except` clauses, alone: they file the event exactly when they know the
exception, the consumer's failure can be recorded, and the event is valid. -/
theorem file_failure_run {active : String} {exn : Exn} (states : StatesValid t)
    (stored : (t.event? event.id).isSome) :
    (Fileable active exn → validity t event = .ok () → t.lettered event.id = false →
      ∃ t', (fileFailure event attempt active exn).run env.exec t = (.ok (), t') ∧
        Files event.id attempt.attemptNumber t t') ∧
    (¬ (Fileable active exn ∧ validity t event = .ok ()) →
      ∃ e t', (fileFailure event attempt active exn).run env.exec t = (.error e, t')) := by
  have own : ∀ other name, Pair event.id active other name → other = event.id := fun _ _ => And.left
  rcases @record_active_run _ env t event active exn states with
    ⟨named, t₁, recorded, aside⟩ | ⟨misfit, e, t₁, refused⟩
  swap
  · refine ⟨fun fileable => absurd fileable.2 misfit, fun _ => ?_⟩
    rw [fileFailure]
    split
    · exact ⟨e, t₁, Program.run_bind_of_error refused⟩
    · split
      · exact ⟨e, t₁, Program.run_bind_of_error refused⟩
      · exact ⟨exn, t, rfl⟩
  have stored₁ : (t₁.event? event.id).isSome := by
    rwa [Tables.event?, aside.outbox]
  have validity₁ : validity t₁ event = validity t event := by
    rw [validity, aside.contract, ← validity]
  have lettered₁ : t₁.lettered event.id = t.lettered event.id :=
    by rw [Tables.lettered, aside.deadLetters, ← Tables.lettered]
  rw [fileFailure]
  by_cases retryable : isRetryable exn = true
  · obtain ⟨files, raises⟩ := @mark_retryable_run _ env t₁ event attempt exn.text stored₁
    rw [if_pos retryable, Program.run_bind_of_ok recorded]
    rw [validity₁, lettered₁] at files
    rw [validity₁] at raises
    refine ⟨fun fileable valid free => ?_, fun unfit => raises fun both => unfit ⟨⟨?_, ?_⟩, both.2⟩⟩
    · obtain ⟨t₂, filed, done⟩ := files valid fileable.2.2 free
      exact ⟨t₂, filed, done.after_aside aside own⟩
    · rw [retryable, Bool.true_or]
    · exact ⟨named, both.1⟩
  rw [if_neg retryable]
  by_cases permanent : isPermanent exn = true
  · obtain ⟨files, raises⟩ := @move_run _ env t₁ event "permanent_failure" exn.text
      attempt.attemptNumber stored₁ rfl rfl
    rw [if_pos permanent, Program.run_bind_of_ok recorded]
    rw [validity₁, lettered₁] at files
    rw [validity₁] at raises
    refine ⟨fun fileable valid free => ?_, fun unfit => ?_⟩
    · obtain ⟨t₂, moved, done⟩ := files valid fileable.2.2 free
      let t₃ : Tables := { t₂ with clock := t₂.clock + env.delay t₂.clock }
      refine ⟨(env.exec (.updateAttempt attempt.id .deadLettered none t₂.clock) t₃).2,
        (Program.run_bind_of_ok moved).trans rfl, ?_⟩
      have read : Aside (Pair event.id active) t₂ t₃ := .clock
      exact (done.after_aside aside own).then_aside (read.trans updated_attempt) own
    · obtain ⟨e, t₂, raised⟩ := raises fun both =>
        unfit ⟨⟨by rw [permanent, Bool.or_true], named, both.1⟩, both.2⟩
      exact ⟨e, t₂, Program.run_bind_of_error raised⟩
  · rw [if_neg permanent]
    refine ⟨fun fileable => absurd fileable.1 ?_, fun _ => ⟨exn, t, rfl⟩⟩
    rw [Bool.eq_false_iff.mpr retryable, Bool.eq_false_iff.mpr permanent]
    decide

end

end

end Darasa.Events
