import Darasa.Events.Alone

/-!
Passes of one relay, one after the other.

A pass runs to its end, or to the exception nobody catches.  `Delivers` says of a
claimed event, by the tables the pass starts from, that it passes
`EventOutbox.save`'s validation in the registry as it is, and that the first
consumer in trouble, if any, is in trouble the `except` clauses can file.  A pass
returns exactly when every event it claims delivers, and then each of them is
filed and no event has more than `maxRetryAttempts` attempts
(`passes_are_fine_iff`).
-/

namespace Darasa.Events

open Darasa (Outcome Exn Json Unicode Interface Program Machine refuseIf)

section

variable [Unicode]

/-! ## One event -/

/-- The event passes its validation under the registry as it is, and the first
consumer in trouble, if any, is in trouble that can be filed. -/
def Delivers (handlers : Handlers) (env : Surroundings) (t : Tables) (event : EventOutbox) : Prop :=
  validity t event = .ok () ∧
    ∀ consumer exn,
      course env t event (handlers.getHandlers event.eventType) = .error (consumer, exn) →
        Fileable consumer exn

instance (consumer : String) (exn : Exn) : Decidable (Fileable consumer exn) :=
  inferInstanceAs (Decidable (_ ∧ _))

instance (handlers : Handlers) (env : Surroundings) (t : Tables) (event : EventOutbox) :
    Decidable (Delivers handlers env t event) :=
  match clear : course env t event (handlers.getHandlers event.eventType) with
  | .ok _ => decidable_of_iff (validity t event = .ok ()) (by simp [Delivers, clear])
  | .error (consumer, exn) =>
    decidable_of_iff (validity t event = .ok () ∧ Fileable consumer exn) (by
      simp only [Delivers, clear, Except.error.injEq, Prod.mk.injEq, and_congr_right_iff]
      exact fun _ => ⟨fun fileable _ _ ⟨here, raised⟩ => here ▸ raised ▸ fileable,
        fun all => all consumer exn ⟨rfl, rfl⟩⟩)

section

attribute [local irreducible] EventOutbox.validate trouble

variable {handlers : Handlers} {env : Surroundings} {t : Tables} {event : EventOutbox}
  {attempt : EventDispatchAttempt}

/-- The `try` block, alone: it dispatches the event, or raises by the first
consumer in trouble, or by the event's validation under the last consumer. -/
private theorem deliver_run {number : ℕ} (states : StatesValid t)
    (stored : (t.event? event.id).isSome) :
    (course env t event (handlers.getHandlers event.eventType) = .ok () →
      validity t event = .ok () →
      ∃ t', (deliver handlers event attempt).run env.exec t = (.ok (), t') ∧
        Files event.id number t t') ∧
    (∀ consumer exn,
      course env t event (handlers.getHandlers event.eventType) = .error (consumer, exn) →
      ∃ t', (deliver handlers event attempt).run env.exec t = (.error (consumer, exn), t') ∧
        Aside (Among event.id (handlers.getHandlers event.eventType)) t t') ∧
    (course env t event (handlers.getHandlers event.eventType) = .ok () →
      ∀ e, validity t event = .error e →
      ∃ consumer t', (deliver handlers event attempt).run env.exec t = (.error (consumer, e), t') ∧
        Aside (Among event.id (handlers.getHandlers event.eventType)) t t') := by
  obtain ⟨t₁, ran, aside⟩ := @handlers_run _ env t event
    (handlers.getHandlers event.eventType) states (handlers.distinct event.eventType)
  have stored₁ : (t₁.event? event.id).isSome := by rwa [Tables.event?, aside.outbox]
  have validity₁ : validity t₁ event = validity t event := by
    rw [validity, aside.contract, ← validity]
  obtain ⟨raises, marks⟩ := @mark_dispatched_run _ env t₁ event attempt number stored₁
  rw [validity₁] at raises marks
  rw [deliver]
  refine ⟨fun clear valid => ?_, fun consumer exn troubled => ?_, fun clear e invalid => ?_⟩
  · rw [clear] at ran
    obtain ⟨t₂, marked, files⟩ := marks valid
    refine ⟨t₂, ?_, files.after_aside aside fun _ _ => And.left⟩
    rw [Program.run_bind_of_ok ran, Program.run_raising, marked]
    rfl
  · rw [troubled] at ran
    exact ⟨t₁, Program.run_bind_of_error ran, aside⟩
  · rw [clear] at ran
    obtain ⟨t₂, raised, aside₂⟩ := raises e invalid
    refine ⟨(handlers.getHandlers event.eventType).getLast?.getD "", t₂, ?_, ?_⟩
    · rw [Program.run_bind_of_ok ran, Program.run_raising, raised]
      rfl
    · exact aside.trans (aside₂.mono fun _ _ here => ⟨here.1, absurd here.2 (by simp)⟩)

end

/-! ### What stays true of the tables -/

/-- An event a pass may claim. -/
def OutboxStatus.isOpen : OutboxStatus → Bool
  | pending | failedRetryable | locked => true
  | _ => false

/-- An event's attempts are bounded, with one left while it may be claimed, and
a dead letter means the event is dead-lettered. -/
structure Rests (t : Tables) (id : ℕ) : Prop where
  bounded : t.attemptCount id ≤ maxRetryAttempts
  left : ∀ row ∈ t.outbox, row.id = id → row.status.isOpen = true →
    t.attemptCount id < maxRetryAttempts
  buried : ∀ row ∈ t.outbox, row.id = id → t.lettered id = true → row.status = .deadLettered

/-- The invariant of passes. -/
structure Orderly (t : Tables) : Prop where
  keyed : t.Keyed
  states : StatesValid t
  fresh : ∀ id, t.nextId ≤ id → t.attemptCount id = 0 ∧ t.lettered id = false
  rests : ∀ id, Rests t id

/-- The statuses a pass files an event under. -/
def filedStatuses : List OutboxStatus := [.dispatched, .failedRetryable, .deadLettered]

/-- The event is on file under one of these. -/
def Tables.Filed (t : Tables) (id : ℕ) : Prop :=
  ∃ row ∈ t.outbox, row.id = id ∧ row.status ∈ filedStatuses

section

variable {id : ℕ} {t t' : Tables}

theorem Around.rests {other : ℕ} (around : Around id t t') (apart : other ≠ id)
    (rests : Rests t other) : Rests t' other where
  bounded := (around.counts other apart).symm ▸ rests.bounded
  left row member here opened := (around.counts other apart).symm ▸
    rests.left row (((around.same other apart).rows row here).mp member) here opened
  buried row member here lettered :=
    rests.buried row (((around.same other apart).rows row here).mp member) here
      (around.letters other apart ▸ lettered)

theorem Around.filed {other : ℕ} (around : Around id t t') (apart : other ≠ id)
    (filed : t.Filed other) : t'.Filed other := by
  obtain ⟨row, member, here, status⟩ := filed
  exact ⟨row, ((around.same other apart).rows row here).mpr member, here, status⟩

/-- Orderly tables stay so when everything but one event is left and that one
rests. -/
theorem Around.orderly (around : Around id t t') (orderly : Orderly t) (old : id < t.nextId)
    (rests : Rests t' id) : Orderly t' where
  keyed := around.keyed orderly.keyed
  states := around.valid orderly.states
  fresh other beyond := by
    have apart : other ≠ id := by have := around.nextId; omega
    rw [around.counts other apart, around.letters other apart]
    exact orderly.fresh other (around.nextId.trans beyond)
  rests other := by
    by_cases same : other = id
    · exact same ▸ rests
    · exact around.rests same (orderly.rests other)

end

section

attribute [local irreducible] EventOutbox.validate trouble

variable {handlers : Handlers} {env : Surroundings} {t : Tables} {event : EventOutbox}

/-- `EventDispatchAttempt.objects.create`, alone. -/
private theorem start_attempt_run {name : String} :
    ∃ attempt t', (startAttempt event name).run env.exec t = (.ok attempt, t') ∧
      attempt.attemptNumber = t.attemptCount event.id + 1 ∧ Around event.id t t' ∧
      t'.outbox = t.outbox ∧ t'.deadLetters = t.deadLetters ∧ t'.consumers = t.consumers ∧
      t'.attemptCount event.id = t.attemptCount event.id + 1 := by
  refine ⟨_, _, rfl, rfl, ⟨rfl, Nat.le_succ _, rfl, fun valid => valid, ?_, ?_, fun _ _ => rfl⟩,
    rfl, rfl, rfl, ?_⟩
  · exact fun _ _ => ⟨fun _ _ => Iff.rfl, fun _ => rfl⟩
  · intro other apart
    simp [Tables.attemptCount, Surroundings.exec, execute, apart.symm]
  · simp [Tables.attemptCount, Surroundings.exec, execute]

/-- An event filed after its attempt rests. -/
private theorem rest_of_files {number : ℕ} {t₁ t₂ : Tables}
    (files : Files event.id number t₁ t₂) (member : event ∈ t₁.outbox)
    (count : t₁.attemptCount event.id = number) (bound : number ≤ maxRetryAttempts)
    (free : t₁.lettered event.id = false) : Rests t₂ event.id ∧ t₂.Filed event.id := by
  obtain ⟨status, rows, which, letter⟩ := files.status
  refine ⟨⟨?_, fun row here same opened => ?_, fun row here same lettered => ?_⟩, ?_⟩
  · rwa [files.count, count]
  · rw [files.count, count]
    rw [rows row here same] at opened
    rcases which with rfl | ⟨-, left⟩ | rfl
    · cases opened
    · exact left
    · cases opened
  · rw [rows row here same]
    refine (letter lettered).resolve_left fun before => ?_
    rw [free] at before
    cases before
  · have old := List.mem_map_of_mem (f := EventOutbox.id) member
    rw [← files.ids] at old
    obtain ⟨row, here, same⟩ := List.mem_map.mp old
    refine ⟨row, here, same, ?_⟩
    rw [rows row here same]
    rcases which with rfl | ⟨rfl, -⟩ | rfl <;> decide

/-- **One event.**  An event that delivers is filed and the tables stay orderly;
the exception of one that does not leaves the pass. -/
theorem dispatch_event_run {name : String} (orderly : Orderly t) (member : event ∈ t.outbox)
    (locked : event.status = .locked) :
    (Delivers handlers env t event →
      ∃ n t', (dispatchEvent handlers name event).run env.exec t = (.ok n, t') ∧
        Around event.id t t' ∧ Orderly t' ∧ t'.Filed event.id) ∧
    (¬ Delivers handlers env t event →
      ∃ e t', (dispatchEvent handlers name event).run env.exec t = (.error e, t')) := by
  obtain ⟨attempt, t₁, started, number, around, outbox, letters, consumers, count⟩ :=
    @start_attempt_run _ env t event name
  have own : ∀ other consumer, Among event.id (handlers.getHandlers event.eventType) other consumer →
    other = event.id := fun _ _ => And.left
  have stored : (t₁.event? event.id).isSome := by
    rw [Tables.event?, outbox, List.find?_isSome]
    exact ⟨event, member, by simp⟩
  have states := around.valid orderly.states
  have validity₁ : validity t₁ event = validity t event := by
    rw [validity, Tables.contract?, around.registry, ← Tables.contract?, ← validity]
  have course₁ (list : List String) : course env t₁ event list = course env t event list := by
    refine course_same around.registry fun consumer _ => ?_
    rw [Tables.consumer?, consumers, ← Tables.consumer?]
  have left : t.attemptCount event.id < maxRetryAttempts :=
    (orderly.rests event.id).left event member rfl (by rw [locked]; rfl)
  have free : t₁.lettered event.id = false := by
    rw [Tables.lettered, letters, ← Tables.lettered, Bool.eq_false_iff]
    intro lettered
    have buried := (orderly.rests event.id).buried event member rfl lettered
    rw [locked] at buried
    cases buried
  have done {t₂ : Tables} (files : Files event.id attempt.attemptNumber t₁ t₂) :
      Around event.id t t₂ ∧ Orderly t₂ ∧ t₂.Filed event.id := by
    have whole := around.trans files.toAround
    obtain ⟨rests, filed⟩ := rest_of_files files (outbox ▸ member) (count.trans number.symm)
      (number ▸ left) free
    exact ⟨whole, whole.orderly orderly (orderly.keyed.fresh event member) rests, filed⟩
  obtain ⟨dispatches, stops, falls⟩ := @deliver_run _ handlers env t₁ event attempt
    attempt.attemptNumber states stored
  rw [course₁, validity₁] at dispatches falls
  rw [course₁] at stops
  -- what the `except` clauses make of an exception
  have caught {active : String} {exn : Exn} {t₂ : Tables}
      (raised : (deliver handlers event attempt).run env.exec t₁ = (.error (active, exn), t₂))
      (aside : Aside (Among event.id (handlers.getHandlers event.eventType)) t₁ t₂) :
      (Fileable active exn → validity t event = .ok () →
        ∃ n t', (dispatchEvent handlers name event).run env.exec t = (.ok n, t') ∧
          Around event.id t t' ∧ Orderly t' ∧ t'.Filed event.id) ∧
      (¬ (Fileable active exn ∧ validity t event = .ok ()) →
        ∃ e t', (dispatchEvent handlers name event).run env.exec t = (.error e, t')) := by
    have validity₂ : validity t₂ event = validity t event := by
      rw [validity, aside.contract, ← validity, validity₁]
    have stored₂ : (t₂.event? event.id).isSome := by rwa [Tables.event?, aside.outbox]
    have free₂ : t₂.lettered event.id = false := by
      rwa [Tables.lettered, aside.deadLetters, ← Tables.lettered]
    obtain ⟨files, fails⟩ := @file_failure_run _ env t₂ event attempt active exn
      (aside.valid states) stored₂
    rw [validity₂] at files fails
    have onward : (dispatchEvent handlers name event).run env.exec t =
        (fileFailure event attempt active exn >>= fun _ => pure 0).run env.exec t₂ := by
      rw [dispatchEvent, Program.run_bind_of_ok started, Program.run_tryCatch,
        Program.run_bind_of_error raised]
      rfl
    refine ⟨fun fileable valid => ?_, fun unfit => ?_⟩
    · obtain ⟨t₃, filed, end_⟩ := files fileable valid free₂
      exact ⟨0, t₃, onward.trans (Program.run_bind_of_ok filed),
        done (end_.after_aside aside own)⟩
    · obtain ⟨e, t₃, failed⟩ := fails unfit
      exact ⟨e, t₃, onward.trans (Program.run_bind_of_error failed)⟩
  cases clear : course env t event (handlers.getHandlers event.eventType) with
  | error trouble =>
    obtain ⟨active, exn⟩ := trouble
    obtain ⟨t₂, raised, aside⟩ := stops active exn clear
    obtain ⟨files, fails⟩ := caught raised aside
    refine ⟨fun delivers => files (delivers.2 active exn clear) delivers.1, fun undelivered => ?_⟩
    refine fails fun both => undelivered ⟨both.2, fun consumer exn' troubled => ?_⟩
    obtain ⟨rfl, rfl⟩ := Prod.mk.inj (Except.error.inj (clear.symm.trans troubled))
    exact both.1
  | ok _ =>
    refine ⟨fun delivers => ?_, fun undelivered => ?_⟩
    · obtain ⟨t₂, ran, files⟩ := dispatches clear delivers.1
      refine ⟨1, t₂, ?_, done files⟩
      rw [dispatchEvent, Program.run_bind_of_ok started, Program.run_tryCatch,
        Program.run_bind_of_ok ran]
      rfl
    · cases valid : validity t event with
      | ok _ =>
        refine absurd ⟨valid, fun consumer exn troubled => ?_⟩ undelivered
        rw [clear] at troubled
        cases troubled
      | error e =>
        obtain ⟨consumer, t₂, raised, aside⟩ := falls clear e valid
        refine (caught raised aside).2 fun both => ?_
        cases valid.symm.trans both.2

end

/-! ## A batch -/

section

variable {handlers : Handlers} {env : Surroundings} {t t' : Tables} {event : EventOutbox}

/-- Whether an event delivers depends on the contracts and its consumers' states. -/
theorem delivers_same (registry : t'.registry = t.registry)
    (states : ∀ consumer, t'.consumer? event.id consumer = t.consumer? event.id consumer) :
    Delivers handlers env t' event ↔ Delivers handlers env t event := by
  rw [Delivers, Delivers, course_same registry fun consumer _ => states consumer, validity,
    Tables.contract?, registry, ← Tables.contract?, ← validity]

/-- Claiming an event changes nothing delivery depends on. -/
theorem delivers_locked {now : ℕ} {name : String} :
    Delivers handlers env t
        { event with status := .locked, lockedAt := some now, lockedBy := name } ↔
      Delivers handlers env t event := by
  have courses (list : List String) : course env t
      { event with status := .locked, lockedAt := some now, lockedBy := name } list =
        course env t event list := by
    induction list with
    | nil => rfl
    | cons consumer rest ih =>
      have same : trouble env t
          { event with status := .locked, lockedAt := some now, lockedBy := name } consumer =
            trouble env t event consumer := rfl
      rw [course, course, same, ih]
  rw [Delivers, Delivers, courses]
  exact Iff.rfl

/-- The loop over the claimed events, alone. -/
theorem dispatch_events_run {name : String} {events : List EventOutbox} (orderly : Orderly t)
    (stored : ∀ event ∈ events, event ∈ t.outbox ∧ event.status = .locked)
    (distinct : (events.map EventOutbox.id).Nodup) :
    ((∀ event ∈ events, Delivers handlers env t event) →
      ∃ n t', (dispatchEvents handlers name events).run env.exec t = (.ok n, t') ∧ Orderly t' ∧
        (∀ event ∈ events, t'.Filed event.id) ∧
        ∀ id, id ∉ events.map EventOutbox.id → t.Filed id → t'.Filed id) ∧
    ((¬ ∀ event ∈ events, Delivers handlers env t event) →
      ∃ e t', (dispatchEvents handlers name events).run env.exec t = (.error e, t')) := by
  induction events generalizing t with
  | nil => exact ⟨fun _ => ⟨0, t, rfl, orderly, by simp, fun _ _ => id⟩, fun none => absurd (by simp) none⟩
  | cons event events ih =>
    rw [List.map_cons, List.nodup_cons] at distinct
    obtain ⟨member, locked⟩ := stored event (.head _)
    obtain ⟨files, falls⟩ := @dispatch_event_run _ handlers env t event name orderly member locked
    rw [dispatchEvents]
    by_cases first : Delivers handlers env t event
    swap
    · obtain ⟨e, t₁, raised⟩ := falls first
      exact ⟨fun all => absurd (all event (.head _)) first,
        fun _ => ⟨e, t₁, Program.run_bind_of_error raised⟩⟩
    obtain ⟨n, t₁, ran, around, orderly₁, filed⟩ := files first
    have apart : ∀ other ∈ events, other.id ≠ event.id := fun other here same =>
      distinct.1 (same ▸ List.mem_map_of_mem here)
    have same : ∀ other ∈ events,
        (Delivers handlers env t₁ other ↔ Delivers handlers env t other) := fun other here =>
      delivers_same around.registry (around.same other.id (apart other here)).consumers
    obtain ⟨goes, stops⟩ := ih orderly₁ (fun other here => by
      obtain ⟨there, status⟩ := stored other (.tail _ here)
      exact ⟨((around.same other.id (apart other here)).rows other rfl).mpr there, status⟩) distinct.2
    refine ⟨fun all => ?_, fun some => ?_⟩
    · obtain ⟨m, t₂, rest, orderly₂, others, kept⟩ := goes fun other here =>
        (same other here).mpr (all other (.tail _ here))
      refine ⟨n + m, t₂, ?_, orderly₂, fun other here => ?_, fun id absent before => ?_⟩
      · rw [Program.run_bind_of_ok ran, Program.run_bind_of_ok rest]
        rfl
      · rcases List.mem_cons.mp here with rfl | later
        · exact kept other.id distinct.1 filed
        · exact others other later
      · rw [List.map_cons, List.mem_cons, not_or] at absent
        exact kept id absent.2 (around.filed absent.1 before)
    · obtain ⟨e, t₂, raised⟩ := stops fun all => some fun other here => by
        rcases List.mem_cons.mp here with rfl | later
        · exact first
        · exact (same other later).mp (all other later)
      exact ⟨e, t₂, by rw [Program.run_bind_of_ok ran, Program.run_bind_of_error raised]⟩

/-- The events a pass claims. -/
def planned (batchSize : ℕ) (t : Tables) : List EventOutbox :=
  let safeBatchSize := max 1 (min batchSize maxRelayBatchSize)
  let candidates := ((t.outbox.filter (isCandidate t.clock)).insertionSort candidateOrder).take
    (safeBatchSize * 3)
  ((candidates.filter (isReady t.clock)).insertionSort dispatchOrder).take safeBatchSize

/-- A claimed row. -/
def EventOutbox.claim (row : EventOutbox) (now : ℕ) (name : String) : EventOutbox :=
  { row with status := .locked, lockedAt := some now, lockedBy := name }

omit [Unicode] in
theorem planned_mem {batchSize : ℕ} (member : event ∈ planned batchSize t) :
    event ∈ t.outbox ∧ event.status.isOpen = true := by
  have ready := List.mem_of_mem_take member
  rw [List.mem_insertionSort, List.mem_filter] at ready
  have candidate := List.mem_of_mem_take ready.1
  rw [List.mem_insertionSort, List.mem_filter] at candidate
  refine ⟨candidate.1, ?_⟩
  have due := ready.2
  rw [isReady] at due
  cases status : event.status <;> simp [status] at due ⊢ <;> rfl

/-- The rows once those with the identifiers are claimed. -/
def claimAll (ids : List ℕ) (now : ℕ) (name : String) (outbox : List EventOutbox) :
    List EventOutbox :=
  outbox.map fun row => if ids.contains row.id then row.claim now name else row

omit [Unicode] in
/-- What `lock_pending_events` returns, and the tables it leaves. -/
theorem lock_returns {name : String} {batchSize : ℕ} :
    let ids := (planned batchSize t).map EventOutbox.id
    let outbox := claimAll ids t.clock name t.outbox
    (lockPendingEvents name batchSize).run env.exec t =
      (.ok ((outbox.filter fun row => ids.contains row.id).insertionSort
        fun a b => a.occurredAt ≤ b.occurredAt),
        { t with clock := t.clock + env.delay t.clock, outbox := outbox }) := by
  have plan : planDispatchBatch (((t.outbox.filter (isCandidate t.clock)).insertionSort
      candidateOrder).take (max 1 (min batchSize maxRelayBatchSize) * 3))
      (max 1 (min batchSize maxRelayBatchSize)) t.clock = .ok (planned batchSize t) := by
    rw [planDispatchBatch, decide_eq_false (by omega)]
    rfl
  have read : env.exec .timezoneNow t =
    (t.clock, { t with clock := t.clock + env.delay t.clock }) := rfl
  have selected : env.exec (.selectCandidates t.clock
      (max 1 (min batchSize maxRelayBatchSize) * 3))
      { t with clock := t.clock + env.delay t.clock } =
    (((t.outbox.filter (isCandidate t.clock)).insertionSort candidateOrder).take
      (max 1 (min batchSize maxRelayBatchSize) * 3),
      { t with clock := t.clock + env.delay t.clock }) := rfl
  rw [lockPendingEvents, run_query_bind, read, run_query_bind, selected,
    Program.run_check_of_ok plan]
  rfl

/-- `lock_pending_events`, alone. -/
theorem lock_run {name : String} {batchSize : ℕ} (orderly : Orderly t) :
    ∃ events t', (lockPendingEvents name batchSize).run env.exec t = (.ok events, t') ∧
      Orderly t' ∧ t'.registry = t.registry ∧ t'.consumers = t.consumers ∧
      (∀ event ∈ events, event ∈ t'.outbox ∧ event.status = .locked) ∧
      (events.map EventOutbox.id).Nodup ∧
      ∀ event, event ∈ events ↔ ∃ row ∈ planned batchSize t, event = row.claim t.clock name := by
  let ids := (planned batchSize t).map EventOutbox.id
  let lock (row : EventOutbox) : EventOutbox :=
    if ids.contains row.id then row.claim t.clock name else row
  let outbox := t.outbox.map lock
  let t₁ : Tables := { t with clock := t.clock + env.delay t.clock, outbox := outbox }
  let loaded := (outbox.filter fun row => ids.contains row.id).insertionSort
    fun a b => a.occurredAt ≤ b.occurredAt
  have ran : (lockPendingEvents name batchSize).run env.exec t = (.ok loaded, t₁) := lock_returns
  have sameId (row : EventOutbox) : (lock row).id = row.id := by
    simp only [lock]
    split <;> rfl
  have own {row : EventOutbox} (member : row ∈ t.outbox) (here : row.id ∈ ids) :
      row ∈ planned batchSize t := by
    obtain ⟨other, chosen, same⟩ := List.mem_map.mp here
    rwa [← List.inj_on_of_nodup_map orderly.keyed.distinct (planned_mem chosen).1 member same]
  have locked {row : EventOutbox} (here : row.id ∈ ids) : lock row = row.claim t.clock name :=
    if_pos (List.contains_iff_mem.mpr here)
  have spared {row : EventOutbox} (absent : row.id ∉ ids) : lock row = row :=
    if_neg fun here => absent (List.contains_iff_mem.mp here)
  have keyed : Tables.Keyed { t with outbox := outbox } := orderly.keyed.map rfl sameId
  have loads (event : EventOutbox) : event ∈ loaded ↔ event ∈ outbox ∧ event.id ∈ ids := by
    rw [List.mem_insertionSort, List.mem_filter, List.contains_iff_mem]
  refine ⟨loaded, t₁, ran, ⟨⟨keyed.distinct, keyed.fresh⟩, orderly.states, orderly.fresh,
    fun id => ⟨(orderly.rests id).bounded, ?_, ?_⟩⟩, rfl, rfl, ?_, ?_, ?_⟩
  · intro row member here opened
    obtain ⟨old, before, rfl⟩ := List.mem_map.mp member
    rw [sameId] at here
    by_cases chosen : old.id ∈ ids
    · exact (orderly.rests id).left old before here (planned_mem (own before chosen)).2
    · exact (orderly.rests id).left old before here (spared chosen ▸ opened)
  · intro row member here lettered
    obtain ⟨old, before, rfl⟩ := List.mem_map.mp member
    rw [sameId] at here
    have buried := (orderly.rests id).buried old before here lettered
    by_cases chosen : old.id ∈ ids
    · have opened := (planned_mem (own before chosen)).2
      rw [buried] at opened
      cases opened
    · rw [spared chosen, buried]
  · intro event member
    obtain ⟨there, chosen⟩ := (loads event).mp member
    refine ⟨there, ?_⟩
    obtain ⟨old, -, rfl⟩ := List.mem_map.mp there
    rw [locked (sameId old ▸ chosen)]
    rfl
  · exact (((List.perm_insertionSort _ _).map EventOutbox.id).nodup_iff).mpr
      (keyed.distinct.sublist (List.filter_sublist.map EventOutbox.id))
  · intro event
    rw [loads]
    constructor
    · rintro ⟨there, chosen⟩
      obtain ⟨old, before, rfl⟩ := List.mem_map.mp there
      rw [sameId] at chosen
      exact ⟨old, own before chosen, locked chosen⟩
    · rintro ⟨row, chosen, rfl⟩
      have here : row.id ∈ ids := List.mem_map_of_mem chosen
      exact ⟨List.mem_map.mpr ⟨row, (planned_mem chosen).1, locked here⟩, here⟩

end

/-! ## Passes over time -/

/-- One pass: what `dispatch_pending_events` returns or raises, and the tables
it leaves. -/
def runPass (handlers : Handlers) (env : Surroundings) (request : PassRequest) (t : Tables) :
    Outcome ℕ × Tables :=
  (dispatchPendingEvents handlers request.dispatcherName request.batchSize).run env.exec t

/-- A pass, or a change from outside. -/
inductive PassStep where
  | pass (env : Surroundings) (request : PassRequest)
  | world (change : OutboxWorld)

/-- Passes one after the other, with changes from outside in between. -/
def passMachine (handlers : Handlers) : Machine Tables PassStep where
  step t
    | .pass env request => some (runPass handlers env request t).2
    | .world change => some (change.apply t)

/-- A pass returns with every event it claims filed, and no event has more
attempts than it may. -/
def PassFine (handlers : Handlers) (t : Tables) (label : PassStep) (t' : Tables) : Prop :=
  (∀ env request, label = .pass env request →
    (∃ n, (runPass handlers env request t).1 = .ok n) ∧
      ∀ row ∈ planned request.batchSize t, t'.Filed row.id) ∧
    ∀ id, t'.attemptCount id ≤ maxRetryAttempts

/-- Every event the pass claims delivers. -/
def PassDelivers (handlers : Handlers) (t : Tables) : PassStep → Prop
  | .pass env request => ∀ row ∈ planned request.batchSize t, Delivers handlers env t row
  | .world _ => True

instance (handlers : Handlers) (t : Tables) :
    (label : PassStep) → Decidable (PassDelivers handlers t label)
  | .pass env request =>
    inferInstanceAs (Decidable (∀ row ∈ planned request.batchSize t, Delivers handlers env t row))
  | .world _ => isTrue trivial

section

variable {handlers : Handlers} {t : Tables}

/-- **One pass**, from orderly tables: it returns exactly when every event it
claims delivers. -/
theorem pass_run {env : Surroundings} {request : PassRequest} (orderly : Orderly t) :
    ((∀ row ∈ planned request.batchSize t, Delivers handlers env t row) →
      Orderly (runPass handlers env request t).2 ∧
        (∃ n, (runPass handlers env request t).1 = .ok n) ∧
          ∀ row ∈ planned request.batchSize t, (runPass handlers env request t).2.Filed row.id) ∧
    ((∃ n, (runPass handlers env request t).1 = .ok n) →
      ∀ row ∈ planned request.batchSize t, Delivers handlers env t row) := by
  obtain ⟨events, t₁, locked, orderly₁, registry, consumers, stored, distinct, loads⟩ :=
    @lock_run _ env t request.dispatcherName request.batchSize orderly
  obtain ⟨goes, stops⟩ := @dispatch_events_run _ handlers env t₁ request.dispatcherName events
    orderly₁ stored distinct
  have same (row : EventOutbox) : Delivers handlers env t₁ (row.claim t.clock
      request.dispatcherName) ↔ Delivers handlers env t row :=
    (delivers_same registry fun _ => by rw [Tables.consumer?, consumers, ← Tables.consumer?]).trans
      delivers_locked
  have onward : runPass handlers env request t =
      (dispatchEvents handlers request.dispatcherName events).run env.exec t₁ :=
    Program.run_bind_of_ok locked
  rw [onward]
  constructor
  · intro all
    obtain ⟨n, t₂, ran, orderly₂, filed, -⟩ := goes fun event member => by
      obtain ⟨row, chosen, rfl⟩ := (loads event).mp member
      exact (same row).mpr (all row chosen)
    rw [ran]
    refine ⟨orderly₂, ⟨n, rfl⟩, fun row chosen => ?_⟩
    exact filed (row.claim t.clock request.dispatcherName) ((loads _).mpr ⟨row, chosen, rfl⟩)
  · rintro ⟨n, returned⟩ row chosen
    by_contra undelivered
    obtain ⟨e, t₂, raised⟩ := stops fun all =>
      undelivered ((same row).mp (all _ ((loads _).mpr ⟨row, chosen, rfl⟩)))
    rw [raised] at returned
    cases returned

/-- The outside world keeps the tables orderly. -/
theorem world_orderly {change : OutboxWorld} (orderly : Orderly t) : Orderly (change.apply t) := by
  have keyed := (world_grows change orderly.keyed).1
  cases change with
  | write request =>
    simp only [OutboxWorld.apply] at keyed ⊢
    rcases write_outbox_event_run request t with ⟨e, ran⟩ | ⟨row, pending, -, -, ran⟩
    · rwa [ran]
    rw [ran] at keyed ⊢
    refine ⟨keyed, orderly.states, fun id beyond => orderly.fresh id (Nat.le_of_succ_le beyond),
      fun id => ⟨(orderly.rests id).bounded, fun other member here opened => ?_,
        fun other member here lettered => ?_⟩⟩
    · rcases List.mem_append.mp member with old | new
      · exact (orderly.rests id).left other old here opened
      · rw [List.mem_singleton.mp new] at here
        have none := (orderly.fresh id here.le).1
        show t.attemptCount id < _
        rw [none]
        decide
    · rcases List.mem_append.mp member with old | new
      · exact (orderly.rests id).buried other old here lettered
      · rw [List.mem_singleton.mp new] at here
        have none := (orderly.fresh id here.le).2
        exact absurd (none.symm.trans lettered) (by decide)
  | tick elapsed =>
    exact ⟨keyed, orderly.states, orderly.fresh,
      fun id => ⟨(orderly.rests id).bounded, (orderly.rests id).left, (orderly.rests id).buried⟩⟩
  | registry contracts =>
    exact ⟨keyed, orderly.states, orderly.fresh,
      fun id => ⟨(orderly.rests id).bounded, (orderly.rests id).left, (orderly.rests id).buried⟩⟩

/-- Tables no pass has worked on are orderly. -/
theorem orderly_of_new (keyed : t.Keyed)
    (new : t.attempts = [] ∧ t.consumers = [] ∧ t.deadLetters = []) : Orderly t where
  keyed := keyed
  states state member := by simp [new.2.1] at member
  fresh id _ := by simp [Tables.attemptCount, Tables.lettered, new.1, new.2.2]
  rests id := by
    refine ⟨?_, ?_, ?_⟩ <;>
      simp [Tables.attemptCount, Tables.lettered, new.1, new.2.2, maxRetryAttempts]

section

variable {t' : Tables} {label : PassStep}

private theorem step_orderly (orderly : Orderly t) (delivers : PassDelivers handlers t label)
    (stepped : (passMachine handlers).step t label = some t') : Orderly t' := by
  cases label with
  | pass env request =>
    cases stepped
    exact ((pass_run orderly).1 delivers).1
  | world change =>
    cases stepped
    exact world_orderly orderly

private theorem step_fine (orderly : Orderly t) (delivers : PassDelivers handlers t label)
    (stepped : (passMachine handlers).step t label = some t') : PassFine handlers t label t' := by
  have orderly' := step_orderly orderly delivers stepped
  refine ⟨fun env request same => ?_, fun id => (orderly'.rests id).bounded⟩
  subst same
  cases stepped
  exact ((pass_run orderly).1 delivers).2

private theorem delivers_of_fine (orderly : Orderly t)
    (fine : PassFine handlers t label t') : PassDelivers handlers t label := by
  cases label with
  | pass env request => exact (pass_run orderly).2 (fine.1 env request rfl).1
  | world change => trivial

end

/-- **Passes are fine exactly when what they claim delivers.**  Over any outbox
rows and any sequence of passes and outside changes, every pass returns, files
every event it claims and keeps the bound on attempts, if and only if every
event claimed along the way delivers. -/
theorem passes_are_fine_iff (keyed : t.Keyed)
    (new : t.attempts = [] ∧ t.consumers = [] ∧ t.deadLetters = []) (labels : List PassStep) :
    (passMachine handlers).Always (PassFine handlers) t labels ↔
      (passMachine handlers).Meets (PassDelivers handlers) t labels :=
  Machine.always_iff_meets (fun _ _ _ => step_orderly) (fun _ _ _ => step_fine)
    (fun _ _ _ orderly _ => delivers_of_fine orderly) (fun _ label => by cases label <;> exact ⟨_, rfl⟩)
    (orderly_of_new keyed new)

end

end

section Sample

attribute [local instance] Unicode.ascii

/-- Handlers that return, while time stands still. -/
private def calm : Surroundings := ⟨fun _ _ => .ok (), fun _ => 0⟩

/-- One event on file, then a pass. -/
private def calmPass : List PassStep :=
  [.world (.registry [batchSubmittedContract]), .world (.write batchSubmittedRequest),
    .pass calm relayRequest]

/-- The pass dispatches the event. -/
theorem calm_pass_is_fine :
    ((passMachine auditHandlers).run (.empty 0) calmPass).map
      (fun t => t.outbox.map EventOutbox.status) = some [.dispatched] ∧
    (passMachine auditHandlers).Always (PassFine auditHandlers) (.empty 0) calmPass := by
  have facts : ((passMachine auditHandlers).run (.empty 0) calmPass).map
      (fun t => t.outbox.map EventOutbox.status) = some [.dispatched] ∧
      (passMachine auditHandlers).Meets (PassDelivers auditHandlers) (.empty 0) calmPass := by
    decide +kernel
  exact ⟨facts.1, (passes_are_fine_iff Tables.empty_keyed ⟨rfl, rfl, rfl⟩ calmPass).mpr facts.2⟩

/-- The contract is deactivated before the event is dispatched. -/
private def deactivated : List PassStep :=
  [.world (.registry [batchSubmittedContract]), .world (.write batchSubmittedRequest),
    .world (.registry [{ batchSubmittedContract with isActive := false }])]

/-- The pass that claims the event raises, and leaves it locked. -/
theorem deactivated_contract_aborts_pass :
    ¬ (passMachine auditHandlers).Always (PassFine auditHandlers) (.empty 0)
      (deactivated ++ [.pass calm relayRequest]) := by
  intro always
  have raises : ((passMachine auditHandlers).run (.empty 0) deactivated).map
      (fun t => (runPass auditHandlers calm relayRequest t).1.isOk) = some false := by
    decide +kernel
  obtain ⟨t, ran, raised⟩ := Option.map_eq_some_iff.mp raises
  obtain ⟨n, returned⟩ := ((always.at_step ran rfl).1 calm relayRequest rfl).1
  rw [returned] at raised
  cases raised

end Sample

end Darasa.Events
