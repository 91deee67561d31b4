import Darasa.Events.Relay

/-!
What each statement leaves alone.

`Touches` names the events whose outbox row or consumer states a statement can
change; `execute_frame` says that nothing else about the events changes.  With
the two equations for consumer states (`consumer_insert`, `consumer_update`)
this is all the invariants of the relay use of `execute`.
-/

namespace Darasa.Events

open Darasa (Outcome Exn Json Unicode Interface Program System Pool Happening)

namespace Tables

/-- The primary key of the outbox: identifiers are distinct and drawn from the
counter. -/
structure Keyed (t : Tables) : Prop where
  distinct : (t.outbox.map EventOutbox.id).Nodup
  fresh : ∀ row ∈ t.outbox, row.id < t.nextId

/-- The consumer's state on the event is `processed`. -/
def Processed (t : Tables) (event : ℕ) (consumer : String) : Prop :=
  (t.consumer? event consumer).map EventConsumerState.status = some .processed

instance (t : Tables) (event : ℕ) (consumer : String) : Decidable (t.Processed event consumer) :=
  inferInstanceAs (Decidable (_ = _))

theorem empty_keyed {clock : ℕ} : (empty clock).Keyed := ⟨List.nodup_nil, by simp [empty]⟩

variable {t : Tables} {event other : ℕ} {consumer name : String}

theorem insert_keyed {row : EventOutbox} (keyed : t.Keyed) : (t.insertEvent row).Keyed := by
  constructor
  · simp only [insertEvent, List.map_append, List.map_cons, List.map_nil, List.nodup_append]
    refine ⟨keyed.distinct, by simp, ?_⟩
    rintro id old _ new rfl
    obtain ⟨row, member, rfl⟩ := List.mem_map.mp old
    have := keyed.fresh row member
    simp only [List.mem_singleton] at new
    omega
  · intro row member
    simp only [insertEvent, List.mem_append, List.mem_singleton] at member ⊢
    rcases member with old | rfl
    · exact Nat.lt_succ_of_lt (keyed.fresh row old)
    · exact Nat.lt_succ_self _

/-- Rewriting rows in place keeps the key. -/
theorem Keyed.map {outbox : List EventOutbox} {f : EventOutbox → EventOutbox}
    (keyed : t.Keyed) (mapped : outbox = t.outbox.map f) (same : ∀ row, (f row).id = row.id) :
    Keyed { t with outbox := outbox } := by
  subst mapped
  constructor
  · have ids : (t.outbox.map f).map EventOutbox.id = t.outbox.map EventOutbox.id := by
      simp [same]
    simpa only [ids] using keyed.distinct
  · intro row member
    obtain ⟨old, here, rfl⟩ := List.mem_map.mp member
    exact same old ▸ keyed.fresh old here

/-! ### Consumer states -/

theorem consumer_some {state : EventConsumerState} (found : t.consumer? event consumer = some state) :
    state.event = event ∧ state.consumerName = consumer := by
  have := List.find?_some found
  simpa using this

/-- A new consumer state is found under its own key only. -/
theorem consumer_insert {row : EventConsumerState}
    (free : t.consumer? row.event row.consumerName = none) :
    consumer? { t with consumers := t.consumers ++ [row] } event consumer =
      if event = row.event ∧ consumer = row.consumerName then some row
      else t.consumer? event consumer := by
  unfold consumer? at free ⊢
  rw [List.find?_append]
  by_cases here : event = row.event ∧ consumer = row.consumerName
  · obtain ⟨rfl, rfl⟩ := here
    simp [free]
  · rw [if_neg here]
    have differs : (row.event == event && row.consumerName == consumer) = false := by
      refine Bool.eq_false_iff.mpr fun same => here ?_
      simp only [Bool.and_eq_true, beq_iff_eq] at same
      exact ⟨same.1.symm, same.2.symm⟩
    simp [differs]

/-- A change to a consumer state is seen under its key only. -/
theorem consumer_update {change : ConsumerChange} :
    (t.changeConsumer other name change).consumer? event consumer =
      if event = other ∧ consumer = name then (t.consumer? event consumer).map change.apply
      else t.consumer? event consumer := by
  unfold consumer? changeConsumer
  rw [List.find?_map]
  have keeps : (fun state : EventConsumerState => state.event == event &&
        state.consumerName == consumer) ∘ (fun row : EventConsumerState =>
        if row.event = other ∧ row.consumerName = name then change.apply row else row) =
      fun state => state.event == event && state.consumerName == consumer := by
    funext row
    simp only [Function.comp_apply]
    split <;> cases change <;> rfl
  rw [keeps]
  cases found : t.consumers.find? fun state =>
    state.event == event && state.consumerName == consumer with
  | none => simp
  | some state =>
    obtain ⟨rfl, rfl⟩ : state.event = event ∧ state.consumerName = consumer := by
      simpa using List.find?_some found
    simp only [Option.map_some]
    split <;> simp_all

end Tables

/-! ## Frames -/

/-- The statement can change the event's row or its consumers' states. -/
def Statement.Touches : Statement → ℕ → Prop
  | .lockSelected ids _ _, event => event ∈ ids
  | .insertConsumer row, event => row.event = event
  | .updateConsumer other _ _, event => other = event
  | .updateEvent other _, event => other = event
  | _, _ => False

/-- The tables agree on an event: its rows and its consumers' states. -/
structure Tables.SameEvent (t t' : Tables) (event : ℕ) : Prop where
  rows : ∀ row, row.id = event → (row ∈ t'.outbox ↔ row ∈ t.outbox)
  consumers : ∀ consumer, t'.consumer? event consumer = t.consumer? event consumer

variable {t : Tables} {statement : Statement} {choice : Choice} {event : ℕ}

theorem Tables.SameEvent.refl : t.SameEvent t event := ⟨fun _ _ => Iff.rfl, fun _ => rfl⟩

theorem Tables.SameEvent.insert {row : EventOutbox} (old : event < t.nextId) :
    t.SameEvent (t.insertEvent row) event := by
  refine ⟨fun row here => ?_, fun _ => rfl⟩
  simp only [Tables.insertEvent, List.mem_append, List.mem_singleton, or_iff_left_iff_imp]
  rintro rfl
  exact absurd here old.ne'

theorem execute_nextId : t.nextId ≤ (execute statement choice t).2.nextId := by
  cases statement <;> simp only [execute] <;> try split
  all_goals simp [Tables.insertEvent, Tables.changeConsumer, Tables.changeEvent]

/-- Every statement keeps the outbox's key. -/
theorem execute_keyed (keyed : t.Keyed) : (execute statement choice t).2.Keyed := by
  cases statement with
  | insertOutbox row =>
    simp only [execute]
    split
    · exact keyed
    · exact Tables.insert_keyed keyed
  | lockSelected ids now name => exact keyed.map rfl fun row => by split <;> rfl
  | updateEvent event change =>
    simp only [execute]
    split
    · exact keyed.map rfl fun row => by split <;> simp
    · exact keyed
  | updateConsumer event consumer change =>
    simp only [execute]
    split
    · exact ⟨keyed.distinct, keyed.fresh⟩
    · exact keyed
  | insertAttempt row =>
    exact ⟨keyed.distinct, fun row member => Nat.lt_succ_of_lt (keyed.fresh row member)⟩
  | insertConsumer row => simp only [execute]; split <;> exact ⟨keyed.distinct, keyed.fresh⟩
  | insertDeadLetter row => simp only [execute]; split <;> exact ⟨keyed.distinct, keyed.fresh⟩
  | _ => exact ⟨keyed.distinct, keyed.fresh⟩

private theorem same_event_of_map {f : EventOutbox → EventOutbox}
    (ids : ∀ row, (f row).id = row.id) (leaves : ∀ row, row.id = event → f row = row) :
    t.SameEvent { t with outbox := t.outbox.map f } event := by
  refine ⟨fun row here => ?_, fun _ => rfl⟩
  rw [List.mem_map]
  constructor
  · rintro ⟨old, member, rfl⟩
    rwa [leaves old (ids old ▸ here)]
  · exact fun member => ⟨row, member, leaves row here⟩

/-- **The frame rule.**  A statement leaves every event it does not touch. -/
theorem execute_frame (old : event < t.nextId) (untouched : ¬ statement.Touches event) :
    t.SameEvent (execute statement choice t).2 event := by
  cases statement with
  | insertOutbox row =>
    simp only [execute]
    split
    · exact .refl
    · exact Tables.SameEvent.insert old
  | lockSelected ids now name =>
    refine same_event_of_map (fun row => by split <;> rfl) fun row here => if_neg ?_
    rw [here, List.contains_iff_mem]
    exact untouched
  | updateEvent other change =>
    simp only [execute]
    split
    · refine same_event_of_map (fun row => by split <;> simp) fun row here => if_neg ?_
      exact fun same => untouched (same.symm.trans here)
    · exact .refl
  | insertConsumer row =>
    simp only [execute]
    split
    · exact .refl
    next free =>
      refine ⟨fun _ _ => Iff.rfl, fun consumer => ?_⟩
      rw [Tables.consumer_insert (by simpa using free), if_neg]
      exact fun same => untouched same.1.symm
  | updateConsumer other name change =>
    simp only [execute]
    split
    · refine ⟨fun _ _ => Iff.rfl, fun consumer => ?_⟩
      exact Tables.consumer_update.trans (if_neg fun same => untouched same.1.symm)
    · exact .refl
  | insertDeadLetter row => simp only [execute]; split <;> exact ⟨fun _ _ => Iff.rfl, fun _ => rfl⟩
  | _ => exact ⟨fun _ _ => Iff.rfl, fun _ => rfl⟩

/-- Only a recorded failure takes `processed` back. -/
theorem processed_execute {consumer : String} (processed : t.Processed event consumer)
    (kept : ∀ reason, statement ≠ .updateConsumer event consumer (.failed reason)) :
    (execute statement choice t).2.Processed event consumer := by
  cases statement with
  | insertConsumer row =>
    simp only [execute]
    split
    · exact processed
    next free =>
      have none : t.consumer? row.event row.consumerName = none := by simpa using free
      rw [Tables.Processed, Tables.consumer_insert none]
      split
      next same =>
        obtain ⟨rfl, rfl⟩ := same
        simp [Tables.Processed, none] at processed
      · exact processed
  | updateConsumer other name change =>
    simp only [execute]
    split
    · rw [Tables.Processed, Tables.consumer_update]
      split
      next same =>
        obtain ⟨rfl, rfl⟩ := same
        cases change with
        | failed reason => exact absurd rfl (kept reason)
        | processed at_ =>
          rw [Tables.Processed] at processed
          cases found : t.consumer? event consumer with
          | none => simp [found] at processed
          | some state => rfl
      · exact processed
    · exact processed
  | insertOutbox row => simp only [execute]; split <;> exact processed
  | updateEvent other change => simp only [execute]; split <;> exact processed
  | insertDeadLetter row => simp only [execute]; split <;> exact processed
  | _ => exact processed

/-- A row that is not new comes from a row of the same event and type, which was
as dispatched unless this statement marked it so. -/
theorem row_of_execute {row : EventOutbox} (member : row ∈ (execute statement choice t).2.outbox)
    (old : row.id < t.nextId ∨ ∀ new, statement ≠ .insertOutbox new) :
    ∃ before ∈ t.outbox, before.id = row.id ∧ before.eventType = row.eventType ∧
      (row.status = .dispatched → before.status = .dispatched ∨
        ∃ at_, statement = .updateEvent row.id (.dispatched at_)) := by
  have same (here : row ∈ t.outbox) : ∃ before ∈ t.outbox, before.id = row.id ∧
      before.eventType = row.eventType ∧ (row.status = .dispatched →
        before.status = .dispatched ∨ ∃ at_, statement = .updateEvent row.id (.dispatched at_)) :=
    ⟨row, here, rfl, rfl, .inl⟩
  cases statement with
  | insertOutbox new =>
    simp only [execute] at member
    split at member
    · exact same member
    · simp only [Tables.insertEvent, List.mem_append, List.mem_singleton] at member
      rcases member with here | rfl
      · exact same here
      · exact absurd rfl (old.resolve_left (Nat.lt_irrefl _) new)
  | lockSelected ids now name =>
    obtain ⟨before, here, rfl⟩ := List.mem_map.mp member
    refine ⟨before, here, by split <;> rfl, by split <;> rfl, ?_⟩
    split
    · simp
    · exact .inl
  | updateEvent other change =>
    simp only [execute] at member
    split at member
    · obtain ⟨before, here, rfl⟩ := List.mem_map.mp member
      refine ⟨before, here, by split <;> simp, by split <;> simp, fun dispatched => ?_⟩
      split at dispatched
      next mine =>
        cases change with
        | dispatched at_ => exact .inr ⟨at_, by simp [mine]⟩
        | _ => simp [OutboxChange.status] at dispatched
      · exact .inl dispatched
    · exact same member
  | insertConsumer row => simp only [execute] at member; split at member <;> exact same member
  | updateConsumer => simp only [execute] at member; split at member <;> exact same member
  | insertDeadLetter row => simp only [execute] at member; split at member <;> exact same member
  | _ => exact same member

/-! ### The outside world -/

/-- What the outside world can do to the events. -/
structure Tables.Grows (t t' : Tables) : Prop where
  nextId : t.nextId ≤ t'.nextId
  consumers : t'.consumers = t.consumers
  kept : ∀ row ∈ t.outbox, row ∈ t'.outbox
  added : ∀ row ∈ t'.outbox, row ∈ t.outbox ∨ (row.id = t.nextId ∧ row.status = .pending)

/-- A new event is not an old one. -/
theorem Tables.Grows.same_event {t' : Tables} (grows : t.Grows t') (old : event < t.nextId) :
    t.SameEvent t' event := by
  refine ⟨fun row here => ⟨fun member => ?_, grows.kept row⟩, fun consumer => ?_⟩
  · rcases grows.added row member with there | ⟨new, -⟩
    · exact there
    · exact absurd (here ▸ new ▸ old) (Nat.lt_irrefl _)
  · rw [Tables.consumer?, grows.consumers, ← Tables.consumer?]

theorem Tables.Grows.processed {t' : Tables} (grows : t.Grows t') {consumer : String} :
    t'.Processed event consumer ↔ t.Processed event consumer := by
  rw [Tables.Processed, Tables.consumer?, grows.consumers, ← Tables.consumer?, ← Tables.Processed]

section

variable [Unicode]

/-- The outside world only adds events. -/
theorem world_grows (change : OutboxWorld) (keyed : t.Keyed) :
    (change.apply t).Keyed ∧ t.Grows (change.apply t) := by
  cases change with
  | write request =>
    simp only [OutboxWorld.apply]
    rcases write_outbox_event_run request t with ⟨e, ran⟩ | ⟨row, pending, -, -, ran⟩
    · rw [ran]
      exact ⟨keyed, le_rfl, rfl, fun _ here => here, fun _ here => .inl here⟩
    · rw [ran]
      refine ⟨Tables.insert_keyed keyed, Nat.le_succ _, rfl, fun _ here => ?_, fun new member => ?_⟩
      · exact List.mem_append_left _ here
      · simp only [Tables.insertEvent, List.mem_append, List.mem_singleton] at member
        rcases member with here | rfl
        · exact .inl here
        · exact .inr ⟨rfl, pending⟩
  | _ =>
    exact ⟨⟨keyed.distinct, keyed.fresh⟩, le_rfl, rfl, fun _ here => here, fun _ here => .inl here⟩

end

end Darasa.Events
