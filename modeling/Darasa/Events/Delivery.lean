import Darasa.Events.Interleaving

/-!
Delivery to every consumer.

An event and each of its consumers have a status of their own, coupled only by
the skip rule: a consumer found `started` or `processed` is skipped.  So a
dispatched event owes its consumers two things: no check took a handler that
never finished for one in flight, and no late failure report overwrote a
`processed` that somebody counts on.  `Undisturbed` states both at the statement
where they can go wrong; under it a dispatched event was handled by every
consumer (`dispatched_reaches_every_consumer`).  A crash between the `started`
row and the handler breaks the first one (`crashed_consumer_is_skipped`).
-/

namespace Darasa.Events

open Darasa (Outcome Exn Json Unicode Interface Program System Pool Happening)

variable {W : Type} [DecidableEq W]

/-- No check finds a consumer `started`, and a failure recorded over `processed`
neither concerns a dispatched event nor a worker that settled the consumer and
still has the event. -/
def Undisturbed : System.Restriction statements Exn Tables Choice Ledger W
  | _, .checkConsumer event consumer, _, p =>
    (p.shared.consumer? event consumer).map EventConsumerState.status ≠ some .started
  | w, .updateConsumer event consumer (.failed _), _, p =>
    p.shared.Processed event consumer →
      (∀ row ∈ p.shared.outbox, row.id = event → row.status ≠ .dispatched) ∧
        ∀ other, other ≠ w → ∀ ledger ∈ p.records other, (event, consumer) ∉ ledger.settled
  | _, _, _, _ => True

instance [Fintype W] (w : W) (choice : Choice) (p : RelayPool W) :
    (op : statements.Op) → Decidable (Undisturbed w op choice p)
  | .checkConsumer _ _ => instDecidableNot
  | .updateConsumer event consumer (.failed _) =>
    (inferInstance : Decidable (p.shared.Processed event consumer →
      (∀ row ∈ p.shared.outbox, row.id = event → row.status ≠ .dispatched) ∧
        ∀ other, other ≠ w → ∀ ledger ∈ p.records other, (event, consumer) ∉ ledger.settled))
  | .updateConsumer _ _ (.processed _) => isTrue trivial
  | .timezoneNow | .selectContract _ _ | .outboxKeyExists _ | .insertOutbox _
  | .selectCandidates _ _ | .lockSelected _ _ _ | .selectLocked _ | .countAttempts _
  | .insertAttempt _ | .updateAttempt _ _ _ _ | .getConsumer _ _ | .consumerExists _ _
  | .insertConsumer _ | .callHandler _ _ | .updateEvent _ _ | .deadLetterExists _
  | .insertDeadLetter _ => isTrue trivial

/-! ## The invariant -/

/-- A worker's instances have the type of their rows, and what it settled is
processed. -/
structure Accounts (t : Tables) (ledger : Ledger) : Prop where
  loaded : ∀ event ∈ ledger.loaded, event.id < t.nextId ∧
    ∀ row ∈ t.outbox, row.id = event.id → row.eventType = event.eventType
  settled : ∀ pair ∈ ledger.settled, t.Processed pair.1 pair.2

/-- Every worker accounts for its consumers, and so does every dispatched event. -/
structure Delivered (handlers : Handlers) (t : Tables) (records : W → Option Ledger) : Prop where
  keyed : t.Keyed
  accounts : ∀ w ledger, records w = some ledger → Accounts t ledger
  dispatched : ∀ row ∈ t.outbox, row.status = .dispatched →
    ∀ consumer ∈ handlers.getHandlers row.eventType, t.Processed row.id consumer

variable {handlers : Handlers} {t t' : Tables} {ledger ledger' : Ledger}
  {records : W → Option Ledger} {w : W} {statement : Statement} {choice : Choice}

theorem accounts_blank : Accounts t Ledger.blank := ⟨by simp [Ledger.blank], by simp [Ledger.blank]⟩

theorem Delivered.update (delivered : Delivered handlers t records) (own : Accounts t ledger) :
    Delivered handlers t (Function.update records w (some ledger)) where
  keyed := delivered.keyed
  accounts v ledger' busy := by
    by_cases same : v = w
    · subst same
      rw [Function.update_self] at busy
      cases busy
      exact own
    · rw [Function.update_of_ne same] at busy
      exact delivered.accounts v ledger' busy
  dispatched := delivered.dispatched

theorem Delivered.drop (delivered : Delivered handlers t records) :
    Delivered handlers t (Function.update records w none) where
  keyed := delivered.keyed
  accounts v ledger busy := by
    by_cases same : v = w
    · subst same
      simp at busy
    · rw [Function.update_of_ne same] at busy
      exact delivered.accounts v ledger busy
  dispatched := delivered.dispatched

/-- Instances keep the type of their rows through a statement. -/
private theorem loaded_execute (accounts : Accounts t ledger) :
    ∀ event ∈ ledger.loaded, event.id < (execute statement choice t).2.nextId ∧
      ∀ row ∈ (execute statement choice t).2.outbox, row.id = event.id →
        row.eventType = event.eventType := by
  intro event member
  obtain ⟨old, type⟩ := accounts.loaded event member
  refine ⟨old.trans_le execute_nextId, fun row here same => ?_⟩
  obtain ⟨before, there, id, sameType, -⟩ := row_of_execute here (.inl (same ▸ old))
  rw [← sameType]
  exact type before there (id.trans same)

/-- What a worker settled stays settled through anyone's statement that is no
failure of it. -/
private theorem settled_execute (accounts : Accounts t ledger)
    (kept : ∀ pair ∈ ledger.settled, ∀ reason,
      statement ≠ .updateConsumer pair.1 pair.2 (.failed reason)) :
    Accounts (execute statement choice t).2 ledger :=
  ⟨loaded_execute accounts, fun pair member =>
    processed_execute (accounts.settled pair member) (kept pair member)⟩

omit [DecidableEq W] in
/-- A worker accounts for its own statement. -/
private theorem own_accounts {p : RelayPool W} (keyed : p.shared.Keyed)
    (accounts : Accounts p.shared ledger) (undisturbed : Undisturbed w statement choice p) :
    Accounts (execute statement choice p.shared).2
      (ledger.after statement (execute statement choice p.shared).1) := by
  have quiet (other : ∀ event consumer reason,
      statement ≠ .updateConsumer event consumer (.failed reason)) :
      Accounts (execute statement choice p.shared).2 ledger :=
    settled_execute accounts fun pair _ => other pair.1 pair.2
  cases statement with
  | lockSelected ids now name =>
    exact ⟨fun event member => loaded_execute accounts event member, by simp [Ledger.after]⟩
  | selectLocked ids =>
    refine ⟨fun event member => ?_, accounts.settled⟩
    simp only [Ledger.after, execute, List.mem_insertionSort] at member
    have here := List.mem_of_mem_filter member
    refine ⟨keyed.fresh event here, fun row there same => ?_⟩
    rw [List.inj_on_of_nodup_map keyed.distinct there here same]
  | checkConsumer event consumer =>
    simp only [Ledger.after]
    split
    next skipped =>
      refine ⟨accounts.loaded, fun pair member => ?_⟩
      rcases List.mem_cons.mp member with rfl | old
      · -- not `started`, so skipped means processed
        have open_ : (p.shared.consumer? event consumer).map EventConsumerState.status ≠
          some .started := undisturbed
        have skip : shouldSkipConsumer ((p.shared.consumer? event consumer).map
          EventConsumerState.status) = true := skipped
        show (p.shared.consumer? event consumer).map EventConsumerState.status = some .processed
        revert open_ skip
        rcases (p.shared.consumer? event consumer).map EventConsumerState.status with _ | status
        · simp [shouldSkipConsumer]
        · cases status <;> simp [shouldSkipConsumer]
      · exact accounts.settled pair old
    next => exact ⟨accounts.loaded, accounts.settled⟩
  | updateConsumer event consumer change =>
    cases found : p.shared.consumer? event consumer with
    | none =>
      have missed : execute (.updateConsumer event consumer change) choice p.shared =
        (false, p.shared) := if_neg (by simp [found])
      rw [missed]
      cases change <;> exact accounts
    | some state =>
      have hit : execute (.updateConsumer event consumer change) choice p.shared =
        (true, p.shared.changeConsumer event consumer change) := if_pos (by simp [found])
      have still (pair : ℕ × String) (member : pair ∈ ledger.settled)
          (kept : ∀ reason, Statement.updateConsumer event consumer change ≠
            .updateConsumer pair.1 pair.2 (.failed reason)) :
          (p.shared.changeConsumer event consumer change).Processed pair.1 pair.2 := by
        have after : (execute (.updateConsumer event consumer change) choice
            p.shared).2.Processed pair.1 pair.2 :=
          processed_execute (accounts.settled pair member) kept
        rwa [hit] at after
      rw [hit]
      cases change with
      | processed at_ =>
        refine ⟨accounts.loaded, fun pair member => ?_⟩
        rcases List.mem_cons.mp member with rfl | old
        · rw [Tables.Processed, Tables.consumer_update, if_pos ⟨rfl, rfl⟩, found]
          rfl
        · exact still pair old (by simp)
      | failed reason =>
        refine ⟨accounts.loaded, fun pair member => ?_⟩
        obtain ⟨old, differs⟩ := List.mem_filter.mp member
        refine still pair old fun reason' same => ?_
        simp only [Statement.updateConsumer.injEq] at same
        obtain ⟨rfl, rfl, -⟩ := same
        simp at differs
  | updateEvent event change =>
    have still : Accounts (execute (.updateEvent event change) choice p.shared).2 ledger :=
      quiet (by simp)
    cases found : (p.shared.event? event).isSome with
    | false =>
      have missed : execute (.updateEvent event change) choice p.shared = (false, p.shared) :=
        if_neg (by simp [found])
      rw [missed]
      exact accounts
    | true =>
      have hit : execute (.updateEvent event change) choice p.shared =
        (true, p.shared.changeEvent event change) := if_pos found
      rw [hit] at still ⊢
      exact ⟨still.loaded, fun pair member => still.settled pair (List.mem_of_mem_filter member)⟩
  | selectCandidates now limit => exact ⟨accounts.loaded, accounts.settled⟩
  | _ => exact quiet (by simp)

omit [DecidableEq W] in
/-- An event marked dispatched by a complete ledger was handled by everyone. -/
private theorem dispatched_execute (delivered : Delivered handlers t records)
    (accounts : Accounts t ledger) (allows : ledger.Allows handlers statement)
    (kept : ∀ event consumer reason, statement = .updateConsumer event consumer (.failed reason) →
      t.Processed event consumer → ∀ row ∈ t.outbox, row.id = event → row.status ≠ .dispatched) :
    ∀ row ∈ (execute statement choice t).2.outbox, row.status = .dispatched →
      ∀ consumer ∈ handlers.getHandlers row.eventType,
        (execute statement choice t).2.Processed row.id consumer := by
  intro row member dispatched consumer registered
  have noInsert (new : EventOutbox) : statement ≠ .insertOutbox new := by
    rintro rfl
    exact allows
  obtain ⟨before, here, id, type, was⟩ := row_of_execute member (.inr noInsert)
  rcases was dispatched with already | ⟨at_, rfl⟩
  · have processed := delivered.dispatched before here already consumer (type ▸ registered)
    rw [id] at processed
    refine processed_execute processed fun reason same => ?_
    exact kept _ _ reason same processed before here id already
  · obtain ⟨-, event, loaded, same, complete⟩ := allows
    have sameType := (accounts.loaded event loaded).2 before here (id.trans same.symm)
    refine processed_execute (accounts.settled _ (complete consumer ?_)) (by simp)
    rw [← sameType, type]
    exact registered

/-! ## Every run -/

section

variable [Unicode]

/-- The relay without disturbed checks keeps every account. -/
theorem undisturbed_sound : (relaySystem handlers).Sound (discipline handlers) Undisturbed
    (Delivered (W := W) handlers) where
  after := rfl
  start t records w delivered idle := delivered.update accounts_blank
  stop t records w delivered := delivered.drop
  world t records change t' delivered changed := by
    obtain rfl : change.apply t = t' := by simpa [relaySystem] using changed
    obtain ⟨keyed, grows⟩ := world_grows change delivered.keyed
    refine ⟨keyed, fun w ledger busy => ⟨fun event member => ?_, fun pair member => ?_⟩, ?_⟩
    · obtain ⟨old, type⟩ := (delivered.accounts w ledger busy).loaded event member
      exact ⟨old.trans_le grows.nextId, fun row here same =>
        type row (((grows.same_event old).rows row same).mp here) same⟩
    · exact grows.processed.mpr ((delivered.accounts w ledger busy).settled pair member)
    · intro row member dispatched consumer registered
      rcases grows.added row member with here | ⟨-, pending⟩
      · exact grows.processed.mpr (delivered.dispatched row here dispatched consumer registered)
      · simp [pending] at dispatched
  ask p w ledger statement choice answer t' delivered busy allows undisturbed performed := by
    obtain ⟨rfl, rfl⟩ : (execute statement choice p.shared).1 = answer ∧
        (execute statement choice p.shared).2 = t' := by
      simpa [relaySystem, Prod.ext_iff] using performed
    have accounts := delivered.accounts w ledger busy
    refine ⟨admits_execute delivered.keyed, execute_keyed delivered.keyed, ?_, ?_⟩
    · intro v ledger' busy'
      by_cases same : v = w
      · subst same
        rw [Function.update_self] at busy'
        cases busy'
        exact own_accounts delivered.keyed accounts undisturbed
      · rw [Function.update_of_ne same] at busy'
        have theirs := delivered.accounts v ledger' busy'
        refine settled_execute theirs fun pair member reason issued => ?_
        subst issued
        exact (undisturbed (theirs.settled pair member)).2 v same ledger' busy' member
    · refine dispatched_execute delivered accounts allows fun event consumer reason issued => ?_
      subst issued
      exact fun processed => (undisturbed processed).1

/-- **A dispatched event reached every consumer.**  In every run of any number
of workers in which no check finds a consumer `started` and no failure is
recorded over a consumer somebody counts on, every handler registered for a
dispatched event has processed it. -/
theorem dispatched_reaches_every_consumer {clock : ℕ} {labels : List (RelayLabel W)}
    {p : RelayPool W}
    (undisturbed : (relaySystem handlers).machine.Meets (System.Respects Undisturbed)
      (System.idle (.empty clock)) labels)
    (ran : (relaySystem handlers).machine.run (System.idle (.empty clock)) labels = some p) :
    ∀ row ∈ p.shared.outbox, row.status = .dispatched →
      ∀ consumer ∈ handlers.getHandlers row.eventType, p.shared.Processed row.id consumer :=
  (undisturbed_sound.of_run dispatch_follows
    (System.guarded_idle ⟨Tables.empty_keyed, by simp, by simp [Tables.empty]⟩)
    undisturbed ran).1.dispatched

end

section Sample

attribute [local instance] Unicode.ascii

/-- One pass whose handler returns. -/
private def onePass : List (RelayLabel (Fin 1)) :=
  oneEvent ++ .start 0 relayRequest :: statementsOf 0 21

/-- One pass dispatches the event, and its consumer processed it. -/
theorem one_pass_reaches_every_consumer :
    ((relaySystem auditHandlers).machine.run (System.idle (.empty 0)) onePass).map
      (fun p => p.shared.outbox.map EventOutbox.status) = some [.dispatched] ∧
    ∀ p, (relaySystem auditHandlers).machine.run (System.idle (.empty 0)) onePass = some p →
      ∀ row ∈ p.shared.outbox, row.status = .dispatched →
        ∀ consumer ∈ auditHandlers.getHandlers row.eventType,
          p.shared.Processed row.id consumer := by
  have facts : ((relaySystem auditHandlers).machine.run (System.idle (.empty 0)) onePass).map
      (fun p => p.shared.outbox.map EventOutbox.status) = some [.dispatched] ∧
      (relaySystem auditHandlers).machine.Meets (System.Respects Undisturbed)
        (System.idle (.empty 0)) onePass := by
    decide +kernel
  exact ⟨facts.1, fun _ ran => dispatched_reaches_every_consumer facts.2 ran⟩

/-- The worker dies between the `started` row and the handler call, and a
second pass comes after the lock expired. -/
private def crashedPass : List (RelayLabel (Fin 1)) :=
  oneEvent ++ .start 0 relayRequest :: statementsOf 0 12 ++
    [.crash 0, .world (.tick (seconds 301)), .start 0 relayRequest] ++ statementsOf 0 14

/-- The event is dispatched though its only consumer never got past `started`. -/
theorem crashed_consumer_is_skipped :
    ¬ ∀ p, (relaySystem auditHandlers).machine.run (System.idle (.empty 0)) crashedPass = some p →
      ∀ row ∈ p.shared.outbox, row.status = .dispatched →
        ∀ consumer ∈ auditHandlers.getHandlers row.eventType,
          p.shared.Processed row.id consumer := by
  intro reached
  have facts : ((relaySystem auditHandlers).machine.run (System.idle (.empty 0)) crashedPass).map
      (fun p => (p.shared.outbox.map fun row => (row.id, row.eventType, row.status),
        decide (p.shared.Processed 0 "audit"))) =
      some ([(0, "grading.batch_submitted", .dispatched)], false) := by decide +kernel
  obtain ⟨p, ran, facts⟩ := Option.map_eq_some_iff.mp facts
  obtain ⟨rows, skipped⟩ := Prod.mk.inj facts
  obtain ⟨row, member, shape⟩ := List.mem_map.mp
    (rows ▸ List.mem_singleton_self _ : (0, "grading.batch_submitted", OutboxStatus.dispatched) ∈
      p.shared.outbox.map fun row => (row.id, row.eventType, row.status))
  obtain ⟨id, type, status⟩ : row.id = 0 ∧ row.eventType = "grading.batch_submitted" ∧
      row.status = .dispatched := by simpa using shape
  have processed := reached p ran row member status "audit" (by rw [type]; decide)
  rw [id] at processed
  exact absurd processed (of_decide_eq_false skipped)

end Sample

end Darasa.Events
