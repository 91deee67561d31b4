import Darasa.Events.Frames
import Mathlib.Data.Fintype.Basic

/-!
Concurrent relay workers.

Claiming is a `SELECT`, a plan and an unconditional `UPDATE`, so a worker can
lock rows that stopped being ready in between, and an expired lock can be taken
from a worker that is merely slow.  `Uncontended` says that neither happens at a
claim; under it the invariant `Owned` holds of every reachable pool: the events
a worker has in hand are locked by its own claim and in nobody else's hand, and
the consumers it is about to call are not processed.  The three laws of the
relay follow (`relay_workers_keep_apart`).  Without the condition they fail
(`stale_claims_collide`).
-/

namespace Darasa.Events

open Darasa (Outcome Exn Json Unicode Interface Program System Pool Happening)

variable {W : Type} [DecidableEq W]

/-- The pool of relay workers. -/
abbrev RelayPool (W : Type) := Pool statements Exn Tables Ledger W

/-- The labels of the relay. -/
abbrev RelayLabel (W : Type) := Happening Choice OutboxWorld PassRequest W

/-! ## The condition -/

/-- At its `UPDATE`, every row a worker selected is still ready by its plan, and
no worker at work has it in hand. -/
def Uncontended : System.Restriction statements Exn Tables Choice Ledger W
  | w, .lockSelected ids now _, _, p =>
    (∀ row ∈ p.shared.outbox, row.id ∈ ids → isReady now row = true) ∧
      ∀ other, other ≠ w → ∀ ledger ∈ p.records other, ∀ id ∈ ids, id ∉ ledger.hand
  | _, _, _, _ => True

instance [Fintype W] (w : W) (op : statements.Op) (choice : Choice) (p : RelayPool W) :
    Decidable (Uncontended w op choice p) := by
  unfold Uncontended
  split <;> infer_instance

/-! ## The invariant -/

/-- The tables bear a worker's ledger out. -/
structure Bears (t : Tables) (ledger : Ledger) : Prop where
  known : ∀ row ∈ ledger.known, row.id < t.nextId
  hand : ∀ id ∈ ledger.hand, id < t.nextId
  locked : ∀ row ∈ t.outbox, row.id ∈ ledger.hand →
    row.status = .locked ∧ row.lockedAt = some ledger.claimedAt
  begun : ∀ pair ∈ ledger.begun, pair.1 ∈ ledger.hand ∧ ¬ t.Processed pair.1 pair.2

/-- Every worker's ledger is borne out, and no event is in two hands. -/
structure Owned (t : Tables) (records : W → Option Ledger) : Prop where
  keyed : t.Keyed
  bears : ∀ w ledger, records w = some ledger → Bears t ledger
  apart : ∀ w other ledger ledger', w ≠ other → records w = some ledger →
    records other = some ledger' → ∀ id ∈ ledger.hand, id ∉ ledger'.hand

variable {t t' : Tables} {ledger ledger' : Ledger} {records : W → Option Ledger} {w : W}

theorem bears_blank : Bears t Ledger.blank :=
  ⟨by simp [Ledger.blank], by simp [Ledger.blank], by simp [Ledger.blank], by simp [Ledger.blank]⟩

/-- A ledger goes on being borne out where its events are left alone. -/
theorem Bears.of_frame (bears : Bears t ledger) (grows : t.nextId ≤ t'.nextId)
    (frame : ∀ id ∈ ledger.hand, t.SameEvent t' id) : Bears t' ledger where
  known row member := (bears.known row member).trans_le grows
  hand id inHand := (bears.hand id inHand).trans_le grows
  locked row member inHand :=
    bears.locked row (((frame _ inHand).rows row rfl).mp member) inHand
  begun pair member := by
    obtain ⟨inHand, open_⟩ := bears.begun pair member
    refine ⟨inHand, ?_⟩
    rwa [Tables.Processed, (frame _ inHand).consumers]

/-- One worker's ledger replaced, its hand within what is nobody else's. -/
theorem Owned.update (owned : Owned t records) (keyed : t'.Keyed) (own : Bears t' ledger')
    (others : ∀ other ledger, other ≠ w → records other = some ledger → Bears t' ledger)
    (free : ∀ other ledger, other ≠ w → records other = some ledger →
      ∀ id ∈ ledger'.hand, id ∉ ledger.hand) :
    Owned t' (Function.update records w (some ledger')) where
  keyed := keyed
  bears v ledger busy := by
    by_cases same : v = w
    · subst same
      rw [Function.update_self] at busy
      cases busy
      exact own
    · exact others v ledger same (by rwa [Function.update_of_ne same] at busy)
  apart v other ledger₁ ledger₂ differs busy₁ busy₂ id inHand := by
    by_cases same : v = w
    · subst same
      rw [Function.update_self] at busy₁
      cases busy₁
      rw [Function.update_of_ne differs.symm] at busy₂
      exact free other ledger₂ differs.symm busy₂ id inHand
    · rw [Function.update_of_ne same] at busy₁
      by_cases same' : other = w
      · subst same'
        rw [Function.update_self] at busy₂
        cases busy₂
        exact fun both => free v ledger₁ same busy₁ id both inHand
      · rw [Function.update_of_ne same'] at busy₂
        exact owned.apart v other ledger₁ ledger₂ differs busy₁ busy₂ id inHand

/-- A worker gone. -/
theorem Owned.drop (owned : Owned t records) : Owned t (Function.update records w none) := by
  have still {v : W} {ledger : Ledger} (busy : Function.update records w none v = some ledger) :
      records v = some ledger := by
    by_cases same : v = w
    · subst same
      simp at busy
    · rwa [Function.update_of_ne same] at busy
  exact ⟨owned.keyed, fun v ledger busy => owned.bears v ledger (still busy),
    fun v other ledger ledger' differs busy busy' =>
      owned.apart v other ledger ledger' differs (still busy) (still busy')⟩

/-! ## One statement -/

/-- A worker touches only events it has in hand, or the ones it claims. -/
theorem touches_of_allows {handlers : Handlers} {statement : Statement} {event : ℕ}
    (allows : ledger.Allows handlers statement) (touched : statement.Touches event) :
    event ∈ ledger.hand ∨ ∃ ids now name, statement = .lockSelected ids now name ∧ event ∈ ids := by
  cases statement with
  | lockSelected ids now name => exact .inr ⟨ids, now, name, rfl, touched⟩
  | insertConsumer row => exact .inl (touched ▸ allows.1)
  | updateConsumer other name change => exact .inl (touched ▸ allows)
  | updateEvent other change =>
    cases change with
    | dispatched at_ => exact .inl (touched ▸ allows.1)
    | _ => exact .inl (touched ▸ allows)
  | _ => exact touched.elim

/-- A worker's hand only grows by a claim. -/
theorem hand_after {statement : Statement} {answer : statement.Answer} {event : ℕ}
    (inHand : event ∈ (ledger.after statement answer).hand) :
    event ∈ ledger.hand ∨ ∃ ids now name, statement = .lockSelected ids now name ∧ event ∈ ids := by
  cases statement with
  | lockSelected ids now name => exact .inr ⟨ids, now, name, rfl, inHand⟩
  | checkConsumer other name =>
    simp only [Ledger.after] at inHand
    split at inHand <;> exact .inl inHand
  | updateConsumer other name change => cases change <;> cases answer <;> exact .inl inHand
  | updateEvent other change =>
    cases answer with
    | true => exact .inl (List.mem_of_mem_filter inHand)
    | false => exact .inl inHand
  | _ => exact .inl inHand

/-- The tables after a statement bear its own worker's ledger out. -/
theorem own_bears {handlers : Handlers} {statement : Statement} {choice : Choice}
    (keyed : t.Keyed) (bears : Bears t ledger) (allows : ledger.Allows handlers statement) :
    Bears (execute statement choice t).2 (ledger.after statement (execute statement choice t).1) := by
  have quiet (untouched : ∀ id, ¬ statement.Touches id) :
      Bears (execute statement choice t).2 ledger :=
    bears.of_frame execute_nextId fun id inHand => execute_frame (bears.hand id inHand) (untouched id)
  cases statement with
  | selectCandidates now limit =>
    refine ⟨fun row member => ?_, bears.hand, bears.locked, bears.begun⟩
    have chosen := List.mem_of_mem_take member
    rw [List.mem_insertionSort] at chosen
    exact keyed.fresh row (List.mem_of_mem_filter chosen)
  | lockSelected ids now name =>
    refine ⟨bears.known, fun id chosen => ?_, fun row member inHand => ?_, by simp [Ledger.after]⟩
    · obtain ⟨row, known, rfl⟩ := allows id chosen
      exact bears.known row known
    · obtain ⟨old, -, rfl⟩ := List.mem_map.mp member
      have chosen : ids.contains old.id = true := by
        rw [List.contains_iff_mem]
        have : old.id = (if ids.contains old.id = true then { old with
          status := .locked, lockedAt := some now, lockedBy := name } else old).id := by
          split <;> rfl
        rw [this]
        exact inHand
      rw [if_pos chosen]
      exact ⟨rfl, rfl⟩
  | checkConsumer event consumer =>
    simp only [Ledger.after]
    split
    next => exact ⟨bears.known, bears.hand, bears.locked, bears.begun⟩
    next unskipped =>
      refine ⟨bears.known, bears.hand, bears.locked, fun pair member => ?_⟩
      rcases List.mem_cons.mp member with rfl | old
      · refine ⟨allows, fun processed => unskipped ?_⟩
        have status : (t.consumer? event consumer).map EventConsumerState.status =
          some .processed := processed
        show shouldSkipConsumer ((t.consumer? event consumer).map EventConsumerState.status) = true
        rw [status]
        rfl
      · exact bears.begun pair old
  | insertConsumer row =>
    simp only [execute]
    split
    next => exact bears
    next free =>
      refine ⟨bears.known, bears.hand, bears.locked, fun pair member => ?_⟩
      obtain ⟨inHand, open_⟩ := bears.begun pair member
      refine ⟨inHand, ?_⟩
      rw [Tables.Processed, Tables.consumer_insert (by simpa using free)]
      split
      · simp [allows.2]
      · exact open_
  | updateConsumer event consumer change =>
    have found (other name) : (t.changeConsumer event consumer change).consumer? other name = _ :=
      Tables.consumer_update
    simp only [execute]
    split
    next =>
      cases change with
      | processed at_ =>
        refine ⟨bears.known, bears.hand, bears.locked, fun pair member => ?_⟩
        obtain ⟨old, differs⟩ := List.mem_filter.mp member
        obtain ⟨inHand, open_⟩ := bears.begun pair old
        refine ⟨inHand, ?_⟩
        rw [Tables.Processed, found, if_neg]
        · exact open_
        · rintro ⟨rfl, rfl⟩
          simp at differs
      | failed reason =>
        refine ⟨bears.known, bears.hand, bears.locked, fun pair member => ?_⟩
        obtain ⟨inHand, open_⟩ := bears.begun pair member
        refine ⟨inHand, ?_⟩
        rw [Tables.Processed, found]
        split
        · rcases t.consumer? pair.1 pair.2 with _ | state <;> simp [ConsumerChange.apply]
        · exact open_
    next => cases change <;> exact bears
  | updateEvent event change =>
    cases found : (t.event? event).isSome with
    | false =>
      have missed : execute (.updateEvent event change) choice t = (false, t) :=
        if_neg (by simp [found])
      rw [missed]
      exact bears
    | true =>
      have hit : execute (.updateEvent event change) choice t = (true, t.changeEvent event change) :=
        if_pos found
      rw [hit]
      refine ⟨bears.known, fun id inHand => bears.hand id (List.mem_of_mem_filter inHand),
        fun row member inHand => ?_, fun pair member => ?_⟩
      · obtain ⟨inHand, differs⟩ := List.mem_filter.mp inHand
        have differs : row.id ≠ event := by simpa using differs
        have untouched : ¬ (Statement.updateEvent event change).Touches row.id := differs.symm
        have frame : t.SameEvent (execute (.updateEvent event change) choice t).2 row.id :=
          execute_frame (bears.hand _ inHand) untouched
        rw [hit] at frame
        exact bears.locked row ((frame.rows row rfl).mp member) inHand
      · obtain ⟨old, differs⟩ := List.mem_filter.mp member
        obtain ⟨inHand, open_⟩ := bears.begun pair old
        exact ⟨List.mem_filter.mpr ⟨inHand, differs⟩, open_⟩
  | insertOutbox row => exact allows.elim
  | selectLocked ids => exact ⟨bears.known, bears.hand, bears.locked, bears.begun⟩
  | _ => exact quiet fun _ touched => touched

/-- What a worker may expect as an answer. -/
theorem admits_execute {statement : Statement} {choice : Choice} (keyed : t.Keyed) :
    Admits statement (execute statement choice t).1 := by
  cases statement with
  | selectLocked ids =>
    refine ⟨fun row member => ?_, ?_⟩
    · rw [execute, List.mem_insertionSort] at member
      simpa using (List.mem_filter.mp member).2
    · have sorted := (List.perm_insertionSort (fun a b : EventOutbox => a.occurredAt ≤ b.occurredAt)
        (t.outbox.filter fun row => ids.contains row.id)).map EventOutbox.id
      exact sorted.nodup_iff.mpr (keyed.distinct.sublist (List.filter_sublist.map _))
  | getConsumer event consumer =>
    cases found : t.consumer? event consumer with
    | none => simp [execute, Admits, found]
    | some state =>
      have := Tables.consumer_some found
      simpa [execute, Admits, found] using this
  | _ => trivial

/-! ## Every run -/

section

omit [DecidableEq W] in
/-- A worker at work can be looked up. -/
private theorem records_of_busy {p : RelayPool W} {worker : Worker statements Exn Ledger}
    (busy : p.workers w = some worker) : p.records w = some worker.record := by
  simp [Pool.records, busy]

variable [Unicode] {handlers : Handlers}

/-- Uncontended claims keep the invariant. -/
theorem uncontended_sound :
    (relaySystem handlers).Sound (discipline handlers) Uncontended (Owned (W := W)) where
  after := rfl
  start t records w owned idle :=
    owned.update owned.keyed bears_blank (fun other ledger _ busy => owned.bears other ledger busy)
      (fun _ _ _ _ id inHand => absurd inHand List.not_mem_nil)
  stop t records w owned := owned.drop
  world t records change t' owned changed := by
    obtain rfl : change.apply t = t' := by simpa [relaySystem] using changed
    obtain ⟨keyed, grows⟩ := world_grows change owned.keyed
    refine ⟨keyed, fun w ledger busy => ?_, owned.apart⟩
    have bears := owned.bears w ledger busy
    exact bears.of_frame grows.nextId fun id inHand => grows.same_event (bears.hand id inHand)
  ask p w ledger statement choice answer t' owned busy allows uncontended performed := by
    obtain ⟨rfl, rfl⟩ : (execute statement choice p.shared).1 = answer ∧
        (execute statement choice p.shared).2 = t' := by
      simpa [relaySystem, Prod.ext_iff] using performed
    -- what the statement touches is in nobody else's hand
    have free (event : ℕ) (mine : event ∈ ledger.hand ∨
        ∃ ids now name, statement = .lockSelected ids now name ∧ event ∈ ids) (other : W)
        (ledger' : Ledger) (differs : other ≠ w) (busy' : p.records other = some ledger') :
        event ∉ ledger'.hand := by
      rcases mine with inHand | ⟨ids, now, name, rfl, chosen⟩
      · exact owned.apart w other ledger ledger' differs.symm busy busy' event inHand
      · exact uncontended.2 other differs ledger' busy' event chosen
    refine ⟨admits_execute owned.keyed, owned.update (execute_keyed owned.keyed)
      (own_bears owned.keyed (owned.bears w ledger busy) allows) ?_ ?_⟩
    · intro other ledger' differs busy'
      have bears := owned.bears other ledger' busy'
      refine bears.of_frame execute_nextId fun id inHand => ?_
      refine execute_frame (bears.hand id inHand) fun touched => ?_
      exact free id (touches_of_allows allows touched) other ledger' differs busy' inHand
    · exact fun other ledger' differs busy' id inHand =>
        free id (hand_after inHand) other ledger' differs busy'

/-! ## The three laws -/

/-- Under a lock that has not expired at `now`. -/
def FreshlyLocked (now : ℕ) (row : EventOutbox) : Prop :=
  row.status = .locked ∧ ∃ lockedAt, row.lockedAt = some lockedAt ∧
    now ≤ seconds lockTimeoutSeconds + lockedAt

/-- What one step of the pool must not do. -/
structure RelaySafe (p : RelayPool W) (label : RelayLabel W) (q : RelayPool W) : Prop where
  /-- A claim takes no row from under a fresh lock. -/
  claims : ∀ w worker ids now name, System.Issues p label w worker →
    worker.op = .lockSelected ids now name →
    ∀ row ∈ p.shared.outbox, row.id ∈ ids → ¬ FreshlyLocked now row
  /-- An event is handed out under the worker's own lock, with no other worker
  still on it. -/
  handsOut : ∀ w worker ids, System.Issues p label w worker → worker.op = .selectLocked ids →
    ∀ row ∈ p.shared.outbox, row.id ∈ ids →
      (row.status = .locked ∧ row.lockedAt = some worker.record.claimedAt) ∧
        ∀ other ledger, other ≠ w → p.records other = some ledger → row.id ∉ ledger.hand
  /-- No handler call begins for a processed consumer. -/
  handles : ∀ w worker event consumer, System.Issues p label w worker →
    worker.op = .callHandler event consumer → ¬ p.shared.Processed event.id consumer
  /-- A final status stays. -/
  final : ∀ row ∈ p.shared.outbox, row.status.isFinal = true →
    ∃ row' ∈ q.shared.outbox, row'.id = row.id ∧ row'.status = row.status

/-- A step from a guarded pool, at an uncontended claim, is safe. -/
theorem safe_of_guarded {p q : RelayPool W} {label : RelayLabel W}
    (guarded : System.Guarded (discipline handlers) Owned p)
    (uncontended : System.Respects Uncontended p label)
    (stepped : (relaySystem handlers).step p label = some q) : RelaySafe p label q where
  claims := by
    rintro w worker ids now name ⟨choice, rfl, busy⟩ issued row member chosen ⟨locked, at_, lock, fresh⟩
    simp only [System.Respects, busy, issued, Uncontended] at uncontended
    have ready := uncontended.1 row member chosen
    simp only [isReady, locked, lock, Option.any_some, Bool.and_eq_true, decide_eq_true_eq] at ready
    exact Nat.not_lt.mpr fresh ready.2
  handsOut := by
    rintro w worker ids ⟨choice, rfl, busy⟩ issued row member chosen
    have duty := (guarded.2 w worker busy).1
    rw [issued] at duty
    have mine := records_of_busy busy
    have inHand : row.id ∈ worker.record.hand := duty row.id chosen
    exact ⟨(guarded.1.bears w _ mine).locked row member inHand, fun other ledger differs busy' =>
      guarded.1.apart w other _ ledger differs.symm mine busy' row.id inHand⟩
  handles := by
    rintro w worker event consumer ⟨choice, rfl, busy⟩ issued
    have duty := (guarded.2 w worker busy).1
    rw [issued] at duty
    exact ((guarded.1.bears w _ (records_of_busy busy)).begun _ duty).2
  final := by
    intro row member final
    have old := guarded.1.keyed.fresh row member
    rcases System.step_shared stepped with same | ⟨change, rfl, changed⟩ |
      ⟨w, choice, worker, answer, rfl, busy, performed⟩
    · exact ⟨row, same ▸ member, rfl, rfl⟩
    · have effect : change.apply p.shared = q.shared := by simpa [relaySystem] using changed
      exact ⟨row, effect ▸ (world_grows change guarded.1.keyed).2.kept row member, rfl, rfl⟩
    · have effect : (execute worker.op choice p.shared).2 = q.shared := by
        have := congrArg (Option.map Prod.snd) performed
        simpa [relaySystem] using this
      have mine := records_of_busy busy
      have duty := (guarded.2 w worker busy).1
      -- nothing claimed or in hand is final
      have untouched : ¬ worker.op.Touches row.id := by
        intro touched
        rcases touches_of_allows duty touched with inHand | ⟨ids, now, name, issued, chosen⟩
        · have locked := ((guarded.1.bears w _ mine).locked row member inHand).1
          rw [locked] at final
          exact absurd final (by decide)
        · simp only [System.Respects, busy, issued, Uncontended] at uncontended
          have ready := uncontended.1 row member chosen
          rw [isReady] at ready
          cases status : row.status <;> simp_all [OutboxStatus.isFinal]
      exact ⟨row, effect ▸ ((execute_frame old untouched).rows row rfl).mpr member, rfl, rfl⟩

/-- **Relay workers keep apart.**  In every run of any number of workers whose
claims are all uncontended, no event is handed to a worker from under another's
fresh lock, no handler is called for a processed consumer, and no final status
changes. -/
theorem relay_workers_keep_apart {clock : ℕ} {labels : List (RelayLabel W)}
    (uncontended : (relaySystem handlers).machine.Meets (System.Respects Uncontended)
      (System.idle (.empty clock)) labels) :
    (relaySystem handlers).machine.Always RelaySafe (System.idle (.empty clock)) labels :=
  uncontended_sound.always dispatch_follows (fun _ _ _ => safe_of_guarded)
    (System.guarded_idle ⟨Tables.empty_keyed, by simp, by simp⟩) uncontended

end

section Sample

attribute [local instance] Unicode.ascii

/-- Two workers, one after the other. -/
private def oneByOne : List (RelayLabel (Fin 2)) :=
  oneEvent ++ .start 0 relayRequest :: statementsOf 0 21 ++
    .start 1 relayRequest :: statementsOf 1 4

/-- Two workers one after the other: the first dispatches the event, the second
finds nothing. -/
theorem relay_workers_keep_apart_one_by_one :
    ((relaySystem auditHandlers).machine.run (System.idle (.empty 0)) oneByOne).map
      (fun p => p.shared.outbox.map EventOutbox.status) = some [.dispatched] ∧
    (relaySystem auditHandlers).machine.Always RelaySafe (System.idle (.empty 0)) oneByOne := by
  have facts : ((relaySystem auditHandlers).machine.run (System.idle (.empty 0)) oneByOne).map
      (fun p => p.shared.outbox.map EventOutbox.status) = some [.dispatched] ∧
      (relaySystem auditHandlers).machine.Meets (System.Respects Uncontended)
        (System.idle (.empty 0)) oneByOne := by
    decide +kernel
  exact ⟨facts.1, relay_workers_keep_apart facts.2⟩

/-- Both workers plan before the first one's `UPDATE`. -/
private def bothPlan : List (RelayLabel (Fin 2)) :=
  oneEvent ++ [.start 0 relayRequest, .start 1 relayRequest] ++
    statementsOf 0 2 ++ statementsOf 1 2 ++ statementsOf 0 1

/-- The second worker's `UPDATE` takes the row from under the lock the first
one set a moment before. -/
theorem stale_claims_collide :
    ¬ (relaySystem auditHandlers).machine.Always RelaySafe (System.idle (.empty 0))
      (bothPlan ++ [.advance 1 default]) := by
  intro always
  -- what the second worker is about to do, and to which row
  have before : ((relaySystem auditHandlers).machine.run (System.idle (.empty 0)) bothPlan).map
      (fun p => ((p.workers 1).map Worker.op,
        p.shared.outbox.map fun row => (row.id, row.status, row.lockedAt))) =
      some (some (.lockSelected [0] 0 "relay"), [(0, .locked, some 0)]) := rfl
  obtain ⟨p, ran, facts⟩ := Option.map_eq_some_iff.mp before
  obtain ⟨issuing, rows⟩ := Prod.mk.inj facts
  obtain ⟨worker, busy, issued⟩ := Option.map_eq_some_iff.mp issuing
  obtain ⟨q, stepped⟩ : ∃ q, (relaySystem auditHandlers).machine.step p
      (.advance 1 default) = some q := by
    simp [System.machine, System.step, busy, relaySystem]
  obtain ⟨row, member, shape⟩ := List.mem_map.mp
    (rows ▸ List.mem_singleton_self _ : (0, OutboxStatus.locked, some 0) ∈
      p.shared.outbox.map fun row => (row.id, row.status, row.lockedAt))
  obtain ⟨id, status, lock⟩ : row.id = 0 ∧ row.status = .locked ∧ row.lockedAt = some 0 := by
    simpa using shape
  exact (always.at_step ran stepped).claims 1 worker [0] 0 "relay" ⟨default, rfl, busy⟩ issued row
    member (by simp [id]) ⟨status, 0, lock, Nat.zero_le _⟩

end Sample

end Darasa.Events
