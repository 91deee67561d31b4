import Darasa.Events.Passes
import Darasa.Foundation.Ranking
import Darasa.Foundation.Tables

/-!
What the relay selects, beside what it is to select.

A pass is to claim the first ready events of the table, by priority and then age.  It
plans over a window instead, the open events that became available first, which counts
fresh locks too; and it hands the claimed events on by age alone.
-/

namespace Darasa.Events

open Darasa (Outcome Unicode)
open Darasa.Ranking (FirstOf Selects leading)

/-! ## The orders -/

instance : Std.Total dispatchOrder := ⟨fun a b => by unfold dispatchOrder; omega⟩

instance : IsTrans EventOutbox dispatchOrder := ⟨fun a b c => by unfold dispatchOrder; omega⟩

/-- `order_by("occurred_at")`. -/
abbrev olderFirst (a b : EventOutbox) : Prop := a.occurredAt ≤ b.occurredAt

instance : Std.Total olderFirst := ⟨fun _ _ => Nat.le_total _ _⟩

instance : IsTrans EventOutbox olderFirst := ⟨fun _ _ _ => Nat.le_trans⟩

/-! ## The ready events and the window -/

/-- The batch size in force. -/
def safeBatch (batchSize : ℕ) : ℕ := max 1 (min batchSize maxRelayBatchSize)

/-- The ready events of the table. -/
def Tables.ready (t : Tables) : List EventOutbox := t.outbox.filter (isReady t.clock)

/-- The rows a pass plans over: the open and due ones that became available first. -/
def Tables.window (t : Tables) (n : ℕ) : List EventOutbox :=
  ((t.outbox.filter (isCandidate t.clock)).insertionSort candidateOrder).take (n * 3)

/-- The pass locks and returns the first `n` ready events of the table, in their order,
whatever order the table's rows are read in. -/
def LocksFirstReady (env : Surroundings) (name : String) (batchSize : ℕ) (t : Tables)
    [Unicode] : Prop :=
  ∀ order : List EventOutbox, order.Perm t.outbox →
    ∃ chosen, FirstOf dispatchOrder (safeBatch batchSize) (Tables.ready { t with outbox := order })
        chosen ∧
      (lockPendingEvents name batchSize).run env.exec { t with outbox := order } =
        (.ok (chosen.map fun row => row.claim t.clock name),
          { t with
            clock := t.clock + env.delay t.clock
            outbox := claimAll (chosen.map EventOutbox.id) t.clock name order })

/-- Of the ready events left out of the window, each comes after `n` ready events in it. -/
def WindowCovers (n : ℕ) (t : Tables) : Prop :=
  ∀ y ∈ t.ready, y ∉ t.window n →
    n ≤ ((t.window n).filter fun x => isReady t.clock x && decide (dispatchOrder x y)).length

/-- Of the first `n` ready events, one more urgent than another is also the older. -/
def UrgentIsOlder (n : ℕ) (t : Tables) : Prop :=
  ∀ x ∈ leading dispatchOrder n t.ready, ∀ y ∈ leading dispatchOrder n t.ready,
    x.priority.rank < y.priority.rank → x.occurredAt < y.occurredAt

/-! ## The plan -/

variable {t : Tables} {n batchSize : ℕ} {name : String} {row : EventOutbox}

theorem nodup_of_ids (distinct : (t.outbox.map EventOutbox.id).Nodup) : t.outbox.Nodup :=
  List.Nodup.of_map _ distinct

theorem planned_is : planned batchSize t =
    leading dispatchOrder (safeBatch batchSize)
      ((t.window (safeBatch batchSize)).filter (isReady t.clock)) := rfl

theorem window_mem (member : row ∈ t.window n) : row ∈ t.outbox := by
  have candidate := List.mem_of_mem_take member
  rw [List.mem_insertionSort, List.mem_filter] at candidate
  exact candidate.1

/-- A ready event is open and due. -/
theorem candidate_of_ready (ready : isReady t.clock row = true) :
    isCandidate t.clock row = true := by
  unfold isReady at ready
  unfold isCandidate
  rw [Bool.and_eq_true] at ready
  rw [ready.1, Bool.and_true]
  cases status : row.status <;> rw [status] at ready <;> first | rfl | cases ready.2

/-- A window all rows fit in covers the table. -/
theorem covers_of_short (short : t.outbox.length ≤ n * 3) : WindowCovers n t := by
  intro y ready outside
  obtain ⟨member, ready⟩ := List.mem_filter.mp ready
  have whole : t.window n =
      (t.outbox.filter (isCandidate t.clock)).insertionSort candidateOrder := by
    apply List.take_of_length_le
    rw [List.length_insertionSort]
    exact (List.length_filter_le _ _).trans short
  refine absurd ?_ outside
  rw [whole, List.mem_insertionSort, List.mem_filter]
  exact ⟨member, candidate_of_ready ready⟩

theorem window_ready_mem (member : row ∈ (t.window n).filter (isReady t.clock)) :
    row ∈ t.ready := by
  obtain ⟨inside, ready⟩ := List.mem_filter.mp member
  exact List.mem_filter.mpr ⟨window_mem inside, ready⟩

theorem window_nodup (distinct : t.outbox.Nodup) : (t.window n).Nodup :=
  (((List.perm_insertionSort _ _).nodup_iff).mpr (distinct.filter _)).sublist
    (List.take_sublist _ _)

/-- The first `n` ready events of the window are the first of the table exactly when the
window covers it. -/
theorem window_selects_iff (distinct : t.outbox.Nodup) :
    Selects dispatchOrder n t.ready
        (leading dispatchOrder n ((t.window n).filter (isReady t.clock))) ↔
      WindowCovers n t := by
  have inner : FirstOf dispatchOrder n ((t.window n).filter (isReady t.clock))
      (leading dispatchOrder n ((t.window n).filter (isReady t.clock))) :=
    Ranking.leading_first _ _
  generalize leading dispatchOrder n ((t.window n).filter (isReady t.clock)) = chosen at inner ⊢
  have readyNodup : t.ready.Nodup := distinct.filter _
  have windowNodup := (window_nodup (n := n) distinct).filter (isReady t.clock)
  have inside : ∀ x ∈ chosen, x ∈ (t.window n).filter (isReady t.clock) := fun x => inner.mem
  have chosenNodup := inner.nodup windowNodup
  have subset : ((t.window n).filter (isReady t.clock)).length ≤ t.ready.length :=
    (List.subperm_of_subset windowNodup fun x => window_ready_mem).length_le
  have reaching : ∀ y, (t.window n).filter (fun x => isReady t.clock x && decide (dispatchOrder x y)) =
      ((t.window n).filter (isReady t.clock)).filter fun x => dispatchOrder x y := by
    intro y
    rw [List.filter_filter]
    exact List.filter_congr fun x _ => Bool.and_comm _ _
  constructor
  · intro selects y ready outside
    have out : y ∉ chosen := fun here => outside (List.mem_filter.mp (inside y here)).1
    -- a ready event is left out, so the choice is full
    have full : chosen.length = n := by
      have fewer : chosen.length < t.ready.length := by
        by_contra all
        have same := (List.subperm_of_subset chosenNodup fun x => selects.mem).perm_of_length_le
          (not_lt.mp all)
        exact out (same.mem_iff.mpr ready)
      have length := selects.length
      omega
    rw [reaching]
    refine full.symm.le.trans (List.subperm_of_subset chosenNodup fun x here => ?_).length_le
    exact List.mem_filter.mpr ⟨inside x here,
      decide_eq_true (selects.before_of_left_out here ready out)⟩
  · intro covers
    refine Ranking.selects_of_mem readyNodup chosenNodup
      (fun x here => window_ready_mem (inside x here)) ?_ ?_
    · rw [inner.length]
      by_cases all : ∀ y ∈ t.ready, y ∈ t.window n
      · have same : t.ready.length ≤ ((t.window n).filter (isReady t.clock)).length :=
          (List.subperm_of_subset readyNodup fun y ready =>
            List.mem_filter.mpr ⟨all y ready, (List.mem_filter.mp ready).2⟩).length_le
        omega
      · push Not at all
        obtain ⟨y, ready, outside⟩ := all
        have enough := covers y ready outside
        rw [reaching] at enough
        have most := List.length_filter_le (fun x => decide (dispatchOrder x y))
          ((t.window n).filter (isReady t.clock))
        omega
    · intro x here y ready out
      by_cases windowed : y ∈ t.window n
      · exact inner.before_of_left_out here
          (List.mem_filter.mpr ⟨windowed, (List.mem_filter.mp ready).2⟩) out
      by_contra late
      -- the `n` events before `y` precede `x` too, so all of them are chosen beside it
      have enough := covers y ready windowed
      rw [reaching] at enough
      have chosenToo : ∀ z ∈ ((t.window n).filter (isReady t.clock)).filter
          (fun x => decide (dispatchOrder x y)), z ∈ chosen ∧ z ≠ x := by
        intro z member
        obtain ⟨known, first⟩ := List.mem_filter.mp member
        have first := of_decide_eq_true first
        refine ⟨?_, fun same => late (same ▸ first)⟩
        by_contra left
        exact late (Trans.trans (inner.before_of_left_out here known left) first)
      have room : (((t.window n).filter (isReady t.clock)).filter
          (fun x => decide (dispatchOrder x y))).length < chosen.length := by
        have withX : (x :: ((t.window n).filter (isReady t.clock)).filter
            (fun x => decide (dispatchOrder x y))).Nodup :=
          List.nodup_cons.mpr ⟨fun member => (chosenToo x member).2 rfl, windowNodup.filter _⟩
        have inside : x :: ((t.window n).filter (isReady t.clock)).filter
            (fun x => decide (dispatchOrder x y)) ⊆ chosen := by
          intro z member
          rcases List.mem_cons.mp member with rfl | known
          · exact here
          · exact (chosenToo z known).1
        have fits := (List.subperm_of_subset withX inside).length_le
        rw [List.length_cons] at fits
        omega
      have length := inner.length
      omega

/-! ## What is returned -/

/-- The rows the last query reads, as they were before. -/
def reread (t : Tables) (batchSize : ℕ) : List EventOutbox :=
  (t.outbox.filter fun row =>
    ((planned batchSize t).map EventOutbox.id).contains row.id).insertionSort olderFirst

theorem reread_perm (distinct : (t.outbox.map EventOutbox.id).Nodup) :
    (reread t batchSize).Perm (planned batchSize t) := by
  have rows := nodup_of_ids distinct
  refine (List.perm_insertionSort _ _).trans ?_
  have plannedNodup : (planned batchSize t).Nodup :=
    (Ranking.leading_first _ _).nodup ((window_nodup rows).filter _)
  refine (List.perm_ext_iff_of_nodup (rows.filter _) plannedNodup).mpr fun x => ?_
  rw [List.mem_filter, List.contains_iff_mem]
  constructor
  · rintro ⟨known, chosen⟩
    obtain ⟨other, here, same⟩ := List.mem_map.mp chosen
    obtain rfl := Table.eq_of_key distinct (planned_mem here).1 known same
    exact here
  · exact fun here => ⟨(planned_mem here).1, List.mem_map_of_mem here⟩

/-- A pass returns the rows it rereads, claimed. -/
theorem lock_returns_reread {env : Surroundings} [Unicode] :
    (lockPendingEvents name batchSize).run env.exec t =
      (.ok ((reread t batchSize).map fun row => row.claim t.clock name),
        { t with
          clock := t.clock + env.delay t.clock
          outbox := claimAll ((planned batchSize t).map EventOutbox.id) t.clock name t.outbox }) := by
  rw [lock_returns]
  have claimed : (claimAll ((planned batchSize t).map EventOutbox.id) t.clock name t.outbox).filter
      (fun row => ((planned batchSize t).map EventOutbox.id).contains row.id) =
      (t.outbox.filter fun row =>
        ((planned batchSize t).map EventOutbox.id).contains row.id).map
        fun row => row.claim t.clock name := by
    have sameId : ((fun row : EventOutbox => ((planned batchSize t).map EventOutbox.id).contains
        row.id) ∘ fun row => if ((planned batchSize t).map EventOutbox.id).contains row.id then
          row.claim t.clock name else row) =
        fun row => ((planned batchSize t).map EventOutbox.id).contains row.id := by
      funext row
      simp only [Function.comp_apply]
      split
      · rfl
      · rfl
    rw [claimAll, List.filter_map, sameId]
    refine List.map_congr_left fun row member => ?_
    exact if_pos (List.mem_filter.mp member).2
  rw [claimed, reread, List.map_insertionSort olderFirst olderFirst
    (fun row : EventOutbox => row.claim t.clock name) _ fun _ _ _ _ => Iff.rfl]

/-- Rows claimed are the same only if the rows were. -/
theorem eq_of_claimed (distinct : (t.outbox.map EventOutbox.id).Nodup)
    {rows rows' : List EventOutbox} {now : ℕ} (known : ∀ row ∈ rows, row ∈ t.outbox)
    (known' : ∀ row ∈ rows', row ∈ t.outbox)
    (same : (rows.map fun row => row.claim now name) = rows'.map fun row => row.claim now name) :
    rows = rows' := by
  refine Table.eq_of_keys distinct known known' ?_
  have ids := congrArg (List.map EventOutbox.id) same
  rwa [List.map_map, List.map_map] at ids

/-- A pass over rows read in one order claims the first ready events exactly when its plan
selects them and its last query keeps their order. -/
theorem locks_first_iff {env : Surroundings} [Unicode]
    (distinct : (t.outbox.map EventOutbox.id).Nodup) :
    (∃ chosen, FirstOf dispatchOrder (safeBatch batchSize) t.ready chosen ∧
      (lockPendingEvents name batchSize).run env.exec t =
        (.ok (chosen.map fun row => row.claim t.clock name),
          { t with
            clock := t.clock + env.delay t.clock
            outbox := claimAll (chosen.map EventOutbox.id) t.clock name t.outbox })) ↔
    WindowCovers (safeBatch batchSize) t ∧ (reread t batchSize).Pairwise dispatchOrder := by
  have same : (reread t batchSize).Perm (planned batchSize t) := reread_perm distinct
  rw [← window_selects_iff (nodup_of_ids distinct), ← planned_is]
  constructor
  · rintro ⟨chosen, ⟨selects, ordered⟩, ran⟩
    rw [lock_returns_reread] at ran
    obtain rfl : reread t batchSize = chosen := by
      refine eq_of_claimed distinct ?_ ?_ (Except.ok.inj (congrArg Prod.fst ran))
      · exact fun row here => (planned_mem (same.mem_iff.mp here)).1
      · exact fun row here => (List.mem_filter.mp (selects.mem here)).1
    exact ⟨selects.of_perm same.symm, ordered⟩
  · rintro ⟨selects, ordered⟩
    refine ⟨reread t batchSize, ⟨selects.of_perm same, ordered⟩, ?_⟩
    rw [lock_returns_reread]
    have ids : claimAll ((reread t batchSize).map EventOutbox.id) t.clock name t.outbox =
        claimAll ((planned batchSize t).map EventOutbox.id) t.clock name t.outbox := by
      refine List.map_congr_left fun row _ => ?_
      have member : ((reread t batchSize).map EventOutbox.id).contains row.id =
          ((planned batchSize t).map EventOutbox.id).contains row.id := by
        rw [Bool.eq_iff_iff, List.contains_iff_mem, List.contains_iff_mem,
          (same.map EventOutbox.id).mem_iff]
      rw [member]
    rw [ids]

/-! ## The order of the answer -/

theorem dispatch_refl (x : EventOutbox) : dispatchOrder x x := .inr ⟨rfl, Nat.le_refl _⟩

/-- Choices of the first ready events have the same priorities and ages. -/
theorem urgent_older_of_selects {rows chosen chosen' : List EventOutbox} (distinct : rows.Nodup)
    (selects : Selects dispatchOrder n rows chosen)
    (selects' : Selects dispatchOrder n rows chosen')
    (older : ∀ x ∈ chosen', ∀ y ∈ chosen', x.priority.rank < y.priority.rank →
      x.occurredAt < y.occurredAt) :
    ∀ x ∈ chosen, ∀ y ∈ chosen, x.priority.rank < y.priority.rank →
      x.occurredAt < y.occurredAt := by
  intro x here y there urgent
  obtain ⟨x', here', first, second⟩ := selects.tied distinct dispatch_refl selects' here
  obtain ⟨y', there', first', second'⟩ := selects.tied distinct dispatch_refl selects' there
  have apart := older x' here' y' there'
  unfold dispatchOrder at first second first' second'
  omega

/-- Rows by age are by priority first when the more urgent are older. -/
theorem ordered_of_older {rows : List EventOutbox} (aged : rows.Pairwise olderFirst)
    (older : ∀ x ∈ rows, ∀ y ∈ rows, x.priority.rank < y.priority.rank →
      x.occurredAt < y.occurredAt) : rows.Pairwise dispatchOrder := by
  refine aged.imp_of_mem fun {x y} here there le => ?_
  have apart := older y there x here
  unfold dispatchOrder
  unfold olderFirst at le
  omega

/-- The less urgent first: the order of rows that shows every tie of age. -/
abbrev leastUrgentFirst (a b : EventOutbox) : Prop := b.priority.rank ≤ a.priority.rank

instance : Std.Total leastUrgentFirst := ⟨fun _ _ => Nat.le_total _ _⟩

instance : IsTrans EventOutbox leastUrgentFirst := ⟨fun _ _ _ first second => second.trans first⟩

/-- Read with the less urgent first, rows reread by priority have the more urgent strictly
older. -/
theorem older_of_ordered (rows : t.outbox.Pairwise leastUrgentFirst)
    (ordered : (reread t batchSize).Pairwise dispatchOrder) :
    ∀ x ∈ reread t batchSize, ∀ y ∈ reread t batchSize,
      x.priority.rank < y.priority.rank → x.occurredAt < y.occurredAt := by
  intro x here y there urgent
  by_contra late
  have pair : [y, x].Sublist (t.outbox.filter fun row =>
      ((planned batchSize t).map EventOutbox.id).contains row.id) := by
    refine Ranking.pair_sublist (rows.filter _) ?_ ?_ (fun same => ?_) (not_le.mpr urgent)
    · exact (List.mem_insertionSort _).mp there
    · exact (List.mem_insertionSort _).mp here
    · rw [same] at urgent
      exact absurd urgent (Nat.lt_irrefl _)
  have kept : [y, x].Sublist (reread t batchSize) :=
    List.sublist_insertionSort (List.pairwise_pair.mpr (not_lt.mp late)) pair
  have misplaced := List.pairwise_pair.mp (ordered.sublist kept)
  unfold dispatchOrder at misplaced
  omega

/-- **A pass locks and returns the first ready events of the table, by priority and age,
exactly when its window covers them and the more urgent of them are the older.** -/
theorem locks_first_ready_iff {env : Surroundings} [Unicode]
    (distinct : (t.outbox.map EventOutbox.id).Nodup) (name : String) (batchSize : ℕ) :
    LocksFirstReady env name batchSize t ↔
      (∀ order : List EventOutbox, order.Perm t.outbox →
        WindowCovers (safeBatch batchSize) { t with outbox := order }) ∧
      UrgentIsOlder (safeBatch batchSize) t := by
  have keys : ∀ {order : List EventOutbox}, order.Perm t.outbox →
      (order.map EventOutbox.id).Nodup :=
    fun moved => ((moved.map EventOutbox.id).nodup_iff).mpr distinct
  have each : LocksFirstReady env name batchSize t ↔
      ∀ order : List EventOutbox, order.Perm t.outbox →
        WindowCovers (safeBatch batchSize) { t with outbox := order } ∧
          (reread { t with outbox := order } batchSize).Pairwise dispatchOrder := by
    refine forall_congr' fun order => forall_congr' fun moved => ?_
    exact @locks_first_iff { t with outbox := order } batchSize name env _ (keys moved)
  have readyNodup : t.ready.Nodup := (nodup_of_ids distinct).filter _
  have first : FirstOf dispatchOrder (safeBatch batchSize) t.ready
      (leading dispatchOrder (safeBatch batchSize) t.ready) := Ranking.leading_first _ _
  -- what a covered plan selects, read in any order, is a choice of the first ready events
  have selected : ∀ order : List EventOutbox, order.Perm t.outbox →
      WindowCovers (safeBatch batchSize) { t with outbox := order } →
      Selects dispatchOrder (safeBatch batchSize) t.ready
        (reread { t with outbox := order } batchSize) := by
    intro order moved covers
    have distinct' : (Tables.outbox { t with outbox := order }).Nodup := nodup_of_ids (keys moved)
    exact (((window_selects_iff distinct').mpr covers).of_perm (reread_perm (keys moved))
      ).of_rows_perm (moved.filter _)
  rw [each]
  constructor
  · intro all
    refine ⟨fun order moved => (all order moved).1, ?_⟩
    have moved := List.perm_insertionSort leastUrgentFirst t.outbox
    obtain ⟨covers, ordered⟩ := all _ moved
    exact urgent_older_of_selects readyNodup first.toSelects (selected _ moved covers)
      (@older_of_ordered { t with outbox := t.outbox.insertionSort leastUrgentFirst } batchSize
        (List.pairwise_insertionSort _ _) ordered)
  · rintro ⟨covers, older⟩ order moved
    refine ⟨covers order moved, ordered_of_older (List.pairwise_insertionSort _ _) ?_⟩
    exact urgent_older_of_selects readyNodup (selected order moved (covers order moved))
      first.toSelects older

section Sample

attribute [local instance] Unicode.ascii

/-- An event that became available at a time, and its lock. -/
private def queued (id availableAt : ℕ) (status : OutboxStatus) (lockedAt : Option ℕ) :
    EventOutbox where
  id := id
  eventType := "grading.batch_submitted"
  eventVersion := 1
  tenant := some 1
  actorId := none
  idempotencyKey := Nat.repr id
  sourceModule := "grading"
  partitionKey := "tenant:1"
  priority := .normal
  payload := .obj []
  status := status
  availableAt := availableAt
  occurredAt := availableAt
  lockedAt := lockedAt
  lockedBy := ""
  dispatchedAt := none

/-- Handlers that return, while time stands still. -/
private def still : Surroundings := ⟨fun _ _ => .ok (), fun _ => 0⟩

/-- Events of several priorities and ages: the oldest, and an urgent one, are under locks, of
which only the first has run out. -/
private def backlog : Tables :=
  { Tables.empty (seconds 1000) with
    outbox := [{ queued 1 1 .locked (some 0) with priority := .low },
      { queued 2 2 .locked (some (seconds 999)) with priority := .critical },
      { queued 3 5 .failedRetryable none with priority := .high, occurredAt := 3 },
      queued 4 4 .pending none,
      { queued 5 5 .pending none with priority := .low },
      queued 6 (seconds 2000) .pending none]
    nextId := 7 }

/-- A batch of two takes the two most urgent of what is ready. -/
theorem backlog_is_locked_first_ready :
    (leading dispatchOrder (safeBatch 2) backlog.ready).map EventOutbox.id = [3, 4] ∧
      LocksFirstReady still "relay" 2 backlog := by
  have older : UrgentIsOlder (safeBatch 2) backlog := by
    unfold UrgentIsOlder
    decide +kernel
  exact ⟨by decide +kernel, (locks_first_ready_iff (by decide +kernel) "relay" 2).mpr
    ⟨fun _ moved => covers_of_short (moved.length_eq.trans_le (by decide)), older⟩⟩

/-- A pending event behind three that another relay has just locked. -/
private def crowded : Tables :=
  { Tables.empty 10 with
    outbox := [queued 1 1 .locked (some 10), queued 2 2 .locked (some 10),
      queued 3 3 .locked (some 10), queued 4 4 .pending none]
    nextId := 5 }

/-- Three fresh locks fill the window of a batch of one: the pass returns nothing, though
an event is ready. -/
theorem fresh_locks_hide_ready_event :
    crowded.ready.map EventOutbox.id = [4] ∧
      ((lockPendingEvents "relay" 1).run still.exec crowded).1 = .ok [] ∧
      ¬ LocksFirstReady still "relay" 1 crowded := by
  have nothing : ((lockPendingEvents "relay" 1).run still.exec crowded).1 = .ok [] := by
    decide +kernel
  refine ⟨by decide +kernel, nothing, fun locks => ?_⟩
  obtain ⟨chosen, first, ran⟩ := locks crowded.outbox (List.Perm.refl _)
  have returned := congrArg Prod.fst ran
  rw [show ({ crowded with outbox := crowded.outbox } : Tables) = crowded from rfl, nothing]
    at returned
  have none : chosen = [] := List.map_eq_nil_iff.mp (Except.ok.inj returned).symm
  have length := first.length
  rw [none] at length
  revert length
  decide +kernel

end Sample

end Darasa.Events
