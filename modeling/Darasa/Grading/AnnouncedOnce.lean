import Darasa.Grading.Announcements

/-!
Each fact is announced once.

Until it runs, the callback of a submission or a compilation lives in its process only: it
can raise, and it can die with the process.  Nothing registers it again, so each committed
fact has its event, or still has its callback, or has lost it.
-/

namespace Darasa.Grading

open Darasa (Exn Json Machine Outcome Unicode full_clean_ok refuseIf_ok)
open Darasa.Core (CustomUser)
open Darasa.Events (Choice EventOutbox EventTypeRegistry OutboxRequest Statement Wellformed execute
  executeNow writeOutboxEvent)

/-! ## The machine -/

/-- The tables of grading and of the events, the callbacks that have not run, and those that
left no event. -/
structure Backbone where
  db : Database
  tables : Events.Tables
  onCommit : List OutboxRequest
  lost : List OutboxRequest

/-- A call commits or raises, a callback runs or dies, the relay issues a statement, or another
module writes an event. -/
inductive BackboneStep where
  | call (call : GradingCall)
  | announce (place : ℕ)
  | crash (place : ℕ)
  | relay (statement : Statement) (choice : Choice)
  | produce (request : OutboxRequest)

/-- The keys of grading's own events. -/
def isGradingKey (key : String) : Bool := "grading.".toList.isPrefixOf key.toList

section

variable [Unicode]

/-- The callback `submit_grade_batch` registers. -/
def submissionCallback (db : Database) (reply : Submission) : Option OutboxRequest :=
  if reply.emits then do
    let assessment ← db.assessment? reply.batch.assessment
    let submittedAt ← reply.batch.submittedAt
    return emitBatchSubmitted assessment reply.batch submittedAt
  else none

/-- The callback `compile_assessment` registers. -/
def compilationCallback (db : Database) (run : CompilationRun) : Option OutboxRequest := do
  let assessment ← db.assessment? run.assessment
  let compiledAt ← run.compiledAt
  return emitCompilationCompleted assessment run compiledAt

/-- The callback a call registers. -/
def GradingCall.registers (db : Database) : GradingCall → Option OutboxRequest
  | .marks (.submit request) =>
    (request.call db).toOption.bind fun result => submissionCallback db result.1
  | .compile tenant assessment requestedBy =>
    (compileAssessment db tenant assessment requestedBy).toOption.bind fun result =>
      compilationCallback db result.1
  | _ => none

/-- A callback runs: it leaves its event, or raises. -/
def Backbone.announce (s : Backbone) (place : ℕ) (request : OutboxRequest) : Backbone :=
  match (writeOutboxEvent request).run executeNow s.tables with
  | (.ok _, tables) => { s with tables := tables, onCommit := s.onCommit.eraseIdx place }
  | (.error _, tables) =>
    { s with
      tables := tables
      onCommit := s.onCommit.eraseIdx place
      lost := s.lost ++ [request] }

/-- The steps, in any order; events of grading are written by its callbacks alone. -/
def backboneMachine : Machine Backbone BackboneStep where
  step s
    | .call call => some { s with
        db := call.next s.db
        onCommit := s.onCommit ++ (call.registers s.db).toList }
    | .announce place => s.onCommit[place]?.map fun request => s.announce place request
    | .crash place => s.onCommit[place]?.map fun request =>
        { s with onCommit := s.onCommit.eraseIdx place, lost := s.lost ++ [request] }
    | .relay (.insertOutbox _) _ => none
    | .relay statement choice => some { s with tables := (execute statement choice s.tables).2 }
    | .produce request =>
        if isGradingKey request.idempotencyKey then none
        else some { s with tables := ((writeOutboxEvent request).run executeNow s.tables).2 }

end

/-! ## What a call records -/

/-- What a call adds to the batches and the runs, and the callback it registers for it. -/
inductive Recorded (db : Database) (request : Option OutboxRequest) (db' : Database) : Prop where
  | nothing (none : request = none) (batches : db'.batches = db.batches)
      (runs : db'.runs.map (·.id) = db.runs.map (·.id)) (later : db.nextId ≤ db'.nextId)
  | submitted (assessment : Assessment) (batch : GradeSubmissionBatch) (moment : ℕ)
      (found : assessment ∈ db.assessments)
      (registered : request = some (emitBatchSubmitted assessment batch moment))
      (tenant : batch.tenant = assessment.tenant) (count : batch.recordCount ≤ 2147483647)
      (id : batch.id = db.nextId) (batches : db'.batches = db.batches ++ [batch])
      (runs : db'.runs.map (·.id) = db.runs.map (·.id)) (later : db.nextId < db'.nextId)
  | compiled (assessment : Assessment) (run : CompilationRun) (moment : ℕ)
      (found : assessment ∈ db.assessments)
      (registered : request = some (emitCompilationCompleted assessment run moment))
      (tenant : run.tenant = assessment.tenant) (id : run.id = db.nextId)
      (batches : db'.batches = db.batches)
      (runs : db'.runs.map (·.id) = db.runs.map (·.id) ++ [run.id])
      (later : db.nextId < db'.nextId)

section

variable [Unicode] {db db' : Database}

omit [Unicode] in
theorem stale_runs_ids (tenant assessment : ℕ) :
    (db.staleRuns tenant assessment).map (·.id) = db.runs.map (·.id) := by
  unfold Database.staleRuns
  rw [List.map_map]
  apply List.map_congr_left
  intro run _
  simp only [Function.comp_apply]
  split <;> rfl

theorem accepted_count {actor : CustomUser} {tenant : ℕ} {assessment : Assessment}
    {assignment : Academics.TeacherAssignment} {key : String} {rows : List Json}
    {confirmation : Option Confirmation} {reply : Submission}
    (accepted : acceptSubmission db actor tenant assessment assignment key rows confirmation =
      .ok (reply, db')) : reply.batch.recordCount ≤ 2147483647 := by
  unfold acceptSubmission at accepted
  obtain ⟨-, accepted⟩ := Outcome.check_ok.mp accepted
  obtain ⟨confirmed, -, accepted⟩ := Outcome.bind_ok.mp accepted
  obtain ⟨normalized, -, accepted⟩ := Outcome.bind_ok.mp accepted
  obtain ⟨valid, accepted⟩ := Outcome.check_ok.mp accepted
  obtain ⟨-, accepted⟩ := Outcome.check_ok.mp accepted
  obtain ⟨table, -, accepted⟩ := Outcome.bind_ok.mp accepted
  cases accepted
  have fields := (full_clean_ok.mp (Outcome.check_ok.mp valid).1).1
  unfold GradeSubmissionBatch.cleanFields at fields
  obtain ⟨-, fields⟩ := Outcome.check_ok.mp fields
  obtain ⟨-, fields⟩ := Outcome.check_ok.mp fields
  obtain ⟨-, fields⟩ := Outcome.check_ok.mp fields
  obtain ⟨-, fields⟩ := Outcome.check_ok.mp fields
  obtain ⟨-, fields⟩ := Outcome.check_ok.mp fields
  obtain ⟨-, fields⟩ := Outcome.check_ok.mp fields
  obtain ⟨-, fields⟩ := Outcome.check_ok.mp fields
  obtain ⟨bounded, -⟩ := Outcome.check_ok.mp fields
  exact Nat.le_of_not_lt (of_decide_eq_false (refuseIf_ok.mp bounded))

theorem next_of_ok {call : GradingCall} (called : call.call db = .ok db') : call.next db = db' := by
  unfold GradingCall.next
  rw [called]

theorem next_of_error {call : GradingCall} {e : Exn} (called : call.call db = .error e) :
    call.next db = db := by
  unfold GradingCall.next
  rw [called]

theorem submit_recorded (request : SubmitRequest) :
    Recorded db (GradingCall.registers db (.marks (.submit request)))
      (GradingCall.next db (.marks (.submit request))) := by
  have mapped : (GradingCall.marks (.submit request)).call db = (request.call db).map Prod.snd := rfl
  have registers : GradingCall.registers db (.marks (.submit request)) =
    (request.call db).toOption.bind fun result => submissionCallback db result.1 := rfl
  rw [registers]
  cases called : request.call db with
  | error e =>
    rw [called] at mapped
    rw [next_of_error mapped]
    exact .nothing rfl rfl rfl le_rfl
  | ok result =>
    obtain ⟨reply, db'⟩ := result
    rw [called] at mapped
    rw [next_of_ok mapped]
    obtain ⟨key, assessment, assignment, rows, admitted, ⟨existing, -, replayed, rfl⟩ |
      ⟨-, accepted⟩⟩ := submit_ok.mp called
    · have quiet : reply.emits = false := by
        unfold replaySubmission at replayed
        obtain ⟨-, replayed⟩ := Outcome.check_ok.mp replayed
        obtain ⟨-, replayed⟩ := Outcome.check_ok.mp replayed
        cases replayed
        rfl
      exact .nothing (if_neg (Bool.eq_false_iff.mp quiet)) rfl rfl le_rfl
    · obtain ⟨filled, rfl⟩ := admitted.isKey
      have isKey : (Text.strip request.idempotencyKey).isEmpty = false := by
        rw [← blank_iff_strip, filled]
      obtain ⟨records, emits, effect, ofTenant, ofAssessment, -⟩ := accept_ok isKey accepted
      obtain ⟨found, same, tenant⟩ := assessment_for_teacher admitted.found
      have here : db.assessment? reply.batch.assessment = some assessment := by
        rw [ofAssessment, same, found]
      have count := accepted_count accepted
      have result := effect.result
      have registered : submissionCallback db reply =
          some (emitBatchSubmitted assessment reply.batch (db.clock + 1)) := by
        unfold submissionCallback
        rw [emits, here, effect.submittedAt]
        rfl
      refine .submitted assessment reply.batch (db.clock + 1) (List.mem_of_find?_eq_some found)
        registered (ofTenant.trans tenant.symm) count effect.id ?_ ?_ ?_
      · rw [result]
      · rw [result]
      · rw [result]
        simp only
        omega

theorem compile_recorded (tenant id : ℕ) (requestedBy : Option CustomUser) :
    Recorded db (GradingCall.registers db (.compile tenant id requestedBy))
      (GradingCall.next db (.compile tenant id requestedBy)) := by
  have mapped : (GradingCall.compile tenant id requestedBy).call db =
    (compileAssessment db tenant id requestedBy).map Prod.snd := rfl
  have registers : GradingCall.registers db (.compile tenant id requestedBy) =
    (compileAssessment db tenant id requestedBy).toOption.bind fun result =>
      compilationCallback db result.1 := rfl
  rw [registers]
  cases called : compileAssessment db tenant id requestedBy with
  | error e =>
    rw [called] at mapped
    rw [next_of_error mapped]
    exact .nothing rfl rfl rfl le_rfl
  | ok result =>
    obtain ⟨run, db'⟩ := result
    rw [called] at mapped
    rw [next_of_ok mapped]
    obtain ⟨assessment, snapshots, found, stored⟩ := compile_ok called
    obtain ⟨there, ofTenant⟩ := Option.filter_eq_some_iff.mp found
    have isId : assessment.id = id := by simpa using List.find?_some there
    have here : db.assessment? run.assessment = some assessment := by
      rw [stored.ofAssessment, isId, there]
    have result := stored.result
    have registered : compilationCallback db run =
        some (emitCompilationCompleted assessment run db.clock) := by
      unfold compilationCallback
      rw [here, stored.compiledAt]
      rfl
    refine .compiled assessment run db.clock (List.mem_of_find?_eq_some there) registered
      stored.tenant stored.id ?_ ?_ ?_
    · rw [result]
    · rw [result]
      simp only [List.map_append, List.map_cons, List.map_nil, stale_runs_ids]
    · rw [result]
      simp only
      omega

/-- A committed call registers nothing unless it is a submission or a compilation. -/
theorem quiet_recorded {label : GradingCall} {after : Database}
    (silent : label.registers db = none) (called : label.call db = .ok db')
    (result : db' = after) (batches : after.batches = db.batches)
    (runs : after.runs.map (·.id) = db.runs.map (·.id)) (later : db.nextId ≤ after.nextId) :
    Recorded db (label.registers db) (label.next db) := by
  rw [next_of_ok called, result]
  exact .nothing silent batches runs later

/-- What every call records. -/
theorem call_recorded (label : GradingCall) :
    Recorded db (label.registers db) (label.next db) := by
  cases called : label.call db with
  | error e =>
    cases label with
    | marks call =>
      cases call with
      | submit request => exact submit_recorded request
      | _ =>
        rw [next_of_error called]
        exact .nothing rfl rfl rfl le_rfl
    | compile tenant assessment requestedBy => exact compile_recorded tenant assessment requestedBy
    | setComponents components => exact .nothing rfl rfl rfl le_rfl
  | ok db' =>
    cases label with
    | marks call =>
      cases call with
      | submit request => exact submit_recorded request
      | save assessment =>
        obtain ⟨-, result⟩ := save_ok.mp called
        exact quiet_recorded rfl called result rfl rfl le_rfl
      | createCorrection actor tenant record payload =>
        obtain ⟨reply, created, rfl⟩ := Outcome.map_ok called
        obtain ⟨record, entry, requested⟩ := create_correction_ok created
        exact quiet_recorded rfl called requested.result rfl rfl (Nat.le_add_right _ _)
      | reviewAsHod actor tenant correction decision reason =>
        obtain ⟨reply, reviewed, rfl⟩ := Outcome.map_ok called
        obtain ⟨before, entry, moved⟩ := review_as_hod_ok reviewed
        exact quiet_recorded rfl called moved.result rfl rfl (Nat.le_add_right _ _)
      | escalate actor tenant correction reason =>
        obtain ⟨reply, escalated, rfl⟩ := Outcome.map_ok called
        obtain ⟨before, entry, moved⟩ := escalate_ok escalated
        exact quiet_recorded rfl called moved.result rfl rfl (Nat.le_add_right _ _)
      | reviewAsAcademicHead actor tenant correction decision reason =>
        obtain ⟨reply, reviewed, rfl⟩ := Outcome.map_ok called
        obtain ⟨before, entry, moved⟩ := review_as_academic_head_ok reviewed
        exact quiet_recorded rfl called moved.result rfl rfl (Nat.le_add_right _ _)
      | applyCorrection actor tenant correction =>
        obtain ⟨reply, applied, rfl⟩ := Outcome.map_ok called
        obtain ⟨before, record, assessment, corrected, entry, here, effect⟩ := apply_ok applied
        exact quiet_recorded rfl called effect.result rfl (stale_runs_ids _ _) (Nat.le_add_right _ _)
      | createSchema actor tenant payload =>
        obtain ⟨reply, created, rfl⟩ := Outcome.map_ok called
        obtain ⟨rows, result⟩ := create_schema_ok created
        exact quiet_recorded rfl called result rfl rfl (Nat.le_add_right _ _)
      | activateSchema actor tenant schema =>
        obtain ⟨reply, activated, rfl⟩ := Outcome.map_ok called
        exact quiet_recorded rfl called (activate_schema_ok activated) rfl rfl le_rfl
      | deprecateSchema actor tenant schema =>
        obtain ⟨reply, deprecated, rfl⟩ := Outcome.map_ok called
        exact quiet_recorded rfl called (deprecate_schema_ok deprecated) rfl rfl le_rfl
      | bindSchema actor tenant assessment schema =>
        obtain ⟨row, target, -, -, saved⟩ := bind_schema_ok called
        obtain ⟨-, result⟩ := save_ok.mp saved
        exact quiet_recorded rfl called result rfl rfl le_rfl
      | outside staff school curriculum ticks =>
        have result : db' = _ := (Except.ok.inj called).symm
        exact quiet_recorded rfl called result rfl rfl le_rfl
    | compile tenant assessment requestedBy => exact compile_recorded tenant assessment requestedBy
    | setComponents components => exact .nothing rfl rfl rfl le_rfl

end

/-! ## One place for each key -/

/-- The keys of the facts a database records. -/
def Database.keys (db : Database) : List String :=
  (db.batches.map (·.id)).map batchKey ++ (db.runs.map (·.id)).map runKey

/-- The keys of grading's events in the outbox. -/
def gradingKeys (tables : Events.Tables) : List String :=
  (tables.outbox.map (·.idempotencyKey)).filter isGradingKey

/-- The keys of the events there are, of those to come and of those that were lost. -/
def Backbone.keys (s : Backbone) : List String :=
  gradingKeys s.tables ++ (s.onCommit.map (·.idempotencyKey) ++ s.lost.map (·.idempotencyKey))

/-- Identifiers are drawn once. -/
structure Database.Drawn (db : Database) : Prop where
  batches : (db.batches.map (·.id)).Nodup
  runs : (db.runs.map (·.id)).Nodup
  earlierBatches : ∀ id ∈ db.batches.map (·.id), id < db.nextId
  earlierRuns : ∀ id ∈ db.runs.map (·.id), id < db.nextId

theorem batchKey_injective : Function.Injective batchKey := fun _ _ same =>
  uuidText_injective ((String.append_right_inj _).mp same)

theorem runKey_injective : Function.Injective runKey := fun _ _ same =>
  uuidText_injective ((String.append_right_inj _).mp same)

private theorem name_begins {start name : String} (text : String)
    (early : start.toList.isPrefixOf name.toList = true) :
    start.toList <+: (name ++ text).toList := by
  rw [String.toList_append]
  exact (List.isPrefixOf_iff_prefix.mp early).trans (List.prefix_append name.toList text.toList)

private theorem batchKey_begins (id : ℕ) : "grading.b".toList <+: (batchKey id).toList :=
  name_begins (uuidText id) (by decide +kernel)

private theorem runKey_begins (id : ℕ) : "grading.c".toList <+: (runKey id).toList :=
  name_begins (uuidText id) (by decide +kernel)

theorem batchKey_ne_runKey (batch run : ℕ) : batchKey batch ≠ runKey run := by
  intro same
  have early := batchKey_begins batch
  rw [same] at early
  have equal : "grading.b".toList <+: "grading.c".toList :=
    List.prefix_of_prefix_length_le early (runKey_begins run) (by decide +kernel)
  have letters := List.isPrefixOf_iff_prefix.mpr equal
  revert letters
  decide +kernel

/-- The keys of facts are keys of grading. -/
theorem keys_of_grading {db : Database} : ∀ key ∈ db.keys, isGradingKey key = true := by
  intro key member
  unfold isGradingKey
  rw [List.isPrefixOf_iff_prefix]
  rcases List.mem_append.mp member with batch | run
  · obtain ⟨id, -, rfl⟩ := List.mem_map.mp batch
    exact (List.isPrefixOf_iff_prefix.mp (by decide +kernel)).trans (batchKey_begins id)
  · obtain ⟨id, -, rfl⟩ := List.mem_map.mp run
    exact (List.isPrefixOf_iff_prefix.mp (by decide +kernel)).trans (runKey_begins id)

theorem Database.Drawn.keys {db : Database} (drawn : db.Drawn) : db.keys.Nodup := by
  refine List.nodup_append.mpr ⟨drawn.batches.map batchKey_injective,
    drawn.runs.map runKey_injective, ?_⟩
  intro key batch key' run same
  obtain ⟨id, -, rfl⟩ := List.mem_map.mp batch
  obtain ⟨id', -, rfl⟩ := List.mem_map.mp run
  exact batchKey_ne_runKey id id' same

section

variable {db db' : Database} {request : Option OutboxRequest}

private theorem later_nodup {ids : List ℕ} {next : ℕ} (nodup : ids.Nodup)
    (earlier : ∀ id ∈ ids, id < next) : (ids ++ [next]).Nodup := by
  refine List.nodup_append.mpr ⟨nodup, List.nodup_singleton next, ?_⟩
  rintro id member _ (_ | ⟨_, ⟨⟩⟩)
  exact (earlier id member).ne

private theorem later_earlier {ids : List ℕ} {next next' : ℕ} (earlier : ∀ id ∈ ids, id < next)
    (later : next < next') : ∀ id ∈ ids ++ [next], id < next' := by
  intro id member
  rcases List.mem_append.mp member with old | new
  · exact (earlier id old).trans later
  · rw [List.mem_singleton.mp new]
    exact later

theorem Recorded.drawn (recorded : Recorded db request db') (drawn : db.Drawn) : db'.Drawn := by
  obtain ⟨batches, runs, earlierBatches, earlierRuns⟩ := drawn
  cases recorded with
  | nothing _ sameBatches sameRuns later =>
    refine ⟨?_, ?_, ?_, ?_⟩
    · rwa [sameBatches]
    · rwa [sameRuns]
    · rw [sameBatches]
      exact fun id member => (earlierBatches id member).trans_le later
    · rw [sameRuns]
      exact fun id member => (earlierRuns id member).trans_le later
  | submitted assessment batch moment found registered tenant count id isBatches sameRuns later =>
    have ids : db'.batches.map (·.id) = db.batches.map (·.id) ++ [db.nextId] := by
      rw [isBatches, List.map_append, List.map_cons, List.map_nil, id]
    refine ⟨?_, ?_, ?_, ?_⟩
    · rw [ids]
      exact later_nodup batches earlierBatches
    · rwa [sameRuns]
    · rw [ids]
      exact later_earlier earlierBatches later
    · rw [sameRuns]
      exact fun id member => (earlierRuns id member).trans later
  | compiled assessment run moment found registered tenant id sameBatches isRuns later =>
    rw [id] at isRuns
    refine ⟨?_, ?_, ?_, ?_⟩
    · rwa [sameBatches]
    · rw [isRuns]
      exact later_nodup runs earlierRuns
    · rw [sameBatches]
      exact fun id member => (earlierBatches id member).trans later
    · rw [isRuns]
      exact later_earlier earlierRuns later

private theorem perm_late {α : Type} (front middle new last : List α) :
    (front ++ (middle ++ new ++ last)).Perm (front ++ (middle ++ last) ++ new) := by
  rw [List.append_assoc front, List.append_assoc, List.append_assoc]
  exact ((List.perm_append_comm).append_left middle).append_left front

/-- What a call records is what it registers a callback for. -/
theorem Recorded.keys (recorded : Recorded db request db') :
    (db.keys ++ request.toList.map (·.idempotencyKey)).Perm db'.keys := by
  cases recorded with
  | nothing none sameBatches sameRuns later =>
    rw [none, Database.keys, Database.keys, sameBatches, sameRuns]
    exact List.Perm.of_eq (List.append_nil _)
  | submitted assessment batch moment found registered tenant count id isBatches sameRuns later =>
    rw [registered, Database.keys, Database.keys, isBatches, sameRuns]
    simp only [List.map_append, List.map_cons, List.map_nil]
    exact (perm_late [] _ [batchKey batch.id] _).symm
  | compiled assessment run moment found registered tenant id sameBatches isRuns later =>
    rw [registered, Database.keys, Database.keys, sameBatches, isRuns]
    simp only [List.map_append, List.map_cons, List.map_nil, ← List.append_assoc]
    exact List.Perm.refl _

end

/-! ## The outbox -/

/-- A statement of the relay writes no event and changes no contract. -/
theorem relay_frame {statement : Statement} {choice : Choice} {tables : Events.Tables}
    (other : ∀ row, statement ≠ .insertOutbox row) :
    (execute statement choice tables).2.outbox.map (·.idempotencyKey) =
        tables.outbox.map (·.idempotencyKey) ∧
      (execute statement choice tables).2.registry = tables.registry := by
  cases statement with
  | insertOutbox row => exact absurd rfl (other row)
  | lockSelected ids now dispatcherName =>
    refine ⟨?_, rfl⟩
    change List.map _ (List.map _ _) = _
    rw [List.map_map]
    apply List.map_congr_left
    intro row _
    simp only [Function.comp_apply]
    split <;> rfl
  | updateEvent event change =>
    simp only [execute]
    split
    · refine ⟨?_, rfl⟩
      change List.map _ (List.map _ _) = _
      rw [List.map_map]
      apply List.map_congr_left
      intro row _
      simp only [Function.comp_apply]
      split
      · cases change <;> rfl
      · rfl
    · exact ⟨rfl, rfl⟩
  | insertConsumer row =>
    simp only [execute]
    split <;> exact ⟨rfl, rfl⟩
  | updateConsumer event consumer change =>
    simp only [execute]
    split <;> exact ⟨rfl, rfl⟩
  | insertDeadLetter row =>
    simp only [execute]
    split <;> exact ⟨rfl, rfl⟩
  | _ => exact ⟨rfl, rfl⟩

theorem gradingKeys_insert {tables : Events.Tables} {row : EventOutbox} :
    gradingKeys (tables.insertEvent row) =
      gradingKeys tables ++ [row.idempotencyKey].filter isGradingKey := by
  unfold gradingKeys Events.Tables.insertEvent
  rw [List.map_append, List.filter_append]
  rfl

section

variable [Unicode] {s t : Backbone} {place : ℕ} {request : OutboxRequest}

/-- A callback that ran left its event, or raised and left nothing. -/
theorem announce_cases (s : Backbone) (place : ℕ) (request : OutboxRequest) :
    s.announce place request =
        { s with onCommit := s.onCommit.eraseIdx place, lost := s.lost ++ [request] } ∨
      ∃ row : EventOutbox, row.idempotencyKey = request.idempotencyKey ∧
        s.announce place request =
          { s with tables := s.tables.insertEvent row, onCommit := s.onCommit.eraseIdx place } := by
  unfold Backbone.announce
  rcases Events.write_outbox_event_run request s.tables with
    ⟨e, ran⟩ | ⟨row, -, isKey, -, ran⟩
  · left
    rw [ran]
  · right
    refine ⟨row, isKey, ?_⟩
    rw [ran]

/-- Another module's event changes neither grading's events nor the contracts. -/
theorem produce_frame (tables : Events.Tables) (other : isGradingKey request.idempotencyKey = false) :
    ∃ after, ((writeOutboxEvent request).run executeNow tables).2 = after ∧
      gradingKeys after = gradingKeys tables ∧ after.registry = tables.registry := by
  rcases Events.write_outbox_event_run request tables with ⟨e, ran⟩ | ⟨row, -, isKey, -, ran⟩
  · exact ⟨tables, by rw [ran], rfl, rfl⟩
  · refine ⟨tables.insertEvent row, by rw [ran], ?_, rfl⟩
    rw [gradingKeys_insert, isKey, List.filter_cons_of_neg (by simp [other]), List.filter_nil,
      List.append_nil]

omit [Unicode] in
/-- The callback at a place, and the others. -/
theorem taken_perm (there : s.onCommit[place]? = some request) :
    (request.idempotencyKey :: (s.onCommit.eraseIdx place).map (·.idempotencyKey)).Perm
      (s.onCommit.map (·.idempotencyKey)) := by
  obtain ⟨bound, is⟩ := List.getElem?_eq_some_iff.mp there
  have whole := (List.getElem_cons_eraseIdx_perm bound).map (·.idempotencyKey)
  rwa [is] at whole

/-! ## Steps -/

/-- Each fact has its event, waits for it, or lost it. -/
structure Backbone.Conserved (s : Backbone) : Prop where
  drawn : s.db.Drawn
  keys : s.keys.Perm s.db.keys

omit [Unicode] in
theorem Backbone.Conserved.nodup (conserved : s.Conserved) : s.keys.Nodup :=
  conserved.keys.nodup_iff.mpr conserved.drawn.keys

omit [Unicode] in
theorem Backbone.Conserved.of_grading (conserved : s.Conserved) {key : String}
    (member : key ∈ s.keys) : isGradingKey key = true :=
  keys_of_grading key (conserved.keys.mem_iff.mp member)

omit [Unicode] in
/-- Where a fact has no event, its key is free. -/
theorem Backbone.Conserved.free (conserved : s.Conserved) {key : String}
    (absent : key ∈ s.onCommit.map (·.idempotencyKey) ++ s.lost.map (·.idempotencyKey)) :
    s.tables.keyTaken key = false := by
  rw [Bool.eq_false_iff]
  intro taken
  obtain ⟨row, member, is⟩ := List.any_eq_true.mp taken
  have here : key ∈ s.tables.outbox.map (·.idempotencyKey) :=
    List.mem_map.mpr ⟨row, member, by simpa using is⟩
  have grading := conserved.of_grading (List.mem_append_right _ absent)
  have apart := (List.nodup_append.mp conserved.nodup).2.2
  exact apart key (List.mem_filter.mpr ⟨here, grading⟩) key absent rfl

omit [Unicode] in
theorem Backbone.Conserved.lose (conserved : s.Conserved)
    (there : s.onCommit[place]? = some request) :
    Backbone.Conserved
      { s with onCommit := s.onCommit.eraseIdx place, lost := s.lost ++ [request] } := by
  refine ⟨conserved.drawn, List.Perm.trans ?_ conserved.keys⟩
  apply List.Perm.append_left
  simp only [List.map_append, List.map_cons, List.map_nil, ← List.append_assoc]
  exact (List.perm_append_singleton _ _).trans ((taken_perm there).append_right _)

theorem Backbone.Conserved.announce (conserved : s.Conserved)
    (there : s.onCommit[place]? = some request) : (s.announce place request).Conserved := by
  rcases announce_cases s place request with lost | ⟨row, isKey, written⟩
  · rw [lost]
    exact conserved.lose there
  · rw [written]
    refine ⟨conserved.drawn, List.Perm.trans ?_ conserved.keys⟩
    have waiting : request.idempotencyKey ∈ s.onCommit.map (·.idempotencyKey) :=
      List.mem_map_of_mem (List.mem_of_getElem? there)
    have grading := conserved.of_grading
      (List.mem_append_right _ (List.mem_append_left _ waiting))
    unfold Backbone.keys
    rw [gradingKeys_insert, isKey, List.filter_cons_of_pos grading, List.filter_nil,
      List.append_assoc]
    apply List.Perm.append_left
    exact (taken_perm there).append_right _

/-- The relay and the other modules leave grading's events and the contracts alone. -/
theorem relay_step {statement : Statement} {choice : Choice}
    (stepped : backboneMachine.step s (.relay statement choice) = some t) :
    ∃ after, gradingKeys after = gradingKeys s.tables ∧ after.registry = s.tables.registry ∧
      t = { s with tables := after } := by
  cases statement with
  | insertOutbox row => cases stepped
  | _ =>
    cases stepped
    refine ⟨_, congrArg (List.filter isGradingKey) (relay_frame ?_).1, (relay_frame ?_).2, rfl⟩
    all_goals
      intro row is
      cases is

@[inherit_doc relay_step]
theorem produce_step (stepped : backboneMachine.step s (.produce request) = some t) :
    ∃ after, gradingKeys after = gradingKeys s.tables ∧ after.registry = s.tables.registry ∧
      t = { s with tables := after } := by
  change (if isGradingKey request.idempotencyKey then none else some _) = some t at stepped
  split at stepped
  · cases stepped
  next other =>
    obtain ⟨after, ran, keys, same⟩ := produce_frame s.tables (Bool.eq_false_iff.mpr other)
    rw [ran] at stepped
    exact ⟨after, keys, same, (Option.some.inj stepped).symm⟩

/-- Every step moves a key, records one with its callback, or leaves the keys alone. -/
theorem Backbone.Conserved.step (conserved : s.Conserved) {label : BackboneStep}
    (stepped : backboneMachine.step s label = some t) : t.Conserved := by
  cases label with
  | call call =>
    cases stepped
    have recorded : Recorded s.db (call.registers s.db) (call.next s.db) := call_recorded call
    refine ⟨recorded.drawn conserved.drawn, ?_⟩
    unfold Backbone.keys
    rw [List.map_append]
    exact (perm_late _ _ _ _).trans ((conserved.keys.append_right _).trans recorded.keys)
  | announce place =>
    obtain ⟨request, there, rfl⟩ := Option.map_eq_some_iff.mp stepped
    exact conserved.announce there
  | crash place =>
    obtain ⟨request, there, rfl⟩ := Option.map_eq_some_iff.mp stepped
    exact conserved.lose there
  | relay statement choice =>
    obtain ⟨after, keys, -, rfl⟩ := relay_step stepped
    refine ⟨conserved.drawn, ?_⟩
    unfold Backbone.keys
    rw [keys]
    exact conserved.keys
  | produce request =>
    obtain ⟨after, keys, -, rfl⟩ := produce_step stepped
    refine ⟨conserved.drawn, ?_⟩
    unfold Backbone.keys
    rw [keys]
    exact conserved.keys

/-- Nothing is recorded, announced or lost yet. -/
structure Backbone.Untold (s : Backbone) : Prop where
  batches : s.db.batches = []
  runs : s.db.runs = []
  outbox : s.tables.outbox = []
  onCommit : s.onCommit = []
  lost : s.lost = []

omit [Unicode] in
theorem Backbone.Untold.conserved (untold : s.Untold) : s.Conserved := by
  obtain ⟨batches, runs, outbox, onCommit, lost⟩ := untold
  refine ⟨⟨?_, ?_, ?_, ?_⟩, ?_⟩
  · simp [batches]
  · simp [runs]
  · simp [batches]
  · simp [runs]
  · simp [Backbone.keys, gradingKeys, Database.keys, batches, runs, outbox, onCommit, lost]

/-- **Each fact is announced once.**  After any steps, in any order, each submission and each
compilation run has exactly one event in the outbox, or exactly one callback that has not run,
or lost it; and no event of grading is about anything else. -/
theorem announced_once {start : Backbone} {steps : List BackboneStep} (untold : start.Untold)
    (ran : backboneMachine.run start steps = some s) :
    s.db.keys.Nodup ∧ ∀ key, isGradingKey key = true →
      s.tables.outbox.countP (·.idempotencyKey == key) +
          (s.onCommit.countP (·.idempotencyKey == key) +
            s.lost.countP (·.idempotencyKey == key)) =
        if key ∈ s.db.keys then 1 else 0 := by
  have keeps : ∀ s label t, Backbone.Conserved s → backboneMachine.step s label = some t →
      Backbone.Conserved t := fun s label t conserved stepped => conserved.step stepped
  have conserved := Machine.invariant_of_steps keeps untold.conserved ran
  refine ⟨conserved.drawn.keys, fun key grading => ?_⟩
  have once := (conserved.keys.count_eq key).trans conserved.drawn.keys.count
  rw [← once, Backbone.keys, List.count_append, List.count_append, gradingKeys,
    List.count_filter grading]
  simp only [List.count, List.countP_map]
  rfl

/-! ## Crashes -/

/-- The contracts of grading's events. -/
def gradingContracts : List EventTypeRegistry := [batchSubmittedContract, compilationCompletedContract]

/-- They are registered and active. -/
def Registered (tables : Events.Tables) : Prop :=
  ∀ contract ∈ gradingContracts,
    tables.contract? contract.eventType contract.eventVersion = some contract

/-- A contract of grading lets the request through. -/
def Contracted (request : OutboxRequest) : Prop :=
  ∃ contract ∈ gradingContracts, contract.eventType = request.eventType ∧
    contract.eventVersion = request.eventVersion ∧ Wellformed request contract

/-- A process dies before its callback. -/
def BackboneStep.isCrash : BackboneStep → Bool
  | .crash _ => true
  | _ => false

/-- Every callback that waits will be accepted. -/
structure Backbone.Announcing (s : Backbone) : Prop where
  conserved : s.Conserved
  registered : Registered s.tables
  admitted : ∀ request ∈ s.onCommit, Contracted request

omit [Unicode] in
theorem Registered.same {tables tables' : Events.Tables} (registered : Registered tables)
    (same : tables'.registry = tables.registry) : Registered tables' := by
  intro contract member
  have found := registered contract member
  unfold Events.Tables.contract? at found ⊢
  rwa [same]

theorem Recorded.admitted {db db' : Database} {request : Option OutboxRequest}
    (recorded : Recorded db request db') (uuids : db.Uuids) : ∀ r ∈ request.toList, Contracted r := by
  intro r member
  rw [Option.mem_toList] at member
  cases recorded with
  | nothing none sameBatches sameRuns later =>
    rw [none] at member
    cases member
  | submitted assessment batch moment found registered tenant count id isBatches sameRuns later =>
    rw [registered] at member
    cases member
    have fits : batch.id < 2 ^ 128 := id ▸ uuids.drawn
    exact ⟨batchSubmittedContract, by simp [gradingContracts], rfl, rfl,
      batch_wellformed (uuids.assessments assessment found) tenant fits count⟩
  | compiled assessment run moment found registered tenant id sameBatches isRuns later =>
    rw [registered] at member
    cases member
    have fits : run.id < 2 ^ 128 := id ▸ uuids.drawn
    exact ⟨compilationCompletedContract, by simp [gradingContracts], rfl, rfl,
      run_wellformed (uuids.assessments assessment found) tenant fits⟩

/-- A callback that runs leaves its event. -/
theorem Backbone.Announcing.announce (announcing : s.Announcing)
    (there : s.onCommit[place]? = some request) :
    ∃ row : EventOutbox, s.announce place request =
      { s with tables := s.tables.insertEvent row, onCommit := s.onCommit.eraseIdx place } := by
  have member := List.mem_of_getElem? there
  obtain ⟨contract, known, isType, isVersion, wellformed⟩ := announcing.admitted request member
  have found := announcing.registered contract known
  rw [isType, isVersion] at found
  have free := announcing.conserved.free (List.mem_append_left _ (List.mem_map_of_mem member))
  obtain ⟨row, -, ran⟩ := Events.write_outbox_event_ok wellformed found free
  refine ⟨row, ?_⟩
  unfold Backbone.announce
  rw [ran]

/-- Every step but a crash keeps what was lost as it was. -/
theorem Backbone.Announcing.step (announcing : s.Announcing) (uuids : s.db.Uuids)
    {label : BackboneStep} (stepped : backboneMachine.step s label = some t) :
    t.Announcing ∧ t.lost.length = s.lost.length + if label.isCrash then 1 else 0 := by
  have conserved := announcing.conserved.step stepped
  have later : ∀ place, ∀ request ∈ s.onCommit.eraseIdx place, Contracted request :=
    fun place request member => announcing.admitted request (List.mem_of_mem_eraseIdx member)
  cases label with
  | call call =>
    cases stepped
    have recorded : Recorded s.db (call.registers s.db) (call.next s.db) := call_recorded call
    refine ⟨⟨conserved, announcing.registered, fun request member => ?_⟩, rfl⟩
    rcases List.mem_append.mp member with old | new
    · exact announcing.admitted request old
    · exact recorded.admitted uuids request new
  | announce place =>
    obtain ⟨request, there, rfl⟩ := Option.map_eq_some_iff.mp stepped
    obtain ⟨row, written⟩ := announcing.announce there
    rw [written] at conserved ⊢
    exact ⟨⟨conserved, announcing.registered.same rfl, later place⟩, rfl⟩
  | crash place =>
    obtain ⟨request, there, rfl⟩ := Option.map_eq_some_iff.mp stepped
    refine ⟨⟨conserved, announcing.registered, later place⟩, ?_⟩
    exact List.length_append
  | relay statement choice =>
    obtain ⟨after, -, same, rfl⟩ := relay_step stepped
    exact ⟨⟨conserved, announcing.registered.same same, announcing.admitted⟩, rfl⟩
  | produce request =>
    obtain ⟨after, -, same, rfl⟩ := produce_step stepped
    exact ⟨⟨conserved, announcing.registered.same same, announcing.admitted⟩, rfl⟩

/-- A run loses one event for each crash. -/
theorem Backbone.Announcing.run (announcing : s.Announcing) {steps : List BackboneStep}
    (uuids : backboneMachine.Meets (fun s _ => s.db.Uuids) s steps)
    (ran : backboneMachine.run s steps = some t) :
    t.Announcing ∧ t.lost.length = s.lost.length + steps.countP (·.isCrash) := by
  induction steps generalizing s with
  | nil =>
    cases ran
    exact ⟨announcing, rfl⟩
  | cons label steps ih =>
    obtain ⟨r, stepped, ran⟩ := Machine.run_cons_some.mp ran
    obtain ⟨next, lost⟩ := announcing.step uuids.1 stepped
    obtain ⟨last, total⟩ := ih next (uuids.2 r stepped) ran
    refine ⟨last, ?_⟩
    rw [total, lost, List.countP_cons]
    omega

/-- **Only a crash loses an event.**  With the contracts of grading registered, and as long as
identifiers are 128-bit numbers: after any steps, the submissions and the runs without an event
are those whose callback has not run, and one for each process that died before its callback. -/
theorem unannounced_are_crashed {start : Backbone} {steps : List BackboneStep}
    (untold : start.Untold) (registered : Registered start.tables)
    (uuids : backboneMachine.Meets (fun s _ => s.db.Uuids) start steps)
    (ran : backboneMachine.run start steps = some s) :
    s.db.keys.countP (fun key => !s.tables.keyTaken key) =
      s.onCommit.length + steps.countP (·.isCrash) := by
  have announcing : start.Announcing :=
    ⟨untold.conserved, registered, fun request member => by simp [untold.onCommit] at member⟩
  obtain ⟨last, lost⟩ := announcing.run uuids ran
  rw [untold.lost, List.length_nil, Nat.zero_add] at lost
  have told : (gradingKeys s.tables).countP (fun key => !s.tables.keyTaken key) = 0 := by
    rw [List.countP_eq_zero]
    intro key member
    obtain ⟨row, here, is⟩ := List.mem_map.mp (List.mem_filter.mp member).1
    have taken : s.tables.keyTaken key = true :=
      List.any_eq_true.mpr ⟨row, here, by simpa using is⟩
    simp [taken]
  have untaken : (s.onCommit.map (·.idempotencyKey) ++ s.lost.map (·.idempotencyKey)).countP
      (fun key => !s.tables.keyTaken key) = s.onCommit.length + s.lost.length := by
    have all := List.countP_eq_length.mpr fun key member =>
      show (!s.tables.keyTaken key) = true by rw [last.conserved.free member]; rfl
    rw [all, List.length_append, List.length_map, List.length_map]
  rw [← last.conserved.keys.countP_eq, Backbone.keys, List.countP_append, told, untaken, lost,
    Nat.zero_add]

end

section Sample

attribute [local instance] Unicode.ascii

/-- The marks of a class are announced; the process that compiled them dies before its
callback. -/
private def termSteps : List BackboneStep :=
  [.call (.marks (.save Sample.exam)), .call (.marks (.submit Sample.classMarks)), .announce 0,
    .call (.compile 1 1 (some ⟨12, true⟩)), .crash 0]

private def termStart : Backbone where
  db := Sample.database
  tables := { Events.Tables.empty 0 with registry := gradingContracts }
  onCommit := []
  lost := []

private theorem term_untold : termStart.Untold := ⟨rfl, rfl, rfl, rfl, rfl⟩

private theorem term_runs : (backboneMachine.run termStart termSteps).isSome = true ∧
    backboneMachine.Meets (fun s _ => s.db.Uuids) termStart termSteps := by
  decide +kernel

theorem term_is_announced_once :
    ∃ s, backboneMachine.run termStart termSteps = some s ∧
      s.db.keys.Nodup ∧ ∀ key, isGradingKey key = true →
        s.tables.outbox.countP (·.idempotencyKey == key) +
            (s.onCommit.countP (·.idempotencyKey == key) +
              s.lost.countP (·.idempotencyKey == key)) =
          if key ∈ s.db.keys then 1 else 0 := by
  obtain ⟨s, ran⟩ := Option.isSome_iff_exists.mp term_runs.1
  exact ⟨s, ran, announced_once term_untold ran⟩

/-- One event is lost in this term. -/
theorem term_loses_one_event :
    ∃ s, backboneMachine.run termStart termSteps = some s ∧
      s.db.keys.countP (fun key => !s.tables.keyTaken key) = s.onCommit.length + 1 := by
  obtain ⟨s, ran⟩ := Option.isSome_iff_exists.mp term_runs.1
  have registered : Registered termStart.tables := by
    intro contract member
    simp only [gradingContracts, List.mem_cons, List.not_mem_nil, or_false] at member
    rcases member with rfl | rfl <;> rfl
  exact ⟨s, ran, unannounced_are_crashed term_untold registered term_runs.2 ran⟩

end Sample

end Darasa.Grading
