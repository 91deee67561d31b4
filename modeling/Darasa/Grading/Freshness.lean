import Darasa.Grading.Marks
import Darasa.Grading.ReportRows

/-!
Freshness of compiled marks.

A compilation copies the marks of its moment.  Whatever changes a mark afterwards leaves
something that readiness looks at: the runs are marked stale, or the assessment or one of
its batches is later than the run.  So an assessment that is ready for reports has been
compiled from the marks it has now.
-/

namespace Darasa.Grading

open Darasa (Machine Outcome Unicode refuseIf requireSome)
open Darasa.Core (CustomUser)

/-- A call that reads or writes marks, a compilation, or a change of the components. -/
inductive GradingCall where
  | marks (call : MarksCall)
  | compile (tenant assessment : ℕ) (requestedBy : Option CustomUser)
  | setComponents (components : List AssessmentComponent)

section

variable [Unicode]

/-- The tables the call leaves, or what it raises. -/
def GradingCall.call (db : Database) : GradingCall → Outcome Database
  | marks call => call.call db
  | compile tenant assessment requestedBy =>
    (compileAssessment db tenant assessment requestedBy).map Prod.snd
  | setComponents components => .ok { db with components := components }

/-- The tables after a call; one that raises is rolled back. -/
def GradingCall.next (db : Database) (label : GradingCall) : Database :=
  match label.call db with
  | .ok db' => db'
  | .error _ => db

/-- The calls, in any order, each atomic. -/
def gradingMachine : Machine Database GradingCall where
  step db label := some (label.next db)

end

/-- A snapshot of a record: its learner, and its scores out of the maximum of the
assessment. -/
def CompiledLearnerSnapshot.Shows (assessment : Assessment) (record : GradeRecord)
    (snapshot : CompiledLearnerSnapshot) : Prop :=
  snapshot.student = record.student ∧
    buildScoreSummary record assessment = .ok snapshot.scoreSummary

/-- The snapshots of the run are of the submitted records of the assessment, one for each. -/
def Mirrors (db : Database) (assessment : Assessment) (run : CompilationRun) : Prop :=
  List.Forall₂ (CompiledLearnerSnapshot.Shows assessment)
    ((db.submittedRecords assessment).insertionSort fun a b => a.student ≤ b.student)
    (db.learnerSnapshots.filter (·.compilationRun == run.id))

/-- The assessment, or a batch of it, is later than a moment. -/
def ChangedAfter (db : Database) (assessment : Assessment) (moment : ℕ) : Prop :=
  moment < assessment.updatedAt ∨
    ∃ batch ∈ db.submittedBatches assessment, ∃ at_, batch.submittedAt = some at_ ∧ moment < at_

/-- Compiled marks are the marks there are, unless the run is stale or something is later
than it. -/
structure Fresh (db : Database) : Prop where
  keyed : Keyed db
  owned : ∀ record ∈ db.records, record.submissionBatch < db.nextId
  snapshots : ∀ snapshot ∈ db.learnerSnapshots, snapshot.compilationRun < db.nextId
  runs : ∀ run ∈ db.runs, run.id < db.nextId
  compiled : ∀ run ∈ db.runs, run.status ≠ .stale → ∃ c, run.compiledAt = some c ∧ c < db.clock
  current : ∀ run ∈ db.runs, run.status ≠ .stale → ∀ assessment,
    db.assessment? run.assessment = some assessment → assessment.tenant = run.tenant →
    (∃ c, run.compiledAt = some c ∧ ChangedAfter db assessment c) ∨ Mirrors db assessment run

variable {db db' : Database} {run : CompilationRun} {assessment : Assessment}

/-! ## What the marks of an assessment depend on -/

theorem submitted_same (records : db'.records = db.records) (batches : db'.batches = db.batches) :
    db'.submittedRecords assessment = db.submittedRecords assessment := by
  unfold Database.submittedRecords Database.isSubmitted Database.batch?
  rw [records, batches]

theorem Mirrors.same (mirrors : Mirrors db assessment run) (records : db'.records = db.records)
    (batches : db'.batches = db.batches) (snapshots : db'.learnerSnapshots = db.learnerSnapshots) :
    Mirrors db' assessment run := by
  unfold Mirrors
  rw [submitted_same records batches, snapshots]
  exact mirrors

/-- A step that changes no mark keeps what is fresh. -/
theorem Fresh.same (fresh : Fresh db) (assessments : db'.assessments = db.assessments)
    (records : db'.records = db.records) (batches : db'.batches = db.batches)
    (snapshots : db'.learnerSnapshots = db.learnerSnapshots) (runs : db'.runs = db.runs)
    (keyed : Keyed db') (clock : db.clock ≤ db'.clock) (later : db.nextId ≤ db'.nextId) :
    Fresh db' := by
  refine ⟨keyed, ?_, ?_, ?_, ?_, ?_⟩
  · exact fun record member => (fresh.owned record (records ▸ member)).trans_le later
  · exact fun snapshot member => (fresh.snapshots snapshot (snapshots ▸ member)).trans_le later
  · exact fun run member => (fresh.runs run (runs ▸ member)).trans_le later
  · intro run member live
    obtain ⟨c, is, before⟩ := fresh.compiled run (runs ▸ member) live
    exact ⟨c, is, before.trans_le clock⟩
  · intro run member live assessment found tenant
    have found' : db.assessment? run.assessment = some assessment := by
      unfold Database.assessment? at found ⊢
      rw [← assessments, found]
    rcases fresh.current run (runs ▸ member) live assessment found' tenant with
      ⟨c, is, changed⟩ | mirrors
    · refine .inl ⟨c, is, ?_⟩
      unfold ChangedAfter Database.submittedBatches at changed ⊢
      rw [batches]
      exact changed
    · exact .inr (mirrors.same records batches snapshots)

/-! ## What a call does -/

/-- A save of an assessment makes it later than its runs. -/
theorem Fresh.store (fresh : Fresh db) {self : Assessment} [Unicode]
    (keyed : Keyed (db.store self)) : Fresh (db.store self) := by
  have clock : db.clock < (db.store self).clock := by
    change db.clock < (self.stored db.clock).updatedAt + 1
    unfold Assessment.stored
    simp only
    split <;> omega
  have updated : db.clock ≤ (self.stored db.clock).updatedAt := by
    unfold Assessment.stored
    simp only
    split <;> omega
  refine ⟨keyed, fresh.owned, fresh.snapshots, fresh.runs, ?_, ?_⟩
  · intro run member live
    obtain ⟨c, is, before⟩ := fresh.compiled run member live
    exact ⟨c, is, before.trans clock⟩
  · intro run member live assessment found tenant
    rw [assessment_of_store] at found
    split at found
    next =>
      cases found
      obtain ⟨c, is, before⟩ := fresh.compiled run member live
      exact .inl ⟨c, is, .inl (before.trans_le updated)⟩
    next =>
      rcases fresh.current run member live assessment found tenant with changed | mirrors
      · exact .inl changed
      · exact .inr (mirrors.same rfl rfl rfl)

/-- A batch under a new key changes no old batch. -/
theorem batch_of_new {batch : GradeSubmissionBatch} (batches : db'.batches = db.batches ++ [batch])
    (new : batch.id = db.nextId) {id : ℕ} (old : id < db.nextId) :
    db'.batch? id = db.batch? id := by
  unfold Database.batch?
  rw [batches, List.find?_append]
  have other : (batch.id == id) = false := by
    rw [beq_eq_false_iff_ne, new]
    omega
  simp [other]

/-- Records of another assessment change nothing of this one. -/
theorem submitted_of_others {records : List GradeRecord}
    (added : db'.records = db.records ++ records)
    (others : ∀ record ∈ records, record.assessment ≠ assessment.id)
    (batches : ∀ record ∈ db.records,
      db'.batch? record.submissionBatch = db.batch? record.submissionBatch) :
    db'.submittedRecords assessment = db.submittedRecords assessment := by
  unfold Database.submittedRecords
  rw [added, List.filter_append]
  have none : records.filter (fun record => record.tenant == assessment.tenant &&
      record.assessment == assessment.id && db'.isSubmitted record) = [] := by
    rw [List.filter_eq_nil_iff]
    intro record new
    simp [others record new]
  rw [none, List.append_nil]
  refine List.filter_congr fun record known => ?_
  unfold Database.isSubmitted
  rw [batches record known]

/-- An accepted submission is later than the runs of its assessment, and changes the marks of
no other. -/
theorem Fresh.submit (fresh : Fresh db) {batch : GradeSubmissionBatch} {records : List GradeRecord}
    (found : db.assessment? batch.assessment = some assessment)
    (tenant : batch.tenant = assessment.tenant) (keyed : Keyed db')
    (accepted : Accepted db assessment batch records db') : Fresh db' := by
  have written : ∀ record ∈ records, record.submissionBatch = db.nextId :=
    fun record member => (accepted.written record member).submissionBatch.trans accepted.id
  have result := accepted.result
  have here : batch.assessment = assessment.id := by
    have is := List.find?_some found
    exact (beq_iff_eq.mp is).symm
  have oldBatch : ∀ id < db.nextId, db'.batch? id = db.batch? id := fun id old =>
    batch_of_new (congrArg Database.batches result) accepted.id old
  subst result
  refine ⟨keyed, ?_, ?_, ?_, ?_, ?_⟩
  · intro record member
    rcases List.mem_append.mp member with known | new
    · have old := fresh.owned record known
      simp only
      omega
    · rw [written record new]
      simp only
      omega
  · intro snapshot member
    have old := fresh.snapshots snapshot member
    simp only
    omega
  · intro run member
    have old := fresh.runs run member
    simp only
    omega
  · intro run member live
    obtain ⟨c, is, before⟩ := fresh.compiled run member live
    refine ⟨c, is, ?_⟩
    simp only
    omega
  · intro run member live row there ofTenant
    by_cases same : run.assessment = batch.assessment
    · obtain ⟨c, is, before⟩ := fresh.compiled run member live
      have rowIs : row = assessment := by
        rw [same] at there
        exact Option.some.inj (there.symm.trans found)
      subst rowIs
      refine .inl ⟨c, is, .inr ⟨batch, ?_, db.clock + 1, accepted.submittedAt, by omega⟩⟩
      refine List.mem_filter.mpr ⟨List.mem_append_right _ List.mem_cons_self, ?_⟩
      simp [tenant, here, accepted.submitted, BatchStatus.isActive]
    · rcases fresh.current run member live row there ofTenant with ⟨c, is, changed⟩ | mirrors
      · refine .inl ⟨c, is, ?_⟩
        rcases changed with later | ⟨old, known, at_, submittedAt, later⟩
        · exact .inl later
        · refine .inr ⟨old, ?_, at_, submittedAt, later⟩
          unfold Database.submittedBatches at known ⊢
          exact List.mem_filter.mpr ⟨List.mem_append_left _ (List.mem_filter.mp known).1,
            (List.mem_filter.mp known).2⟩
      · have rowId : row.id = run.assessment := by simpa using List.find?_some there
        have others : ∀ record ∈ records, record.assessment ≠ row.id := by
          intro record new
          rw [(accepted.written record new).assessment, rowId]
          exact Ne.symm same
        refine .inr ?_
        unfold Mirrors at mirrors ⊢
        rw [submitted_of_others rfl others fun record known =>
          oldBatch _ (fresh.owned record known)]
        exact mirrors

section

variable [Unicode] {actor : CustomUser} {tenant id : ℕ} {reply : GradeCorrectionRequest}

/-- A correction is applied to a record of its school. -/
theorem apply_tenant (applied : applyApprovedCorrection db actor tenant id = .ok (reply, db')) :
    ∃ before record, db.getCorrectionForUpdate tenant id = .ok before ∧
      db.record? before.gradeRecord = some record ∧ record.tenant = before.tenant := by
  unfold applyApprovedCorrection at applied
  obtain ⟨correction, got, applied⟩ := Outcome.bind_ok.mp applied
  obtain ⟨record, ofCorrection, applied⟩ := Outcome.bind_ok.mp applied
  obtain ⟨assessment, ofRecord, applied⟩ := Outcome.bind_ok.mp applied
  obtain ⟨-, applied⟩ := Outcome.check_ok.mp applied
  obtain ⟨-, applied⟩ := Outcome.check_ok.mp applied
  obtain ⟨-, applied⟩ := Outcome.check_ok.mp applied
  obtain ⟨corrected, banded, applied⟩ := Outcome.bind_ok.mp applied
  obtain ⟨-, applied⟩ := Outcome.check_ok.mp applied
  obtain ⟨saved, stored, applied⟩ := Outcome.bind_ok.mp applied
  cases applied
  refine ⟨correction, record, got, record_of_ok.mp ofCorrection, ?_⟩
  have same : corrected.tenant = record.tenant := congrArg Prod.fst (banded_same banded).2.1
  obtain ⟨valid, -⟩ := Outcome.check_ok.mp stored
  obtain ⟨cleaned, -⟩ := Outcome.check_ok.mp valid
  have passed := (full_clean_ok.mp cleaned).2
  unfold GradeCorrectionRequest.clean at passed
  obtain ⟨ofTenant, -⟩ := Outcome.check_ok.mp passed
  rw [refuseIf_ok, bne_eq_false_iff_eq] at ofTenant
  exact same.symm.trans ofTenant

omit [Unicode] in
theorem banded_batch {record corrected : GradeRecord} {bands : List SchoolGradingBand}
    (banded : record.banded assessment bands = .ok corrected) :
    corrected.submissionBatch = record.submissionBatch := by
  unfold GradeRecord.banded at banded
  split at banded
  next =>
    cases banded
    rfl
  next =>
    obtain ⟨mapping, -, banded⟩ := Outcome.bind_ok.mp banded
    cases banded
    rfl

omit [Unicode] in
/-- An applied correction leaves the runs of its assessment stale, and changes the marks of no
other. -/
theorem Fresh.apply (fresh : Fresh db) {before after : GradeCorrectionRequest}
    {record corrected : GradeRecord} {entry : GradeCorrectionAuditRecord} (keyed : Keyed db')
    (ofTenant : record.tenant = before.tenant)
    (applied : Applied db before after record assessment corrected entry db') : Fresh db' := by
  obtain ⟨member, -⟩ := record_found applied.ofCorrection
  obtain ⟨sameId, sameKey, -⟩ := banded_same applied.banded
  have tenant : corrected.tenant = record.tenant := congrArg Prod.fst sameKey
  have sameAssessment : corrected.assessment = record.assessment := congrArg (·.2.1) sameKey
  have submission : corrected.submissionBatch = record.submissionBatch :=
    (banded_batch applied.banded).trans rfl
  have result := applied.result
  subst result
  refine ⟨keyed, ?_, ?_, ?_, ?_, ?_⟩
  · intro row there
    rcases Table.mem_replace there with rfl | ⟨known, -⟩
    · have old := fresh.owned record member
      rw [submission]
      simp only
      omega
    · have old := fresh.owned row known
      simp only
      omega
  · intro snapshot there
    have old := fresh.snapshots snapshot there
    simp only
    omega
  · intro run there
    obtain ⟨old, known, rfl⟩ := List.mem_map.mp there
    have below := fresh.runs old known
    split <;> simp only <;> omega
  · intro run there live
    obtain ⟨old, known, rfl⟩ := List.mem_map.mp there
    split at live
    next => exact absurd rfl live
    next apart =>
      rw [if_neg apart]
      obtain ⟨c, is, before⟩ := fresh.compiled old known live
      refine ⟨c, is, ?_⟩
      simp only
      omega
  · intro run there live row found ofRun
    obtain ⟨old, known, rfl⟩ := List.mem_map.mp there
    split at live
    next => exact absurd rfl live
    next apart =>
      rw [if_neg apart] at found ofRun ⊢
      rcases fresh.current old known live row found ofRun with changed | mirrors
      · exact .inl changed
      · have rowId : row.id = old.assessment := by simpa using List.find?_some found
        -- the record is not of this run's assessment and school
        have elsewhere : ¬ (record.tenant = row.tenant ∧ record.assessment = row.id) := by
          rintro ⟨sameTenant, same⟩
          refine apart ⟨?_, ?_⟩
          · rw [← ofRun, ← sameTenant, ofTenant]
          · rw [← rowId, ← same, sameAssessment]
        refine .inr ?_
        unfold Mirrors Database.submittedRecords at mirrors ⊢
        have kept : (Table.replace GradeRecord.id corrected db.records).filter (fun record =>
              record.tenant == row.tenant && record.assessment == row.id &&
                db.isSubmitted record) =
            db.records.filter fun record => record.tenant == row.tenant &&
              record.assessment == row.id && db.isSubmitted record := by
          apply Table.filter_replace
          · rw [tenant, sameAssessment]
            simpa using fun sameTenant same => absurd ⟨sameTenant, same⟩ elsewhere
          · intro other there' same
            have isRecord := Table.eq_of_key fresh.keyed.records there' member (same.trans sameId)
            rw [isRecord]
            simpa using fun sameTenant same => absurd ⟨sameTenant, same⟩ elsewhere
        exact kept ▸ mirrors

/-! ### Compilation -/

theorem learner_snapshots_show {version id : ℕ} {input : CompilationInput}
    {missing : List MissingMark} {records : List GradeRecord}
    {snapshots : List CompiledLearnerSnapshot}
    (built : buildLearnerSnapshots assessment version input missing run id records =
      .ok snapshots) :
    List.Forall₂ (CompiledLearnerSnapshot.Shows assessment) records snapshots ∧
      ∀ snapshot ∈ snapshots, snapshot.compilationRun = run.id := by
  induction records generalizing id snapshots with
  | nil =>
    cases built
    exact ⟨.nil, nofun⟩
  | cons record records ih =>
    obtain ⟨first, here, built⟩ := Outcome.bind_ok.mp built
    obtain ⟨rest, later, built⟩ := Outcome.bind_ok.mp built
    cases built
    obtain ⟨components, -, here⟩ := Outcome.bind_ok.mp here
    obtain ⟨scores, scored, here⟩ := Outcome.bind_ok.mp here
    cases here
    obtain ⟨shows_, ofRun⟩ := ih later
    exact ⟨.cons ⟨rfl, scored⟩ shows_, List.forall_mem_cons.mpr ⟨rfl, ofRun⟩⟩

/-- A run, and the snapshots stored with it. -/
structure Compiled (db : Database) (assessment : Assessment) (run : CompilationRun)
    (snapshots : List CompiledLearnerSnapshot) (db' : Database) : Prop where
  id : run.id = db.nextId
  tenant : run.tenant = assessment.tenant
  ofAssessment : run.assessment = assessment.id
  compiledAt : run.compiledAt = some db.clock
  show_ : List.Forall₂ (CompiledLearnerSnapshot.Shows assessment)
    ((db.submittedRecords assessment).insertionSort fun a b => a.student ≤ b.student) snapshots
  ofRun : ∀ snapshot ∈ snapshots, snapshot.compilationRun = run.id
  result : db' = { db with
    runs := db.staleRuns assessment.tenant assessment.id ++ [run]
    cohortSummaries := db'.cohortSummaries
    learnerSnapshots := db.learnerSnapshots ++ snapshots
    clock := db.clock + 2
    nextId := db.nextId + 1 + snapshots.length }

theorem compile_ok {requestedBy : Option CustomUser}
    (compiled : compileAssessment db tenant id requestedBy = .ok (run, db')) :
    ∃ assessment snapshots, db.tenantAssessment tenant id = some assessment ∧
      Compiled db assessment run snapshots db' := by
  obtain ⟨assessment, found, compiled⟩ := Outcome.bind_ok.mp compiled
  obtain ⟨user, -, compiled⟩ := Outcome.bind_ok.mp compiled
  obtain ⟨-, compiled⟩ := Outcome.check_ok.mp compiled
  unfold Database.compile at compiled
  obtain ⟨input, isInput, compiled⟩ := Outcome.bind_ok.mp compiled
  obtain ⟨missing, -, compiled⟩ := Outcome.bind_ok.mp compiled
  obtain ⟨invalid, -, compiled⟩ := Outcome.bind_ok.mp compiled
  obtain ⟨summary, -, compiled⟩ := Outcome.bind_ok.mp compiled
  obtain ⟨-, compiled⟩ := Outcome.check_ok.mp compiled
  obtain ⟨version, -, compiled⟩ := Outcome.bind_ok.mp compiled
  obtain ⟨snapshots, built, compiled⟩ := Outcome.bind_ok.mp compiled
  obtain ⟨-, isInput⟩ := Outcome.check_ok.mp isInput
  obtain ⟨-, isInput⟩ := Outcome.check_ok.mp isInput
  cases isInput
  split at compiled
  next =>
    cases compiled
    obtain ⟨shows_, ofRun⟩ := learner_snapshots_show built
    exact ⟨assessment, snapshots, requireSome_ok.mp found, rfl, rfl, rfl, rfl, shows_, ofRun, rfl⟩
  next => cases compiled

omit [Unicode] in
/-- A compilation mirrors the marks of its moment, and leaves the other runs of the assessment
stale. -/
theorem Fresh.compile (fresh : Fresh db) {snapshots : List CompiledLearnerSnapshot}
    (found : db.tenantAssessment tenant id = some assessment)
    (compiled : Compiled db assessment run snapshots db') : Fresh db' := by
  obtain ⟨there, ofTenant⟩ := Option.filter_eq_some_iff.mp found
  have idIs : assessment.id = id := by simpa using List.find?_some there
  have result := compiled.result
  have older : db.learnerSnapshots.filter (·.compilationRun == run.id) = [] := by
    rw [List.filter_eq_nil_iff]
    intro snapshot known
    have below := fresh.snapshots snapshot known
    rw [beq_iff_eq, compiled.id]
    omega
  have own : snapshots.filter (·.compilationRun == run.id) = snapshots := by
    rw [List.filter_eq_self]
    intro snapshot new
    rw [beq_iff_eq]
    exact compiled.ofRun snapshot new
  rw [result]
  refine ⟨?_, ?_, ?_, ?_, ?_, ?_⟩
  · obtain ⟨records, recordsDrawn, corrections, correctionsDrawn⟩ := fresh.keyed
    refine ⟨records, fun row known => ?_, corrections, fun row known => ?_⟩
    · exact (recordsDrawn row known).trans (by simp only; omega)
    · exact (correctionsDrawn row known).trans (by simp only; omega)
  · exact fun row known => (fresh.owned row known).trans (by simp only; omega)
  · intro snapshot member
    rcases List.mem_append.mp member with known | new
    · exact (fresh.snapshots snapshot known).trans (by simp only; omega)
    · rw [compiled.ofRun snapshot new, compiled.id]
      simp only
      omega
  · intro row member
    rcases List.mem_append.mp member with known | new
    · obtain ⟨old, known', rfl⟩ := List.mem_map.mp known
      have below := fresh.runs old known'
      split <;> simp only <;> omega
    · obtain rfl : row = run := by simpa using new
      rw [compiled.id]
      simp only
      omega
  · intro row member live
    rcases List.mem_append.mp member with known | new
    · obtain ⟨old, known', rfl⟩ := List.mem_map.mp known
      split at live
      next => exact absurd rfl live
      next apart =>
        rw [if_neg apart]
        obtain ⟨c, is, before⟩ := fresh.compiled old known' live
        exact ⟨c, is, before.trans (by simp only; omega)⟩
    · obtain rfl : row = run := by simpa using new
      exact ⟨db.clock, compiled.compiledAt, by simp only; omega⟩
  · intro row member live other found' ofRow
    rcases List.mem_append.mp member with known | new
    · obtain ⟨old, known', rfl⟩ := List.mem_map.mp known
      split at live
      next => exact absurd rfl live
      next apart =>
        rw [if_neg apart] at found' ofRow ⊢
        rcases fresh.current old known' live other found' ofRow with changed | mirrors
        · exact .inl changed
        · refine .inr ?_
          have none : snapshots.filter (·.compilationRun == old.id) = [] := by
            rw [List.filter_eq_nil_iff]
            intro snapshot new
            have below := fresh.runs old known'
            rw [beq_iff_eq, compiled.ofRun snapshot new, compiled.id]
            omega
          unfold Mirrors at mirrors ⊢
          rw [List.filter_append, none, List.append_nil]
          exact mirrors
    · obtain rfl : row = run := by simpa using new
      have same : other = assessment := by
        rw [compiled.ofAssessment, idIs] at found'
        exact Option.some.inj (found'.symm.trans there)
      subst same
      refine .inr ?_
      unfold Mirrors
      rw [List.filter_append, older, own, List.nil_append]
      exact compiled.show_

/-! ## Runs -/

/-- Every call that reads or writes marks keeps what is fresh. -/
theorem Fresh.marks (fresh : Fresh db) {call : MarksCall} (called : call.call db = .ok db') :
    Fresh db' := by
  have keyed : Keyed db' := effect_keyed fresh.keyed (call_effect called)
  cases call with
  | save assessment =>
    obtain ⟨-, rfl⟩ := save_ok.mp called
    exact fresh.store keyed
  | submit request =>
    obtain ⟨⟨reply, db''⟩, submitted, rfl⟩ := Outcome.map_ok called
    obtain ⟨key, assessment, assignment, rows, admitted, ⟨_, -, -, rfl⟩ | ⟨-, accepted⟩⟩ :=
      submit_ok.mp submitted
    · exact fresh
    · obtain ⟨filled, rfl⟩ := admitted.isKey
      have isKey : (Text.strip request.idempotencyKey).isEmpty = false := by
        rw [← blank_iff_strip, filled]
      obtain ⟨records, -, effect, ofTenant, ofAssessment, -⟩ := accept_ok isKey accepted
      obtain ⟨found, same, tenant⟩ := assessment_for_teacher admitted.found
      refine fresh.submit ?_ (ofTenant.trans tenant.symm) keyed effect
      rw [ofAssessment, same, found]
  | createCorrection actor tenant record payload =>
    obtain ⟨reply, created, rfl⟩ := Outcome.map_ok called
    obtain ⟨record, entry, requested⟩ := create_correction_ok created
    rw [requested.result] at keyed ⊢
    exact fresh.same rfl rfl rfl rfl rfl keyed (by simp only; omega) (by simp only; omega)
  | reviewAsHod actor tenant correction decision reason =>
    obtain ⟨reply, reviewed, rfl⟩ := Outcome.map_ok called
    obtain ⟨before, entry, moved⟩ := review_as_hod_ok reviewed
    rw [moved.result] at keyed ⊢
    exact fresh.same rfl rfl rfl rfl rfl keyed (by simp only; omega) (by simp only; omega)
  | escalate actor tenant correction reason =>
    obtain ⟨reply, escalated, rfl⟩ := Outcome.map_ok called
    obtain ⟨before, entry, moved⟩ := escalate_ok escalated
    rw [moved.result] at keyed ⊢
    exact fresh.same rfl rfl rfl rfl rfl keyed (by simp only; omega) (by simp only; omega)
  | reviewAsAcademicHead actor tenant correction decision reason =>
    obtain ⟨reply, reviewed, rfl⟩ := Outcome.map_ok called
    obtain ⟨before, entry, moved⟩ := review_as_academic_head_ok reviewed
    rw [moved.result] at keyed ⊢
    exact fresh.same rfl rfl rfl rfl rfl keyed (by simp only; omega) (by simp only; omega)
  | applyCorrection actor tenant correction =>
    obtain ⟨reply, applied, rfl⟩ := Outcome.map_ok called
    obtain ⟨before, record, assessment, corrected, entry, here, effect⟩ := apply_ok applied
    obtain ⟨before', record', got, found, ofTenant⟩ := apply_tenant applied
    obtain ⟨known, -, there⟩ := get_correction_ok got
    have sameCorrection : before' = before := by
      rw [there, ← here, effect.found] at known
      exact (Option.some.inj known).symm
    subst sameCorrection
    rw [effect.ofCorrection] at found
    cases found
    exact fresh.apply keyed ofTenant effect
  | createSchema actor tenant payload =>
    obtain ⟨reply, created, rfl⟩ := Outcome.map_ok called
    obtain ⟨rows, result⟩ := create_schema_ok created
    rw [result] at keyed ⊢
    exact fresh.same rfl rfl rfl rfl rfl keyed (by simp only; omega) (by simp only; omega)
  | activateSchema actor tenant schema =>
    obtain ⟨reply, activated, rfl⟩ := Outcome.map_ok called
    rw [activate_schema_ok activated] at keyed ⊢
    exact fresh.same rfl rfl rfl rfl rfl keyed (by simp only; omega) (le_refl _)
  | deprecateSchema actor tenant schema =>
    obtain ⟨reply, deprecated, rfl⟩ := Outcome.map_ok called
    rw [deprecate_schema_ok deprecated] at keyed ⊢
    exact fresh.same rfl rfl rfl rfl rfl keyed (by simp only; omega) (le_refl _)
  | bindSchema actor tenant assessment schema =>
    obtain ⟨row, target, -, -, saved⟩ := bind_schema_ok called
    obtain ⟨-, rfl⟩ := save_ok.mp saved
    exact fresh.store keyed
  | outside staff school curriculum ticks =>
    cases called
    exact fresh.same rfl rfl rfl rfl rfl keyed (Nat.le_add_right _ _) (le_refl _)

theorem Fresh.call (fresh : Fresh db) {label : GradingCall} (called : label.call db = .ok db') :
    Fresh db' := by
  cases label with
  | marks call => exact fresh.marks called
  | compile tenant assessment requestedBy =>
    obtain ⟨⟨run, db''⟩, compiled, rfl⟩ := Outcome.map_ok called
    obtain ⟨assessment, snapshots, found, stored⟩ := compile_ok compiled
    exact fresh.compile found stored
  | setComponents components =>
    cases called
    obtain ⟨records, recordsDrawn, corrections, correctionsDrawn⟩ := fresh.keyed
    exact fresh.same rfl rfl rfl rfl rfl ⟨records, recordsDrawn, corrections, correctionsDrawn⟩
      (le_refl _) (le_refl _)

theorem Fresh.next (fresh : Fresh db) (label : GradingCall) : Fresh (label.next db) := by
  unfold GradingCall.next
  cases called : label.call db with
  | error e => exact fresh
  | ok db' => exact fresh.call called

theorem run_fresh {s : Database} {calls : List GradingCall} (fresh : Fresh db)
    (ran : gradingMachine.run db calls = some s) : Fresh s := by
  have keeps : ∀ s label t, Fresh s → gradingMachine.step s label = some t → Fresh t := by
    rintro s label t fresh stepped
    cases stepped
    exact fresh.next label
  exact Machine.invariant_of_steps keeps fresh ran

/-- Nothing is later than the run of a ready assessment. -/
theorem not_changed_of_ready {c : ℕ} (blockers : db.readinessBlockers assessment = [])
    (latest : db.latestCompilation assessment = some run) (compiledAt : run.compiledAt = some c) :
    ¬ ChangedAfter db assessment c := by
  have fresh : db.isStale assessment (some run) = false := by
    unfold Database.readinessBlockers at blockers
    rw [latest] at blockers
    simp only [List.append_eq_nil_iff] at blockers
    obtain ⟨⟨-, notStale⟩, -⟩ := blockers
    cases stale : db.isStale assessment (some run) with
    | false => rfl
    | true => simp [stale] at notStale
  unfold Database.isStale detectStaleCompilation at fresh
  rw [Option.bind_some, compiledAt, Option.any_some] at fresh
  simp only [Bool.or_eq_false_iff] at fresh
  obtain ⟨-, ⟨notSaved, notSubmitted⟩, -⟩ := fresh
  rintro (saved | ⟨batch, member, at_, submittedAt, later⟩)
  · exact of_decide_eq_false notSaved saved
  · have known : at_ ∈ (db.submittedBatches assessment).filterMap (·.submittedAt) :=
      List.mem_filterMap.mpr ⟨batch, member, submittedAt⟩
    cases latest' : ((db.submittedBatches assessment).filterMap (·.submittedAt)).max? with
    | none =>
      rw [List.max?_eq_none_iff] at latest'
      rw [latest'] at known
      cases known
    | some last =>
      have le := (List.max?_eq_some_iff.mp latest').2 at_ known
      rw [latest', Option.any_some] at notSubmitted
      have bound := of_decide_eq_false notSubmitted
      omega

/-- **Reports are made from the marks there are.**  After any calls, in any order, on tables
without marks: when readiness says that an assessment is ready for reports, its latest
compilation has a snapshot of each record submitted for it and of nothing else, with the
scores the record has now. -/
theorem ready_marks_are_current {s : Database} {calls : List GradingCall}
    (records : db.records = []) (corrections : db.corrections = []) (runs : db.runs = [])
    (snapshots : db.learnerSnapshots = []) (ran : gradingMachine.run db calls = some s)
    (found : s.assessment? id = some assessment)
    (ready : (s.assessmentReadiness assessment).reportReady = true) :
    ∃ run, s.latestCompilation assessment = some run ∧ run.status = .complete ∧
      Mirrors s assessment run := by
  have start : Fresh db := by
    refine ⟨⟨?_, ?_, ?_, ?_⟩, ?_, ?_, ?_, ?_, ?_⟩ <;>
      simp [records, corrections, runs, snapshots]
  have fresh := run_fresh start ran
  obtain ⟨blockers, run, latest, complete⟩ := report_ready_iff.mp ready
  have member := List.mem_of_head? latest
  rw [List.mem_insertionSort, List.mem_filter] at member
  obtain ⟨member, asked⟩ := member
  simp only [Bool.and_eq_true, beq_iff_eq] at asked
  have live : run.status ≠ .stale := by
    rw [complete]
    exact CompilationStatus.noConfusion
  refine ⟨run, latest, complete, ?_⟩
  have here : assessment.id = id := by simpa using List.find?_some found
  have found' : s.assessment? run.assessment = some assessment := by
    rw [asked.2, here, found]
  rcases fresh.current run member live assessment found' asked.1.symm with
    ⟨c, compiledAt, changed⟩ | mirrors
  · exact absurd changed (not_changed_of_ready blockers latest compiledAt)
  · exact mirrors

end

section Sample

attribute [local instance] Unicode.ascii

/-- An exam is opened, the class is marked, and the principal compiles. -/
private def examCalls : List GradingCall :=
  [.marks (.save Sample.exam), .marks (.submit Sample.classMarks), .compile 1 1 (some ⟨12, true⟩)]

private def examCompiled : Database := examCalls.foldl GradingCall.next Sample.database

/-- The exam is ready, and its compilation shows the marks. -/
theorem compiled_exam_is_current :
    ∃ assessment, examCompiled.assessment? 1 = some assessment ∧
      ∃ run, examCompiled.latestCompilation assessment = some run ∧ run.status = .complete ∧
        Mirrors examCompiled assessment run := by
  have ready : (examCompiled.assessment? 1).any (fun assessment =>
      (examCompiled.assessmentReadiness assessment).reportReady) = true := by decide +kernel
  have ran : gradingMachine.run Sample.database examCalls = some examCompiled := rfl
  cases found : examCompiled.assessment? 1 with
  | none => simp [found] at ready
  | some assessment =>
    rw [found] at ready
    exact ⟨assessment, rfl, ready_marks_are_current rfl rfl rfl rfl ran found ready⟩

end Sample

end Darasa.Grading
