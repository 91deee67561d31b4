import Darasa.Foundation.Machine
import Darasa.Grading.Submissions

/-!
Runs of submission requests while the school stays as it is.

`Tidy` is what every run keeps: batches and records unique under their constraints,
each batch with its count of records, and each batch of a teacher who could submit it
again.  A request under the key of such a batch therefore meets no check it has not
passed before, except the ones on its own payload.
-/

namespace Darasa.Grading

open Darasa (Exn Json Machine Outcome Unicode)
open Darasa.Core (CustomUser)

/-! ## Requests -/

/-- The arguments of `submit_grade_batch`. -/
structure SubmitRequest where
  actor : CustomUser
  tenant : ℕ
  assessment : ℕ
  payload : List (String × Json)
  idempotencyKey : String
  confirmation : Option Confirmation

/-- A request arrives, or time passes. -/
inductive SubmissionStep where
  | submit (request : SubmitRequest)
  | wait (ticks : ℕ)

/-- No batch and no record yet. -/
structure Unsubmitted (db : Database) : Prop where
  batches : db.batches = []
  records : db.records = []

section

variable [Unicode]

/-- The request's call. -/
def SubmitRequest.call (request : SubmitRequest) (db : Database) :
    Outcome (Submission × Database) :=
  submitGradeBatch db request.actor request.tenant request.assessment request.payload
    request.idempotencyKey request.confirmation

/-- The tables after a step; a request that raises is rolled back. -/
def SubmissionStep.next (db : Database) : SubmissionStep → Database
  | submit request =>
    match request.call db with
    | .ok (_, db') => db'
    | .error _ => db
  | wait ticks => { db with clock := db.clock + ticks }

/-- Submission requests, in any order and at any time. -/
def submissionMachine : Machine Database SubmissionStep where
  step db label := some (label.next db)

/-- The request is one for the batch: its teacher's, about its assessment, under its
key. -/
structure SubmitRequest.For (request : SubmitRequest) (batch : GradeSubmissionBatch) : Prop where
  active : request.actor.isActive = true
  teacher : request.actor.id = batch.teacher
  tenant : request.tenant = batch.tenant
  assessment : request.assessment = batch.assessment
  key : Text.strip request.idempotencyKey = batch.idempotencyKey

/-- The request carries the rows the batch was accepted with. -/
def SubmitRequest.SameRows (request : SubmitRequest) (batch : GradeSubmissionBatch) : Prop :=
  ∃ rows, gradeRowsPayload request.payload = .ok rows ∧
    canonicalPayloadHash rows = batch.payloadHash

/-! ## The invariant -/

/-- What the teacher of a batch was let through with. -/
structure Standing (db : Database) (batch : GradeSubmissionBatch) : Prop where
  submitted : batch.status = .submitted
  role : hasGradingRole db.staff ⟨batch.teacher, true⟩ batch.tenant = true
  assigned : ∃ assessment assignment,
    db.assessmentForTeacher batch.teacher batch.tenant batch.assessment = some assessment ∧
    db.school.assignmentFor batch.tenant batch.teacher assessment.teaching = some assignment
  keyed : batch.idempotencyKey.isEmpty = false
  storable : Text.storable batch.idempotencyKey = true
  fresh : batch.id < db.nextId

/-- Batches and records are as their constraints and counts say. -/
structure Tidy (db : Database) : Prop where
  standing : ∀ batch ∈ db.batches, Standing db batch
  keys : (db.batches.map fun batch => (batch.tenant, batch.idempotencyKey)).Nodup
  teachers : (db.batches.map fun batch => (batch.assessment, batch.teacher)).Nodup
  owned : ∀ record ∈ db.records,
    (db.assessment? record.assessment).map (·.tenant) = some record.tenant ∧
      record.submissionBatch < db.nextId
  records : (db.records.map (·.key)).Nodup
  counts : ∀ batch ∈ db.batches,
    batch.recordCount = db.records.countP fun record => record.submissionBatch == batch.id

variable {db db' : Database} {request : SubmitRequest} {batch : GradeSubmissionBatch}
  {reply : Submission}

omit [Unicode] in
/-- The assessment a teacher may grade is the tenant's. -/
theorem assessment_for_teacher {actor tenant id : ℕ} {assessment : Assessment}
    (found : db.assessmentForTeacher actor tenant id = some assessment) :
    db.assessment? id = some assessment ∧ assessment.id = id ∧ assessment.tenant = tenant := by
  obtain ⟨here, checks⟩ := Option.filter_eq_some_iff.mp found
  refine ⟨here, by simpa using List.find?_some here, ?_⟩
  simp only [Bool.and_eq_true, beq_iff_eq] at checks
  exact checks.1.1.1.1.1

/-- What a submission and the passing of time leave alone. -/
structure Unmoved (db db' : Database) : Prop where
  staff : db'.staff = db.staff
  school : db'.school = db.school
  assessments : db'.assessments = db.assessments
  nextId : db.nextId ≤ db'.nextId

omit [Unicode] in
theorem accepted_unmoved {assessment : Assessment} {records : List GradeRecord}
    (effect : Accepted db assessment batch records db') : Unmoved db db' := by
  rw [effect.result]
  exact ⟨rfl, rfl, rfl, by simp only; omega⟩

omit [Unicode] in
theorem Standing.later (standing : Standing db batch) (unmoved : Unmoved db db') :
    Standing db' batch := by
  obtain ⟨staff, school, assessments, nextId⟩ := unmoved
  obtain ⟨submitted, role, assigned, keyed, storable, fresh⟩ := standing
  unfold Database.assessmentForTeacher Database.assessment? at assigned
  rw [← school, ← assessments] at assigned
  exact ⟨submitted, staff ▸ role, assigned, keyed, storable, fresh.trans_le nextId⟩

/-- The batch of a teacher who was let through. -/
theorem accepted_standing {key : String} {assessment : Assessment}
    {assignment : Academics.TeacherAssignment} {rows : List Json} {records : List GradeRecord}
    (admitted : Admitted db request.actor request.tenant request.assessment request.payload
      request.idempotencyKey key assessment assignment rows)
    (effect : Accepted db assessment batch records db') (tenant : batch.tenant = request.tenant)
    (ofAssessment : batch.assessment = assessment.id) (teacher : batch.teacher = request.actor.id)
    (isKey : batch.idempotencyKey = key) : Standing db' batch := by
  obtain ⟨-, same, -⟩ := assessment_for_teacher admitted.found
  have actorActive : request.actor.isActive = true := by
    have role := admitted.role
    unfold hasGradingRole at role
    exact (Bool.and_eq_true_iff.mp role).1
  have actorIs : (⟨batch.teacher, true⟩ : CustomUser) = request.actor := by
    rw [teacher, ← actorActive]
  obtain ⟨filled, stripped⟩ := admitted.isKey
  have before : (hasGradingRole db.staff ⟨batch.teacher, true⟩ batch.tenant = true) ∧
      db.assessmentForTeacher batch.teacher batch.tenant batch.assessment = some assessment ∧
      db.school.assignmentFor batch.tenant batch.teacher assessment.teaching = some assignment := by
    rw [actorIs, teacher, tenant, ofAssessment, same]
    exact ⟨admitted.role, admitted.found, admitted.assigned⟩
  obtain ⟨staff, school, assessments, -⟩ := accepted_unmoved effect
  obtain ⟨role, found, assigned⟩ := before
  unfold Database.assessmentForTeacher Database.assessment? at found
  rw [← school, ← assessments] at found
  exact
    { submitted := effect.submitted
      role := staff ▸ role
      assigned := ⟨assessment, assignment, found, school ▸ assigned⟩
      keyed := by rw [isKey, stripped, ← blank_iff_strip, filled]
      storable := isKey ▸ admitted.storable
      fresh := by
        rw [effect.id, effect.result]
        simp only
        omega }

/-- A new batch beside the others. -/
theorem accepted_tidy (tidy : Tidy db) {key : String} {assessment : Assessment}
    {assignment : Academics.TeacherAssignment} {rows : List Json}
    (admitted : Admitted db request.actor request.tenant request.assessment request.payload
      request.idempotencyKey key assessment assignment rows)
    (accepted : acceptSubmission db request.actor request.tenant assessment assignment key rows
      request.confirmation = .ok (reply, db')) : Tidy db' := by
  have keyed : key.isEmpty = false := by
    obtain ⟨filled, rfl⟩ := admitted.isKey
    rw [← blank_iff_strip, filled]
  obtain ⟨records, -, effect, tenant, ofAssessment, teacher, isKey, -⟩ := accept_ok keyed accepted
  obtain ⟨there, same, ofTenant⟩ := assessment_for_teacher admitted.found
  have stands : ∀ batch ∈ db'.batches, Standing db' batch := by
    intro batch member
    rw [effect.result] at member
    rcases List.mem_append.mp member with known | new
    · exact (tidy.standing batch known).later (accepted_unmoved effect)
    · obtain rfl : batch = reply.batch := by simpa using new
      exact accepted_standing admitted effect tenant ofAssessment teacher isKey
  have inBatch : ∀ record ∈ records, record.submissionBatch = db.nextId := fun record member =>
    (effect.written record member).submissionBatch.trans effect.id
  have result := effect.result
  subst result
  refine ⟨stands, ?_, ?_, ?_, effect.distinct tidy.records, ?_⟩
  · refine Table.nodup_concat tidy.keys fun old member same => ?_
    obtain ⟨sameTenant, sameKey⟩ := Prod.mk.inj same
    exact effect.unused old member sameTenant sameKey
  · refine Table.nodup_concat tidy.teachers fun old member shared => ?_
    obtain ⟨sameAssessment, sameTeacher⟩ := Prod.mk.inj shared
    obtain ⟨assessment', -, found, -⟩ := (tidy.standing old member).assigned
    obtain ⟨there', -, ofTenant'⟩ := assessment_for_teacher found
    -- an assessment has one tenant, so the teacher already had an active batch of it
    rw [sameAssessment, ofAssessment, same, there] at there'
    cases there'
    have first := effect.first
    rw [Database.hasActiveSubmission, List.any_eq_false] at first
    refine first old member ?_
    simp [← ofTenant', ofTenant, tenant, sameAssessment, sameTeacher,
      (tidy.standing old member).submitted, BatchStatus.isActive]
  · intro record member
    rcases List.mem_append.mp member with known | new
    · obtain ⟨ofTenant', fresh⟩ := tidy.owned record known
      refine ⟨ofTenant', ?_⟩
      simp only
      omega
    · have written := effect.written record new
      have there' : db.assessment? record.assessment = some assessment := by
        rw [written.assessment, ofAssessment, same, there]
      constructor
      · refine (congrArg _ there').trans ?_
        rw [Option.map_some, ofTenant, written.tenant, tenant]
      · rw [inBatch record new]
        simp only
        omega
  · intro batch member
    rw [List.countP_append]
    rcases List.mem_append.mp member with known | new
    · have fresh := (tidy.standing batch known).fresh
      have others : records.countP (fun record => record.submissionBatch == batch.id) = 0 := by
        rw [List.countP_eq_zero]
        intro record new
        rw [inBatch record new, beq_iff_eq]
        omega
      rw [others, tidy.counts batch known, Nat.add_zero]
    · obtain rfl : batch = reply.batch := by simpa using new
      have others : db.records.countP (fun record => record.submissionBatch == reply.batch.id) =
          0 := by
        rw [List.countP_eq_zero]
        intro record known
        have fresh := (tidy.owned record known).2
        rw [effect.id, beq_iff_eq]
        omega
      have all : records.countP (fun record => record.submissionBatch == reply.batch.id) =
          records.length := by
        rw [List.countP_eq_length]
        intro record new
        rw [inBatch record new, effect.id, beq_iff_eq]
      rw [others, all, effect.count, Nat.zero_add]

theorem next_tidy (tidy : Tidy db) (label : SubmissionStep) : Tidy (label.next db) := by
  cases label with
  | wait ticks =>
    obtain ⟨standing, keys, teachers, owned, records, counts⟩ := tidy
    exact ⟨fun batch member => (standing batch member).later ⟨rfl, rfl, rfl, le_refl _⟩,
      keys, teachers, owned, records, counts⟩
  | submit request =>
    unfold SubmissionStep.next
    simp only
    cases called : request.call db with
    | error e => exact tidy
    | ok answer =>
      obtain ⟨reply, db'⟩ := answer
      obtain ⟨key, assessment, assignment, rows, admitted, ⟨_, -, -, rfl⟩ | ⟨-, accepted⟩⟩ :=
        submit_ok.mp called
      · exact tidy
      · exact accepted_tidy tidy admitted accepted

/-! ## Replays -/

/-- The request sends no field that the server controls. -/
def SubmitRequest.Clean (request : SubmitRequest) : Prop :=
  (payloadKeys request.payload).any clientControlledFields.contains = false

instance : Decidable request.Clean := inferInstanceAs (Decidable (_ = _))

omit [Unicode] in
/-- A batch is the one its key finds. -/
theorem batch_with_key (tidy : Tidy db) (member : batch ∈ db.batches) :
    db.batchWithKey batch.tenant batch.idempotencyKey = some batch := by
  unfold Database.batchWithKey
  cases found : db.batches.find? _ with
  | none =>
    have unlike := List.find?_eq_none.mp found batch member
    simp [(tidy.standing batch member).submitted, BatchStatus.isActive] at unlike
  | some other =>
    have alike := List.find?_some found
    simp only [Bool.and_eq_true, beq_iff_eq] at alike
    refine congrArg some (Table.eq_of_key tidy.keys (List.mem_of_find?_eq_some found) member ?_)
    rw [alike.1.1, alike.1.2]

/-- A request for a batch is answered with it when it sends the same rows. -/
theorem replay_returns (tidy : Tidy db) (member : batch ∈ db.batches) (for_ : request.For batch)
    (same : request.SameRows batch) (clean : request.Clean) :
    request.call db = .ok (⟨batch, false⟩, db) := by
  obtain ⟨rows, hasRows, hash⟩ := same
  obtain ⟨submitted, role, ⟨assessment, assignment, found, assigned⟩, keyed, storable, -⟩ :=
    tidy.standing batch member
  obtain ⟨active, teacher, tenant, ofAssessment, key⟩ := for_
  have actorIs : request.actor = ⟨batch.teacher, true⟩ := by rw [← teacher, ← active]
  refine submit_ok.mpr ⟨batch.idempotencyKey, assessment, assignment, rows, ?_, .inl ?_⟩
  · exact
      { role := by rw [actorIs, tenant]; exact role
        clean := clean
        isKey := ⟨by rw [blank_iff_strip, key, keyed], key.symm⟩
        found := by rw [teacher, tenant, ofAssessment]; exact found
        assigned := by rw [teacher, tenant]; exact assigned
        hasRows := hasRows
        storable := storable }
  · refine ⟨batch, tenant ▸ batch_with_key tidy member, replay_ok.mpr ⟨?_, teacher.symm, ?_, rfl⟩,
      rfl⟩
    · exact (assessment_for_teacher found).2.1.symm
    · exact hash.symm

/-- A request for a batch that does not is refused. -/
theorem replay_raises (tidy : Tidy db) (member : batch ∈ db.batches) (for_ : request.For batch)
    (differs : ¬ (request.SameRows batch ∧ request.Clean)) : ∃ e, request.call db = .error e := by
  cases called : request.call db with
  | error e => exact ⟨e, rfl⟩
  | ok answer =>
    obtain ⟨reply, db'⟩ := answer
    obtain ⟨key, assessment, assignment, rows, admitted, branch⟩ := submit_ok.mp called
    have found : db.batchWithKey request.tenant key = some batch := by
      rw [admitted.isKey.2, for_.key, for_.tenant]
      exact batch_with_key tidy member
    rcases branch with ⟨existing, used, replayed, -⟩ | ⟨unused, -⟩
    · cases found.symm.trans used
      obtain ⟨-, -, hash, -⟩ := replay_ok.mp replayed
      exact absurd ⟨⟨rows, admitted.hasRows, hash.symm⟩, admitted.clean⟩ differs
    · cases found.symm.trans unused

/-! ## Runs -/

omit [Unicode] in
theorem unsubmitted_tidy (start : Unsubmitted db) : Tidy db := by
  constructor <;> simp [start.batches, start.records]

/-- **Submission is idempotent.**  After any requests, one for an accepted batch returns
it unchanged when it sends the same rows and no field the server controls, and is
refused otherwise; no teacher has two active batches of an assessment, no learner two
records of one, and every batch counts its records. -/
theorem submissions_are_idempotent {s : Database} (start : Unsubmitted db)
    (steps : List SubmissionStep) (ran : submissionMachine.run db steps = some s) :
    (∀ (request : SubmitRequest) (batch : GradeSubmissionBatch), batch ∈ s.batches →
        request.For batch →
        (request.SameRows batch ∧ request.Clean → request.call s = .ok (⟨batch, false⟩, s)) ∧
        (¬ (request.SameRows batch ∧ request.Clean) → ∃ e, request.call s = .error e)) ∧
      (∀ (request : SubmitRequest) (e : Exn), request.call s = .error e →
        (SubmissionStep.submit request).next s = s) ∧
      ((s.batches.filter (·.status.isActive)).map fun b => (b.assessment, b.teacher)).Nodup ∧
      (s.records.map fun record => (record.assessment, record.student)).Nodup ∧
      ∀ batch ∈ s.batches,
        batch.recordCount = s.records.countP fun record => record.submissionBatch == batch.id := by
  have tidy : Tidy s := by
    refine Machine.invariant_of_steps ?_ (unsubmitted_tidy start) ran
    intro db label db' tidy stepped
    cases stepped
    exact next_tidy tidy label
  refine ⟨fun request batch member for_ => ⟨fun same => ?_, replay_raises tidy member for_⟩,
    fun request e raised => ?_, ?_, ?_, tidy.counts⟩
  · exact replay_returns tidy member for_ same.1 same.2
  · unfold SubmissionStep.next
    simp only [raised]
  · exact (List.filter_sublist.map _).nodup tidy.teachers
  · refine List.Nodup.map_on (fun record member other member' same => ?_)
      (List.Nodup.of_map _ tidy.records)
    obtain ⟨sameAssessment, sameStudent⟩ := Prod.mk.inj same
    -- records of one assessment are of its tenant
    have sameTenant : some record.tenant = some other.tenant := by
      rw [← (tidy.owned record member).1, ← (tidy.owned other member').1, sameAssessment]
    refine Table.eq_of_key tidy.records member member' ?_
    unfold GradeRecord.key
    rw [Option.some.inj sameTenant, sameAssessment, sameStudent]

end

section Sample

attribute [local instance] Unicode.ascii

/-- The first teacher's marks. -/
def Sample.marks : SubmitRequest where
  actor := ⟨10, true⟩
  tenant := 1
  assessment := 1
  payload := [("rows", .arr [.obj [("student_id", .str (uuidText 1)), ("raw_score", .str "80")]])]
  idempotencyKey := " first "
  confirmation := some
    { fields := [("method", .str "teacher_pin"), ("actor_id", .str (uuidText 10)),
        ("tenant_id", .str (uuidText 1)), ("confirmation_reference", .str "desk")]
      confirmedAt := some 50 }

/-- The same request with a field the server controls. -/
private def meddled : SubmitRequest :=
  { Sample.marks with payload := Sample.marks.payload ++ [("status", .str "submitted")] }

private def opened : Database := Sample.database.store Sample.exam

private def submitted : Database := (SubmissionStep.submit Sample.marks).next opened

private def batch : GradeSubmissionBatch where
  id := 0
  tenant := 1
  assessment := 1
  teacher := 10
  teacherAssignment := 1
  cohort := 1
  learningArea := 1
  idempotencyKey := "first"
  payloadHash := canonicalPayloadHash
    [.obj [("student_id", .str (uuidText 1)), ("raw_score", .str "80")]]
  recordCount := 1
  status := .submitted
  submittedAt := some 103
  confirmationMethod := "teacher_pin"
  confirmationAt := some 50
  confirmationReference := "desk"

private theorem batch_accepted : batch ∈ submitted.batches := by decide +kernel

private theorem submitted_tidy : Tidy submitted :=
  next_tidy (unsubmitted_tidy ⟨by decide +kernel, by decide +kernel⟩) (.submit Sample.marks)

private theorem marks_for_batch : Sample.marks.For batch :=
  ⟨rfl, rfl, rfl, rfl, by decide +kernel⟩

/-- A retry is answered with the batch. -/
theorem retry_returns_batch : Sample.marks.call submitted = .ok (⟨batch, false⟩, submitted) :=
  ((submissions_are_idempotent ⟨by decide +kernel, by decide +kernel⟩ [.submit Sample.marks] rfl).1
    Sample.marks batch batch_accepted marks_for_batch).1
    ⟨⟨_, rfl, rfl⟩, by decide +kernel⟩

/-- A retry that also sends a field the server controls is refused. -/
theorem meddled_retry_is_refused :
    submissionMachine.run opened [.submit Sample.marks] = some submitted ∧
      batch ∈ submitted.batches ∧ meddled.For batch ∧ meddled.SameRows batch ∧
      ∃ e, meddled.call submitted = .error e :=
  have same : meddled.For batch := ⟨rfl, rfl, rfl, rfl, by decide +kernel⟩
  have dirty : ¬ meddled.Clean := by decide +kernel
  ⟨rfl, batch_accepted, same, ⟨_, rfl, rfl⟩,
    replay_raises submitted_tidy batch_accepted same fun unlike => dirty unlike.2⟩

end Sample

end Darasa.Grading
