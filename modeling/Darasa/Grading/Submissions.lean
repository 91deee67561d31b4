import Darasa.Foundation.Tables
import Darasa.Grading.Assessments
import Darasa.Grading.Scores
import Darasa.Runtime.Renderings

/-!
Final submission of a marksheet: the checks on the request and its rows, the
step-up confirmation, and the batch and records one submission writes.
-/

namespace Darasa.Grading

open Darasa (Decimal Exn Json Outcome Unicode cleanForeignKey cleanLength fullClean refuseIf
  refuseUnstorable requireSome)
open Darasa.Academics (TeacherAssignment)
open Darasa.Core (CustomUser RoleCode Staff)

/-! ## What a request carries -/

/-- `CLIENT_CONTROLLED_FIELDS`. -/
def clientControlledFields : List String :=
  ["tenant", "tenant_id", "teacher", "teacher_id", "submitted_by", "submitted_by_id",
    "teacher_assignment", "teacher_assignment_id", "status", "compiled_at", "validated_at",
    "reviewed_by", "reviewed_by_id", "approved_by", "approved_by_id", "applied_by",
    "applied_by_id", "old_state_hash", "curriculum_version", "curriculum_version_id",
    "rubric_foundation", "rubric_foundation_id", "curriculum_binding_locked_at"]

/-- The keys of a payload and of its rows. -/
def payloadKeys (payload : List (String × Json)) : List String :=
  payload.map Prod.fst ++
    match Json.lookup "rows" payload with
    | some (.arr rows) => rows.flatMap Json.keys
    | _ => []

/-- `_reject_client_controlled_fields`. -/
def rejectClientControlledFields (payload : List (String × Json)) : Outcome Unit :=
  refuseIf ((payloadKeys payload).any clientControlledFields.contains) "payload"
    "Payload contains server-controlled fields."

/-- `_grade_rows_payload`. -/
def gradeRowsPayload (payload : List (String × Json)) : Outcome (List Json) :=
  match Json.lookup "rows" payload with
  | some (.arr rows) => .ok rows
  | _ => .error (.validationError "rows" "Rows must be provided.")

/-- `canonical_payload_hash` of the rows. -/
def canonicalPayloadHash (rows : List Json) : Json := (Json.arr rows).canonical

/-- `_has_grading_role`. -/
def hasGradingRole (staff : Staff) (actor : CustomUser) (tenant : ℕ) : Bool :=
  actor.isActive && [RoleCode.subjectTeacher, .classTeacher, .hod].any fun roleCode =>
    staff.userHasRoleInTenant actor.id tenant roleCode

/-- A step-up confirmation: its text fields, and when it was given. -/
structure Confirmation where
  fields : List (String × Json)
  confirmedAt : Option ℕ

/-- What `validate_confirmation` returns. -/
structure ConfirmationResult where
  method : String
  confirmedAt : ℕ
  confirmationReference : String

/-- `CONFIRMATION_TTL_SECONDS`, in microseconds. -/
def confirmationTtl : ℕ := 300 * 10 ^ 6

namespace Database

variable (db : Database)

/-- `get_assessment_for_teacher`. -/
def assessmentForTeacher (actor tenant id : ℕ) : Option Assessment :=
  (db.assessment? id).filter fun row =>
    row.tenant == tenant && row.status == .open && row.curriculumVersion.isSome &&
      row.rubricFoundation.isSome && row.curriculumBindingLockedAt.isSome &&
      db.school.teaches actor row.teaching

/-- `_teacher_assignment_for`. -/
def teacherAssignmentFor (actor tenant : ℕ) (assessment : Assessment) :
    Outcome TeacherAssignment :=
  requireSome (db.school.assignmentFor tenant actor assessment.teaching) "assessment"
    "Teacher is not assigned to grade this assessment."

/-- `_assessment_components`. -/
def assessmentComponents (assessment : Assessment) : List AssessmentComponent :=
  (db.components.filter (·.assessment == assessment.id)).insertionSort fun a b =>
    a.order < b.order ∨ a.order = b.order ∧ a.name ≤ b.name

/-- `get_roster_for_assessment`. -/
def rosterForAssessment (tenant : ℕ) (assessment : Assessment) : List ℕ :=
  if assessment.tenant = tenant then
    db.school.roster tenant assessment.cohort assessment.academicYear assessment.term
  else []

end Database

section

variable [Unicode]

/-- `require_idempotency_key`. -/
def requireIdempotencyKey (idempotencyKey : String) : Outcome String := do
  refuseIf (Text.isBlank idempotencyKey) "idempotency_key" "Idempotency key is required."
  return Text.strip idempotencyKey

/-- `str(confirmation.get(key, ""))`. -/
def Confirmation.get (confirmation : Confirmation) (key : String) : String :=
  ((Json.lookup key confirmation.fields).map Json.text).getD ""

/-- `validate_confirmation`. -/
def validateConfirmation (confirmation : Option Confirmation) (actor tenant now : ℕ) :
    Outcome ConfirmationResult := do
  let confirmation ← requireSome confirmation "confirmation" "Step-up confirmation is required."
  refuseIf (confirmation.fields.any fun field => field.1 == "password" || field.1 == "pin")
    "confirmation" "Raw credentials are not accepted."
  let method := Text.strip (confirmation.get "method")
  refuseIf (!(["password_reauth", "teacher_pin", "session_step_up"].contains method)) "confirmation"
    "Confirmation method is invalid."
  refuseIf (confirmation.get "actor_id" != uuidText actor) "confirmation"
    "Confirmation actor is invalid."
  refuseIf (confirmation.get "tenant_id" != uuidText tenant) "confirmation"
    "Confirmation tenant is invalid."
  let confirmedAt ← requireSome confirmation.confirmedAt "confirmation"
    "Confirmation time is required."
  refuseIf (decide (now < confirmedAt)) "confirmation" "Confirmation time is invalid."
  refuseIf (decide (confirmationTtl < now - confirmedAt)) "confirmation"
    "Confirmation has expired."
  let reference := Text.strip (confirmation.get "confirmation_reference")
  refuseIf reference.isEmpty "confirmation" "Confirmation reference is required."
  return ⟨method, confirmedAt, reference⟩

/-! ## Rows -/

/-- A row `validate_grade_rows` passes. -/
structure NormalizedRow where
  student : ℕ
  rawScore : Option Decimal
  componentScores : Json
  remarks : String
  deriving DecidableEq

/-- `_decimal`. -/
def scoreOf (field : String) (value : Json) : Outcome Decimal :=
  requireSome value.toDecimal? field "Score must be numeric."

/-- The checks a component makes of its score. -/
def checkComponent (requireComplete : Bool) (scores : List (String × Json))
    (component : AssessmentComponent) : Outcome Unit :=
  match (Json.lookup (uuidText component.id) scores).filter (!·.isBlank) with
  | none => refuseIf (component.isRequired && requireComplete) "component_scores"
      "Required component score missing."
  | some value => do
    let score ← scoreOf "component_scores" value
    let _ ← validateScoreBounds score (.ofHundredths component.maxScore)

/-- The score of a row with components: their total. -/
def componentRowScore (maxScore : ℕ) (components : List AssessmentComponent)
    (requireComplete : Bool) (componentScores : Json) : Outcome (Option Decimal) :=
  match componentScores with
  | .obj scores => do
    (componentById components).forM (checkComponent requireComplete scores)
    let total ← componentTotal (scores.filter (!·.2.isBlank))
    let total ← validateScoreBounds total (.ofHundredths maxScore)
    return if scores.isEmpty then none else some total
  | _ => .error (.validationError "component_scores" "Component scores must be an object.")

/-- The score of a row without components. -/
def simpleRowScore (maxScore : ℕ) (requireComplete : Bool) (value : Option Json) :
    Outcome (Option Decimal) :=
  match value.filter (!·.isBlank) with
  | none => do
    refuseIf requireComplete "raw_score" "Score is required."
    return none
  | some value => do
    let score ← scoreOf "raw_score" value
    let score ← validateScoreBounds score (.ofHundredths maxScore)
    return some score

/-- The score of a row. -/
def rowScore (maxScore : ℕ) (components : List AssessmentComponent) (requireComplete : Bool)
    (componentScores : Json) (value : Option Json) : Outcome (Option Decimal) :=
  if components.isEmpty then simpleRowScore maxScore requireComplete value
  else componentRowScore maxScore components requireComplete componentScores

/-- `row.get(..)`, when the row has it. -/
def rowFields : Json → Outcome (List (String × Json))
  | .obj fields => .ok fields
  | other => .error (.attributeError s!"'{other.typeName}' object has no attribute 'get'")

/-- The body of the loop of `validate_grade_rows`; `seen` are the learners before. -/
def validateGradeRow (roster : List ℕ) (maxScore : ℕ) (components : List AssessmentComponent)
    (requireComplete : Bool) (seen : List ℕ) (row : Json) : Outcome NormalizedRow := do
  let fields ← rowFields row
  let studentId := Text.strip (((Json.lookup "student_id" fields).map Json.text).getD "")
  let student ← requireSome (roster.find? fun id => uuidText id == studentId) "student_id"
    "Submitted learner is invalid."
  refuseIf (seen.contains student) "student_id" "Duplicate learner row."
  let componentScores :=
    ((Json.lookup "component_scores" fields).filter Json.truthy).getD (.obj [])
  let rawScore ← rowScore maxScore components requireComplete componentScores
    (Json.lookup "raw_score" fields)
  let remarks := ((Json.lookup "remarks" fields).map Json.text).getD ""
  return ⟨student, rawScore, componentScores, remarks⟩

/-- The loop of `validate_grade_rows`. -/
def validateGradeRowsFrom (roster : List ℕ) (maxScore : ℕ) (components : List AssessmentComponent)
    (requireComplete : Bool) : List ℕ → List Json → Outcome (List NormalizedRow)
  | _, [] => .ok []
  | seen, row :: rows => do
    let first ← validateGradeRow roster maxScore components requireComplete seen row
    let rest ← validateGradeRowsFrom roster maxScore components requireComplete
      (first.student :: seen) rows
    return first :: rest

/-- `validate_grade_rows`. -/
def validateGradeRows (roster : List ℕ) (maxScore : ℕ) (components : List AssessmentComponent)
    (requireComplete : Bool) (rows : List Json) : Outcome (List NormalizedRow) := do
  let normalized ← validateGradeRowsFrom roster maxScore components requireComplete [] rows
  refuseIf (requireComplete && normalized.isEmpty) "rows" "At least one grade row is required."
  return normalized

end

/-! ## The batch -/

namespace GradeSubmissionBatch

/-- The fields of a `GradeSubmissionBatch`. -/
def cleanFields (self : GradeSubmissionBatch) (db : Database) : Outcome Unit := do
  cleanForeignKey "tenant" "school" (db.staff.schools.any (·.id == self.tenant))
  cleanForeignKey "assessment" "assessment" (db.assessment? self.assessment).isSome
  cleanForeignKey "teacher" "User" (db.staff.users.any (·.id == self.teacher))
  cleanForeignKey "teacher_assignment" "teacher assignment"
    (db.school.assignments.any (·.id == self.teacherAssignment))
  cleanForeignKey "cohort" "cohort" (db.school.cohort? self.cohort).isSome
  cleanForeignKey "learning_area" "learning area" (db.school.learningArea? self.learningArea).isSome
  cleanLength "idempotency_key" 180 self.idempotencyKey
  refuseIf (decide (2147483647 < self.recordCount)) "record_count"
    "Ensure this value is less than or equal to 2147483647."
  cleanLength "confirmation_method" 32 self.confirmationMethod
  cleanLength "confirmation_reference" 128 self.confirmationReference

/-- `GradeSubmissionBatch.clean`, on the assessment and the assignment the instance
was built with. -/
def clean [Unicode] (self : GradeSubmissionBatch) (db : Database) (assessment : Assessment)
    (assignment : TeacherAssignment) : Outcome Unit := do
  let relatedTenants :=
    [some assessment.tenant, some assignment.tenant,
      (db.school.cohort? self.cohort).map (·.tenant),
      (db.school.learningArea? self.learningArea).map (·.tenant)]
  refuseIf (relatedTenants.any (· != some self.tenant)) "tenant" "Grade batch tenant is invalid."
  refuseIf (assessment.cohort != self.cohort) "cohort" "Grade batch cohort is invalid."
  refuseIf (assessment.learningArea != self.learningArea) "learning_area"
    "Grade batch area is invalid."
  refuseIf (assignment.teacher != self.teacher) "teacher" "Grade batch teacher is invalid."
  refuseIf (assignment.cohort != self.cohort) "cohort" "Teacher assignment is invalid."
  refuseIf (assignment.learningArea != self.learningArea) "learning_area"
    "Teacher assignment is invalid."
  refuseIf (!assignment.isActive) "teacher_assignment" "Teacher assignment is inactive."
  let final := self.status != .draft
  refuseIf (final && Text.isBlank self.idempotencyKey) "idempotency_key"
    "Idempotency key is required."
  refuseIf (final && !assessment.isOperationallyBound db.curriculum) "assessment"
    "Assessment is not open for CBE-bound grading."
  refuseIf (final && Text.isBlank self.confirmationMethod) "confirmation_method"
    "Confirmation method is required."
  refuseIf (final && self.confirmationAt.isNone) "confirmation_at"
    "Confirmation time is required."
  refuseIf (final && Text.isBlank self.confirmationReference) "confirmation_reference"
    "Confirmation reference is required."

/-- The unique constraints of a new batch. -/
def validateConstraints (self : GradeSubmissionBatch) (db : Database) : Outcome Unit := do
  refuseIf (self.status.isActive && db.batches.any fun row =>
      row.tenant == self.tenant && row.assessment == self.assessment &&
        row.teacher == self.teacher && row.teacherAssignment == self.teacherAssignment &&
        row.status.isActive)
    "__all__" "Constraint “grading_active_batch_unique” is violated."
  refuseIf (!self.idempotencyKey.isEmpty && db.batches.any fun row =>
      row.tenant == self.tenant && row.idempotencyKey == self.idempotencyKey)
    "__all__" "Constraint “grading_batch_idempotency_unique” is violated."

/-- `full_clean` of a new batch. -/
def validate [Unicode] (self : GradeSubmissionBatch) (db : Database) (assessment : Assessment)
    (assignment : TeacherAssignment) : Outcome Unit := do
  fullClean (self.cleanFields db) (self.clean db assessment assignment)
  self.validateConstraints db

end GradeSubmissionBatch

/-! ## The records -/

/-- The record of a row, as its columns hold it. -/
def NormalizedRow.record (row : NormalizedRow) (batch : GradeSubmissionBatch) (id : ℕ) :
    Outcome GradeRecord :=
  match row.rawScore with
  | none => .error (.integrityError "null value in column raw_score violates not-null constraint")
  | some score => do
    refuseUnstorable (row.componentScores.storable && Text.storable row.remarks)
    return {
      id := id
      tenant := batch.tenant
      assessment := batch.assessment
      submissionBatch := batch.id
      student := row.student
      rawScore := score.hundredths
      normalizedScore := none
      componentScores := row.componentScores.jsonb
      remarks := row.remarks
      schoolGradingSchemaVersion := ""
      internalBandLabel := ""
      internalBandDescriptor := ""
      version := 1
      submittedBy := batch.teacher }

/-- `bulk_create` of the records of a batch into the table. -/
def insertRecords (batch : GradeSubmissionBatch) :
    ℕ → List GradeRecord → List NormalizedRow → Outcome (List GradeRecord)
  | _, table, [] => .ok table
  | id, table, row :: rows => do
    let record ← row.record batch id
    if table.any fun old =>
        old.tenant == record.tenant && old.assessment == record.assessment &&
          old.student == record.student then
      .error (.integrityError "grading_record_assessment_student_unique")
    else insertRecords batch (id + 1) (table ++ [record]) rows

/-! ## The service -/

namespace Database

variable (db : Database)

/-- The active batch of the tenant with the key. -/
def batchWithKey (tenant : ℕ) (key : String) : Option GradeSubmissionBatch :=
  db.batches.find? fun row =>
    row.tenant == tenant && row.idempotencyKey == key && row.status.isActive

/-- The teacher has an active batch of the assessment. -/
def hasActiveSubmission (tenant assessment teacher : ℕ) : Bool :=
  db.batches.any fun row =>
    row.tenant == tenant && row.assessment == assessment && row.teacher == teacher &&
      row.status.isActive

/-- The teacher's drafts of the assessment, marked submitted. -/
def draftsSubmitted (tenant assessment teacher : ℕ) : List GradeDraftBatch :=
  db.drafts.map fun row =>
    if row.tenant = tenant ∧ row.assessment = assessment ∧ row.teacher = teacher ∧
        row.status = .draft then
      { row with status := .submitted }
    else row

end Database

/-- What `submit_grade_batch` returns, and whether it registered the event. -/
structure Submission where
  batch : GradeSubmissionBatch
  emits : Bool
  deriving DecidableEq

/-- The branch of `submit_grade_batch` for a key already in use. -/
def replaySubmission (existing : GradeSubmissionBatch) (actor : CustomUser)
    (assessment : Assessment) (rows : List Json) : Outcome Submission := do
  refuseIf (existing.assessment != assessment.id || existing.teacher != actor.id)
    "idempotency_key" "Idempotency key belongs to another context."
  refuseIf (existing.payloadHash != canonicalPayloadHash rows) "idempotency_key"
    "Idempotency key was used with a different payload."
  return ⟨existing, false⟩

section

variable [Unicode]

/-- The branch of `submit_grade_batch` for a new key. -/
def acceptSubmission (db : Database) (actor : CustomUser) (tenant : ℕ) (assessment : Assessment)
    (assignment : TeacherAssignment) (key : String) (rows : List Json)
    (confirmation : Option Confirmation) : Outcome (Submission × Database) := do
  refuseIf (db.hasActiveSubmission tenant assessment.id actor.id) "assessment"
    "Assessment already has a submission."
  let confirmed ← validateConfirmation confirmation actor.id tenant db.clock
  let normalized ← validateGradeRows (db.rosterForAssessment tenant assessment) assessment.maxScore
    (db.assessmentComponents assessment) true rows
  let batch : GradeSubmissionBatch :=
    { id := db.nextId
      tenant := tenant
      assessment := assessment.id
      teacher := actor.id
      teacherAssignment := assignment.id
      cohort := assessment.cohort
      learningArea := assessment.learningArea
      idempotencyKey := key
      payloadHash := canonicalPayloadHash rows
      recordCount := normalized.length
      status := .submitted
      submittedAt := some (db.clock + 1)
      confirmationMethod := confirmed.method
      confirmationAt := some confirmed.confirmedAt
      confirmationReference := confirmed.confirmationReference }
  batch.validate db assessment assignment
  refuseUnstorable (Text.storable confirmed.confirmationReference)
  let records ← insertRecords batch (db.nextId + 1) db.records normalized
  return (⟨batch, true⟩,
    { db with
      batches := db.batches ++ [batch]
      records := records
      drafts := db.draftsSubmitted tenant assessment.id actor.id
      clock := db.clock + 2
      nextId := db.nextId + 1 + normalized.length })

/-- `submit_grade_batch`. -/
def submitGradeBatch (db : Database) (actor : CustomUser) (tenant assessmentId : ℕ)
    (payload : List (String × Json)) (idempotencyKey : String)
    (confirmation : Option Confirmation) : Outcome (Submission × Database) := do
  refuseIf (!hasGradingRole db.staff actor tenant) "assessment" "Assessment is not available."
  rejectClientControlledFields payload
  let key ← requireIdempotencyKey idempotencyKey
  let assessment ← requireSome (db.assessmentForTeacher actor.id tenant assessmentId) "assessment"
    "Assessment is not available."
  let assignment ← db.teacherAssignmentFor actor.id tenant assessment
  let rows ← gradeRowsPayload payload
  refuseUnstorable (Text.storable key)
  match db.batchWithKey tenant key with
  | some existing => do
    let submission ← replaySubmission existing actor assessment rows
    return (submission, db)
  | none => acceptSubmission db actor tenant assessment assignment key rows confirmation

/-! ## What accepted rows are -/

variable {roster seen : List ℕ} {max : ℕ} {components : List AssessmentComponent}
  {complete : Bool}

/-- A row's score, when it has one, is within the bounds of the assessment. -/
def NormalizedRow.InBounds (max : ℕ) (row : NormalizedRow) : Prop :=
  ∀ score ∈ row.rawScore, 0 ≤ score.toRat ∧ score.toRat ≤ max / 100

theorem component_row_score_ok {value : Json} {score : Option Decimal}
    (passes : componentRowScore max components complete value = .ok score) :
    ∀ total ∈ score, 0 ≤ total.toRat ∧ total.toRat ≤ max / 100 := by
  unfold componentRowScore at passes
  cases value with
  | obj scores =>
    obtain ⟨-, passes⟩ := Outcome.check_ok.mp passes
    obtain ⟨total, -, passes⟩ := Outcome.bind_ok.mp passes
    obtain ⟨total', bounded, passes⟩ := Outcome.bind_ok.mp passes
    cases passes
    obtain rfl := validate_score_bounds_same bounded
    intro score is
    cases empty : scores.isEmpty with
    | true => simp [empty] at is
    | false =>
      obtain rfl : total' = score := by simpa [empty] using is
      exact validate_score_bounds_ok bounded
  | _ => cases passes

theorem simple_row_score_ok {value : Option Json} {score : Option Decimal}
    (passes : simpleRowScore max complete value = .ok score) :
    ∀ total ∈ score, 0 ≤ total.toRat ∧ total.toRat ≤ max / 100 := by
  unfold simpleRowScore at passes
  split at passes
  next =>
    obtain ⟨-, passes⟩ := Outcome.check_ok.mp passes
    cases passes
    simp
  next value =>
    obtain ⟨score, -, passes⟩ := Outcome.bind_ok.mp passes
    obtain ⟨score', bounded, passes⟩ := Outcome.bind_ok.mp passes
    cases passes
    obtain rfl := validate_score_bounds_same bounded
    intro total is
    cases is
    exact validate_score_bounds_ok bounded

theorem row_score_ok {scores : Json} {value : Option Json} {score : Option Decimal}
    (passes : rowScore max components complete scores value = .ok score) :
    ∀ total ∈ score, 0 ≤ total.toRat ∧ total.toRat ≤ max / 100 := by
  unfold rowScore at passes
  split at passes
  next => exact simple_row_score_ok passes
  next => exact component_row_score_ok passes

/-- A row that passes is of a new learner of the roster, and in bounds. -/
theorem validate_grade_row_ok {row : Json} {normalized : NormalizedRow}
    (passes : validateGradeRow roster max components complete seen row = .ok normalized) :
    normalized.student ∈ roster ∧ normalized.student ∉ seen ∧ normalized.InBounds max := by
  unfold validateGradeRow at passes
  obtain ⟨fields, -, passes⟩ := Outcome.bind_ok.mp passes
  obtain ⟨student, found, passes⟩ := Outcome.bind_ok.mp passes
  obtain ⟨unseen, passes⟩ := Outcome.check_ok.mp passes
  obtain ⟨score, scored, passes⟩ := Outcome.bind_ok.mp passes
  cases passes
  refine ⟨List.mem_of_find?_eq_some (requireSome_ok.mp found), ?_, ?_⟩
  · simpa using refuseIf_ok.mp unseen
  · exact row_score_ok scored

/-- The rows that pass are of different learners of the roster, and in bounds. -/
theorem validate_grade_rows_from_ok {rows : List Json} {normalized : List NormalizedRow}
    (passes : validateGradeRowsFrom roster max components complete seen rows = .ok normalized) :
    (normalized.map (·.student)).Nodup ∧
      ∀ row ∈ normalized, row.student ∈ roster ∧ row.student ∉ seen ∧ row.InBounds max := by
  induction rows generalizing seen normalized with
  | nil =>
    cases passes
    simp
  | cons row rows ih =>
    obtain ⟨first, here, passes⟩ := Outcome.bind_ok.mp passes
    obtain ⟨rest, later, passes⟩ := Outcome.bind_ok.mp passes
    cases passes
    obtain ⟨onRoster, unseen, bounded⟩ := validate_grade_row_ok here
    obtain ⟨distinct, each⟩ := ih later
    constructor
    · rw [List.map_cons, List.nodup_cons]
      refine ⟨fun again => ?_, distinct⟩
      obtain ⟨row', member, same⟩ := List.mem_map.mp again
      exact (each row' member).2.1 (same ▸ List.mem_cons_self)
    · intro row' member
      rcases List.mem_cons.mp member with rfl | member
      · exact ⟨onRoster, unseen, bounded⟩
      · obtain ⟨onRoster', unseen', bounded'⟩ := each row' member
        exact ⟨onRoster', fun known => unseen' (List.mem_cons_of_mem _ known), bounded'⟩

theorem validate_grade_rows_ok {rows : List Json} {normalized : List NormalizedRow}
    (passes : validateGradeRows roster max components complete rows = .ok normalized) :
    (normalized.map (·.student)).Nodup ∧
      ∀ row ∈ normalized, row.student ∈ roster ∧ row.InBounds max := by
  unfold validateGradeRows at passes
  obtain ⟨rows', passed, passes⟩ := Outcome.bind_ok.mp passes
  obtain ⟨-, passes⟩ := Outcome.check_ok.mp passes
  cases passes
  obtain ⟨distinct, each⟩ := validate_grade_rows_from_ok passed
  exact ⟨distinct, fun row member => ⟨(each row member).1, (each row member).2.2⟩⟩

end

/-! ## What the records of a batch are -/

/-- A record of the batch, as a submission writes it. -/
structure GradeRecord.WrittenBy (record : GradeRecord) (batch : GradeSubmissionBatch)
    (first last : ℕ) : Prop where
  tenant : record.tenant = batch.tenant
  assessment : record.assessment = batch.assessment
  submissionBatch : record.submissionBatch = batch.id
  submittedBy : record.submittedBy = batch.teacher
  version : record.version = 1
  schemaVersion : record.schoolGradingSchemaVersion = ""
  label : record.internalBandLabel = ""
  descriptor : record.internalBandDescriptor = ""
  fresh : first ≤ record.id ∧ record.id < last

/-- What the unique constraint of the records compares. -/
def GradeRecord.key (record : GradeRecord) : ℕ × ℕ × ℕ :=
  (record.tenant, record.assessment, record.student)

theorem record_ok {row : NormalizedRow} {batch : GradeSubmissionBatch} {id : ℕ}
    {record : GradeRecord} (written : row.record batch id = .ok record) :
    record.id = id ∧ record.student = row.student ∧ record.WrittenBy batch id (id + 1) ∧
      ∃ score ∈ row.rawScore, record.rawScore = score.hundredths := by
  unfold NormalizedRow.record at written
  cases scored : row.rawScore with
  | none => simp [scored] at written
  | some score =>
    simp only [scored] at written
    obtain ⟨-, written⟩ := Outcome.check_ok.mp written
    cases written
    exact ⟨rfl, rfl, ⟨rfl, rfl, rfl, rfl, rfl, rfl, rfl, rfl, le_refl _, Nat.lt_succ_self _⟩,
      score, rfl, rfl⟩

/-- The rows go into the table one after the other, under new keys. -/
theorem insert_records_ok {batch : GradeSubmissionBatch} {id : ℕ} {table table' : List GradeRecord}
    {rows : List NormalizedRow} (inserted : insertRecords batch id table rows = .ok table') :
    ∃ records, table' = table ++ records ∧
      records.map (·.student) = rows.map (·.student) ∧
      (records.map (·.id)) = List.range' id rows.length ∧
      (∀ record ∈ records, record.WrittenBy batch id (id + rows.length) ∧
        ∃ row ∈ rows, ∃ score ∈ row.rawScore, record.rawScore = score.hundredths) ∧
      ((table.map (·.key)).Nodup → (table'.map (·.key)).Nodup) := by
  induction rows generalizing id table table' with
  | nil =>
    cases inserted
    exact ⟨[], by simp, rfl, rfl, by simp, fun distinct => distinct⟩
  | cons row rows ih =>
    obtain ⟨record, written, inserted⟩ := Outcome.bind_ok.mp inserted
    split at inserted
    next => cases inserted
    next unused =>
      obtain ⟨records, rfl, students, ids, each, distinct⟩ := ih inserted
      obtain ⟨rfl, student, by_batch, score, is, raw⟩ := record_ok written
      refine ⟨record :: records, by simp, by simp [student, students], ?_, ?_, fun before => ?_⟩
      · rw [List.map_cons, ids, List.length_cons, List.range'_succ]
      · intro record' member
        rcases List.mem_cons.mp member with rfl | member
        · refine ⟨{ by_batch with fresh := ?_ }, row, List.mem_cons_self, score, is, raw⟩
          rw [List.length_cons]
          omega
        · obtain ⟨by_batch', row', member', scored⟩ := each record' member
          refine ⟨{ by_batch' with fresh := ?_ }, row', List.mem_cons_of_mem _ member', scored⟩
          have fresh := by_batch'.fresh
          rw [List.length_cons]
          omega
      · refine distinct (Table.nodup_concat before fun old member same => unused ?_)
        refine List.any_eq_true.mpr ⟨old, member, ?_⟩
        simpa [GradeRecord.key, and_assoc] using same

/-! ## What a submission does -/

section

variable [Unicode] {db db' : Database} {actor : CustomUser} {tenant assessmentId : ℕ}
  {payload : List (String × Json)} {idempotencyKey key : String}
  {confirmation : Option Confirmation} {assessment : Assessment} {assignment : TeacherAssignment}
  {rows : List Json} {reply : Submission}

theorem require_key_ok :
    requireIdempotencyKey idempotencyKey = .ok key ↔
      Text.isBlank idempotencyKey = false ∧ key = Text.strip idempotencyKey := by
  unfold requireIdempotencyKey
  rw [Outcome.check_ok, refuseIf_ok]
  exact and_congr_right fun _ =>
    ⟨fun returned => (Except.ok.inj returned).symm, fun same => congrArg _ same.symm⟩

theorem blank_iff_strip {s : String} : Text.isBlank s = (Text.strip s).isEmpty := by
  unfold Text.isBlank Text.strip
  cases Text.stripChars s.toList <;> simp

/-- What a request is let through with. -/
structure Admitted (db : Database) (actor : CustomUser) (tenant assessmentId : ℕ)
    (payload : List (String × Json)) (idempotencyKey : String) (key : String)
    (assessment : Assessment) (assignment : TeacherAssignment) (rows : List Json) : Prop where
  role : hasGradingRole db.staff actor tenant = true
  clean : (payloadKeys payload).any clientControlledFields.contains = false
  isKey : Text.isBlank idempotencyKey = false ∧ key = Text.strip idempotencyKey
  found : db.assessmentForTeacher actor.id tenant assessmentId = some assessment
  assigned : db.school.assignmentFor tenant actor.id assessment.teaching = some assignment
  hasRows : gradeRowsPayload payload = .ok rows
  storable : Text.storable key = true

/-- A submission is let through, and then replayed or accepted. -/
theorem submit_ok :
    submitGradeBatch db actor tenant assessmentId payload idempotencyKey confirmation =
        .ok (reply, db') ↔
      ∃ key assessment assignment rows,
        Admitted db actor tenant assessmentId payload idempotencyKey key assessment assignment
          rows ∧
        ((∃ existing, db.batchWithKey tenant key = some existing ∧
            replaySubmission existing actor assessment rows = .ok reply ∧ db' = db) ∨
          (db.batchWithKey tenant key = none ∧
            acceptSubmission db actor tenant assessment assignment key rows confirmation =
              .ok (reply, db'))) := by
  constructor
  · intro submitted
    unfold submitGradeBatch at submitted
    obtain ⟨role, submitted⟩ := Outcome.check_ok.mp submitted
    obtain ⟨clean, submitted⟩ := Outcome.check_ok.mp submitted
    obtain ⟨key, isKey, submitted⟩ := Outcome.bind_ok.mp submitted
    obtain ⟨assessment, found, submitted⟩ := Outcome.bind_ok.mp submitted
    obtain ⟨assignment, assigned, submitted⟩ := Outcome.bind_ok.mp submitted
    obtain ⟨rows, hasRows, submitted⟩ := Outcome.bind_ok.mp submitted
    obtain ⟨storable, submitted⟩ := Outcome.check_ok.mp submitted
    refine ⟨key, assessment, assignment, rows,
      ⟨by simpa using role, refuseIf_ok.mp clean, require_key_ok.mp isKey, requireSome_ok.mp found,
        requireSome_ok.mp assigned, hasRows, refuse_unstorable_ok.mp storable⟩, ?_⟩
    cases used : db.batchWithKey tenant key with
    | none =>
      rw [used] at submitted
      exact .inr ⟨rfl, submitted⟩
    | some existing =>
      rw [used] at submitted
      obtain ⟨submission, replayed, submitted⟩ := Outcome.bind_ok.mp submitted
      cases submitted
      exact .inl ⟨existing, rfl, replayed, rfl⟩
  · rintro ⟨key, assessment, assignment, rows, admitted, branch⟩
    unfold submitGradeBatch Database.teacherAssignmentFor rejectClientControlledFields
    rw [admitted.role, admitted.clean, require_key_ok.mpr admitted.isKey, admitted.found]
    simp only [requireSome, admitted.assigned, admitted.hasRows, refuseIf, refuseUnstorable,
      admitted.storable, bind, Except.bind, Bool.not_true, Bool.false_eq_true, if_false, if_true]
    rcases branch with ⟨existing, used, replayed, rfl⟩ | ⟨unused, accepted⟩
    · rw [used]
      simp only [replayed]
      rfl
    · rw [unused]
      exact accepted

omit [Unicode] in
/-- A replay answers a request of the same context and rows. -/
theorem replay_ok {existing : GradeSubmissionBatch} :
    replaySubmission existing actor assessment rows = .ok reply ↔
      existing.assessment = assessment.id ∧ existing.teacher = actor.id ∧
      existing.payloadHash = canonicalPayloadHash rows ∧ reply = ⟨existing, false⟩ := by
  unfold replaySubmission
  simp only [Outcome.check_ok, refuseIf_ok, Bool.or_eq_false_iff, bne_eq_false_iff_eq, and_assoc]
  refine and_congr_right fun _ => and_congr_right fun _ => and_congr_right fun _ => ?_
  exact ⟨fun returned => (Except.ok.inj returned).symm, fun same => congrArg _ same.symm⟩

/-- What an accepted submission writes: one batch and its records. -/
structure Accepted (db : Database) (assessment : Assessment) (batch : GradeSubmissionBatch)
    (records : List GradeRecord) (db' : Database) : Prop where
  first : db.hasActiveSubmission batch.tenant batch.assessment batch.teacher = false
  unused : ∀ row ∈ db.batches,
    row.tenant = batch.tenant → row.idempotencyKey ≠ batch.idempotencyKey
  id : batch.id = db.nextId
  submitted : batch.status = .submitted
  submittedAt : batch.submittedAt = some (db.clock + 1)
  count : batch.recordCount = records.length
  students : (records.map (·.student)).Nodup
  onRoster : ∀ record ∈ records,
    record.student ∈ db.rosterForAssessment batch.tenant assessment
  written : ∀ record ∈ records, record.WrittenBy batch (db.nextId + 1) db'.nextId
  ids : (records.map (·.id)).Nodup
  inRange : ∀ record ∈ records, record.rawScore ≤ assessment.maxScore
  distinct : (db.records.map (·.key)).Nodup → ((db.records ++ records).map (·.key)).Nodup
  result : db' =
    { db with
      batches := db.batches ++ [batch]
      records := db.records ++ records
      drafts := db.draftsSubmitted batch.tenant batch.assessment batch.teacher
      clock := db.clock + 2
      nextId := db.nextId + 1 + records.length }

/-- What accepting does. -/
theorem accept_ok
    (keyed : key.isEmpty = false)
    (accepted : acceptSubmission db actor tenant assessment assignment key rows confirmation =
      .ok (reply, db')) :
    ∃ records, reply.emits = true ∧ Accepted db assessment reply.batch records db' ∧
      reply.batch.tenant = tenant ∧ reply.batch.assessment = assessment.id ∧
      reply.batch.teacher = actor.id ∧ reply.batch.idempotencyKey = key ∧
      reply.batch.payloadHash = canonicalPayloadHash rows := by
  unfold acceptSubmission at accepted
  obtain ⟨first, accepted⟩ := Outcome.check_ok.mp accepted
  obtain ⟨confirmed, -, accepted⟩ := Outcome.bind_ok.mp accepted
  obtain ⟨normalized, passed, accepted⟩ := Outcome.bind_ok.mp accepted
  obtain ⟨valid, accepted⟩ := Outcome.check_ok.mp accepted
  obtain ⟨-, accepted⟩ := Outcome.check_ok.mp accepted
  obtain ⟨table, inserted, accepted⟩ := Outcome.bind_ok.mp accepted
  cases accepted
  obtain ⟨records, rfl, students, ids, each, distinct⟩ := insert_records_ok inserted
  obtain ⟨different, onRoster⟩ := validate_grade_rows_ok passed
  have count : records.length = normalized.length := by
    simpa using congrArg List.length students
  have rowOf : ∀ record ∈ records, ∃ row ∈ normalized, row.student = record.student := by
    intro record member
    have known : record.student ∈ normalized.map (·.student) :=
      students ▸ List.mem_map_of_mem member
    exact List.mem_map.mp known
  obtain ⟨-, constraints⟩ := Outcome.check_ok.mp valid
  obtain ⟨-, unused⟩ := Outcome.check_ok.mp constraints
  refine ⟨records, rfl, ?_, rfl, rfl, rfl, rfl, rfl⟩
  exact
    { first := refuseIf_ok.mp first
      unused := by
        intro row member ofTenant same
        have free := refuseIf_ok.mp unused
        rw [keyed, Bool.not_false, Bool.true_and, List.any_eq_false] at free
        exact free row member (by simp [ofTenant, same])
      id := rfl
      submitted := rfl
      submittedAt := rfl
      count := count.symm
      students := students ▸ different
      onRoster := by
        intro record member
        obtain ⟨row, known, same⟩ := rowOf record member
        exact same ▸ (onRoster row known).1
      written := fun record member => (each record member).1
      ids := ids ▸ List.nodup_range'
      inRange := by
        intro record member
        obtain ⟨-, row, known, score, is, raw⟩ := each record member
        obtain ⟨nonneg, le⟩ := (onRoster row known).2 score is
        exact raw ▸ Decimal.hundredths_le nonneg le
      distinct := distinct
      result := by simp only [count] }

end

end Darasa.Grading
