import Darasa.Foundation.Tables
import Darasa.Grading.Policies
import Darasa.Grading.Scores
import Darasa.Runtime.Validation

/-!
Corrections of submitted marks: the workflow, its five services and the audit entries
they write.
-/

namespace Darasa.Grading

open Darasa (Decimal Exn Json Outcome Unicode cleanDigits cleanForeignKey cleanLength cleanText fullClean
  refuseIf refuseUnstorable requireSome)
open Darasa.Core (CustomUser)

/-! ## Statuses -/

namespace CorrectionStatus

/-- `TRANSITIONS`. -/
def transitions : CorrectionStatus → List CorrectionStatus
  | draft => [submitted, cancelled]
  | requested => [underHodReview, approvedByHod, rejectedByHod]
  | submitted => [underHodReview, cancelled]
  | underHodReview => [approvedByHod, rejectedByHod, escalationRequested]
  | approved => [applied]
  | approvedByHod => [applied]
  | escalationRequested => [underAcademicHeadReview, approvedByAcademicHead, rejectedByAcademicHead]
  | underAcademicHeadReview => [approvedByAcademicHead, rejectedByAcademicHead]
  | approvedByAcademicHead => [applied]
  | rejected | rejectedByHod | rejectedByAcademicHead | applied | cancelled | expired => []

/-- `can_transition_correction`. -/
def canTransition (current target : CorrectionStatus) : Bool := current.transitions.contains target

/-- `APPROVED_UNAPPLIED_STATUSES`. -/
def isApprovedUnapplied : CorrectionStatus → Bool
  | approved | approvedByHod | approvedByAcademicHead => true
  | _ => false

/-- `ESCALATION_ELIGIBLE_STATUSES`. -/
def isEscalationEligible : CorrectionStatus → Bool
  | requested | submitted | underHodReview => true
  | _ => false

/-- `BLOCKING_CORRECTION_STATUSES`. -/
def isBlocking : CorrectionStatus → Bool
  | requested | submitted | underHodReview | approved | approvedByHod | escalationRequested
  | underAcademicHeadReview | approvedByAcademicHead => true
  | _ => false

end CorrectionStatus

/-! ## Text -/

section

variable [Unicode]

/-- `sanitize_untrusted_text`. -/
def sanitizeUntrustedText (value : Json) (maxLength : ℕ) : Outcome String := do
  let text := if value.truthy then (Text.stripChars value.text.toList) else []
  refuseIf (["<script", "<svg", "onerror", "javascript:"].any fun token =>
      Text.containsChars token.toList (Text.lowerChars text))
    "text" "Correction text is unsafe."
  return .ofList (text.take maxLength)

/-- The unsafe tokens a model's `clean` looks for. -/
def unsafeText (text : String) : Bool :=
  ["<script", "<svg", "onerror"].any fun token =>
    Text.containsChars token.toList (Text.lowerChars text.toList)

end

/-- `_reject_correction_mass_assignment`. -/
def rejectCorrectionMassAssignment (payload : List (String × Json)) : Outcome Unit :=
  refuseIf (payload.any fun field =>
      ["status", "tenant", "tenant_id", "reviewed_by", "reviewed_by_id", "approved_by",
        "approved_by_id", "applied_by", "applied_by_id", "old_state_hash", "requested_by",
        "requested_by_id", "schema_version", "school_grading_schema_version"].contains field.1)
    "payload" "Payload contains server-controlled fields."

/-! ## Validation -/

/-- The users a nullable column names are there. -/
def Database.cleanUser (db : Database) (field : String) (user : Option ℕ) : Outcome Unit :=
  cleanForeignKey field "User" (user.all fun id => db.staff.users.any (·.id == id))

namespace GradeCorrectionRequest

/-- The fields of a `GradeCorrectionRequest`. -/
def cleanFields (self : GradeCorrectionRequest) (db : Database) : Outcome Unit := do
  cleanForeignKey "tenant" "school" (db.staff.schools.any (·.id == self.tenant))
  cleanForeignKey "grade_record" "grade record" (db.record? self.gradeRecord).isSome
  db.cleanUser "requested_by" (some self.requestedBy)
  db.cleanUser "reviewed_by" self.reviewedBy
  refuseIf self.reason.isEmpty "reason" "This field cannot be blank."
  cleanText "reason_code" 64 self.reasonCode
  db.cleanUser "escalated_by" self.escalatedBy
  db.cleanUser "applied_by" self.appliedBy

variable [Unicode]

/-- `GradeCorrectionRequest.clean`, on the record and the maximum score of its
assessment. -/
def clean (self : GradeCorrectionRequest) (record : GradeRecord) (maxScore : ℕ) :
    Outcome Unit := do
  refuseIf (record.tenant != self.tenant) "tenant" "Correction tenant is invalid."
  refuseIf (Text.isBlank self.reason) "reason" "Correction reason is required."
  refuseIf (Text.isBlank self.reasonCode) "reason_code" "Reason code is required."
  refuseIf (unsafeText self.reason) "reason" "Correction text is unsafe."
  refuseIf (unsafeText self.reviewReason) "review_reason" "Correction text is unsafe."
  refuseIf (unsafeText self.escalationReason) "escalation_reason" "Correction text is unsafe."
  self.proposedRawScore.forM fun score => do
    let _ ← validateScoreBounds (.ofHundredths score) (.ofHundredths maxScore)
  refuseIf (self.reviewedBy == some self.requestedBy) "reviewed_by" "Reviewer is invalid."
  refuseIf (self.appliedBy == some self.requestedBy) "applied_by" "Applier is invalid."

/-- `full_clean`, and what the columns can hold. -/
def validate (self : GradeCorrectionRequest) (db : Database) (record : GradeRecord)
    (maxScore : ℕ) : Outcome Unit := do
  fullClean (self.cleanFields db) (self.clean record maxScore)
  refuseUnstorable (Text.storable self.reason && Text.storable self.reasonCode &&
    self.proposedComponentScores.storable && Text.storable self.proposedRemarks &&
    Text.storable self.reviewReason && Text.storable self.escalationReason)

end GradeCorrectionRequest

namespace GradeRecord

/-- The fields of a `GradeRecord`. -/
def cleanFields (self : GradeRecord) (db : Database) : Outcome Unit := do
  cleanForeignKey "tenant" "school" (db.staff.schools.any (·.id == self.tenant))
  cleanForeignKey "assessment" "assessment" (db.assessment? self.assessment).isSome
  cleanForeignKey "submission_batch" "grade submission batch" (db.batch? self.submissionBatch).isSome
  cleanForeignKey "student" "student" (db.school.student? self.student).isSome
  cleanDigits "raw_score" 7 self.rawScore
  self.normalizedScore.forM (cleanDigits "normalized_score" 7)
  cleanLength "school_grading_schema_version" 48 self.schoolGradingSchemaVersion
  cleanLength "internal_band_label" 32 self.internalBandLabel
  cleanLength "internal_band_descriptor" 160 self.internalBandDescriptor
  refuseIf (decide (2147483647 < self.version)) "version"
    "Ensure this value is less than or equal to 2147483647."
  db.cleanUser "submitted_by" (some self.submittedBy)

/-- `GradeRecord.clean`, on its assessment. -/
def clean (self : GradeRecord) (db : Database) (assessment : Assessment) : Outcome Unit := do
  let _ ← validateScoreBounds (.ofHundredths self.rawScore) (.ofHundredths assessment.maxScore)
  let batch ← requireSome (db.batch? self.submissionBatch) "submission_batch"
    "Grade batch is invalid."
  refuseIf ([some assessment.tenant, some batch.tenant,
      (db.school.student? self.student).map (·.tenant)].any (· != some self.tenant))
    "tenant" "Grade record tenant is invalid."
  refuseIf (batch.assessment != self.assessment) "submission_batch" "Grade batch is invalid."
  refuseIf (batch.teacher != self.submittedBy) "submitted_by" "Submitted by is invalid."
  refuseIf (!db.school.enrolled self.tenant self.student assessment.cohort assessment.academicYear
    assessment.term) "student" "Grade record student is invalid."
  refuseIf (match self.componentScores with
      | .obj _ => false
      | _ => true)
    "component_scores" "Component scores must be an object."

/-- `full_clean` of a record whose unique columns are as stored. -/
def validate (self : GradeRecord) (db : Database) (assessment : Assessment) : Outcome Unit :=
  fullClean (self.cleanFields db) (self.clean db assessment)

end GradeRecord

/-! ## The workflow's writes -/

namespace Database

variable (db : Database)

/-- The assessment of a record. -/
def assessmentOf (record : GradeRecord) : Outcome Assessment :=
  match db.assessment? record.assessment with
  | some assessment => .ok assessment
  | none => .error (.doesNotExist "Assessment")

/-- The record of a correction. -/
def recordOf (correction : GradeCorrectionRequest) : Outcome GradeRecord :=
  match db.record? correction.gradeRecord with
  | some record => .ok record
  | none => .error (.doesNotExist "GradeRecord")

/-- `_get_correction_for_update`. -/
def getCorrectionForUpdate (tenant id : ℕ) : Outcome GradeCorrectionRequest :=
  requireSome ((db.corrections.find? (·.id == id)).filter (·.tenant == tenant)) "correction"
    "Correction is not available."

/-- `_audit_correction`.  The entry repeats what the correction was just validated
with. -/
def auditCorrection (correction : GradeCorrectionRequest) (actor : ℕ) (action : AuditAction)
    (statusFrom : Option CorrectionStatus) (changedFields : List String)
    (stateBefore stateAfter : Option GradeState) (reasonSummary : String) : Database :=
  let entry : GradeCorrectionAuditRecord :=
    { id := db.nextId
      tenant := correction.tenant
      correctionRequest := correction.id
      gradeRecord := correction.gradeRecord
      actor := actor
      action := action
      statusFrom := statusFrom
      statusTo := correction.status
      reasonCode := correction.reasonCode
      reasonSummary := reasonSummary
      stateBefore := stateBefore
      stateAfter := stateAfter
      changedFields := changedFields }
  { db with audits := db.audits ++ [entry], nextId := db.nextId + 1, clock := db.clock + 1 }

variable [Unicode]

/-- `correction.save()` of a stored correction. -/
def saveCorrection (correction : GradeCorrectionRequest) (record : GradeRecord)
    (assessment : Assessment) : Outcome Database := do
  correction.validate db record assessment.maxScore
  return { db with
    corrections := Table.replace GradeCorrectionRequest.id correction db.corrections
    clock := db.clock + 1 }

end Database

/-! ## The services -/

section

variable [Unicode]

/-- `payload.get("proposed_component_scores") or {}`, when it is a dict. -/
def proposedComponents (payload : List (String × Json)) : Outcome Json :=
  match (Json.lookup "proposed_component_scores" payload).filter Json.truthy with
  | none => .ok (.obj [])
  | some (.obj scores) => .ok (.obj scores)
  | some _ => .error (.validationError "proposed_component_scores" "Invalid components.")

/-- `create_correction_request`. -/
def createCorrectionRequest (db : Database) (actor : CustomUser) (tenant gradeRecordId : ℕ)
    (payload : List (String × Json)) : Outcome (GradeCorrectionRequest × Database) := do
  rejectCorrectionMassAssignment payload
  let record ← requireSome ((db.record? gradeRecordId).filter (·.tenant == tenant)) "grade_record"
    "Grade record is not available."
  let assessment ← db.assessmentOf record
  let context := db.correctionContext actor tenant teacherRoles
  refuseIf (!db.canSubmitCorrectionRequest context record assessment) "correction"
    "Correction is not authorized."
  let components ← proposedComponents payload
  let reason ← sanitizeUntrustedText ((Json.lookup "reason" payload).getD .null) 500
  let reasonCode ← sanitizeUntrustedText
    ((Json.lookup "reason_code" payload).getD (.str "teacher_request")) 64
  let remarks ← sanitizeUntrustedText
    ((Json.lookup "proposed_remarks" payload).getD (.str "")) 500
  let rawScore ← Decimal.cleanScore "proposed_raw_score"
    ((Json.lookup "proposed_raw_score" payload).getD .null)
  rawScore.forM fun score => do
    let _ ← validateScoreBounds score (.ofHundredths assessment.maxScore)
  let correction : GradeCorrectionRequest :=
    { id := db.nextId
      tenant := tenant
      gradeRecord := record.id
      requestedBy := actor.id
      reviewedBy := none
      reason := reason
      -- `clean` strips what the cut left
      reasonCode := Text.strip reasonCode
      oldState := record.state
      proposedRawScore := rawScore.map Decimal.hundredths
      proposedComponentScores := components.jsonb
      proposedRemarks := remarks
      reviewReason := ""
      escalationReason := ""
      escalatedBy := none
      appliedBy := none
      status := .underHodReview
      requestedAt := db.clock
      reviewedAt := none
      escalatedAt := none
      appliedAt := none }
  correction.validate db record assessment.maxScore
  let created :=
    { db with
      corrections := db.corrections ++ [correction]
      nextId := db.nextId + 1
      clock := db.clock + 2 }
  return (correction, created.auditCorrection correction actor.id .requested none []
    (some record.state) none "teacher_requested_correction")

/-- A reviewer's decision. -/
def decisionTarget (approve reject : CorrectionStatus) (decision : String) :
    Outcome CorrectionStatus :=
  if decision = "approve" then .ok approve
  else if decision = "reject" then .ok reject
  else .error (.validationError "decision" "Correction decision is invalid.")

/-- What the two reviews share: the decision of an authorised reviewer. -/
def reviewCorrection (db : Database) (correction : GradeCorrectionRequest) (record : GradeRecord)
    (assessment : Assessment) (actor : CustomUser) (authorized : Bool)
    (approve reject : CorrectionStatus) (summary decision reason : String) :
    Outcome (GradeCorrectionRequest × Database) := do
  refuseIf (!authorized) "correction" "Correction review is not authorized."
  let target ← decisionTarget approve reject decision
  refuseIf (!correction.status.canTransition target) "status" "Correction transition is invalid."
  let reviewReason ← sanitizeUntrustedText (.str reason) 500
  let reviewed :=
    { correction with
      status := target
      reviewedBy := some actor.id
      reviewedAt := some db.clock
      reviewReason := reviewReason }
  let saved ← { db with clock := db.clock + 1 }.saveCorrection reviewed record assessment
  return (reviewed, saved.auditCorrection reviewed actor.id .reviewed (some correction.status) []
    none none (summary ++ decision))

/-- `review_correction_as_hod`. -/
def reviewCorrectionAsHod (db : Database) (actor : CustomUser) (tenant correctionId : ℕ)
    (decision reason : String) : Outcome (GradeCorrectionRequest × Database) := do
  let correction ← db.getCorrectionForUpdate tenant correctionId
  let record ← db.recordOf correction
  let assessment ← db.assessmentOf record
  let context := db.correctionContext actor tenant [.hod]
  reviewCorrection db correction record assessment actor
    (db.canReviewHodCorrection context correction assessment) .approvedByHod .rejectedByHod
    "hod_" decision reason

/-- `review_correction_as_academic_head`. -/
def reviewCorrectionAsAcademicHead (db : Database) (actor : CustomUser) (tenant correctionId : ℕ)
    (decision reason : String) : Outcome (GradeCorrectionRequest × Database) := do
  let correction ← db.getCorrectionForUpdate tenant correctionId
  let record ← db.recordOf correction
  let assessment ← db.assessmentOf record
  let context := db.correctionContext actor tenant academicHeadRoles
  reviewCorrection db correction record assessment actor
    (db.canReviewAcademicHeadCorrection context correction) .approvedByAcademicHead
    .rejectedByAcademicHead "academic_head_" decision reason

/-- `escalate_correction_request`. -/
def escalateCorrectionRequest (db : Database) (actor : CustomUser) (tenant correctionId : ℕ)
    (reason : String) : Outcome (GradeCorrectionRequest × Database) := do
  let correction ← db.getCorrectionForUpdate tenant correctionId
  let record ← db.recordOf correction
  let assessment ← db.assessmentOf record
  let context := db.correctionContext actor tenant academicHeadRoles
  refuseIf (!db.canEscalateCorrection context correction) "correction"
    "Correction escalation is not authorized."
  let cleanReason ← sanitizeUntrustedText (.str reason) 500
  -- `can_escalate_hod_unavailable`, with `hod_available=False`
  refuseIf (!correction.status.isEscalationEligible || Text.isBlank cleanReason) "status"
    "Correction escalation is invalid."
  let escalated :=
    { correction with
      status := .escalationRequested
      escalatedBy := some actor.id
      escalatedAt := some db.clock
      escalationReason := cleanReason }
  let saved ← { db with clock := db.clock + 1 }.saveCorrection escalated record assessment
  return (escalated, saved.auditCorrection escalated actor.id .escalated (some correction.status)
    [] none none "hod_unavailable_escalation")

end

/-- `correction_changed_fields`, sorted. -/
def correctionChangedFields (record : GradeRecord) (correction : GradeCorrectionRequest) :
    List String :=
  (if correction.proposedComponentScores.truthy &&
      !record.componentScores.same correction.proposedComponentScores then
    ["component_scores"] else []) ++
  (if correction.proposedRawScore.any (· != record.rawScore) then ["raw_score"] else []) ++
  (if !correction.proposedRemarks.isEmpty && record.remarks != correction.proposedRemarks then
    ["remarks"] else [])

/-- `get_schema_bands_for_assessment`. -/
def Database.schemaBandsForAssessment (db : Database) (tenant : ℕ) (assessment : Assessment) :
    List SchoolGradingBand :=
  match assessment.schoolGradingSchema with
  | some schema =>
    if assessment.tenant = tenant then
      db.bands.filter fun band => band.tenant == tenant && band.schema == schema
    else []
  | none => []

/-- The record with the correction's proposals, one version later. -/
def GradeRecord.proposed (record : GradeRecord) (correction : GradeCorrectionRequest) :
    GradeRecord :=
  { record with
    rawScore := correction.proposedRawScore.getD record.rawScore
    componentScores :=
      if correction.proposedComponentScores.truthy then correction.proposedComponentScores
      else record.componentScores
    remarks :=
      if correction.proposedRemarks.isEmpty then record.remarks else correction.proposedRemarks
    version := record.version + 1 }

/-- The band columns of a record, mapped again where its assessment has bands. -/
def GradeRecord.banded (record : GradeRecord) (assessment : Assessment)
    (bands : List SchoolGradingBand) : Outcome GradeRecord :=
  if bands.isEmpty then .ok record
  else do
    let mapping ← mapScoreToBand record.rawScore assessment.maxScore bands
    return { record with
      normalizedScore := some mapping.normalizedPercentage
      internalBandLabel := mapping.bandLabel
      internalBandDescriptor := mapping.bandDescriptor
      schoolGradingSchemaVersion := assessment.schoolGradingSchemaVersion }

/-- The record written, and the runs of its assessment marked stale. -/
def Database.correctRecord (db : Database) (tenant : ℕ) (record : GradeRecord) : Database :=
  { db with
    records := Table.replace GradeRecord.id record db.records
    runs := db.runs.map fun run =>
      if run.tenant = tenant ∧ run.assessment = record.assessment then
        { run with status := .stale }
      else run
    clock := db.clock + 1 }

section

variable [Unicode]

/-- `apply_approved_correction`. -/
def applyApprovedCorrection (db : Database) (actor : CustomUser) (tenant correctionId : ℕ) :
    Outcome (GradeCorrectionRequest × Database) := do
  let correction ← db.getCorrectionForUpdate tenant correctionId
  let record ← db.recordOf correction
  let assessment ← db.assessmentOf record
  refuseIf (!correction.status.isApprovedUnapplied) "status"
    "Correction is not approved for application."
  let context := db.correctionContext actor tenant (.hod :: academicHeadRoles)
  refuseIf (!db.canApplyCorrection context correction assessment) "correction"
    "Correction application is not authorized."
  let changed := correctionChangedFields record correction
  refuseIf changed.isEmpty "correction" "Correction does not change the record."
  let corrected ← (record.proposed correction).banded assessment
    (db.schemaBandsForAssessment tenant assessment)
  corrected.validate db assessment
  let written := db.correctRecord tenant corrected
  let applied :=
    { correction with
      status := .applied
      appliedBy := some actor.id
      appliedAt := some written.clock }
  let saved ← { written with clock := written.clock + 1 }.saveCorrection applied corrected assessment
  return (applied, saved.auditCorrection applied actor.id .applied (some correction.status) changed
    (some record.state) (some corrected.state) "approved_correction_applied")

end

/-! ## What the services do -/

/-- A correction as it is requested of a record. -/
structure Requested (db : Database) (record : GradeRecord) (correction : GradeCorrectionRequest)
    (entry : GradeCorrectionAuditRecord) (db' : Database) : Prop where
  found : db.record? record.id = some record
  id : correction.id = db.nextId
  gradeRecord : correction.gradeRecord = record.id
  status : correction.status = .underHodReview
  oldState : correction.oldState = record.state
  reviewedBy : correction.reviewedBy = none
  appliedBy : correction.appliedBy = none
  entryFor : entry.correctionRequest = correction.id
  entryRecord : entry.gradeRecord = record.id
  action : entry.action = .requested
  statusFrom : entry.statusFrom = none
  statusTo : entry.statusTo = .underHodReview
  result : db' = { db with
    corrections := db.corrections ++ [correction]
    audits := db.audits ++ [entry]
    nextId := db.nextId + 2
    clock := db.clock + 3 }

/-- A correction moved along the workflow, with its audit entry. -/
structure Advanced (db : Database) (before after : GradeCorrectionRequest)
    (entry : GradeCorrectionAuditRecord) : Prop where
  found : db.corrections.find? (·.id == before.id) = some before
  edge : after.status ∈ before.status.transitions ∨
    before.status.isEscalationEligible = true ∧ after.status = .escalationRequested
  id : after.id = before.id
  gradeRecord : after.gradeRecord = before.gradeRecord
  requestedBy : after.requestedBy = before.requestedBy
  oldState : after.oldState = before.oldState
  reviewer : after.reviewedBy ≠ some after.requestedBy
  applier : after.appliedBy ≠ some after.requestedBy
  entryFor : entry.correctionRequest = before.id
  entryRecord : entry.gradeRecord = before.gradeRecord
  statusFrom : entry.statusFrom = some before.status
  statusTo : entry.statusTo = after.status

section

variable [Unicode] {db db' : Database} {actor : CustomUser} {tenant id : ℕ}
  {payload : List (String × Json)} {decision reason : String}
  {correction reply : GradeCorrectionRequest} {record : GradeRecord} {assessment : Assessment}

omit [Unicode] in
theorem record_of_ok : db.recordOf correction = .ok record ↔
    db.record? correction.gradeRecord = some record := by
  unfold Database.recordOf
  cases db.record? correction.gradeRecord <;> simp

omit [Unicode] in
theorem assessment_of_ok : db.assessmentOf record = .ok assessment ↔
    db.assessment? record.assessment = some assessment := by
  unfold Database.assessmentOf
  cases db.assessment? record.assessment <;> simp

omit [Unicode] in
theorem get_correction_ok (got : db.getCorrectionForUpdate tenant id = .ok correction) :
    db.corrections.find? (·.id == correction.id) = some correction ∧
      correction.tenant = tenant ∧ correction.id = id := by
  obtain ⟨found, ofTenant⟩ := Option.filter_eq_some_iff.mp (requireSome_ok.mp got)
  have here : correction.id = id := by simpa using List.find?_some found
  exact ⟨here ▸ found, by simpa using ofTenant, here⟩

/-- A valid correction is reviewed and applied by someone else. -/
theorem validate_correction_ok {maxScore : ℕ}
    (valid : correction.validate db record maxScore = .ok ()) :
    correction.reviewedBy ≠ some correction.requestedBy ∧
      correction.appliedBy ≠ some correction.requestedBy := by
  obtain ⟨cleaned, -⟩ := Outcome.check_ok.mp valid
  have passed := (full_clean_ok.mp cleaned).2
  unfold GradeCorrectionRequest.clean at passed
  simp only [Outcome.check_ok, refuseIf_ok, beq_eq_false_iff_ne] at passed
  obtain ⟨-, -, -, -, -, -, -, reviewer, applier⟩ := passed
  exact ⟨reviewer, applier⟩

theorem save_correction_ok (saved : db.saveCorrection correction record assessment = .ok db') :
    correction.reviewedBy ≠ some correction.requestedBy ∧
      correction.appliedBy ≠ some correction.requestedBy ∧
      db' = { db with
        corrections := Table.replace GradeCorrectionRequest.id correction db.corrections
        clock := db.clock + 1 } := by
  obtain ⟨valid, stored⟩ := Outcome.check_ok.mp saved
  cases stored
  obtain ⟨reviewer, applier⟩ := validate_correction_ok valid
  exact ⟨reviewer, applier, rfl⟩

/-- What `create_correction_request` does. -/
theorem create_correction_ok
    (created : createCorrectionRequest db actor tenant id payload = .ok (reply, db')) :
    ∃ record entry, Requested db record reply entry db' := by
  unfold createCorrectionRequest at created
  obtain ⟨-, created⟩ := Outcome.check_ok.mp created
  obtain ⟨record, found, created⟩ := Outcome.bind_ok.mp created
  obtain ⟨assessment, -, created⟩ := Outcome.bind_ok.mp created
  obtain ⟨-, created⟩ := Outcome.check_ok.mp created
  obtain ⟨components, -, created⟩ := Outcome.bind_ok.mp created
  obtain ⟨reason, -, created⟩ := Outcome.bind_ok.mp created
  obtain ⟨reasonCode, -, created⟩ := Outcome.bind_ok.mp created
  obtain ⟨remarks, -, created⟩ := Outcome.bind_ok.mp created
  obtain ⟨rawScore, -, created⟩ := Outcome.bind_ok.mp created
  obtain ⟨-, created⟩ := Outcome.check_ok.mp created
  obtain ⟨-, created⟩ := Outcome.check_ok.mp created
  cases created
  obtain ⟨there, -⟩ := Option.filter_eq_some_iff.mp (requireSome_ok.mp found)
  have here : record.id = id := by simpa using List.find?_some there
  exact ⟨record, _, here ▸ there, rfl, rfl, rfl, rfl, rfl, rfl, rfl, rfl, rfl, rfl, rfl, rfl⟩

/-- What a review does. -/
theorem review_correction_ok {authorized : Bool} {approve reject : CorrectionStatus}
    {summary : String}
    (found : db.corrections.find? (·.id == correction.id) = some correction)
    (reviewed : reviewCorrection db correction record assessment actor authorized approve reject
      summary decision reason = .ok (reply, db')) :
    ∃ entry, Advanced db correction reply entry ∧ entry.action = .reviewed ∧
      (reply.status = approve ∨ reply.status = reject) ∧
      db' = { db with
        corrections := Table.replace GradeCorrectionRequest.id reply db.corrections
        audits := db.audits ++ [entry]
        nextId := db.nextId + 1
        clock := db.clock + 3 } := by
  unfold reviewCorrection at reviewed
  obtain ⟨-, reviewed⟩ := Outcome.check_ok.mp reviewed
  obtain ⟨target, decided, reviewed⟩ := Outcome.bind_ok.mp reviewed
  obtain ⟨edge, reviewed⟩ := Outcome.check_ok.mp reviewed
  obtain ⟨reviewReason, -, reviewed⟩ := Outcome.bind_ok.mp reviewed
  obtain ⟨saved, stored, reviewed⟩ := Outcome.bind_ok.mp reviewed
  cases reviewed
  obtain ⟨reviewer, applier, rfl⟩ := save_correction_ok stored
  have target_is : target = approve ∨ target = reject := by
    unfold decisionTarget at decided
    split at decided
    next => exact .inl (Except.ok.inj decided).symm
    next =>
      split at decided
      next => exact .inr (Except.ok.inj decided).symm
      next => cases decided
  refine ⟨_, ⟨found, .inl ?_, rfl, rfl, rfl, rfl, reviewer, applier, rfl, rfl, rfl, rfl⟩, rfl,
    target_is, rfl⟩
  simpa [CorrectionStatus.canTransition] using edge

/-- What a step of the workflow that touches no record does. -/
structure Moved (db : Database) (before after : GradeCorrectionRequest)
    (entry : GradeCorrectionAuditRecord) (db' : Database) : Prop extends
    Advanced db before after entry where
  action : entry.action ≠ .applied
  unapplied : after.status ≠ .applied
  result : db' = { db with
    corrections := Table.replace GradeCorrectionRequest.id after db.corrections
    audits := db.audits ++ [entry]
    nextId := db.nextId + 1
    clock := db.clock + 3 }

theorem review_as_hod_ok
    (reviewed : reviewCorrectionAsHod db actor tenant id decision reason = .ok (reply, db')) :
    ∃ before entry, Moved db before reply entry db' := by
  unfold reviewCorrectionAsHod at reviewed
  obtain ⟨correction, got, reviewed⟩ := Outcome.bind_ok.mp reviewed
  obtain ⟨record, -, reviewed⟩ := Outcome.bind_ok.mp reviewed
  obtain ⟨assessment, -, reviewed⟩ := Outcome.bind_ok.mp reviewed
  obtain ⟨entry, advanced, action, status, result⟩ :=
    review_correction_ok (get_correction_ok got).1 reviewed
  refine ⟨correction, entry, advanced, by simp [action], ?_, result⟩
  rcases status with is | is <;> simp [is]

theorem review_as_academic_head_ok
    (reviewed : reviewCorrectionAsAcademicHead db actor tenant id decision reason =
      .ok (reply, db')) : ∃ before entry, Moved db before reply entry db' := by
  unfold reviewCorrectionAsAcademicHead at reviewed
  obtain ⟨correction, got, reviewed⟩ := Outcome.bind_ok.mp reviewed
  obtain ⟨record, -, reviewed⟩ := Outcome.bind_ok.mp reviewed
  obtain ⟨assessment, -, reviewed⟩ := Outcome.bind_ok.mp reviewed
  obtain ⟨entry, advanced, action, status, result⟩ :=
    review_correction_ok (get_correction_ok got).1 reviewed
  refine ⟨correction, entry, advanced, by simp [action], ?_, result⟩
  rcases status with is | is <;> simp [is]

theorem escalate_ok
    (escalated : escalateCorrectionRequest db actor tenant id reason = .ok (reply, db')) :
    ∃ before entry, Moved db before reply entry db' := by
  unfold escalateCorrectionRequest at escalated
  obtain ⟨correction, got, escalated⟩ := Outcome.bind_ok.mp escalated
  obtain ⟨record, -, escalated⟩ := Outcome.bind_ok.mp escalated
  obtain ⟨assessment, -, escalated⟩ := Outcome.bind_ok.mp escalated
  obtain ⟨-, escalated⟩ := Outcome.check_ok.mp escalated
  obtain ⟨cleanReason, -, escalated⟩ := Outcome.bind_ok.mp escalated
  obtain ⟨eligible, escalated⟩ := Outcome.check_ok.mp escalated
  obtain ⟨saved, stored, escalated⟩ := Outcome.bind_ok.mp escalated
  cases escalated
  obtain ⟨reviewer, applier, rfl⟩ := save_correction_ok stored
  rw [refuseIf_ok, Bool.or_eq_false_iff, Bool.not_eq_false'] at eligible
  exact ⟨correction, _, ⟨(get_correction_ok got).1, .inr ⟨eligible.1, rfl⟩, rfl, rfl, rfl, rfl,
    reviewer, applier, rfl, rfl, rfl, rfl⟩, by simp, by simp, rfl⟩

/-- A correction applied to its record. -/
structure Applied (db : Database) (before after : GradeCorrectionRequest) (record : GradeRecord)
    (assessment : Assessment) (corrected : GradeRecord) (entry : GradeCorrectionAuditRecord)
    (db' : Database) : Prop extends Advanced db before after entry where
  ofCorrection : db.record? before.gradeRecord = some record
  ofRecord : db.assessment? record.assessment = some assessment
  approved : before.status.isApprovedUnapplied = true
  applied : after.status = .applied
  banded : (record.proposed before).banded assessment
    (db.schemaBandsForAssessment before.tenant assessment) = .ok corrected
  valid : corrected.validate db assessment = .ok ()
  action : entry.action = .applied
  stateBefore : entry.stateBefore = some record.state
  stateAfter : entry.stateAfter = some corrected.state
  result : db' = { db.correctRecord before.tenant corrected with
    corrections := Table.replace GradeCorrectionRequest.id after db.corrections
    audits := db.audits ++ [entry]
    nextId := db.nextId + 1
    clock := db.clock + 4 }

/-- What `apply_approved_correction` does. -/
theorem apply_ok (applied : applyApprovedCorrection db actor tenant id = .ok (reply, db')) :
    ∃ before record assessment corrected entry, before.id = id ∧
      Applied db before reply record assessment corrected entry db' := by
  unfold applyApprovedCorrection at applied
  obtain ⟨correction, got, applied⟩ := Outcome.bind_ok.mp applied
  obtain ⟨record, ofCorrection, applied⟩ := Outcome.bind_ok.mp applied
  obtain ⟨assessment, ofRecord, applied⟩ := Outcome.bind_ok.mp applied
  obtain ⟨approved, applied⟩ := Outcome.check_ok.mp applied
  obtain ⟨-, applied⟩ := Outcome.check_ok.mp applied
  obtain ⟨-, applied⟩ := Outcome.check_ok.mp applied
  obtain ⟨corrected, banded, applied⟩ := Outcome.bind_ok.mp applied
  obtain ⟨valid, applied⟩ := Outcome.check_ok.mp applied
  obtain ⟨saved, stored, applied⟩ := Outcome.bind_ok.mp applied
  cases applied
  obtain ⟨reviewer, applier, rfl⟩ := save_correction_ok stored
  obtain ⟨found, rfl, here⟩ := get_correction_ok got
  have unapplied : correction.status.isApprovedUnapplied = true := by simpa using approved
  have edge : CorrectionStatus.applied ∈ correction.status.transitions := by
    revert unapplied
    cases correction.status <;> decide
  exact ⟨correction, record, assessment, corrected, _, here, ⟨found, .inl edge, rfl, rfl, rfl, rfl,
    reviewer, applier, rfl, rfl, rfl, rfl⟩, record_of_ok.mp ofCorrection,
    assessment_of_ok.mp ofRecord, unapplied, rfl, banded, valid, rfl, rfl, rfl, rfl⟩

end

end Darasa.Grading
