import Darasa.Curriculum.Versions

/-!
The grading tables.

Every row refers to others by identifier.  A two-decimal column is counted in
hundredths; where a CHECK constraint keeps it non-negative the count is a natural
number.  A digest is the value it digests, so that equal digests mean equal
values.  Only the columns that a service here reads or writes are kept.
-/

namespace Darasa.Grading

open Darasa (Decimal Json)
open Darasa.Academics (SchoolTables TeachingContext)
open Darasa.Core (Staff)
open Darasa.Curriculum (CurriculumTables)

/-! ## Assessments and schemas -/

/-- `Assessment.AssessmentType`. -/
inductive AssessmentType where
  | quiz | assignment | practical | exam | project | cat | internalExam | mockExam | trialExam
  | departmentalTest | practicalComponent | cbeRubricAssessment
  deriving DecidableEq, Repr

/-- `Assessment.Status`. -/
inductive AssessmentStatus where
  | draft | open | locked | submitted | approved | archived
  deriving DecidableEq, Repr

/-- The curriculum context of an assessment: the fields that grading freezes. -/
structure CurriculumContext where
  curriculumVersion : Option ℕ
  learningArea : ℕ
  rubricFoundation : Option ℕ
  deriving DecidableEq, Repr

/-- An `Assessment`: a row, or the instance a caller holds. -/
structure Assessment where
  id : ℕ
  tenant : ℕ
  academicYear : ℕ
  term : ℕ
  gradeLevel : Option ℕ
  cohort : ℕ
  learningArea : ℕ
  curriculumVersion : Option ℕ
  rubricFoundation : Option ℕ
  title : String
  assessmentType : AssessmentType
  maxScore : ℕ
  weight : ℕ
  status : AssessmentStatus
  opensAt : Option ℕ
  closesAt : Option ℕ
  curriculumBindingLockedAt : Option ℕ
  schoolGradingSchema : Option ℕ
  schoolGradingSchemaVersion : String
  updatedAt : ℕ
  deriving DecidableEq, Repr

namespace Assessment

def context (self : Assessment) : CurriculumContext :=
  ⟨self.curriculumVersion, self.learningArea, self.rubricFoundation⟩

def teaching (self : Assessment) : TeachingContext :=
  ⟨self.cohort, self.learningArea, self.academicYear, self.term⟩

end Assessment

/-- `SchoolGradingSchema.Status`. -/
inductive SchemaStatus where
  | draft | active | deprecated | retired | locked
  deriving DecidableEq, Repr

/-- A `SchoolGradingSchema` row. -/
structure SchoolGradingSchema where
  id : ℕ
  tenant : ℕ
  name : String
  assessmentType : AssessmentType
  versionLabel : String
  status : SchemaStatus
  requiresFullCoverage : Bool
  activatedBy : Option ℕ
  activatedAt : Option ℕ
  deriving DecidableEq, Repr

/-- A `SchoolGradingBand` row; percentages in hundredths. -/
structure SchoolGradingBand where
  tenant : ℕ
  schema : ℕ
  label : String
  descriptor : String
  minPercentage : ℕ
  maxPercentage : ℕ
  points : Option Decimal
  order : ℕ
  deriving DecidableEq, Repr

/-- An `AssessmentComponent` row. -/
structure AssessmentComponent where
  id : ℕ
  tenant : ℕ
  assessment : ℕ
  name : String
  maxScore : ℕ
  order : ℕ
  isRequired : Bool
  rubricFoundation : Option ℕ
  deriving DecidableEq, Repr

/-! ## Drafts, submissions and records -/

/-- `GradeSubmissionBatch.Status`. -/
inductive BatchStatus where
  | draft | submitted | validated | rejected | compiled | failed | superseded
  deriving DecidableEq, Repr

/-- Submitted, validated or compiled. -/
def BatchStatus.isActive : BatchStatus → Bool
  | submitted | validated | compiled => true
  | _ => false

/-- A `GradeSubmissionBatch` row. -/
structure GradeSubmissionBatch where
  id : ℕ
  tenant : ℕ
  assessment : ℕ
  teacher : ℕ
  teacherAssignment : ℕ
  cohort : ℕ
  learningArea : ℕ
  idempotencyKey : String
  payloadHash : Json
  recordCount : ℕ
  status : BatchStatus
  submittedAt : Option ℕ
  confirmationMethod : String
  confirmationAt : Option ℕ
  confirmationReference : String
  deriving DecidableEq, Repr

/-- `GradeDraftBatch.Status`. -/
inductive DraftStatus where
  | draft | submitted | discarded
  deriving DecidableEq, Repr

/-- A `GradeDraftRow`; scores in hundredths. -/
structure GradeDraftRow where
  student : ℕ
  rawScore : Option ℕ
  componentScores : Json
  remarks : String
  deriving DecidableEq, Repr

/-- A `GradeDraftBatch` row with its rows. -/
structure GradeDraftBatch where
  id : ℕ
  tenant : ℕ
  assessment : ℕ
  teacher : ℕ
  teacherAssignment : ℕ
  idempotencyKey : String
  payloadHash : Json
  version : ℕ
  status : DraftStatus
  rows : List GradeDraftRow
  deriving DecidableEq, Repr

/-- A `GradeRecord` row. -/
structure GradeRecord where
  id : ℕ
  tenant : ℕ
  assessment : ℕ
  submissionBatch : ℕ
  student : ℕ
  rawScore : ℕ
  normalizedScore : Option ℕ
  componentScores : Json
  remarks : String
  schoolGradingSchemaVersion : String
  internalBandLabel : String
  internalBandDescriptor : String
  version : ℕ
  submittedBy : ℕ
  deriving DecidableEq, Repr

/-! ## Corrections -/

/-- What `correction_state_hash` digests. -/
structure GradeState where
  gradeRecord : ℕ
  rawScore : ℕ
  componentScores : Json
  remarks : String
  version : ℕ
  deriving DecidableEq, Repr

/-- `correction_state_hash` of a record. -/
def GradeRecord.state (record : GradeRecord) : GradeState where
  gradeRecord := record.id
  rawScore := record.rawScore
  componentScores := record.componentScores.canonical
  remarks := record.remarks
  version := record.version

/-- `GradeCorrectionRequest.Status`. -/
inductive CorrectionStatus where
  | draft | requested | submitted | underHodReview | approved | approvedByHod | rejected
  | rejectedByHod | escalationRequested | underAcademicHeadReview | approvedByAcademicHead
  | rejectedByAcademicHead | applied | cancelled | expired
  deriving DecidableEq, Repr

/-- A `GradeCorrectionRequest` row. -/
structure GradeCorrectionRequest where
  id : ℕ
  tenant : ℕ
  gradeRecord : ℕ
  requestedBy : ℕ
  reviewedBy : Option ℕ
  reason : String
  reasonCode : String
  oldState : GradeState
  proposedRawScore : Option ℕ
  proposedComponentScores : Json
  proposedRemarks : String
  reviewReason : String
  escalationReason : String
  escalatedBy : Option ℕ
  appliedBy : Option ℕ
  status : CorrectionStatus
  requestedAt : ℕ
  reviewedAt : Option ℕ
  escalatedAt : Option ℕ
  appliedAt : Option ℕ
  deriving DecidableEq, Repr

/-- `GradeCorrectionAuditRecord.Action`. -/
inductive AuditAction where
  | requested | reviewed | escalated | applied | cancelled
  deriving DecidableEq, Repr

/-- A `GradeCorrectionAuditRecord` row; a blank `status_from` or hash is `none`. -/
structure GradeCorrectionAuditRecord where
  id : ℕ
  tenant : ℕ
  correctionRequest : ℕ
  gradeRecord : ℕ
  actor : ℕ
  action : AuditAction
  statusFrom : Option CorrectionStatus
  statusTo : CorrectionStatus
  reasonCode : String
  reasonSummary : String
  stateBefore : Option GradeState
  stateAfter : Option GradeState
  changedFields : List String
  deriving DecidableEq, Repr

/-! ## Compilations -/

/-- `CompilationRun.Status`. -/
inductive CompilationStatus where
  | pending | complete | partialMarks | failed | stale | blocked
  deriving DecidableEq, Repr

/-- A `CompilationRun` row; it is created when it is compiled. -/
structure CompilationRun where
  id : ℕ
  tenant : ℕ
  assessment : ℕ
  requestedBy : Option ℕ
  status : CompilationStatus
  expectedLearnerCount : ℕ
  submittedLearnerCount : ℕ
  missingLearnerCount : ℕ
  sourceBatchIds : List ℕ
  errorSummary : String
  compiledAt : Option ℕ
  createdAt : ℕ
  deriving DecidableEq, Repr

/-- A finding of `detect_missing_marks`. -/
structure MissingMark where
  learner : ℕ
  missingFields : List String
  severity : String
  code : String
  deriving DecidableEq, Repr

/-- What `build_score_summary` writes: two-decimal numbers. -/
structure ScoreSummary where
  rawScore : ℕ
  normalizedScore : Option ℕ
  maxScore : ℕ
  percentage : ℕ
  deriving DecidableEq, Repr

/-- A `CompiledLearnerSnapshot` row. -/
structure CompiledLearnerSnapshot where
  id : ℕ
  tenant : ℕ
  compilationRun : ℕ
  assessment : ℕ
  student : ℕ
  cohort : ℕ
  learningArea : ℕ
  curriculumVersion : ℕ
  rubricFoundation : Option ℕ
  status : CompilationStatus
  scoreSummary : ScoreSummary
  componentSummary : Json
  missingMarks : List MissingMark
  cbeBandStatus : String
  sourceBatchIds : List ℕ
  deriving DecidableEq, Repr

/-- What `_component_completion_summary` writes. -/
structure ComponentCompletion where
  componentCount : ℕ
  requiredComponentCount : ℕ
  missingRequiredComponentCount : ℕ
  deriving DecidableEq, Repr

/-- A `CompiledCohortSummary` row. -/
structure CompiledCohortSummary where
  compilationRun : ℕ
  expectedLearnerCount : ℕ
  submittedLearnerCount : ℕ
  missingLearnerCount : ℕ
  completionPercentage : ℕ
  componentSummary : ComponentCompletion
  deriving DecidableEq, Repr

/-! ## Readiness and reports -/

/-- A `ReadinessBlocker`. -/
structure ReadinessBlocker where
  code : String
  severity : String
  message : String
  scope : String
  resourceId : Option ℕ
  deriving DecidableEq, Repr

/-- What `build_report_readiness_summary` returns. -/
structure Readiness where
  assessment : ℕ
  cohort : ℕ
  learningArea : ℕ
  curriculumVersion : Option ℕ
  compilationRun : Option ℕ
  compilationStatus : Option CompilationStatus
  readinessStatus : String
  reportReady : Bool
  expectedLearnerCount : ℕ
  submittedLearnerCount : ℕ
  missingLearnerCount : ℕ
  pendingCorrectionCount : ℕ
  hasDraft : Bool
  hasSubmittedBatch : Bool
  blockers : List ReadinessBlocker
  deriving DecidableEq, Repr

/-- What `summarize_eligibility` returns. -/
structure EligibilitySummary where
  assessmentCount : ℕ
  eligibleCount : ℕ
  blockedCount : ℕ
  allEligible : Bool
  blockerCounts : List (String × ℕ)
  deriving DecidableEq, Repr

/-- `ReportSnapshotRun.Status`. -/
inductive ReportRunStatus where
  | pending | running | complete | partialMarks | blocked | failed
  deriving DecidableEq, Repr

/-- A `ReportSnapshotRun` row; an empty eligibility summary is `none`. -/
structure ReportSnapshotRun where
  id : ℕ
  tenant : ℕ
  academicYear : ℕ
  term : ℕ
  requestedBy : ℕ
  status : ReportRunStatus
  eligibilitySummary : Option EligibilitySummary
  sourceCompilationRunIds : List ℕ
  createdAt : ℕ
  completedAt : Option ℕ
  deriving DecidableEq, Repr

/-- A `ReportEligibilityRecord` row. -/
structure ReportEligibilityRecord where
  tenant : ℕ
  snapshotRun : ℕ
  assessment : ℕ
  compilationRun : Option ℕ
  eligible : Bool
  readinessStatus : String
  blockerCodes : List String
  sourceReadiness : Readiness
  deriving DecidableEq, Repr

/-- A `LearnerReportSnapshot` row; scores and percentages in hundredths. -/
structure LearnerReportSnapshot where
  id : ℕ
  tenant : ℕ
  snapshotRun : ℕ
  student : ℕ
  academicYear : ℕ
  term : ℕ
  cohort : ℕ
  subjectCount : ℕ
  totalScore : ℕ
  averagePercentage : ℕ
  sourceCompilationRunIds : List ℕ
  readinessStatus : String
  schemaVersions : List (ℕ × String)
  assessmentIds : List ℕ
  curriculumVersionIds : List ℕ
  learningAreaIds : List ℕ
  deriving DecidableEq, Repr

/-- A `ReportSubjectLineSnapshot` row. -/
structure ReportSubjectLineSnapshot where
  id : ℕ
  tenant : ℕ
  snapshotRun : ℕ
  learnerSnapshot : ℕ
  compiledLearnerSnapshot : ℕ
  compilationRun : ℕ
  assessment : ℕ
  student : ℕ
  academicYear : ℕ
  term : ℕ
  cohort : ℕ
  learningArea : ℕ
  curriculumVersion : ℕ
  rubricFoundation : Option ℕ
  schoolGradingSchemaVersion : String
  scoreSummary : ScoreSummary
  componentSummary : Json
  cbeBandStatus : String
  internalBandLabel : String
  internalBandDescriptor : String
  status : CompilationStatus
  deriving DecidableEq, Repr

/-- `AcademicAggregate.ScopeType`. -/
inductive ScopeType where
  | school | cohort | stream | subject | department
  deriving DecidableEq, Repr

/-- What `build_scope_aggregate` writes. -/
structure AggregateMetrics where
  scopeType : ScopeType
  learnerCount : ℕ
  meanPercentage : ℕ
  highestPercentage : ℕ
  lowestPercentage : ℕ
  minimumGroupSize : ℕ
  minGroupSizeMet : Bool
  readinessRiskCount : ℕ
  correctionBlockerCount : ℕ
  cctBlockerCount : ℕ
  schemaMismatchCount : ℕ
  deriving DecidableEq, Repr

/-- An `AcademicAggregate` row. -/
structure AcademicAggregate where
  id : ℕ
  tenant : ℕ
  snapshotRun : ℕ
  academicYear : ℕ
  term : ℕ
  scopeType : ScopeType
  gradeLevel : Option ℕ
  cohort : Option ℕ
  learningArea : Option ℕ
  streamLabel : String
  departmentKey : String
  metrics : AggregateMetrics
  minGroupSizeMet : Bool
  deriving DecidableEq, Repr

/-! ## The database -/

/-- The tables, the clock's next reading and the next identifier to draw. -/
structure Database where
  staff : Staff
  school : SchoolTables
  curriculum : CurriculumTables
  assessments : List Assessment
  components : List AssessmentComponent
  schemas : List SchoolGradingSchema
  bands : List SchoolGradingBand
  batches : List GradeSubmissionBatch
  drafts : List GradeDraftBatch
  records : List GradeRecord
  corrections : List GradeCorrectionRequest
  audits : List GradeCorrectionAuditRecord
  runs : List CompilationRun
  cohortSummaries : List CompiledCohortSummary
  learnerSnapshots : List CompiledLearnerSnapshot
  reportRuns : List ReportSnapshotRun
  eligibility : List ReportEligibilityRecord
  learnerReports : List LearnerReportSnapshot
  subjectLines : List ReportSubjectLineSnapshot
  aggregates : List AcademicAggregate
  clock : ℕ
  nextId : ℕ

namespace Database

variable (db : Database)

def assessment? (id : ℕ) : Option Assessment := db.assessments.find? (·.id == id)

def schema? (id : ℕ) : Option SchoolGradingSchema := db.schemas.find? (·.id == id)

def record? (id : ℕ) : Option GradeRecord := db.records.find? (·.id == id)

def batch? (id : ℕ) : Option GradeSubmissionBatch := db.batches.find? (·.id == id)

def run? (id : ℕ) : Option CompilationRun := db.runs.find? (·.id == id)

/-- `filter(tenant=tenant, id=id).first()`. -/
def tenantAssessment (tenant id : ℕ) : Option Assessment :=
  (db.assessment? id).filter (·.tenant == tenant)

/-- No grading row yet. -/
def new (staff : Staff) (school : SchoolTables) (curriculum : CurriculumTables) (clock : ℕ) :
    Database :=
  { staff, school, curriculum, clock
    assessments := [], components := [], schemas := [], bands := [], batches := []
    drafts := [], records := [], corrections := [], audits := [], runs := []
    cohortSummaries := [], learnerSnapshots := [], reportRuns := [], eligibility := []
    learnerReports := [], subjectLines := [], aggregates := []
    nextId := 0 }

end Database

end Darasa.Grading
