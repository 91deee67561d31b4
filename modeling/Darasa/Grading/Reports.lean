import Darasa.Grading.Readiness

/-!
Report snapshots: which assessments are eligible, the lines and learner rows frozen of
their compilations, and the aggregates computed from those.
-/

namespace Darasa.Grading

open Darasa (Decimal Exn Json Outcome Unicode cleanDigits cleanForeignKey cleanLength fullClean
  refuseIf requireSome)
open Darasa.Core (CustomUser RoleCode)
open Darasa.Core.Staff (PolicyContext)

/-! ## Eligibility -/

/-- The dict `build_report_readiness_summary` returns. -/
structure ReadinessSummary where
  assessmentId : String
  cohortId : String
  learningAreaId : String
  curriculumVersionId : String
  compilationRunId : String
  compilationStatus : String
  readinessStatus : String
  reportReady : Bool
  expectedLearnerCount : ℕ
  submittedLearnerCount : ℕ
  missingLearnerCount : ℕ
  pendingCorrectionCount : ℕ
  hasDraft : Bool
  hasSubmittedBatch : Bool
  blockerCount : ℕ
  reviewCount : ℕ
  blockers : List ReadinessBlocker

/-- `text or default`. -/
def orElse (text : Option String) (default : String) : String :=
  (text.filter (!·.isEmpty)).getD default

/-- The dict of a readiness. -/
def Readiness.summary (readiness : Readiness) : ReadinessSummary where
  assessmentId := uuidText readiness.assessment
  cohortId := uuidText readiness.cohort
  learningAreaId := uuidText readiness.learningArea
  curriculumVersionId := orElse (readiness.curriculumVersion.map uuidText) ""
  compilationRunId := orElse (readiness.compilationRun.map uuidText) ""
  compilationStatus :=
    orElse (readiness.compilationStatus.map CompilationStatus.value) "not_started"
  readinessStatus := readiness.readinessStatus
  reportReady := readiness.reportReady
  expectedLearnerCount := readiness.expectedLearnerCount
  submittedLearnerCount := readiness.submittedLearnerCount
  missingLearnerCount := readiness.missingLearnerCount
  pendingCorrectionCount := readiness.pendingCorrectionCount
  hasDraft := readiness.hasDraft
  hasSubmittedBatch := readiness.hasSubmittedBatch
  blockerCount := readiness.blockers.countP (·.severity == "blocking")
  reviewCount := readiness.blockers.countP (·.severity != "blocking")
  blockers := readiness.blockers

/-- What `evaluate_report_eligibility` returns of an assessment. -/
structure EligibilityResult where
  eligible : Bool
  readinessStatus : String
  compilationStatus : Option CompilationStatus
  compilationRun : Option ℕ
  assessment : ℕ
  cohort : ℕ
  learningArea : ℕ
  blockerCodes : List String
  deriving DecidableEq, Repr

/-- The `blocker_codes` of `evaluate_report_eligibility`, before they are sorted. -/
def eligibilityBlockerCodes (readiness : ReadinessSummary) : List String :=
  let compilationStatus := orElse (some readiness.compilationStatus) "not_started"
  let readinessStatus := orElse (some readiness.readinessStatus) "unknown"
  (readiness.blockers.filter (·.severity == "blocking")).map (·.code) ++
  (if readiness.compilationRunId.isEmpty then ["compilation_missing"] else []) ++
  (if compilationStatus = "complete" then [] else ["compilation_" ++ compilationStatus]) ++
  (if readinessStatus = "ready_for_reports" then [] else ["readiness_" ++ readinessStatus]) ++
  (if 0 < readiness.pendingCorrectionCount then ["correction_unresolved"] else []) ++
  (if readiness.reportReady then [] else ["readiness_not_cleared"])

/-- `evaluate_report_eligibility`. -/
def evaluateReportEligibility (readiness : Readiness) : EligibilityResult :=
  let codes := (eligibilityBlockerCodes readiness.summary).dedup.insertionSort (· ≤ ·)
  { eligible := codes.isEmpty
    readinessStatus := readiness.readinessStatus
    compilationStatus := readiness.compilationStatus
    compilationRun := readiness.compilationRun
    assessment := readiness.assessment
    cohort := readiness.cohort
    learningArea := readiness.learningArea
    blockerCodes := codes }

/-- `summarize_eligibility`. -/
def summarizeEligibility (results : List EligibilityResult) : EligibilitySummary :=
  let eligible := results.countP (·.eligible)
  let codes := results.flatMap (·.blockerCodes)
  { assessmentCount := results.length
    eligibleCount := eligible
    blockedCount := results.length - eligible
    allEligible := !results.isEmpty && results.length == eligible
    blockerCounts := (codes.dedup.insertionSort (· ≤ ·)).map fun code => (code, codes.count code) }

/-- `_eligible_compilation_ids`. -/
def eligibleCompilationIds (results : List EligibilityResult) : List ℕ :=
  (results.filterMap fun result => if result.eligible then result.compilationRun else none).dedup

/-! ## Sums -/

/-- `sum(values)`. -/
def sumDecimals (values : List Decimal) : Outcome Decimal :=
  values.foldlM Decimal.add (.finite false 0 0)

/-- `_quantize`, in hundredths: the result must fit the precision of the context. -/
def quantize (value : Decimal) : Outcome ℕ :=
  if 10 ^ Decimal.precision ≤ value.hundredths then .error .invalidOperation
  else .ok value.hundredths

/-- The mean of two-decimal numbers, rounded half up. -/
def meanOf (values : List ℕ) : Outcome ℕ :=
  if values.isEmpty then .ok 0
  else do
    let total ← sumDecimals (values.map fun (value : ℕ) => .ofHundredths value)
    let mean ← total.div (.finite false values.length 0)
    quantize mean

/-! ## Lines -/

/-- `getattr(assessment, "internal_band_label", "")`: an `Assessment` has no such field. -/
def Assessment.internalBandLabel (_ : Assessment) : String := ""

/-- `getattr(assessment, "internal_band_descriptor", "")`, another one it does not have. -/
def Assessment.internalBandDescriptor (_ : Assessment) : String := ""

/-- `build_subject_line_payload`: what it adds to the compiled snapshot it repeats. -/
structure SubjectLine where
  snapshot : CompiledLearnerSnapshot
  schoolGradingSchemaVersion : String
  internalBandLabel : String
  internalBandDescriptor : String

/-- `build_subject_line_payload`. -/
def buildSubjectLinePayload (snapshot : CompiledLearnerSnapshot) (assessment : Assessment) :
    SubjectLine where
  snapshot := snapshot
  schoolGradingSchemaVersion := assessment.schoolGradingSchemaVersion
  internalBandLabel := assessment.internalBandLabel
  internalBandDescriptor := assessment.internalBandDescriptor

/-- `dict[key] = value`. -/
def assign (dict : List (ℕ × String)) (key : ℕ) (value : String) : List (ℕ × String) :=
  if dict.any (·.1 == key) then
    dict.map fun field => if field.1 = key then (key, value) else field
  else dict ++ [(key, value)]

/-- A set of keys, in order. -/
def sortedKeys (ids : List ℕ) : List ℕ := ids.dedup.insertionSort (· ≤ ·)

/-- `build_learner_snapshot_payload`: the columns it fills of a learner's row. -/
def buildLearnerSnapshotPayload (row : LearnerReportSnapshot) (lines : List SubjectLine)
    (readinessStatus : String) : Outcome LearnerReportSnapshot := do
  let average ← meanOf (lines.map (·.snapshot.scoreSummary.percentage))
  let total ← sumDecimals (lines.map fun line => .ofHundredths line.snapshot.scoreSummary.rawScore)
  let total ← quantize total
  return { row with
    subjectCount := lines.length
    totalScore := total
    averagePercentage := average
    sourceCompilationRunIds := sortedKeys (lines.map (·.snapshot.compilationRun))
    readinessStatus := readinessStatus
    schemaVersions :=
      (lines.filter (!·.schoolGradingSchemaVersion.isEmpty)).foldl
        (fun dict line => assign dict line.snapshot.assessment line.schoolGradingSchemaVersion) []
    assessmentIds := sortedKeys (lines.map (·.snapshot.assessment))
    curriculumVersionIds := sortedKeys (lines.map (·.snapshot.curriculumVersion))
    learningAreaIds := sortedKeys (lines.map (·.snapshot.learningArea)) }

/-! ## Aggregates -/

/-- `build_performance_metrics`, in `build_scope_aggregate`. -/
def buildScopeAggregate (scopeType : ScopeType) (percentages : List ℕ) : Outcome AggregateMetrics :=
  do
    let mean ← meanOf percentages
    return {
      scopeType := scopeType
      learnerCount := percentages.length
      meanPercentage := mean
      highestPercentage := percentages.max?.getD 0
      lowestPercentage := percentages.min?.getD 0
      minimumGroupSize := 3
      minGroupSizeMet := decide (3 ≤ percentages.length)
      readinessRiskCount := 0
      correctionBlockerCount := 0
      cctBlockerCount := 0
      schemaMismatchCount := 0 }

/-! ## Validation -/

/-- Every row referred to is there, and of the tenant. -/
def cleanTenants (tenant : ℕ) (message : String) (tenants : List (Option ℕ)) : Outcome Unit :=
  refuseIf (tenants.any (· != some tenant)) "tenant" message

namespace Database

variable (db : Database)

/-- The tenants of the year and the term of a row. -/
def periodTenants (academicYear term : ℕ) : List (Option ℕ) :=
  [(db.school.academicYear? academicYear).map (·.tenant), (db.school.term? term).map (·.tenant)]

end Database

/-- `full_clean` of a `ReportSnapshotRun`. -/
def ReportSnapshotRun.validate (self : ReportSnapshotRun) (db : Database) : Outcome Unit := do
  cleanForeignKey "tenant" "school" (db.staff.schools.any (·.id == self.tenant))
  db.cleanUser "requested_by" (some self.requestedBy)
  cleanTenants self.tenant "Report run tenant is invalid."
    (db.periodTenants self.academicYear self.term)
  refuseIf ((db.school.term? self.term).any (·.academicYear != self.academicYear)) "term"
    "Report run term is invalid."

/-- `full_clean` of a new `ReportEligibilityRecord`, on its assessment. -/
def ReportEligibilityRecord.validate (self : ReportEligibilityRecord) (db : Database)
    (assessment : Assessment) : Outcome Unit := do
  cleanLength "readiness_status" 64 self.readinessStatus
  cleanTenants self.tenant "Eligibility tenant is invalid."
    (some assessment.tenant :: db.periodTenants assessment.academicYear assessment.term ++
      [(db.school.cohort? assessment.cohort).map (·.tenant),
        (db.school.learningArea? assessment.learningArea).map (·.tenant)])

/-- `full_clean` of a new `LearnerReportSnapshot`. -/
def LearnerReportSnapshot.validate (self : LearnerReportSnapshot) (db : Database) :
    Outcome Unit := do
  cleanCount "subject_count" self.subjectCount
  cleanDigits "total_score" 9 self.totalScore
  cleanDigits "average_percentage" 7 self.averagePercentage
  cleanLength "readiness_status" 64 self.readinessStatus
  cleanTenants self.tenant "Learner report tenant is invalid."
    ((db.school.student? self.student).map (·.tenant) ::
      db.periodTenants self.academicYear self.term ++
      [(db.school.cohort? self.cohort).map (·.tenant)])
  refuseIf (db.learnerReports.any fun row =>
      row.tenant == self.tenant && row.snapshotRun == self.snapshotRun &&
        row.student == self.student)
    "__all__" "Constraint “grading_learner_report_unique” is violated."

/-- `full_clean` of a new `ReportSubjectLineSnapshot`, on its assessment. -/
def ReportSubjectLineSnapshot.validate (self : ReportSubjectLineSnapshot) (db : Database)
    (assessment : Assessment) : Outcome Unit := do
  cleanLength "school_grading_schema_version" 48 self.schoolGradingSchemaVersion
  cleanLength "cbe_band_status" 64 self.cbeBandStatus
  cleanLength "internal_band_label" 32 self.internalBandLabel
  cleanLength "internal_band_descriptor" 160 self.internalBandDescriptor
  cleanTenants self.tenant "Subject report tenant is invalid."
    ([(db.run? self.compilationRun).map (·.tenant), some assessment.tenant,
      (db.school.student? self.student).map (·.tenant)] ++
      db.periodTenants self.academicYear self.term ++
      [(db.school.cohort? self.cohort).map (·.tenant),
        (db.school.learningArea? self.learningArea).map (·.tenant)])
  refuseIf (assessment.learningArea != self.learningArea) "learning_area"
    "Subject report scope is invalid."
  refuseIf (db.subjectLines.any fun row =>
      row.tenant == self.tenant && row.snapshotRun == self.snapshotRun &&
        row.assessment == self.assessment && row.student == self.student)
    "__all__" "Constraint “grading_report_subject_unique” is violated."

/-- `full_clean` of a new `AcademicAggregate`. -/
def AcademicAggregate.validate (self : AcademicAggregate) (db : Database) : Outcome Unit := do
  cleanLength "stream_label" 64 self.streamLabel
  cleanLength "department_key" 96 self.departmentKey
  cleanTenants self.tenant "Aggregate tenant is invalid."
    (db.periodTenants self.academicYear self.term ++
      (self.cohort.map fun id => (db.school.cohort? id).map (·.tenant)).toList ++
      (self.learningArea.map fun id => (db.school.learningArea? id).map (·.tenant)).toList)

/-! ## The service -/

namespace Database

variable (db : Database)

/-- The row of an identifier a compiled row has. -/
def assessmentOfSnapshot (snapshot : CompiledLearnerSnapshot) : Outcome Assessment :=
  match db.assessment? snapshot.assessment with
  | some assessment => .ok assessment
  | none => .error (.doesNotExist "Assessment")

/-- The order of `_snapshot_source_rows`. -/
def sourceOrder (a b : CompiledLearnerSnapshot) : Prop :=
  let name (row : CompiledLearnerSnapshot) : String :=
    ((db.school.learningArea? row.learningArea).map (·.name)).getD ""
  a.student < b.student ∨ a.student = b.student ∧
    (name a < name b ∨ name a = name b ∧ a.assessment ≤ b.assessment)

instance : DecidableRel db.sourceOrder := fun _ _ => inferInstanceAs (Decidable (_ ∨ _))

/-- `_snapshot_source_rows`. -/
def snapshotSourceRows (tenant : ℕ) (compilationRunIds : List ℕ) : List CompiledLearnerSnapshot :=
  (db.learnerSnapshots.filter fun row =>
    row.tenant == tenant && compilationRunIds.contains row.compilationRun &&
      row.status == .complete).insertionSort db.sourceOrder

/-- A learner's row, from the first of the learner's source rows. -/
def learnerReport (run : ReportSnapshotRun) (rows : List CompiledLearnerSnapshot)
    (student : ℕ) : Outcome LearnerReportSnapshot := do
  let own := rows.filter (·.student == student)
  let assessments ← own.mapM db.assessmentOfSnapshot
  let first ← requireSome (own.zip assessments).head? "student" "A learner has a row."
  buildLearnerSnapshotPayload
    { id := db.nextId
      tenant := run.tenant
      snapshotRun := run.id
      student := student
      academicYear := first.2.academicYear
      term := first.2.term
      cohort := first.1.cohort
      subjectCount := 0
      totalScore := 0
      averagePercentage := 0
      sourceCompilationRunIds := []
      readinessStatus := ""
      schemaVersions := []
      assessmentIds := []
      curriculumVersionIds := []
      learningAreaIds := [] }
    (List.zipWith buildSubjectLinePayload own assessments) "ready_for_reports"

/-- `LearnerReportSnapshot.objects.create` for one learner. -/
def createLearnerReport (run : ReportSnapshotRun) (rows : List CompiledLearnerSnapshot)
    (student : ℕ) : Outcome Database := do
  let row ← db.learnerReport run rows student
  row.validate db
  return { db with learnerReports := db.learnerReports ++ [row], nextId := db.nextId + 1 }

/-- `ReportSubjectLineSnapshot.objects.create` for one source row. -/
def createSubjectLine (run : ReportSnapshotRun) (row : CompiledLearnerSnapshot) :
    Outcome Database := do
  let assessment ← db.assessmentOfSnapshot row
  let line := buildSubjectLinePayload row assessment
  -- `learner_by_student`
  let learner ← requireSome (db.learnerReports.find? fun report =>
    report.snapshotRun == run.id && report.student == row.student) "student" "A line has a learner."
  let stored : ReportSubjectLineSnapshot :=
    { id := db.nextId
      tenant := run.tenant
      snapshotRun := run.id
      learnerSnapshot := learner.id
      compiledLearnerSnapshot := row.id
      compilationRun := row.compilationRun
      assessment := row.assessment
      student := row.student
      academicYear := assessment.academicYear
      term := assessment.term
      cohort := row.cohort
      learningArea := row.learningArea
      curriculumVersion := row.curriculumVersion
      rubricFoundation := row.rubricFoundation
      schoolGradingSchemaVersion := line.schoolGradingSchemaVersion
      scoreSummary := row.scoreSummary
      componentSummary := row.componentSummary
      cbeBandStatus := row.cbeBandStatus
      internalBandLabel := line.internalBandLabel
      internalBandDescriptor := line.internalBandDescriptor
      status := row.status }
  stored.validate db assessment
  return { db with subjectLines := db.subjectLines ++ [stored], nextId := db.nextId + 1 }

/-- `_build_report_snapshots`. -/
def buildReportSnapshots (run : ReportSnapshotRun) (rows : List CompiledLearnerSnapshot) :
    Outcome Database := do
  let withLearners ← (sortedKeys (rows.map (·.student))).foldlM
    (fun db student => db.createLearnerReport run rows student) db
  rows.foldlM (fun db row => db.createSubjectLine run row) withLearners

/-- `get_learner_report_snapshots` of a run. -/
def reportLearners (tenant run : ℕ) : List LearnerReportSnapshot :=
  db.learnerReports.filter fun row => row.tenant == tenant && row.snapshotRun == run

/-- `get_report_subject_line_snapshots` of a run. -/
def reportLines (tenant run : ℕ) : List ReportSubjectLineSnapshot :=
  db.subjectLines.filter fun row => row.tenant == tenant && row.snapshotRun == run

/-- `_create_aggregate`. -/
def createAggregate (run : ReportSnapshotRun) (scopeType : ScopeType) (percentages : List ℕ)
    (cohort : Option Academics.Cohort) (learningArea : Option ℕ)
    (streamLabel departmentKey : String) : Outcome Database := do
  let metrics ← buildScopeAggregate scopeType percentages
  let aggregate : AcademicAggregate :=
    { id := db.nextId
      tenant := run.tenant
      snapshotRun := run.id
      academicYear := run.academicYear
      term := run.term
      scopeType := scopeType
      gradeLevel := cohort.map (·.gradeLevel)
      cohort := cohort.map (·.id)
      learningArea := learningArea
      streamLabel := streamLabel
      departmentKey := departmentKey
      metrics := metrics
      minGroupSizeMet := metrics.minGroupSizeMet }
  aggregate.validate db
  return { db with aggregates := db.aggregates ++ [aggregate], nextId := db.nextId + 1 }

/-- The aggregates of a cohort: its own, and its stream's. -/
def createCohortAggregates (run : ReportSnapshotRun) (learners : List LearnerReportSnapshot)
    (cohortId : ℕ) : Outcome Database := do
  let cohort ← requireSome (db.school.cohort? cohortId) "cohort" "A learner has a cohort."
  let percentages := (learners.filter (·.cohort == cohortId)).map (·.averagePercentage)
  let withCohort ← db.createAggregate run .cohort percentages (some cohort) none "" ""
  withCohort.createAggregate run .stream percentages (some cohort) none
    (if cohort.streamLabel.isEmpty then cohort.name else cohort.streamLabel) ""

/-- The aggregates of a learning area: its own, and its department's. -/
def createAreaAggregates (run : ReportSnapshotRun) (lines : List ReportSubjectLineSnapshot)
    (areaId : ℕ) : Outcome Database := do
  let area ← requireSome (db.school.learningArea? areaId) "learning_area" "A line has an area."
  let percentages := (lines.filter (·.learningArea == areaId)).map (·.scoreSummary.percentage)
  let withSubject ← db.createAggregate run .subject percentages none (some areaId) "" ""
  withSubject.createAggregate run .department percentages none (some areaId) "" area.code

/-- `compute_report_snapshot_aggregates`. -/
def computeReportSnapshotAggregates (run : ReportSnapshotRun) : Outcome Database := do
  let learners := db.reportLearners run.tenant run.id
  let lines := db.reportLines run.tenant run.id
  let withSchool ← db.createAggregate run .school (learners.map (·.averagePercentage)) none none
    "" ""
  let withCohorts ← (sortedKeys (learners.map (·.cohort))).foldlM
    (fun db cohortId => db.createCohortAggregates run learners cohortId) withSchool
  (sortedKeys (lines.map (·.learningArea))).foldlM
    (fun db areaId => db.createAreaAggregates run lines areaId) withCohorts

/-- `can_compute_report_snapshot`. -/
def canComputeReportSnapshot (context : PolicyContext) : Bool :=
  db.staff.contextIsValid context &&
    context.hasRole [.principal, .schoolAdmin, .deputyPrincipal]

end Database

/-- The filters of a report: a key that is given replaces the period's, and an empty
value filters nothing. -/
abbrev ReadinessFilters := List (String × Option ℕ)

/-- The value a field is filtered by. -/
def filterValue (filters : ReadinessFilters) (field : String) (period : Option ℕ) : Option ℕ :=
  ((filters.find? (·.1 == field)).map (·.2)).getD period

/-- `get_academic_head_readiness_scope` of a report period.  Nothing here depends on the
order of the assessments. -/
def Database.academicHeadReadinessScope (db : Database) (tenant academicYear term : ℕ)
    (filters : ReadinessFilters) : List Assessment :=
  db.assessments.filter fun row =>
    row.tenant == tenant &&
      (filterValue filters "academic_year_id" (some academicYear)).all (row.academicYear == ·) &&
      (filterValue filters "term_id" (some term)).all (row.term == ·) &&
      (filterValue filters "cohort_id" none).all (row.cohort == ·) &&
      (filterValue filters "learning_area_id" none).all (row.learningArea == ·)

section

variable [Unicode]

/-- One record of `_create_eligibility_records`. -/
def Database.createEligibilityRecord (db : Database) (run : ReportSnapshotRun)
    (assessment : Assessment) : Outcome (EligibilityResult × ReportEligibilityRecord) := do
  let readiness := db.assessmentReadiness assessment
  let result := evaluateReportEligibility readiness
  let record : ReportEligibilityRecord :=
    { tenant := run.tenant
      snapshotRun := run.id
      assessment := assessment.id
      compilationRun := ((result.compilationRun.bind db.run?).filter fun compilation =>
        compilation.tenant == run.tenant).map (·.id)
      eligible := result.eligible
      readinessStatus := result.readinessStatus
      blockerCodes := result.blockerCodes
      sourceReadiness := readiness }
  record.validate db assessment
  return (result, record)

/-- `_create_eligibility_records`: no record changes what readiness reads. -/
def Database.createEligibilityRecords (db : Database) (run : ReportSnapshotRun)
    (assessments : List Assessment) : Outcome (List EligibilityResult × Database) := do
  let created ← assessments.mapM (db.createEligibilityRecord run)
  return (created.map (·.1), { db with eligibility := db.eligibility ++ created.map (·.2) })

/-- The status of a finished report run. -/
def finishedStatus (summary : EligibilitySummary) : ReportRunStatus :=
  if summary.allEligible then .complete
  else if 0 < summary.eligibleCount then .partialMarks
  else .blocked

/-- `create_report_snapshot_run`. -/
def createReportSnapshotRun (db : Database) (actor : CustomUser) (tenant academicYear term : ℕ)
    (filters : ReadinessFilters) : Outcome (ReportSnapshotRun × Database) := do
  let context := db.staff.policyContext actor tenant (.principal :: academicHeadRoles)
  refuseIf (!db.canComputeReportSnapshot context) "report_snapshot"
    "Report snapshot is not authorized."
  let assessments := db.academicHeadReadinessScope tenant academicYear term filters
  let run : ReportSnapshotRun :=
    { id := db.nextId
      tenant := tenant
      academicYear := academicYear
      term := term
      requestedBy := actor.id
      status := .running
      eligibilitySummary := none
      sourceCompilationRunIds := []
      createdAt := db.clock
      completedAt := none }
  run.validate db
  let started := { db with nextId := db.nextId + 1, clock := db.clock + 1 }
  let (results, recorded) ← started.createEligibilityRecords run assessments
  let eligibleIds := eligibleCompilationIds results
  let snapshots ← recorded.buildReportSnapshots run
    (recorded.snapshotSourceRows tenant eligibleIds)
  let aggregated ← snapshots.computeReportSnapshotAggregates run
  let summary := summarizeEligibility results
  let finished :=
    { run with
      status := finishedStatus summary
      eligibilitySummary := some summary
      sourceCompilationRunIds := eligibleIds.insertionSort (· ≤ ·)
      completedAt := some aggregated.clock }
  finished.validate aggregated
  return (finished,
    { aggregated with
      reportRuns := aggregated.reportRuns ++ [finished]
      clock := aggregated.clock + 1 })

end

end Darasa.Grading
