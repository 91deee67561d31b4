import Darasa.Grading.Compilation

/-!
Readiness of an assessment for reports: what blocks it, read off the tables of the
moment and the counts of its latest compilation.
-/

namespace Darasa.Grading

open Darasa (Json Unicode)
open Darasa.Curriculum (CurriculumAppImpactPlan)

/-! ## Blockers -/

/-- `blocker`, of severity blocking. -/
def blocking (code message scope : String) (resource : Option ℕ) : ReadinessBlocker :=
  ⟨code, "blocking", message, scope, resource⟩

/-- `INTERNAL_ASSESSMENT_TYPES`. -/
def isInternalAssessmentType (assessmentType : AssessmentType) : Bool :=
  assessmentType != .cbeRubricAssessment

/-- `schema_required_types`. -/
def requiresInternalSchema (assessmentType : AssessmentType) : Bool :=
  [AssessmentType.cat, .internalExam, .mockExam, .trialExam, .departmentalTest,
    .practicalComponent].contains assessmentType

/-- `schema_readiness_blockers`. -/
def schemaReadinessBlockers (assessmentType : AssessmentType) (schemaStatus : Option SchemaStatus) :
    List ReadinessBlocker :=
  if !requiresInternalSchema assessmentType || !isInternalAssessmentType assessmentType then []
  else match schemaStatus with
    | none => [blocking "school_schema_missing"
        "Internal assessment requires a school grading schema." "schema" none]
    | some status =>
      if [SchemaStatus.deprecated, .retired, .draft].contains status then
        [blocking "school_schema_not_active"
          "Internal assessment schema is not active for report readiness." "schema" none]
      else []

/-- `correction_readiness_blockers`. -/
def correctionReadinessBlockers (corrections : List GradeCorrectionRequest) :
    List ReadinessBlocker :=
  (if corrections.isEmpty then []
    else [blocking "correction_pending"
      "Pending correction workflow items block report readiness." "correction" none]) ++
  (if corrections.any (·.status.isApprovedUnapplied) then
    [blocking "approved_correction_unapplied"
      "Approved correction must be applied before reports." "correction" none]
    else [])

/-- `component_readiness_blockers`. -/
def componentReadinessBlockers (summary : Option ComponentCompletion) : List ReadinessBlocker :=
  if summary.any (0 < ·.missingRequiredComponentCount) then
    [blocking "missing_required_component" "Required practical/component marks are incomplete."
      "component" none]
  else []

/-- What `get_cct_blockers_for_assessment` returns. -/
structure CctState where
  hasSchoolAdoption : Bool
  curriculumVersionWithdrawn : Bool
  rollbackPlanCount : ℕ
  appImpactPlanCount : ℕ
  deriving DecidableEq, Repr

/-- `cct_readiness_blockers`. -/
def cctReadinessBlockers (assessmentIsBound : Bool) (state : CctState) : List ReadinessBlocker :=
  (if assessmentIsBound then []
    else [blocking "assessment_not_cbe_cct_bound"
      "Assessment is not bound to CBE/CCT context." "assessment" none]) ++
  (if state.hasSchoolAdoption then []
    else [blocking "cct_adoption_missing"
      "School adoption for the assessment curriculum is missing." "curriculum" none]) ++
  (if state.curriculumVersionWithdrawn then
    [blocking "cct_withdrawal_review_required"
      "Curriculum withdrawal requires report-readiness review." "curriculum" none]
    else []) ++
  (if 0 < state.rollbackPlanCount then
    [blocking "cct_rollback_review_required"
      "Curriculum rollback planning affects readiness review." "curriculum" none]
    else []) ++
  (if 0 < state.appImpactPlanCount then
    [⟨"cct_app_impact_review_required", "review",
      "CCT app impact planning requires academic review.", "curriculum", none⟩]
    else [])

/-! ## Freshness -/

/-- `detect_stale_compilation`: `is_stale`. -/
def detectStaleCompilation (compilationStatus : Option CompilationStatus)
    (compiledAt latestBatchSubmittedAt latestCorrectionRequestedAt : Option ℕ)
    (assessmentUpdatedAt : ℕ) : Bool :=
  compilationStatus == some .stale ||
    (compilationStatus.isSome && compiledAt.isNone) ||
    compiledAt.any fun compiled =>
      decide (compiled < assessmentUpdatedAt) ||
        latestBatchSubmittedAt.any (compiled < ·) ||
        latestCorrectionRequestedAt.any (compiled < ·)

/-! ## Status -/

/-- The value of a `CompilationRun.Status`. -/
def CompilationStatus.value : CompilationStatus → String
  | pending => "pending"
  | complete => "complete"
  | partialMarks => "partial"
  | failed => "failed"
  | stale => "stale"
  | blocked => "blocked"

theorem CompilationStatus.value_complete {status : CompilationStatus} :
    status.value = "complete" ↔ status = .complete := by
  cases status <;> decide

/-- `determine_readiness_status`. -/
def determineReadinessStatus (compilationStatus : Option String) (blockers : List ReadinessBlocker)
    (hasSubmittedBatch hasDraft : Bool) : String :=
  let codes := blockers.map (·.code)
  if codes.contains "failed_compilation" || compilationStatus == some "failed" then "failed"
  else if codes.contains "stale_compilation" || compilationStatus == some "stale" then "stale"
  else if codes.contains "correction_pending" then "needs_correction"
  else if codes.contains "missing_required_component" then "blocked"
  else if codes.contains "missing_marks" || compilationStatus == some "partial" then "partial"
  else if codes.any (fun code => "cct_".toList.isPrefixOf code.toList) then "not_ready_for_reports"
  else if codes.contains "no_compilation" then
    if hasSubmittedBatch then "submitted" else if hasDraft then "in_progress" else "not_started"
  else if !blockers.isEmpty then "not_ready_for_reports"
  else if compilationStatus == some "complete" then "ready_for_reports"
  else "not_ready_for_reports"

/-- Only a complete compilation without blockers is ready. -/
theorem ready_for_reports_iff {compilationStatus : Option String}
    {blockers : List ReadinessBlocker} {hasSubmittedBatch hasDraft : Bool} :
    determineReadinessStatus compilationStatus blockers hasSubmittedBatch hasDraft =
        "ready_for_reports" ↔
      blockers = [] ∧ compilationStatus = some "complete" := by
  constructor
  · intro ready
    unfold determineReadinessStatus at ready
    by_cases none : blockers = []
    · subst none
      refine ⟨rfl, ?_⟩
      revert ready
      simp only [List.map_nil, List.contains_nil, Bool.false_or, List.any_nil, List.isEmpty_nil,
        Bool.not_true, Bool.false_eq_true, if_false]
      repeat' split
      all_goals simp_all
    · exfalso
      revert ready
      simp only [List.isEmpty_eq_false_iff.mpr none, Bool.not_false, if_true]
      repeat' split
      all_goals simp
  · rintro ⟨rfl, rfl⟩
    rfl

/-! ## The tables readiness reads -/

section

variable [Unicode]

/-- `_normalized_text`. -/
def normalizedText (value : Json) : String :=
  Text.lower (Text.strip (if value.truthy then value.text else ""))

/-- `_scope_matches_any`. -/
def scopeMatchesAny (value : Json) (candidates : List Json) : Bool :=
  let expected := normalizedText value
  expected.isEmpty || (candidates.map normalizedText).contains expected

/-- A field of the scope matches one of the candidates, when the scope has it. -/
def scopeFieldMatches (scope : List (String × Json)) (key : String) (candidates : List Json) :
    Bool :=
  ((Json.lookup key scope).filter Json.truthy).all fun value => scopeMatchesAny value candidates

/-- `_metadata_scope_matches`. -/
def metadataScopeMatches (metadata scope : List (String × Json)) : Bool :=
  ["region", "county", "sub_county", "school_category", "senior_school_pathway"].all fun key =>
    scopeFieldMatches scope key [(Json.lookup key metadata).getD .null]

/-- `str` of a key, or `None`. -/
def keyText (id : Option ℕ) : Json := (id.map fun id => Json.str (uuidText id)).getD .null

/-- `_impact_scope_applies_to_assessment`. -/
def impactScopeAppliesToAssessment (db : Database) (assessment : Assessment)
    (scope : List (String × Json)) : Bool :=
  let gradeLevel := assessment.gradeLevel.bind db.school.gradeLevel?
  let learningArea := db.school.learningArea? assessment.learningArea
  let rubric := assessment.rubricFoundation.bind db.curriculum.rubric?
  scope.isEmpty ||
    normalizedText ((Json.lookup "scope_type" scope).getD .null) == "scope_unknown" ||
    metadataScopeMatches (db.school.metadata assessment.tenant) scope &&
      scopeFieldMatches scope "grade_level" [keyText assessment.gradeLevel,
        .str ((gradeLevel.map (·.code)).getD ""), .str ((gradeLevel.map (·.name)).getD "")] &&
      scopeFieldMatches scope "learning_area" [keyText (some assessment.learningArea),
        .str ((learningArea.map (·.code)).getD ""), .str ((learningArea.map (·.name)).getD "")] &&
      scopeFieldMatches scope "rubric" [keyText assessment.rubricFoundation,
        .str ((rubric.map (·.levelCode)).getD ""), .str ((rubric.map (·.levelLabel)).getD "")]

/-- `READINESS_CCT_APP_DOMAINS`. -/
def readinessCctAppDomains : List String :=
  ["academics", "assessments", "examinations", "grading", "compilation", "reports_future"]

/-- `get_cct_blockers_for_assessment`. -/
def cctBlockersForAssessment (db : Database) (assessment : Assessment) : CctState :=
  match assessment.curriculumVersion with
  | none => ⟨false, false, 0, 0⟩
  | some version =>
    { hasSchoolAdoption := db.curriculum.isAdopted assessment.tenant version
      curriculumVersionWithdrawn := db.curriculum.isWithdrawn version
      rollbackPlanCount := db.curriculum.rollbackPlans.countP fun plan =>
        plan.tenant == assessment.tenant && plan.withdrawnVersion == version
      appImpactPlanCount := db.curriculum.impactPlans.countP fun plan =>
        plan.tenant == assessment.tenant && readinessCctAppDomains.contains plan.appDomain &&
          [Curriculum.ImpactStatus.planned, .reviewRequired].contains plan.status &&
          impactScopeAppliesToAssessment db assessment plan.affectedScope }

end

/-- The order of `get_latest_compilation_run`: newest first, and among runs of one moment
one that was compiled. -/
def CompilationRun.latestFirst (a b : CompilationRun) : Prop :=
  b.createdAt < a.createdAt ∨ b.createdAt = a.createdAt ∧
    ((b.compiledAt.elim 0 (· + 1)) < (a.compiledAt.elim 0 (· + 1)) ∨
      (b.compiledAt.elim 0 (· + 1)) = (a.compiledAt.elim 0 (· + 1)) ∧ b.id ≤ a.id)

instance : DecidableRel CompilationRun.latestFirst := fun _ _ =>
  inferInstanceAs (Decidable (_ ∨ _))

namespace Database

variable (db : Database) (assessment : Assessment)

/-- `get_latest_compilation_for_assessment`. -/
def latestCompilation : Option CompilationRun :=
  ((db.runs.filter fun run => run.tenant == assessment.tenant && run.assessment == assessment.id)
    |>.insertionSort CompilationRun.latestFirst).head?

/-- `run.cohort_summary`. -/
def cohortSummary? (run : CompilationRun) : Option CompiledCohortSummary :=
  db.cohortSummaries.find? (·.compilationRun == run.id)

/-- The batches of the assessment that count as submitted. -/
def submittedBatches : List GradeSubmissionBatch :=
  db.batches.filter fun batch =>
    batch.tenant == assessment.tenant && batch.assessment == assessment.id && batch.status.isActive

/-- `get_readiness_drafts_for_assessment`. -/
def readinessDrafts : List GradeDraftBatch :=
  db.drafts.filter fun draft =>
    draft.tenant == assessment.tenant && draft.assessment == assessment.id &&
      draft.status == .draft

/-- `get_pending_corrections_for_assessment`. -/
def pendingCorrections : List GradeCorrectionRequest :=
  db.corrections.filter fun correction =>
    correction.tenant == assessment.tenant && correction.status.isBlocking &&
      (db.record? correction.gradeRecord).any (·.assessment == assessment.id)

/-! ## Readiness -/

/-- What the latest compilation blocks by itself. -/
def compilationBlockers (run : Option CompilationRun) : List ReadinessBlocker :=
  match run with
  | none => [blocking "no_compilation" "No compilation run exists for this assessment."
      "assessment" none]
  | some run =>
    (if run.status = .failed then
      [blocking "failed_compilation" "Latest compilation failed." "assessment" (some run.id)]
    else if run.status = .blocked then
      [blocking "blocked_compilation" "Latest compilation is blocked." "assessment" (some run.id)]
    else []) ++
    (if 0 < run.missingLearnerCount then
      [blocking "missing_marks" "One or more active learners are missing official marks."
        "learner" none]
    else [])

/-- What the batches and drafts block. -/
def batchBlockers : List ReadinessBlocker :=
  if !(db.submittedBatches assessment).isEmpty then []
  else
    blocking "teacher_submission_missing"
      "No submitted teacher batch exists for this assessment." "assessment" none ::
    (if (db.readinessDrafts assessment).isEmpty then []
      else [blocking "draft_unsubmitted" "A draft exists but final submission is missing."
        "assessment" none])

/-- The latest compilation is stale by its status or its time. -/
def isStale (run : Option CompilationRun) : Bool :=
  detectStaleCompilation (run.map (·.status)) (run.bind (·.compiledAt))
    ((db.submittedBatches assessment).filterMap (·.submittedAt)).max?
    ((db.pendingCorrections assessment).map (·.requestedAt)).max? assessment.updatedAt

variable [Unicode]

/-- The blockers of an assessment, in order. -/
def readinessBlockers : List ReadinessBlocker :=
  let run := db.latestCompilation assessment
  compilationBlockers run ++ db.batchBlockers assessment ++
    correctionReadinessBlockers (db.pendingCorrections assessment) ++
    schemaReadinessBlockers assessment.assessmentType
      ((assessment.schoolGradingSchema.bind db.schema?).map (·.status)) ++
    componentReadinessBlockers ((run.bind db.cohortSummary?).map (·.componentSummary)) ++
    (if db.isStale assessment run then
      [blocking "stale_compilation" "Compilation is stale and must be reviewed." "assessment"
        (run.map (·.id))]
    else []) ++
    cctReadinessBlockers (assessment.isOperationallyBound db.curriculum)
      (cctBlockersForAssessment db assessment)

/-- `_build_assessment_readiness`, of an assessment of the tenant. -/
def assessmentReadiness : Readiness :=
  let run := db.latestCompilation assessment
  let summary := run.bind db.cohortSummary?
  let blockers := db.readinessBlockers assessment
  let hasSubmittedBatch := !(db.submittedBatches assessment).isEmpty
  let hasDraft := !(db.readinessDrafts assessment).isEmpty
  let compilationStatus := run.map (·.status)
  let status := determineReadinessStatus (compilationStatus.map CompilationStatus.value) blockers
    hasSubmittedBatch hasDraft
  { assessment := assessment.id
    cohort := assessment.cohort
    learningArea := assessment.learningArea
    curriculumVersion := assessment.curriculumVersion
    compilationRun := run.map (·.id)
    compilationStatus := compilationStatus
    readinessStatus := status
    reportReady := status == "ready_for_reports"
    expectedLearnerCount := (summary.map (·.expectedLearnerCount)).getD 0
    submittedLearnerCount := (summary.map (·.submittedLearnerCount)).getD 0
    missingLearnerCount := (summary.map (·.missingLearnerCount)).getD 0
    pendingCorrectionCount := (db.pendingCorrections assessment).length
    hasDraft := hasDraft
    hasSubmittedBatch := hasSubmittedBatch
    blockers := blockers }

end Database

/-- A ready assessment has a complete latest compilation and nothing that blocks it. -/
theorem report_ready_iff [Unicode] {db : Database} {assessment : Assessment} :
    (db.assessmentReadiness assessment).reportReady = true ↔
      db.readinessBlockers assessment = [] ∧
        ∃ run, db.latestCompilation assessment = some run ∧ run.status = .complete := by
  unfold Database.assessmentReadiness
  rw [beq_iff_eq, ready_for_reports_iff, Option.map_map, Option.map_eq_some_iff]
  simp only [Function.comp_apply, CompilationStatus.value_complete]

end Darasa.Grading
