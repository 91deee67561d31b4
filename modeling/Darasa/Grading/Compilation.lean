import Darasa.Grading.Corrections
import Darasa.Grading.Submissions

/-!
Compilation of an assessment: the findings on its submitted records, the facts compiled
from them, and the service that stores both.
-/

namespace Darasa.Grading

open Darasa (Decimal Exn Json Outcome Unicode cleanForeignKey fullClean refuseIf requireSome)
open Darasa.Core (CustomUser RoleCode)
open Darasa.Core.Staff (PolicyContext)

/-! ## What is compiled -/

namespace Database

variable (db : Database)

/-- `can_compile_assessment`. -/
def canCompileAssessment (context : PolicyContext) (assessment : Assessment) : Bool :=
  assessment.tenant == context.tenant && assessment.isOperationallyBound db.curriculum &&
    db.staff.contextIsValid context &&
    (context.hasRole [.principal, .schoolAdmin] ||
      context.hasRole [.hod] && db.hasAssignmentForAssessment context assessment)

/-- The batch of a record is in status submitted. -/
def isSubmitted (record : GradeRecord) : Bool :=
  (db.batch? record.submissionBatch).any (·.status == .submitted)

/-- `get_submitted_records_for_assessment`.  Nothing here depends on their order, which
is that of the admission numbers. -/
def submittedRecords (assessment : Assessment) : List GradeRecord :=
  db.records.filter fun record =>
    record.tenant == assessment.tenant && record.assessment == assessment.id &&
      db.isSubmitted record

/-- `get_assessment_components_for_compilation`. -/
def componentsForCompilation (assessment : Assessment) : List AssessmentComponent :=
  (db.assessmentComponents assessment).filter (·.tenant == assessment.tenant)

end Database

/-- `CompilationInput`. -/
structure CompilationInput where
  roster : List ℕ
  records : List GradeRecord
  components : List AssessmentComponent
  sourceBatchIds : List ℕ

/-- `build_compilation_input`, with the selectors that feed it.  What it asks of records
and components is what their selectors filter by. -/
def buildCompilationInput (db : Database) (assessment : Assessment) : Outcome CompilationInput := do
  refuseIf (assessment.status != .open) "assessment" "Assessment is not compilable."
  refuseIf (!assessment.isOperationallyBound db.curriculum) "assessment"
    "Assessment is not CBE/CCT-bound."
  let records := db.submittedRecords assessment
  return {
    roster := db.rosterForAssessment assessment.tenant assessment
    records := records
    components := db.componentsForCompilation assessment
    sourceBatchIds := ((records.map (·.submissionBatch)).dedup).insertionSort (· ≤ ·) }

/-! ## Findings -/

/-- `component_scores or {}`, before a dict's method is called on it. -/
def scoreFields (method : String) (scores : Json) : Outcome (List (String × Json)) :=
  if scores.truthy then
    match scores with
    | .obj fields => .ok fields
    | other => .error (.attributeError s!"'{other.typeName}' object has no attribute '{method}'")
  else .ok []

/-- The score a dict has for a component, when it is not blank. -/
def componentScore (fields : List (String × Json)) (component : AssessmentComponent) :
    Option Json :=
  (Json.lookup (uuidText component.id) fields).filter (!·.isBlank)

/-- The required components a record has no score for. -/
def missingComponents (components : List AssessmentComponent) (record : GradeRecord) :
    Outcome (List AssessmentComponent) :=
  let required := components.filter (·.isRequired)
  if required.isEmpty then .ok []
  else do
    let fields ← scoreFields "get" record.componentScores
    return required.filter fun component => (componentScore fields component).isNone

/-- What the loop of `detect_missing_marks` finds in a record. -/
def recordFindings (roster : List ℕ) (components : List AssessmentComponent)
    (record : GradeRecord) : Outcome (List MissingMark) :=
  if !roster.contains record.student then
    .ok [⟨record.student, [], "failed", "student_outside_roster"⟩]
  else do
    let missing ← missingComponents components record
    return if missing.isEmpty then []
      else [⟨record.student, missing.map (uuidText ·.id), "blocked", "missing_required_component"⟩]

/-- The order findings are returned in. -/
def MissingMark.before (a b : MissingMark) : Prop :=
  a.learner < b.learner ∨ a.learner = b.learner ∧ a.code ≤ b.code

instance : DecidableRel MissingMark.before := fun _ _ => inferInstanceAs (Decidable (_ ∨ _))

/-- `detect_missing_marks`. -/
def detectMissingMarks (roster : List ℕ) (records : List GradeRecord)
    (components : List AssessmentComponent) : Outcome (List MissingMark) := do
  let findings ← records.mapM (recordFindings roster components)
  let seen := records.map (·.student)
  let absent := (roster.filter (!seen.contains ·)).map fun student =>
    (⟨student, ["raw_score"], "partial", "missing_learner_mark"⟩ : MissingMark)
  let duplicates := (seen.dedup.filter fun student => 1 < seen.count student).map fun student =>
    (⟨student, [], "failed", "duplicate_grade_record"⟩ : MissingMark)
  return (findings.flatten ++ absent ++ duplicates).insertionSort MissingMark.before

section

variable [Unicode]

/-- The score of a component, checked. -/
def componentEntry (fields : List (String × Json)) (component : AssessmentComponent) :
    Outcome (Option Decimal) :=
  match componentScore fields component with
  | none => .ok none
  | some value => do
    let score ← scoreOf "raw_score" value
    let score ← validateScoreBounds score (.ofHundredths component.maxScore)
    return some score

/-- An item of `components` in a component summary. -/
def componentJson (component : AssessmentComponent) (score : Option Decimal) : Json :=
  .obj [("component_id", .str (uuidText component.id)),
    ("score", (score.map fun score => Json.str score.text).getD .null),
    ("max_score", .str (Decimal.ofHundredths component.maxScore).text),
    ("is_required", .bool component.isRequired),
    ("rubric_foundation_id",
      (component.rubricFoundation.map fun id => Json.str (uuidText id)).getD .null)]

/-- The scores a dict has for the components, without blanks. -/
def knownScores (components : List AssessmentComponent) (fields : List (String × Json)) :
    List (String × Json) :=
  fields.filter fun field =>
    (components.map (uuidText ·.id)).contains field.1 && !field.2.isBlank

/-- `build_component_summary`. -/
def buildComponentSummary (scores : Json) (components : List AssessmentComponent)
    (maximum : ℕ) : Outcome Json := do
  let fields ← scoreFields (if components.isEmpty then "items" else "get") scores
  let byId := componentById components
  let entries ← byId.mapM (componentEntry fields)
  let total ← componentTotal (knownScores components fields)
  let _ ← validateScoreBounds total (.ofHundredths maximum)
  let missing := (byId.filter fun component =>
    component.isRequired && (componentScore fields component).isNone).map (uuidText ·.id)
  return .obj [("mode", .str (if components.isEmpty then "simple" else "component")),
    ("components", .arr (List.zipWith componentJson byId entries)),
    ("component_total", if components.isEmpty then .null else .str total.text),
    ("missing_required_component_ids", .arr (missing.map .str))]

/-- A validation error is caught, and anything else is not. -/
def catchValidationError {α : Type} (x : Outcome α) : Outcome Bool :=
  match x with
  | .ok _ => .ok false
  | .error e => if e.isValidationError then .ok true else .error e

/-- `detect_invalid_component_scores`: the learners of the records it finds. -/
def detectInvalidComponentScores (records : List GradeRecord)
    (components : List AssessmentComponent) (maximum : ℕ) : Outcome (List ℕ) := do
  let invalid ← records.mapM fun record =>
    catchValidationError (buildComponentSummary record.componentScores components maximum)
  return ((records.zip invalid).filter (·.2)).map (·.1.student)

end

/-- `determine_compilation_status`. -/
def determineCompilationStatus (missingMarks : List MissingMark) (invalidRecords : List ℕ)
    (hasSubmittedRecords : Bool) : CompilationStatus :=
  if !invalidRecords.isEmpty then .failed
  else if !hasSubmittedRecords then .blocked
  else if !missingMarks.isEmpty then .partialMarks
  else .complete

/-! ## Summaries -/

/-- `_component_completion_summary`. -/
def componentCompletionSummary (components : List AssessmentComponent)
    (missingMarks : List MissingMark) : ComponentCompletion where
  componentCount := components.length
  requiredComponentCount := components.countP (·.isRequired)
  missingRequiredComponentCount := missingMarks.countP (·.code == "missing_required_component")

/-- `completion_percentage`, in hundredths. -/
def completionPercentage (submitted expected : ℕ) : Outcome ℕ :=
  if expected = 0 then .ok 0
  else do
    let ratio ← (Decimal.finite false submitted 0).div (.finite false expected 0)
    let percent ← ratio.mul (.finite false 100 0)
    return percent.hundredths

/-- `build_cohort_summary`. -/
def buildCohortSummary (run : ℕ) (input : CompilationInput) (missingMarks : List MissingMark) :
    Outcome CompiledCohortSummary := do
  let expected := input.roster.length
  let submitted :=
    ((input.records.map (·.student)).dedup.filter (input.roster.contains ·)).length
  let percentage ← completionPercentage submitted expected
  return {
    compilationRun := run
    expectedLearnerCount := expected
    submittedLearnerCount := submitted
    missingLearnerCount := missingMarks.countP (·.code == "missing_learner_mark")
    completionPercentage := percentage
    componentSummary := componentCompletionSummary input.components missingMarks }

/-- `build_score_summary`. -/
def buildScoreSummary (record : GradeRecord) (assessment : Assessment) : Outcome ScoreSummary := do
  let percentage ← percentage record.rawScore assessment.maxScore
  return ⟨record.rawScore, record.normalizedScore, assessment.maxScore, percentage⟩

/-- The status of `map_cbe_band`. -/
def mapCbeBand (rubricFoundation : Option ℕ) : String :=
  if rubricFoundation.isSome then "unresolved_due_to_missing_rubric_mapping"
  else "not_applicable"

section

variable [Unicode]

/-- The snapshot of a record, in `build_learner_snapshots` and the row made of it. -/
def learnerSnapshot (assessment : Assessment) (curriculumVersion : ℕ) (input : CompilationInput)
    (missingMarks : List MissingMark) (run : CompilationRun) (id : ℕ) (record : GradeRecord) :
    Outcome CompiledLearnerSnapshot := do
  let componentSummary ← buildComponentSummary record.componentScores input.components
    assessment.maxScore
  let scoreSummary ← buildScoreSummary record assessment
  return {
    id := id
    tenant := assessment.tenant
    compilationRun := run.id
    assessment := assessment.id
    student := record.student
    cohort := assessment.cohort
    learningArea := assessment.learningArea
    curriculumVersion := curriculumVersion
    rubricFoundation := assessment.rubricFoundation
    status := run.status
    scoreSummary := scoreSummary
    componentSummary := componentSummary
    missingMarks := missingMarks.filter (·.learner == record.student)
    cbeBandStatus := mapCbeBand assessment.rubricFoundation
    sourceBatchIds := input.sourceBatchIds }

/-- `build_learner_snapshots`, under the keys from `id` on. -/
def buildLearnerSnapshots (assessment : Assessment) (curriculumVersion : ℕ)
    (input : CompilationInput) (missingMarks : List MissingMark) (run : CompilationRun) :
    ℕ → List GradeRecord → Outcome (List CompiledLearnerSnapshot)
  | _, [] => .ok []
  | id, record :: records => do
    let first ← learnerSnapshot assessment curriculumVersion input missingMarks run id record
    let rest ← buildLearnerSnapshots assessment curriculumVersion input missingMarks run (id + 1)
      records
    return first :: rest

end

/-! ## The service -/

/-- A `PositiveIntegerField`. -/
def cleanCount (field : String) (count : ℕ) : Outcome Unit :=
  refuseIf (decide (2147483647 < count)) field
    "Ensure this value is less than or equal to 2147483647."

/-- `full_clean` of a new `CompilationRun`. -/
def CompilationRun.validate (self : CompilationRun) (db : Database) : Outcome Unit := do
  cleanForeignKey "tenant" "school" (db.staff.schools.any (·.id == self.tenant))
  cleanForeignKey "assessment" "assessment" (db.assessment? self.assessment).isSome
  db.cleanUser "requested_by" self.requestedBy
  cleanCount "expected_learner_count" self.expectedLearnerCount
  cleanCount "submitted_learner_count" self.submittedLearnerCount
  cleanCount "missing_learner_count" self.missingLearnerCount

/-- `full_clean` of the assessment snapshot and the cohort summary: the rows they repeat
from the assessment are there. -/
def Assessment.validateCompiled (self : Assessment) (db : Database) : Outcome ℕ := do
  cleanForeignKey "cohort" "cohort" (db.school.cohort? self.cohort).isSome
  cleanForeignKey "learning_area" "learning area" (db.school.learningArea? self.learningArea).isSome
  let version ← requireSome self.curriculumVersion "curriculum_version"
    "This field cannot be null."
  cleanForeignKey "curriculum_version" "Curriculum version" (db.curriculum.version? version).isSome
  cleanForeignKey "rubric_foundation" "Assessment rubric foundation"
    (self.rubricFoundation.all fun id => (db.curriculum.rubric? id).isSome)
  return version

/-- The runs of an assessment marked stale, and no other. -/
def Database.staleRuns (db : Database) (tenant assessment : ℕ) : List CompilationRun :=
  db.runs.map fun run =>
    if run.tenant = tenant ∧ run.assessment = assessment then { run with status := .stale }
    else run

section

variable [Unicode]

/-- `compile_assessment`, of an assessment that may be compiled. -/
def Database.compile (db : Database) (assessment : Assessment) (requestedBy : CustomUser) :
    Outcome (CompilationRun × Database) := do
  let input ← buildCompilationInput db assessment
  let missing ← detectMissingMarks input.roster input.records input.components
  let invalid ← detectInvalidComponentScores input.records input.components assessment.maxScore
  let status := determineCompilationStatus missing invalid (!input.records.isEmpty)
  let summary ← buildCohortSummary db.nextId input missing
  let run : CompilationRun :=
    { id := db.nextId
      tenant := assessment.tenant
      assessment := assessment.id
      requestedBy := some requestedBy.id
      status := status
      expectedLearnerCount := summary.expectedLearnerCount
      submittedLearnerCount := summary.submittedLearnerCount
      missingLearnerCount := summary.missingLearnerCount
      sourceBatchIds := input.sourceBatchIds
      errorSummary := if invalid.isEmpty then "" else "invalid_component_score"
      compiledAt := some db.clock
      createdAt := db.clock + 1 }
  run.validate db
  let version ← assessment.validateCompiled db
  let snapshots ← buildLearnerSnapshots assessment version input missing run (db.nextId + 1)
    (input.records.insertionSort fun a b => a.student ≤ b.student)
  if (snapshots.map (·.student)).Nodup then
    return (run,
      { db with
        runs := db.staleRuns assessment.tenant assessment.id ++ [run]
        cohortSummaries := db.cohortSummaries ++ [summary]
        learnerSnapshots := db.learnerSnapshots ++ snapshots
        clock := db.clock + 2
        nextId := db.nextId + 1 + snapshots.length })
  else .error (.integrityError "grading_compiled_learner_unique")

/-- `compile_assessment`. -/
def compileAssessment (db : Database) (tenant assessmentId : ℕ)
    (requestedBy : Option CustomUser) : Outcome (CompilationRun × Database) := do
  let assessment ← requireSome (db.tenantAssessment tenant assessmentId) "assessment"
    "Assessment is not available."
  let requestedBy ← requireSome requestedBy "requested_by" "Compilation actor is required."
  let context := db.staff.policyContext requestedBy tenant adminRoles
  refuseIf (!db.canCompileAssessment context assessment) "assessment"
    "Compilation is not authorized."
  db.compile assessment requestedBy

end

end Darasa.Grading
