import Darasa.Academics.School
import Darasa.Curriculum.ChangeSets

/-!
The curriculum tables grading reads: versions, publications, adoptions,
withdrawals, rubrics and the plans made from them.

`validateCurriculumContextForGradingBinding` is the one place where grading asks
whether a curriculum context is in force; everything else trusts what was bound.
-/

namespace Darasa.Curriculum

open Darasa (Outcome Exn Json refuseIf)

/-! ## Rows -/

/-- A `CurriculumVersion` row. -/
structure CurriculumVersion where
  id : ℕ
  isActive : Bool
  deriving DecidableEq, Repr

/-- A `CurriculumLearningArea` row. -/
structure CurriculumLearningArea where
  id : ℕ
  curriculumVersion : ℕ
  learningArea : ℕ
  isActive : Bool
  deriving DecidableEq, Repr

/-- An `AssessmentRubricFoundation` row.  Its parents stand for the curriculum
learning area their strand belongs to. -/
structure AssessmentRubricFoundation where
  id : ℕ
  subStrand : Option ℕ
  learningOutcome : Option ℕ
  levelCode : String
  levelLabel : String
  isActive : Bool
  deriving DecidableEq, Repr

/-- `SchoolCurriculumAdoption.Status`. -/
inductive AdoptionStatus where
  | scheduled | active | superseded | withdrawn | rolledBack
  deriving DecidableEq, Repr

/-- A `SchoolCurriculumAdoption` row. -/
structure SchoolCurriculumAdoption where
  tenant : ℕ
  curriculumVersion : ℕ
  status : AdoptionStatus
  deriving DecidableEq, Repr

/-- `CurriculumVersionWithdrawal.Status`. -/
inductive WithdrawalStatus where
  | planned | withdrawn | cancelled
  deriving DecidableEq, Repr

/-- A `CurriculumVersionWithdrawal` row. -/
structure CurriculumVersionWithdrawal where
  curriculumVersion : ℕ
  status : WithdrawalStatus
  deriving DecidableEq, Repr

/-- A `CurriculumRollbackPlan` row. -/
structure CurriculumRollbackPlan where
  tenant : ℕ
  withdrawnVersion : ℕ
  deriving DecidableEq, Repr

/-- `CurriculumAppImpactPlan.Status`. -/
inductive ImpactStatus where
  | planned | reviewRequired | approved | paused
  deriving DecidableEq, Repr

/-- A `CurriculumAppImpactPlan` row; its scope is the fields of a JSON object. -/
structure CurriculumAppImpactPlan where
  tenant : ℕ
  appDomain : String
  affectedScope : List (String × Json)
  status : ImpactStatus
  deriving DecidableEq, Repr

/-- The curriculum tables. -/
structure CurriculumTables where
  versions : List CurriculumVersion
  learningAreas : List CurriculumLearningArea
  rubrics : List AssessmentRubricFoundation
  publications : List CurriculumPublication
  adoptions : List SchoolCurriculumAdoption
  withdrawals : List CurriculumVersionWithdrawal
  rollbackPlans : List CurriculumRollbackPlan
  impactPlans : List CurriculumAppImpactPlan

namespace CurriculumTables

variable (t : CurriculumTables)

def version? (id : ℕ) : Option CurriculumVersion := t.versions.find? (·.id == id)

def rubric? (id : ℕ) : Option AssessmentRubricFoundation := t.rubrics.find? (·.id == id)

/-- The curriculum learning area a rubric belongs to: its outcome's, if it has an
outcome, or else its sub-strand's. -/
def areaOf (rubric : AssessmentRubricFoundation) : Option CurriculumLearningArea :=
  (rubric.learningOutcome.or rubric.subStrand).bind fun id => t.learningAreas.find? (·.id == id)

/-- The version is active. -/
def versionIsActive (id : ℕ) : Bool := (t.version? id).any CurriculumVersion.isActive

/-! ## The dependency guard -/

/-- `_active_publication_for_version(..) is not None`. -/
def isPublished (version : ℕ) : Bool :=
  t.publications.any fun row => row.curriculumVersion == version && row.isActive

/-- The tenant has a scheduled or active adoption of the version. -/
def isAdopted (tenant version : ℕ) : Bool :=
  t.adoptions.any fun row =>
    row.tenant == tenant && row.curriculumVersion == version &&
      [AdoptionStatus.scheduled, .active].contains row.status

/-- `_version_is_withdrawn`. -/
def isWithdrawn (version : ℕ) : Bool :=
  t.withdrawals.any fun row => row.curriculumVersion == version && row.status == .withdrawn

/-- `_rubric_matches_curriculum_context`. -/
def rubricMatchesCurriculumContext (version : ℕ) (learningArea rubric : Option ℕ) : Bool :=
  match learningArea, rubric.bind t.rubric? with
  | some learningArea, some rubric =>
    rubric.isActive && (t.areaOf rubric).any fun area =>
      area.curriculumVersion == version && area.learningArea == learningArea && area.isActive
  | _, _ => false

end CurriculumTables

/-- `validate_grading_dependency_state`: the reason of a refusal. -/
def validateGradingDependencyState (isPublished isSchoolAdopted isWithdrawn
    hasLearningAreaContext hasRubricContext : Bool) : Option String :=
  if isWithdrawn then some "curriculum_version_withdrawn"
  else if !isPublished then some "curriculum_version_unpublished"
  else if !isSchoolAdopted then some "curriculum_version_not_adopted"
  else if !hasLearningAreaContext then some "learning_area_context_required"
  else if !hasRubricContext then some "rubric_context_required"
  else none

/-- `validate_curriculum_context_for_grading_binding`. -/
def validateCurriculumContextForGradingBinding (school : Academics.SchoolTables)
    (t : CurriculumTables) (tenant : ℕ) (curriculumVersion learningArea rubric : Option ℕ) :
    Outcome Unit :=
  match curriculumVersion with
  | none => .error (.validationError "curriculum_version" "Curriculum version required.")
  | some version =>
    match validateGradingDependencyState (t.isPublished version) (t.isAdopted tenant version)
      (t.isWithdrawn version)
      ((learningArea.bind school.learningArea?).any fun area => area.tenant == tenant)
      (t.rubricMatchesCurriculumContext version learningArea rubric) with
    | some reason => .error (.validationError "curriculum_version" reason)
    | none => .ok ()

end Darasa.Curriculum
