import Darasa.Grading.Records

/-!
The grading policies.

A role proves broad capability; an active assignment proves authority over a class and
learning area.  Every policy is asked with the action it checks for.
-/

namespace Darasa.Grading

open Darasa.Core (RoleCode)
open Darasa.Core.Staff (PolicyContext)

/-- `GRADING_ADMIN_ROLES`. -/
def adminRoles : List RoleCode := [.principal, .schoolAdmin, .hod]

/-- `GRADING_ACADEMIC_HEAD_ROLES`, and `GRADING_ACADEMIC_HEAD_ROLE_CODES`. -/
def academicHeadRoles : List RoleCode := [.deputyPrincipal, .schoolAdmin]

/-- `GRADING_TEACHER_ROLES`, and `GRADING_TEACHER_ROLE_CODES`. -/
def teacherRoles : List RoleCode := [.subjectTeacher, .classTeacher, .hod]

/-- `GRADING_SCHEMA_ADMIN_ROLE_CODES`. -/
def schemaAdminRoles : List RoleCode := [.principal, .deputyPrincipal, .schoolAdmin]

namespace Database

variable (db : Database) (context : PolicyContext)

/-- `_correction_context`. -/
def correctionContext (actor : Core.CustomUser) (tenant : ℕ) (roleCodes : List RoleCode) :
    PolicyContext :=
  db.staff.policyContext actor tenant roleCodes

/-- `_is_admin`. -/
def isAdmin : Bool := db.staff.contextIsValid context && context.hasRole adminRoles

/-- `_has_assignment_for_assessment`. -/
def hasAssignmentForAssessment (assessment : Assessment) : Bool :=
  db.staff.contextIsValid context && context.hasRole teacherRoles &&
    assessment.tenant == context.tenant &&
    (db.school.assignmentFor context.tenant context.actor.id assessment.teaching).isSome

/-- `can_submit_correction_request`, through `can_view_grade_records`. -/
def canSubmitCorrectionRequest (record : GradeRecord) (assessment : Assessment) : Bool :=
  record.tenant == context.tenant &&
    (db.isAdmin context || db.hasAssignmentForAssessment context assessment)

/-- `can_review_hod_correction`. -/
def canReviewHodCorrection (correction : GradeCorrectionRequest) (assessment : Assessment) :
    Bool :=
  db.staff.contextIsValid context && context.hasRole [.hod] &&
    correction.tenant == context.tenant && correction.requestedBy != context.actor.id &&
    db.hasAssignmentForAssessment context assessment

/-- `can_escalate_correction`. -/
def canEscalateCorrection (correction : GradeCorrectionRequest) : Bool :=
  db.staff.contextIsValid context && correction.tenant == context.tenant &&
    context.hasRole academicHeadRoles

/-- `can_review_academic_head_correction`. -/
def canReviewAcademicHeadCorrection (correction : GradeCorrectionRequest) : Bool :=
  db.staff.contextIsValid context && correction.tenant == context.tenant &&
    correction.requestedBy != context.actor.id && context.hasRole academicHeadRoles

/-- `can_apply_correction`. -/
def canApplyCorrection (correction : GradeCorrectionRequest) (assessment : Assessment) : Bool :=
  db.staff.contextIsValid context && correction.tenant == context.tenant &&
    correction.requestedBy != context.actor.id &&
    if context.hasRole [.hod] then db.hasAssignmentForAssessment context assessment
    else context.hasRole academicHeadRoles

/-- `can_manage_school_grading_schema`, of a schema and an assessment of the tenants
given. -/
def canManageSchoolGradingSchema (tenants : List ℕ) : Bool :=
  db.staff.contextIsValid context && context.hasRole schemaAdminRoles &&
    tenants.all (· == context.tenant)

end Database

end Darasa.Grading
