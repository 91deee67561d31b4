import Darasa.Foundation.Ranking
import Darasa.Grading.Compilation

/-!
What one more role does to what a user may do.

Five services choose one role of the actor, the latest that is one of theirs, and ask the
policy for that role alone.  A role that is added later can so take the place of one that
grants more: `Overtakes` says when it does.
-/

namespace Darasa.Grading

open Darasa (Unicode)
open Darasa.Core (CustomUser Role RoleCode Staff TenantUserRole)
open Darasa.Core.Staff (PolicyContext)

/-! ## The five services -/

/-- `GRADING_EXECUTIVE_ROLES`. -/
def executiveRoles : List RoleCode := [.principal, .schoolAdmin, .deputyPrincipal]

namespace Database

variable (db : Database) (context : PolicyContext)

/-- `can_view_correction_audit`. -/
def canViewCorrectionAudit (correction : GradeCorrectionRequest) (assessment : Assessment) : Bool :=
  correction.tenant == context.tenant && db.staff.contextIsValid context &&
    (context.hasRole executiveRoles ||
      if context.hasRole [.hod] then db.hasAssignmentForAssessment context assessment
      else correction.requestedBy == context.actor.id)

/-- `can_compute_readiness`. -/
def canComputeReadiness (assessment : Assessment) : Bool :=
  assessment.tenant == context.tenant && db.staff.contextIsValid context &&
    (context.hasRole executiveRoles ||
      context.hasRole [.hod] && db.hasAssignmentForAssessment context assessment)

end Database

/-- A call of one of the services, by the row it is about. -/
inductive Call where
  | createCorrectionRequest (gradeRecord : ℕ)
  | applyApprovedCorrection (correction : ℕ)
  | getCorrectionAuditTrail (correction : ℕ)
  | compileAssessment (assessment : ℕ)
  | computeAssessmentReadiness (assessment : ℕ)
  deriving DecidableEq, Repr

/-- The role codes the service asks for. -/
def Call.roleCodes : Call → List RoleCode
  | createCorrectionRequest _ => teacherRoles
  | applyApprovedCorrection _ => .hod :: academicHeadRoles
  | getCorrectionAuditTrail _ => teacherRoles ++ academicHeadRoles ++ [.principal]
  | compileAssessment _ => [.principal, .schoolAdmin, .hod]
  | computeAssessmentReadiness _ => [.hod, .deputyPrincipal, .principal, .schoolAdmin]

namespace Database

variable (db : Database) (tenant : ℕ)

/-- The correction of the tenant, and the assessment of its record. -/
def correctionAndAssessment (id : ℕ) : Option (GradeCorrectionRequest × Assessment) := do
  let correction ← (db.corrections.find? (·.id == id)).filter (·.tenant == tenant)
  let record ← db.record? correction.gradeRecord
  let assessment ← db.assessment? record.assessment
  return (correction, assessment)

/-- The grade record of the tenant, and its assessment. -/
def recordAndAssessment (id : ℕ) : Option (GradeRecord × Assessment) := do
  let record ← (db.record? id).filter (·.tenant == tenant)
  let assessment ← db.assessment? record.assessment
  return (record, assessment)

/-- The service finds its row and its policy lets the actor pass. -/
def authorized (actor : CustomUser) (call : Call) : Bool :=
  let context := db.staff.policyContext actor tenant call.roleCodes
  match call with
  | .createCorrectionRequest id =>
    (db.recordAndAssessment tenant id).any fun found =>
      db.canSubmitCorrectionRequest context found.1 found.2
  | .applyApprovedCorrection id =>
    (db.correctionAndAssessment tenant id).any fun found =>
      db.canApplyCorrection context found.1 found.2
  | .getCorrectionAuditTrail id =>
    (db.correctionAndAssessment tenant id).any fun found =>
      db.canViewCorrectionAudit context found.1 found.2
  | .compileAssessment id =>
    (db.tenantAssessment tenant id).any fun assessment => db.canCompileAssessment context assessment
  | .computeAssessmentReadiness id =>
    (db.tenantAssessment tenant id).any fun assessment => db.canComputeReadiness context assessment

/-! ## What a role grants -/

/-- The actor teaches what is assessed. -/
def isAssigned (actor : CustomUser) (assessment : Assessment) : Bool :=
  assessment.tenant == tenant &&
    (db.school.assignmentFor tenant actor.id assessment.teaching).isSome

/-- What the policy of the service says of one role of an active user. -/
def grants (actor : CustomUser) (role : RoleCode) : Call → Bool
  | .createCorrectionRequest id =>
    (db.recordAndAssessment tenant id).any fun found =>
      role == .hod || db.isAssigned tenant actor found.2
  | .applyApprovedCorrection id =>
    (db.correctionAndAssessment tenant id).any fun found =>
      found.1.requestedBy != actor.id && (role != .hod || db.isAssigned tenant actor found.2)
  | .getCorrectionAuditTrail id =>
    (db.correctionAndAssessment tenant id).any fun found =>
      executiveRoles.contains role ||
        if role == .hod then db.isAssigned tenant actor found.2
        else found.1.requestedBy == actor.id
  | .compileAssessment id =>
    (db.tenantAssessment tenant id).any fun assessment =>
      assessment.isOperationallyBound db.curriculum &&
        (role != .hod || db.isAssigned tenant actor assessment)
  | .computeAssessmentReadiness id =>
    (db.tenantAssessment tenant id).any fun assessment =>
      role != .hod || db.isAssigned tenant actor assessment

end Database

/-! ## The role that is asked for -/

end Darasa.Grading

namespace Darasa.Core.Staff

variable (staff : Staff) (actor : CustomUser) (user tenant : ℕ) (roleCodes : List RoleCode)

/-- The binding counts for `_role_for`. -/
def qualifies (binding : TenantUserRole) : Bool :=
  binding.tenant == tenant && binding.user == user && binding.isActive &&
    (staff.role? binding.role).any fun role => role.isActive && roleCodes.contains role.code

/-- The actor and the school are active. -/
def present : Bool :=
  actor.isActive && staff.users.any (fun row => row.id == actor.id && row.isActive) &&
    staff.schools.any (fun row => row.id == tenant && row.isActive)

/-- One more binding, at any place among the others. -/
def withBinding (place : ℕ) (binding : TenantUserRole) : Staff :=
  { staff with
    tenantRoles := staff.tenantRoles.take place ++ binding :: staff.tenantRoles.drop place }

/-- A binding read at its place takes the place of the one chosen so far: it counts, no
earlier one that counts is as late, and no later one is later. -/
def Overtakes (place : ℕ) (binding : TenantUserRole) : Prop :=
  staff.qualifies user tenant roleCodes binding = true ∧
    (∀ other ∈ staff.tenantRoles.take place, staff.qualifies user tenant roleCodes other = true →
      other.updatedAt < binding.updatedAt) ∧
    ∀ other ∈ staff.tenantRoles.drop place, staff.qualifies user tenant roleCodes other = true →
      other.updatedAt ≤ binding.updatedAt

variable {staff actor user tenant roleCodes}

instance : Std.Total latestFirst := ⟨fun a b => Nat.le_total b.updatedAt a.updatedAt⟩

instance : IsTrans TenantUserRole latestFirst :=
  ⟨fun _ _ _ first second => Nat.le_trans second first⟩

theorem role_for_eq : staff.roleFor user tenant roleCodes =
    ((staff.tenantRoles.filter (staff.qualifies user tenant roleCodes)).insertionSort
      latestFirst).head?.bind fun binding => staff.role? binding.role := rfl

/-- What a role that was found says. -/
theorem role_for_some {role : Role} (found : staff.roleFor user tenant roleCodes = some role) :
    role.isActive = true ∧ role.code ∈ roleCodes ∧
      ∃ binding ∈ staff.tenantRoles, binding.tenant = tenant ∧ binding.user = user ∧
        binding.isActive = true ∧ staff.role? binding.role = some role := by
  rw [role_for_eq] at found
  obtain ⟨binding, first, is⟩ := Option.bind_eq_some_iff.mp found
  obtain ⟨member, counts⟩ := List.mem_filter.mp (Ranking.foremost_of_head first).1
  simp only [qualifies, is, Option.any_some, Bool.and_eq_true, beq_iff_eq,
    List.contains_iff_mem] at counts
  obtain ⟨⟨⟨ofTenant, ofUser⟩, active⟩, roleActive, code⟩ := counts
  exact ⟨roleActive, code, binding, member, ofTenant, ofUser, active, is⟩

/-- A context with a role is valid exactly when the actor and the school are active. -/
theorem valid_of_role {role : Role} (found : staff.roleFor actor.id tenant roleCodes = some role) :
    staff.contextIsValid (staff.policyContext actor tenant roleCodes) =
      staff.present actor tenant := by
  obtain ⟨roleActive, -, binding, member, ofTenant, ofUser, active, is⟩ := role_for_some found
  have bound : staff.userHasRoleInTenant actor.id tenant role.code =
      (staff.users.any (fun row => row.id == actor.id && row.isActive) &&
        staff.schools.any fun row => row.id == tenant && row.isActive) := by
    unfold userHasRoleInTenant
    rw [Bool.eq_iff_iff, Bool.and_eq_true, List.any_eq_true]
    constructor
    · rintro ⟨other, -, here⟩
      simp only [Bool.and_eq_true] at here
      exact ⟨here.1.1.2, here.1.2⟩
    · rintro ⟨userActive, schoolActive⟩
      refine ⟨binding, member, ?_⟩
      rw [userActive, schoolActive, is]
      simp [ofTenant, ofUser, active, roleActive]
  unfold contextIsValid policyContext present
  rw [found, Option.any_some, roleActive, bound, Bool.true_and, Bool.and_assoc]

/-- The role chosen after a binding is added: its own when it overtakes, and else the one
chosen before. -/
theorem role_for_added {place : ℕ} {binding : TenantUserRole}
    [Decidable (staff.Overtakes user tenant roleCodes place binding)] :
    (staff.withBinding place binding).roleFor user tenant roleCodes =
      if staff.Overtakes user tenant roleCodes place binding then staff.role? binding.role
      else staff.roleFor user tenant roleCodes := by
  have same : (staff.withBinding place binding).qualifies user tenant roleCodes =
    staff.qualifies user tenant roleCodes := rfl
  have split := List.take_append_drop place staff.tenantRoles
  rw [role_for_eq, role_for_eq, same, ← split]
  change ((((staff.tenantRoles.take place ++ binding :: staff.tenantRoles.drop place).filter
    (staff.qualifies user tenant roleCodes)).insertionSort latestFirst).head?.bind
      fun binding => staff.role? binding.role) = _
  rw [List.filter_append, List.filter_append, List.filter_cons]
  by_cases counts : staff.qualifies user tenant roleCodes binding = true
  · rw [if_pos counts, Ranking.head_of_append_cons]
    have moved : ((∀ other ∈ (staff.tenantRoles.take place).filter
            (staff.qualifies user tenant roleCodes), ¬ latestFirst other binding) ∧
        ∀ other ∈ (staff.tenantRoles.drop place).filter (staff.qualifies user tenant roleCodes),
          latestFirst binding other) ↔
        staff.Overtakes user tenant roleCodes place binding := by
      simp only [Overtakes, counts, true_and, List.mem_filter, and_imp, latestFirst, Nat.not_le]
    by_cases overtakes : staff.Overtakes user tenant roleCodes place binding
    · rw [if_pos (moved.mpr overtakes), if_pos overtakes, Option.bind_some]
    · rw [if_neg (mt moved.mp overtakes), if_neg overtakes]
  · rw [if_neg counts, if_neg fun overtakes => counts overtakes.1]

end Darasa.Core.Staff

namespace Darasa.Grading

open Darasa (Unicode)
open Darasa.Core (CustomUser Role RoleCode Staff TenantUserRole)
open Darasa.Core.Staff (PolicyContext)

namespace Database

variable {db : Database} {tenant : ℕ} {actor : CustomUser} {call : Call} {role : Role}

theorem assigned_of_role {roleCodes : List RoleCode}
    (found : db.staff.roleFor actor.id tenant roleCodes = some role) (assessment : Assessment) :
    db.hasAssignmentForAssessment (db.staff.policyContext actor tenant roleCodes) assessment =
      (db.staff.present actor tenant && teacherRoles.contains role.code &&
        db.isAssigned tenant actor assessment) := by
  unfold hasAssignmentForAssessment isAssigned
  rw [Staff.valid_of_role found, Bool.and_assoc _ (assessment.tenant == _)]
  unfold Staff.policyContext PolicyContext.hasRole
  rw [found, Option.any_some]

theorem has_role_of_role {roleCodes : List RoleCode}
    (found : db.staff.roleFor actor.id tenant roleCodes = some role) (codes : List RoleCode) :
    (db.staff.policyContext actor tenant roleCodes).hasRole codes = codes.contains role.code := by
  unfold Staff.policyContext PolicyContext.hasRole
  rw [found, Option.any_some]

theorem tenant_of_correction {id : ℕ} {found : GradeCorrectionRequest × Assessment}
    (is : db.correctionAndAssessment tenant id = some found) : found.1.tenant = tenant := by
  simp only [correctionAndAssessment, Option.bind_eq_bind, Option.bind_eq_some_iff,
    Option.filter_eq_some_iff, beq_iff_eq, Option.pure_def, Option.some.injEq] at is
  obtain ⟨correction, ⟨-, ofTenant⟩, record, -, assessment, -, rfl⟩ := is
  exact ofTenant

theorem tenant_of_record {id : ℕ} {found : GradeRecord × Assessment}
    (is : db.recordAndAssessment tenant id = some found) : found.1.tenant = tenant := by
  simp only [recordAndAssessment, Option.bind_eq_bind, Option.bind_eq_some_iff,
    Option.filter_eq_some_iff, beq_iff_eq, Option.pure_def, Option.some.injEq] at is
  obtain ⟨record, ⟨-, ofTenant⟩, assessment, -, rfl⟩ := is
  exact ofTenant

theorem tenant_of_assessment {id : ℕ} {assessment : Assessment}
    (is : db.tenantAssessment tenant id = some assessment) : assessment.tenant = tenant :=
  beq_iff_eq.mp (Option.filter_eq_some_iff.mp is).2

/-- A policy that lets the actor pass when active and granted, row by row. -/
theorem any_and {α : Type*} {row : Option α} {policy granted : α → Bool} {active : Bool}
    (same : ∀ x, row = some x → policy x = (active && granted x)) :
    row.any policy = (active && row.any granted) := by
  cases row with
  | none => rw [Option.any_none, Option.any_none, Bool.and_false]
  | some x => exact same x rfl

section Policies

attribute [local simp] Call.roleCodes teacherRoles adminRoles academicHeadRoles executiveRoles bne
  beq_eq_decide

/-- With a role that was found, a policy is what it grants that role. -/
theorem authorized_of_role
    (found : db.staff.roleFor actor.id tenant call.roleCodes = some role) :
    db.authorized tenant actor call =
      (db.staff.present actor tenant && db.grants tenant actor role.code call) := by
  have asked := (Staff.role_for_some found).2.1
  have valid := Staff.valid_of_role found
  have codes := has_role_of_role found
  have assigned := assigned_of_role found
  cases call with
  | createCorrectionRequest id =>
    refine any_and fun row is => ?_
    rw [canSubmitCorrectionRequest, isAdmin, valid, codes, assigned, tenant_of_record is]
    simp only [Staff.policyContext, beq_self_eq_true]
    generalize role.code = code at asked ⊢
    cases db.staff.present actor tenant <;> cases code <;> simp_all
  | applyApprovedCorrection id =>
    refine any_and fun row is => ?_
    rw [canApplyCorrection, valid, codes, codes, assigned, tenant_of_correction is]
    simp only [Staff.policyContext, beq_self_eq_true]
    generalize role.code = code at asked ⊢
    cases db.staff.present actor tenant <;> cases code <;> simp_all
  | getCorrectionAuditTrail id =>
    refine any_and fun row is => ?_
    rw [canViewCorrectionAudit, valid, codes, codes, assigned, tenant_of_correction is]
    simp only [Staff.policyContext, beq_self_eq_true]
    generalize role.code = code at asked ⊢
    cases db.staff.present actor tenant <;> cases code <;> simp_all
  | compileAssessment id =>
    refine any_and fun row is => ?_
    rw [canCompileAssessment, valid, codes, codes, assigned, tenant_of_assessment is]
    simp only [Staff.policyContext, beq_self_eq_true]
    generalize role.code = code at asked ⊢
    cases db.staff.present actor tenant <;> cases code <;> simp_all
  | computeAssessmentReadiness id =>
    refine any_and fun row is => ?_
    rw [canComputeReadiness, valid, codes, codes, assigned, tenant_of_assessment is]
    simp only [Staff.policyContext, beq_self_eq_true]
    generalize role.code = code at asked ⊢
    cases db.staff.present actor tenant <;> cases code <;> simp_all

end Policies

/-- What a user may do is what the one role that is chosen grants. -/
theorem authorized_iff :
    db.authorized tenant actor call = true ↔
      db.staff.present actor tenant = true ∧
        ∃ role, db.staff.roleFor actor.id tenant call.roleCodes = some role ∧
          db.grants tenant actor role.code call = true := by
  cases found : db.staff.roleFor actor.id tenant call.roleCodes with
  | none =>
    have invalid : db.staff.contextIsValid (db.staff.policyContext actor tenant call.roleCodes) =
        false := by
      unfold Staff.contextIsValid Staff.policyContext
      rw [found, Option.any_none, Bool.and_false]
    cases call <;>
      simp [authorized, canSubmitCorrectionRequest, canApplyCorrection, canViewCorrectionAudit,
        canCompileAssessment, canComputeReadiness, isAdmin, hasAssignmentForAssessment, invalid]
  | some role => rw [authorized_of_role found, Bool.and_eq_true]; simp

/-- **What one more role changes.**  Where its binding overtakes, the user may do what that
role grants, more or less than before; where it does not, exactly what the user could. -/
theorem authorized_with_role_iff (place : ℕ) (binding : TenantUserRole) :
    { db with staff := db.staff.withBinding place binding }.authorized tenant actor call = true ↔
      db.staff.Overtakes actor.id tenant call.roleCodes place binding ∧
          db.staff.present actor tenant = true ∧
          (∃ role, db.staff.role? binding.role = some role ∧
            db.grants tenant actor role.code call = true) ∨
        ¬ db.staff.Overtakes actor.id tenant call.roleCodes place binding ∧
          db.authorized tenant actor call = true := by
  classical
  have granted : { db with staff := db.staff.withBinding place binding }.grants tenant actor =
    db.grants tenant actor := rfl
  have active : (db.staff.withBinding place binding).present actor tenant =
    db.staff.present actor tenant := rfl
  rw [authorized_iff, authorized_iff, granted, active, Staff.role_for_added]
  by_cases overtakes : db.staff.Overtakes actor.id tenant call.roleCodes place binding
  · rw [if_pos overtakes]
    simp only [overtakes, true_and, not_true, false_and, or_false]
  · rw [if_neg overtakes]
    simp only [overtakes, false_and, not_false_eq_true, true_and, false_or]

end Database

end Darasa.Grading
