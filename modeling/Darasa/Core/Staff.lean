import Darasa.Runtime.Errors
import Mathlib.Data.List.Sort

/-!
Users, roles and the bindings that give a user a role inside a school.

A `CustomUser` may be the instance a caller holds; whether the user is still active in
the database is asked separately, by the joins of `core.selectors`.
-/

namespace Darasa.Core

open Darasa (Outcome refuseIf)

/-- `Role.RoleCode`. -/
inductive RoleCode where
  | principal | deputyPrincipal | hod | classTeacher | subjectTeacher | schoolAdmin | guardian
  | auditor
  deriving DecidableEq, Repr

/-- A `School` row. -/
structure School where
  id : ℕ
  isActive : Bool
  deriving DecidableEq, Repr

/-- A `CustomUser`: a row, or the instance a caller holds. -/
structure CustomUser where
  id : ℕ
  isActive : Bool
  deriving DecidableEq, Repr

/-- A `Role` row. -/
structure Role where
  id : ℕ
  code : RoleCode
  isActive : Bool
  deriving DecidableEq, Repr

/-- A `TenantUserRole` row. -/
structure TenantUserRole where
  tenant : ℕ
  user : ℕ
  role : ℕ
  isActive : Bool
  updatedAt : ℕ
  deriving DecidableEq, Repr

/-- The tables of `core` and `tenant` that authorisation reads. -/
structure Staff where
  schools : List School
  users : List CustomUser
  roles : List Role
  tenantRoles : List TenantUserRole

namespace Staff

/-- The role row a binding points to. -/
def role? (staff : Staff) (id : ℕ) : Option Role := staff.roles.find? (·.id == id)

/-- `Meta.ordering`: latest update first. -/
def latestFirst (a b : TenantUserRole) : Prop := b.updatedAt ≤ a.updatedAt

instance : DecidableRel latestFirst := fun _ _ => inferInstanceAs (Decidable (_ ≤ _))

/-- `_role_for`: the role of the first active binding with one of the codes. -/
def roleFor (staff : Staff) (user tenant : ℕ) (roleCodes : List RoleCode) : Option Role :=
  let bindings := staff.tenantRoles.filter fun binding =>
    binding.tenant == tenant && binding.user == user && binding.isActive &&
      (staff.role? binding.role).any fun role => role.isActive && roleCodes.contains role.code
  (bindings.insertionSort latestFirst).head?.bind fun binding => staff.role? binding.role

/-- `user_has_role_in_tenant`. -/
def userHasRoleInTenant (staff : Staff) (user tenant : ℕ) (roleCode : RoleCode) : Bool :=
  staff.tenantRoles.any fun binding =>
    binding.tenant == tenant && binding.user == user && binding.isActive &&
      staff.users.any (fun row => row.id == user && row.isActive) &&
      staff.schools.any (fun row => row.id == tenant && row.isActive) &&
      (staff.role? binding.role).any fun role => role.isActive && role.code == roleCode

/-- `PolicyContext`, as `_policy_context` builds it. -/
structure PolicyContext where
  tenant : ℕ
  actor : CustomUser
  role : Option Role
  deriving DecidableEq

/-- `_policy_context`.  Its action is the one the policy asks for, at every call. -/
def policyContext (staff : Staff) (actor : CustomUser) (tenant : ℕ)
    (roleCodes : List RoleCode) : PolicyContext :=
  ⟨tenant, actor, staff.roleFor actor.id tenant roleCodes⟩

/-- `_context_is_valid`. -/
def contextIsValid (staff : Staff) (context : PolicyContext) : Bool :=
  context.actor.isActive && context.role.any fun role =>
    role.isActive && staff.userHasRoleInTenant context.actor.id context.tenant role.code

/-- `context.role.code in codes`. -/
def PolicyContext.hasRole (context : PolicyContext) (codes : List RoleCode) : Bool :=
  context.role.any fun role => codes.contains role.code

/-- `_require_curriculum_truth_manager`: the reviewer, when active and a school
admin anywhere. -/
def requireCurriculumTruthManager (staff : Staff) (field : String) (user : Option CustomUser) :
    Outcome CustomUser :=
  match user with
  | none => .error (.validationError "reviewed_by" "An active reviewer is required.")
  | some user => do
    refuseIf (!user.isActive) "reviewed_by" "An active reviewer is required."
    let allowed := staff.tenantRoles.any fun binding =>
      binding.user == user.id && binding.isActive &&
        (staff.role? binding.role).any fun role => role.isActive && role.code == .schoolAdmin
    refuseIf (!allowed) field "Curriculum authority role is required."
    return user

end Staff

end Darasa.Core
