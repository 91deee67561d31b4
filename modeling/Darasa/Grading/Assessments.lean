import Darasa.Grading.Records
import Darasa.Runtime.Validation

/-!
`Assessment.save` and the curriculum binding it checks.

A save is handed an instance, which need not be the stored row with a few fields
changed: it may be as old as its caller likes.  `validate` is `full_clean`, whose
only change to the instance is the stripped title; `store` is what follows it.
-/

namespace Darasa.Grading

open Darasa (Outcome Exn Unicode refuseIf)
open Darasa.Core (Staff)
open Darasa.Curriculum (CurriculumTables validateCurriculumContextForGradingBinding)

/-! ## Binding rules -/

/-- `assessment_status_requires_binding`. -/
def assessmentStatusRequiresBinding (status : AssessmentStatus) : Bool := status != .draft

/-- `validate_curriculum_binding`: the reason of a refusal. -/
def validateCurriculumBinding (status : AssessmentStatus) (context : CurriculumContext)
    (curriculumVersionIsActive hasActivePublication rubricMatchesContext
      requireLockedBinding bindingLocked : Bool) : Option String :=
  if !assessmentStatusRequiresBinding status then none
  else if context.curriculumVersion.isNone then some "curriculum_version_required"
  else if context.rubricFoundation.isNone then some "rubric_foundation_required"
  else if !curriculumVersionIsActive then some "curriculum_version_inactive"
  else if !hasActivePublication then some "curriculum_version_unpublished"
  else if !rubricMatchesContext then some "rubric_context_mismatch"
  else if requireLockedBinding && !bindingLocked then some "curriculum_binding_unlocked"
  else none

/-- `changed_curriculum_context_fields`. -/
def changedCurriculumContextFields (old new : CurriculumContext) : List String :=
  (if old.curriculumVersion != new.curriculumVersion then ["curriculum_version"] else []) ++
  (if old.learningArea != new.learningArea then ["learning_area"] else []) ++
  (if old.rubricFoundation != new.rubricFoundation then ["rubric_foundation"] else [])

/-- `curriculum_context_mutation_allowed`. -/
def curriculumContextMutationAllowed (changedFields : List String)
    (hasSubmittedBatches hasGradeRecords : Bool) : Bool :=
  changedFields.isEmpty || !(hasSubmittedBatches || hasGradeRecords)

theorem changed_fields_empty {old new : CurriculumContext} :
    (changedCurriculumContextFields old new).isEmpty = true ↔ new = old := by
  obtain ⟨version, area, rubric⟩ := old
  obtain ⟨version', area', rubric'⟩ := new
  simp only [changedCurriculumContextFields, List.isEmpty_iff, List.append_eq_nil_iff,
    ite_eq_right_iff, List.cons_ne_nil, imp_false, bne_iff_ne, ne_eq, not_not,
    CurriculumContext.mk.injEq]
  constructor
  · rintro ⟨⟨rfl, rfl⟩, rfl⟩
    exact ⟨rfl, rfl, rfl⟩
  · rintro ⟨rfl, rfl, rfl⟩
    exact ⟨⟨rfl, rfl⟩, rfl⟩

namespace Assessment

/-! ## What an assessment asks of the tables -/

/-- `_rubric_matches_assessment_context`. -/
def rubricMatchesAssessmentContext (self : Assessment) (t : CurriculumTables) : Bool :=
  match self.rubricFoundation.bind t.rubric?, self.curriculumVersion with
  | some rubric, some version =>
    rubric.isActive && (t.areaOf rubric).any fun area =>
      area.curriculumVersion == version && area.learningArea == self.learningArea
  | _, _ => false

/-- `is_operationally_bound`. -/
def isOperationallyBound (self : Assessment) (t : CurriculumTables) : Bool :=
  assessmentStatusRequiresBinding self.status &&
    (validateCurriculumBinding self.status self.context true true
      (self.rubricMatchesAssessmentContext t) true self.curriculumBindingLockedAt.isSome).isNone

/-- `_has_active_curriculum_publication`. -/
def hasActiveCurriculumPublication (self : Assessment) (db : Database) : Bool :=
  self.curriculumVersion.isSome &&
    (validateCurriculumContextForGradingBinding db.school db.curriculum self.tenant
      self.curriculumVersion (some self.learningArea) self.rubricFoundation).isOk

/-- `_curriculum_context_changed_fields`. -/
def curriculumContextChangedFields (self : Assessment) (db : Database) : List String :=
  match db.assessment? self.id with
  | none => []
  | some original => changedCurriculumContextFields original.context self.context

/-- `preserved_historical_context`. -/
def preservesHistoricalContext (self : Assessment) (db : Database) : Bool :=
  self.curriculumBindingLockedAt.isSome && (self.curriculumContextChangedFields db).isEmpty

/-- `_validate_curriculum_binding_for_status`. -/
def validateCurriculumBindingForStatus (self : Assessment) (db : Database) : Outcome Unit :=
  refuseIf
    (validateCurriculumBinding self.status self.context
      (self.curriculumVersion.any db.curriculum.versionIsActive)
      (self.preservesHistoricalContext db || self.hasActiveCurriculumPublication db)
      (self.rubricMatchesAssessmentContext db.curriculum) false false).isSome
    "curriculum_version" "Assessment curriculum binding is invalid."

/-- A batch of the assessment that is no draft. -/
def hasSubmittedBatches (id : ℕ) (db : Database) : Bool :=
  db.batches.any fun batch => batch.assessment == id && batch.status != .draft

def hasGradeRecords (id : ℕ) (db : Database) : Bool :=
  db.records.any fun record => record.assessment == id

/-- `_validate_curriculum_context_immutability`. -/
def validateCurriculumContextImmutability (self : Assessment) (db : Database) : Outcome Unit :=
  refuseIf
    (!curriculumContextMutationAllowed (self.curriculumContextChangedFields db)
      (hasSubmittedBatches self.id db) (hasGradeRecords self.id db))
    "curriculum_version"
    "Assessment curriculum context cannot be changed after grading begins."

/-! ## Validation -/

/-- The fields of an `Assessment`. -/
def cleanFields (self : Assessment) (db : Database) : Outcome Unit := do
  cleanForeignKey "tenant" "school" (db.staff.schools.any (·.id == self.tenant))
  cleanForeignKey "academic_year" "academic year" (db.school.academicYear? self.academicYear).isSome
  cleanForeignKey "term" "term" (db.school.term? self.term).isSome
  cleanForeignKey "grade_level" "grade level"
    (self.gradeLevel.all fun id => (db.school.gradeLevel? id).isSome)
  cleanForeignKey "cohort" "cohort" (db.school.cohort? self.cohort).isSome
  cleanForeignKey "learning_area" "learning area" (db.school.learningArea? self.learningArea).isSome
  cleanForeignKey "curriculum_version" "Curriculum version"
    (self.curriculumVersion.all fun id => (db.curriculum.version? id).isSome)
  cleanForeignKey "rubric_foundation" "Assessment rubric foundation"
    (self.rubricFoundation.all fun id => (db.curriculum.rubric? id).isSome)
  cleanText "title" 150 self.title
  cleanDigits "max_score" 7 self.maxScore
  cleanDigits "weight" 5 self.weight
  cleanForeignKey "school_grading_schema" "school grading schema"
    (self.schoolGradingSchema.all fun id => (db.schema? id).isSome)
  cleanLength "school_grading_schema_version" 48 self.schoolGradingSchemaVersion

/-- The checks `clean` makes of a bound school grading schema. -/
def cleanSchema (self : Assessment) (schema : SchoolGradingSchema) : Outcome Unit := do
  refuseIf (schema.tenant != self.tenant) "school_grading_schema"
    "Grading schema tenant is invalid."
  refuseIf (schema.assessmentType != self.assessmentType) "school_grading_schema"
    "Grading schema type is invalid."
  refuseIf (!([SchemaStatus.active, .locked].contains schema.status)) "school_grading_schema"
    "Grading schema is not active."
  refuseIf (self.assessmentType == .cbeRubricAssessment) "school_grading_schema"
    "School grading schema cannot override CBE rubric context."

/-- The schema an assessment is bound to passes its checks. -/
def cleanBoundSchema (self : Assessment) (db : Database) : Outcome Unit :=
  match self.schoolGradingSchema.bind db.schema? with
  | some schema => self.cleanSchema schema
  | none => .ok ()

/-- `Assessment.clean`. -/
def clean (self : Assessment) (db : Database) : Outcome Unit := do
  refuseIf (self.maxScore == 0) "max_score" "Maximum score must be positive."
  let relatedTenants :=
    [(db.school.academicYear? self.academicYear).map (·.tenant),
      (db.school.term? self.term).map (·.tenant),
      (db.school.cohort? self.cohort).map (·.tenant),
      (db.school.learningArea? self.learningArea).map (·.tenant)]
  refuseIf (relatedTenants.any (· != some self.tenant)) "tenant" "Assessment tenant is invalid."
  refuseIf (self.gradeLevel.any fun level =>
    (db.school.cohort? self.cohort).map (·.gradeLevel) != some level) "grade_level"
    "Assessment grade is invalid."
  refuseIf (self.opensAt.any fun opens => self.closesAt.any fun closes => closes ≤ opens)
    "closes_at" "Close time must follow open time."
  self.cleanBoundSchema db
  self.validateCurriculumBindingForStatus db
  self.validateCurriculumContextImmutability db

/-- The CHECK constraint that `clean` leaves to the database. -/
def validateConstraints (self : Assessment) : Outcome Unit :=
  refuseIf (decide (10000 < self.weight)) "__all__"
    "Constraint “grading_assessment_weight_bounded” is violated."

/-- `full_clean`. -/
def validate (self : Assessment) (db : Database) : Outcome Unit := do
  fullClean (self.cleanFields db) (self.clean db)
  self.validateConstraints

variable [Unicode]

/-- The row a save of the instance leaves. -/
def stored (self : Assessment) (clock : ℕ) : Assessment :=
  let locks := assessmentStatusRequiresBinding self.status && self.curriculumBindingLockedAt.isNone
  { self with
    title := Text.strip self.title
    curriculumBindingLockedAt := if locks then some clock else self.curriculumBindingLockedAt
    updatedAt := if locks then clock + 1 else clock }

end Assessment

/-- The row written, over the one with its key if there is one. -/
def Database.putAssessment (db : Database) (row : Assessment) : Database :=
  { db with
    assessments :=
      if db.assessments.any (·.id == row.id) then
        db.assessments.map fun old => if old.id = row.id then row else old
      else db.assessments ++ [row] }

section

variable [Unicode]

/-- What `Model.save` does to a validated instance. -/
def Database.store (db : Database) (self : Assessment) : Database :=
  let row := self.stored db.clock
  { db.putAssessment row with clock := row.updatedAt + 1 }

/-- `Assessment.save`. -/
def Assessment.save (self : Assessment) (db : Database) : Outcome Database := do
  self.validate db
  return db.store self

end

/-! ## What a save leaves -/

theorem assessment_of_put {db : Database} {row : Assessment} {id : ℕ} :
    (db.putAssessment row).assessment? id =
      if id = row.id then some row else db.assessment? id := by
  unfold Database.putAssessment Database.assessment?
  by_cases known : db.assessments.any (·.id == row.id) = true
  · have keeps : (fun a : Assessment => a.id == id) ∘
        (fun old : Assessment => if old.id = row.id then row else old) = fun a => a.id == id := by
      funext old
      simp only [Function.comp_apply]
      split
      next same => rw [same]
      next => rfl
    simp only [known, if_true, List.find?_map, keeps]
    by_cases same : id = row.id
    · subst same
      obtain ⟨old, member, here⟩ := List.any_eq_true.mp known
      obtain ⟨first, found⟩ : ∃ first, db.assessments.find? (·.id == row.id) = some first :=
        Option.isSome_iff_exists.mp (List.find?_isSome.mpr ⟨old, member, here⟩)
      have first_id : first.id = row.id := by simpa using List.find?_some found
      rw [found, if_pos rfl, Option.map_some, if_pos first_id]
    · rw [if_neg same]
      cases found : db.assessments.find? (·.id == id) with
      | none => rfl
      | some first =>
        have first_id : first.id = id := by simpa using List.find?_some found
        rw [Option.map_some, if_neg (first_id ▸ same)]
  · have absent : db.assessments.find? (·.id == row.id) = none := by
      rw [List.find?_eq_none]
      intro old member here
      exact known (List.any_eq_true.mpr ⟨old, member, here⟩)
    rw [if_neg known]
    by_cases same : id = row.id
    · subst same
      simp [List.find?_append, absent]
    · have other : (row.id == id) = false := by simpa using Ne.symm same
      simp [List.find?_append, same, other]

section

variable [Unicode] {self : Assessment} {db db' : Database}

/-- A save validates, and then stores. -/
theorem save_ok : self.save db = .ok db' ↔ self.validate db = .ok () ∧ db' = db.store self := by
  unfold Assessment.save
  rw [Outcome.check_ok]
  constructor
  · rintro ⟨valid, stored⟩
    exact ⟨valid, (Except.ok.inj stored).symm⟩
  · rintro ⟨valid, rfl⟩
    exact ⟨valid, rfl⟩

theorem assessment_of_store {id : ℕ} :
    (db.store self).assessment? id =
      if id = self.id then some (self.stored db.clock) else db.assessment? id :=
  assessment_of_put

@[simp] theorem stored_id {clock : ℕ} : (self.stored clock).id = self.id := rfl

@[simp] theorem stored_tenant {clock : ℕ} : (self.stored clock).tenant = self.tenant := rfl

@[simp] theorem stored_status {clock : ℕ} : (self.stored clock).status = self.status := rfl

@[simp] theorem stored_context {clock : ℕ} : (self.stored clock).context = self.context := rfl

@[simp] theorem stored_maxScore {clock : ℕ} : (self.stored clock).maxScore = self.maxScore := rfl

@[simp] theorem stored_schema {clock : ℕ} :
    (self.stored clock).schoolGradingSchema = self.schoolGradingSchema := rfl

@[simp] theorem stored_schema_version {clock : ℕ} :
    (self.stored clock).schoolGradingSchemaVersion = self.schoolGradingSchemaVersion := rfl

/-- An operational row is locked. -/
theorem stored_locked {clock : ℕ} (operational : self.status ≠ .draft) :
    (self.stored clock).curriculumBindingLockedAt.isSome = true := by
  unfold Assessment.stored
  cases locked : self.curriculumBindingLockedAt <;>
    simp [assessmentStatusRequiresBinding, operational]

end

/-! ## What validation gives -/

section

variable {self : Assessment} {db : Database}

theorem validate_ok :
    self.validate db = .ok () ↔
      self.cleanFields db = .ok () ∧ self.clean db = .ok () ∧ self.weight ≤ 10000 := by
  unfold Assessment.validate Assessment.validateConstraints
  rw [Outcome.check_ok, full_clean_ok, refuseIf_ok, decide_eq_false_iff_not, not_lt, and_assoc]

/-- The rows an assessment refers to are there. -/
structure Assessment.Refers (a : Assessment) (db : Database) : Prop where
  tenant : db.staff.schools.any (·.id == a.tenant) = true
  year : (db.school.academicYear? a.academicYear).isSome = true
  term : (db.school.term? a.term).isSome = true
  grade : a.gradeLevel.all (fun id => (db.school.gradeLevel? id).isSome) = true
  cohort : (db.school.cohort? a.cohort).isSome = true
  area : (db.school.learningArea? a.learningArea).isSome = true
  version : a.curriculumVersion.all (fun id => (db.curriculum.version? id).isSome) = true
  rubric : a.rubricFoundation.all (fun id => (db.curriculum.rubric? id).isSome) = true
  schema : a.schoolGradingSchema.all (fun id => (db.schema? id).isSome) = true

theorem clean_fields_ok :
    self.cleanFields db = .ok () ↔
      self.Refers db ∧ self.title ≠ "" ∧ self.title.length ≤ 150 ∧ self.maxScore < 10 ^ 7 ∧
      self.weight < 10 ^ 5 ∧ self.schoolGradingSchemaVersion.length ≤ 48 := by
  unfold Assessment.cleanFields cleanText cleanLength cleanDigits
  simp only [Outcome.check_ok, clean_foreign_key_ok, refuseIf_ok, decide_eq_false_iff_not, not_lt,
    not_le, String.isEmpty_eq_false_iff]
  constructor
  · rintro ⟨tenant, year, term, grade, cohort, area, version, rubric, ⟨filled, short⟩, max, weight,
      schema, label⟩
    exact ⟨⟨tenant, year, term, grade, cohort, area, version, rubric, schema⟩, filled, short, max,
      weight, label⟩
  · rintro ⟨⟨tenant, year, term, grade, cohort, area, version, rubric, schema⟩, filled, short, max,
      weight, label⟩
    exact ⟨tenant, year, term, grade, cohort, area, version, rubric, ⟨filled, short⟩, max, weight,
      schema, label⟩

theorem binding_ok {status : AssessmentStatus} {context : CurriculumContext}
    {isActive published fits requireLocked locked : Bool} (operational : status ≠ .draft) :
    validateCurriculumBinding status context isActive published fits requireLocked locked = none ↔
      context.curriculumVersion.isSome = true ∧ context.rubricFoundation.isSome = true ∧
      isActive = true ∧ published = true ∧ fits = true ∧
      (requireLocked = true → locked = true) := by
  unfold validateCurriculumBinding assessmentStatusRequiresBinding
  cases context.curriculumVersion <;> cases context.rubricFoundation <;> cases isActive <;>
    cases published <;> cases fits <;> cases requireLocked <;> cases locked <;> simp [operational]

/-- The checks of `clean` that ask nothing of the curriculum. -/
structure Assessment.WellPlaced (a : Assessment) (db : Database) : Prop where
  positive : a.maxScore ≠ 0
  year : (db.school.academicYear? a.academicYear).map (·.tenant) = some a.tenant
  term : (db.school.term? a.term).map (·.tenant) = some a.tenant
  cohort : (db.school.cohort? a.cohort).map (·.tenant) = some a.tenant
  area : (db.school.learningArea? a.learningArea).map (·.tenant) = some a.tenant
  grade : ∀ level ∈ a.gradeLevel,
    (db.school.cohort? a.cohort).map (·.gradeLevel) = some level
  times : ∀ opens ∈ a.opensAt, ∀ closes ∈ a.closesAt, opens < closes

/-- What `clean` makes sure of. -/
theorem clean_ok :
    self.clean db = .ok () ↔
      self.WellPlaced db ∧
      (∀ schema ∈ self.schoolGradingSchema.bind db.schema?, self.cleanSchema schema = .ok ()) ∧
      self.validateCurriculumBindingForStatus db = .ok () ∧
      self.validateCurriculumContextImmutability db = .ok () := by
  have placed : self.WellPlaced db ↔ (self.maxScore == 0) = false ∧
      ([(db.school.academicYear? self.academicYear).map (·.tenant),
        (db.school.term? self.term).map (·.tenant),
        (db.school.cohort? self.cohort).map (·.tenant),
        (db.school.learningArea? self.learningArea).map (·.tenant)].any
          (· != some self.tenant)) = false ∧
      (self.gradeLevel.any fun level =>
        (db.school.cohort? self.cohort).map (·.gradeLevel) != some level) = false ∧
      (self.opensAt.any fun opens => self.closesAt.any fun closes => closes ≤ opens) = false := by
    constructor
    · rintro ⟨positive, year, term, cohort, area, grade, times⟩
      refine ⟨by simpa using positive, by simp [year, term, cohort, area], ?_, ?_⟩
      · cases is : self.gradeLevel with
        | none => rfl
        | some level => simpa using grade level is
      · cases is : self.opensAt with
        | none => rfl
        | some opens =>
          cases is' : self.closesAt with
          | none => rfl
          | some closes => simpa using times opens is closes is'
    · rintro ⟨positive, tenants, grade, times⟩
      simp only [List.any_cons, List.any_nil, Bool.or_false, Bool.or_eq_false_iff, bne_eq_false_iff_eq]
        at tenants
      obtain ⟨year, term, cohort, area⟩ := tenants
      refine ⟨by simpa using positive, year, term, cohort, area, fun level is => ?_,
        fun opens is closes is' => ?_⟩
      · simpa [show self.gradeLevel = some level from is] using grade
      · simpa [show self.opensAt = some opens from is,
          show self.closesAt = some closes from is'] using times
  have schema : self.cleanBoundSchema db = .ok () ↔
      ∀ schema ∈ self.schoolGradingSchema.bind db.schema?, self.cleanSchema schema = .ok () := by
    unfold Assessment.cleanBoundSchema
    cases self.schoolGradingSchema.bind db.schema? <;> simp
  unfold Assessment.clean
  simp only [Outcome.check_ok, refuseIf_ok, schema, placed, and_assoc]

theorem clean_schema_ok {schema : SchoolGradingSchema} :
    self.cleanSchema schema = .ok () ↔
      schema.tenant = self.tenant ∧ schema.assessmentType = self.assessmentType ∧
      (schema.status = .active ∨ schema.status = .locked) ∧
      self.assessmentType ≠ .cbeRubricAssessment := by
  unfold Assessment.cleanSchema
  cases schema.status <;> simp [Outcome.check_ok]

/-- Once grading has begun, what is saved keeps the stored context. -/
theorem context_kept {original : Assessment} (valid : self.validate db = .ok ())
    (there : db.assessment? self.id = some original)
    (begun : Assessment.hasSubmittedBatches self.id db = true ∨
      Assessment.hasGradeRecords self.id db = true) : self.context = original.context := by
  have immutable := ((clean_ok.mp (validate_ok.mp valid).2.1).2.2.2)
  unfold Assessment.validateCurriculumContextImmutability curriculumContextMutationAllowed
    Assessment.curriculumContextChangedFields at immutable
  rw [there, refuseIf_ok, Bool.not_eq_false', Bool.or_eq_true] at immutable
  rcases immutable with same | none
  · exact changed_fields_empty.mp same
  · rcases begun with yes | yes <;> simp [yes] at none

end

/-! ## A small school -/

namespace Sample

/-- Two teachers of one class, a head of department and a principal. -/
def staff : Staff where
  schools := [⟨1, true⟩]
  users := [⟨10, true⟩, ⟨11, true⟩, ⟨12, true⟩, ⟨13, true⟩]
  roles := [⟨1, .subjectTeacher, true⟩, ⟨2, .hod, true⟩, ⟨3, .principal, true⟩]
  tenantRoles := [⟨1, 10, 1, true, 0⟩, ⟨1, 11, 2, true, 0⟩, ⟨1, 12, 3, true, 0⟩, ⟨1, 13, 1, true, 0⟩]

/-- One class of three learners. -/
def school : Academics.SchoolTables where
  academicYears := [⟨1, 1⟩]
  terms := [⟨1, 1, 1⟩]
  gradeLevels := [⟨1, "grade-4", "Grade 4"⟩]
  learningAreas := [⟨1, 1, "mathematics", "Mathematics", true⟩]
  cohorts := [⟨1, 1, 1, "4 East", "East", true⟩]
  students := [⟨1, 1, true⟩, ⟨2, 1, true⟩, ⟨3, 1, true⟩]
  enrollments := [⟨1, 1, 1, 1, 1, true⟩, ⟨1, 2, 1, 1, 1, true⟩, ⟨1, 3, 1, 1, 1, true⟩]
  assignments := [⟨1, 1, 10, 1, 1, 1, 1, true⟩, ⟨2, 1, 11, 1, 1, 1, 1, true⟩,
    ⟨3, 1, 13, 1, 1, 1, 1, true⟩]
  metadata _ := []

/-- One published and adopted version, with two rubrics. -/
def curriculum : CurriculumTables where
  versions := [⟨1, true⟩]
  learningAreas := [⟨1, 1, 1, true⟩]
  rubrics := [⟨1, none, some 1, "meets", "Meets", true⟩, ⟨2, none, some 1, "nears", "Nears", true⟩]
  publications := [⟨1, 1, 0, none, true, "Published.", none, 0, none, 0⟩]
  adoptions := [⟨1, 1, .active⟩]
  withdrawals := []
  rollbackPlans := []
  impactPlans := []

def database : Database := .new staff school curriculum 100

/-- An open exam out of 100.00. -/
def exam : Assessment where
  id := 1
  tenant := 1
  academicYear := 1
  term := 1
  gradeLevel := some 1
  cohort := 1
  learningArea := 1
  curriculumVersion := some 1
  rubricFoundation := some 1
  title := "End of term"
  assessmentType := .exam
  maxScore := 10000
  weight := 100
  status := .open
  opensAt := none
  closesAt := none
  curriculumBindingLockedAt := none
  schoolGradingSchema := none
  schoolGradingSchemaVersion := ""
  updatedAt := 0

end Sample

end Darasa.Grading
