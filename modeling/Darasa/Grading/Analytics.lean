import Darasa.Grading.ReportRows

/-!
Analytics of the latest report.

A projection is built of the learners and aggregates an actor may see, and of the
eligibility summary of the run.  An actor without a role or an assignment sees no learner;
what such an actor is shown all the same is `exposed`.
-/

namespace Darasa.Grading

open Darasa (Outcome Unicode)
open Darasa.Core (CustomUser RoleCode)
open Darasa.Core.Staff (PolicyContext)
open Darasa.Academics (TeacherAssignment)

/-! ## Selectors -/

/-- A time after another; a missing one counts as the latest. -/
def timeAfter : Option ℕ → Option ℕ → Bool
  | none, some _ => true
  | some a, some b => b < a
  | _, none => false

/-- `order_by("-completed_at", "-created_at")`. -/
def ReportSnapshotRun.latestFirst (a b : ReportSnapshotRun) : Prop :=
  timeAfter a.completedAt b.completedAt = true ∨
    a.completedAt = b.completedAt ∧ b.createdAt ≤ a.createdAt

instance : DecidableRel ReportSnapshotRun.latestFirst := fun _ _ =>
  inferInstanceAs (Decidable (_ ∨ _))

/-- `order_by("-average_percentage", "student_id")`. -/
def LearnerReportSnapshot.bestFirst (a b : LearnerReportSnapshot) : Prop :=
  b.averagePercentage < a.averagePercentage ∨
    a.averagePercentage = b.averagePercentage ∧ a.student ≤ b.student

instance : DecidableRel LearnerReportSnapshot.bestFirst := fun _ _ =>
  inferInstanceAs (Decidable (_ ∨ _))

/-- The value of a scope type. -/
def ScopeType.value : ScopeType → String
  | school => "school"
  | cohort => "cohort"
  | stream => "stream"
  | subject => "subject"
  | department => "department"

/-- A name before another; a missing one comes last. -/
def nameBefore : Option String → Option String → Bool
  | some a, some b => a < b
  | some _, none => true
  | none, _ => false

namespace Database

variable (db : Database)

/-- `_latest_report_snapshot_run`. -/
def latestReportSnapshotRun (tenant : ℕ) : Option ReportSnapshotRun :=
  ((db.reportRuns.filter fun run =>
    run.tenant == tenant && (run.status == .complete || run.status == .partialMarks))
    |>.insertionSort ReportSnapshotRun.latestFirst).head?

/-- `get_learner_report_snapshots` of a run. -/
def learnerReportSnapshots (tenant run : ℕ) (cohort : Option ℕ) : List LearnerReportSnapshot :=
  ((db.reportLearners tenant run).filter fun row => cohort.all (row.cohort == ·))
    |>.insertionSort LearnerReportSnapshot.bestFirst

/-- `get_report_subject_line_snapshots` of a run, for an actor.  Nothing here depends on
the order of the lines. -/
def reportSubjectLineSnapshots (tenant run : ℕ) (learningArea : Option ℕ) (actor : ℕ) :
    List ReportSubjectLineSnapshot :=
  (db.reportLines tenant run).filter fun line =>
    learningArea.all (line.learningArea == ·) &&
      (db.assessment? line.assessment).any fun assessment => db.school.teaches actor
        ⟨assessment.cohort, line.learningArea, line.academicYear, line.term⟩

def cohortName (aggregate : AcademicAggregate) : Option String :=
  (aggregate.cohort.bind db.school.cohort?).map (·.name)

def areaName (aggregate : AcademicAggregate) : Option String :=
  (aggregate.learningArea.bind db.school.learningArea?).map (·.name)

/-- `order_by("scope_type", "cohort__name", "learning_area__name")`. -/
def aggregateOrder (a b : AcademicAggregate) : Prop :=
  a.scopeType.value < b.scopeType.value ∨ a.scopeType.value = b.scopeType.value ∧
    (nameBefore (db.cohortName a) (db.cohortName b) = true ∨ db.cohortName a = db.cohortName b ∧
      (nameBefore (db.areaName a) (db.areaName b) = true ∨ db.areaName a = db.areaName b))

instance : DecidableRel db.aggregateOrder := fun _ _ => inferInstanceAs (Decidable (_ ∨ _))

/-- `get_academic_aggregates` of a run. -/
def academicAggregates (tenant run : ℕ) (cohort learningArea : Option ℕ) :
    List AcademicAggregate :=
  (db.aggregates.filter fun row =>
    row.tenant == tenant && row.snapshotRun == run &&
      cohort.all (fun id => row.cohort == some id) &&
      learningArea.all (fun id => row.learningArea == some id))
    |>.insertionSort db.aggregateOrder

/-! ## Policies -/

/-- `can_view_hod_analytics` of an assessment. -/
def canViewHodAssessment (context : PolicyContext) (assessment : Assessment) : Bool :=
  db.staff.contextIsValid context && context.hasRole [.hod] &&
    db.hasAssignmentForAssessment context assessment

/-- `can_view_hod_analytics` of an aggregate. -/
def canViewHodAggregate (context : PolicyContext) (aggregate : AcademicAggregate) : Bool :=
  db.staff.contextIsValid context && context.hasRole [.hod] &&
    aggregate.learningArea.any fun area => db.school.assignments.any fun assignment =>
      assignment.tenant == context.tenant && assignment.teacher == context.actor.id &&
        assignment.learningArea == area && assignment.academicYear == aggregate.academicYear &&
        assignment.term == aggregate.term && assignment.isActive

/-- `can_view_subject_teacher_analytics` of a line's assessment. -/
def canViewSubjectTeacherAnalytics (context : PolicyContext) (assessment : Assessment) : Bool :=
  db.staff.contextIsValid context && context.hasRole [.subjectTeacher, .hod] &&
    db.hasAssignmentForAssessment context assessment

/-- `can_view_class_teacher_analytics` of a cohort. -/
def canViewClassTeacherAnalytics (context : PolicyContext) (cohort : Option ℕ) : Bool :=
  db.staff.contextIsValid context && context.hasRole [.classTeacher, .hod] &&
    cohort.any fun id => db.school.assignments.any fun assignment =>
      assignment.tenant == context.tenant && assignment.teacher == context.actor.id &&
        assignment.cohort == id && assignment.isActive

end Database

/-! ## Projections -/

/-- An item of `_learner_projection_items`. -/
structure LearnerItem where
  snapshotId : ℕ
  studentId : ℕ
  cohortId : ℕ
  averagePercentage : ℕ
  subjectCount : ℕ
  deriving DecidableEq, Repr

/-- An item of `_aggregate_projection_items`. -/
structure AggregateItem where
  aggregateId : ℕ
  scopeType : ScopeType
  cohortId : Option ℕ
  learningAreaId : Option ℕ
  streamLabel : String
  departmentKey : String
  metrics : AggregateMetrics
  minGroupSizeMet : Bool
  deriving DecidableEq, Repr

/-- An item of `rank_learners`. -/
structure RankedLearner where
  studentId : ℕ
  rank : ℕ
  averagePercentage : ℕ
  deriving DecidableEq, Repr

/-- An item of `detect_most_improved`. -/
structure ImprovedLearner where
  studentId : ℕ
  delta : ℕ
  averagePercentage : ℕ
  deriving DecidableEq, Repr

/-- An item of `detect_weak_subjects`. -/
structure WeakSubject where
  learningAreaId : Option ℕ
  meanPercentage : ℕ
  learnerCount : ℕ
  deriving DecidableEq, Repr

/-- What a projection returns; an empty readiness summary is `none`. -/
structure AnalyticsProjection where
  projectionType : String
  snapshotCount : ℕ
  aggregateCount : ℕ
  readinessSummary : Option EligibilitySummary
  topLearners : List RankedLearner
  mostImproved : List ImprovedLearner
  weakSubjects : List WeakSubject
  aggregates : List AggregateItem
  deriving DecidableEq, Repr

/-- `_learner_projection_items`. -/
def learnerProjectionItems (snapshots : List LearnerReportSnapshot) : List LearnerItem :=
  snapshots.map fun row =>
    ⟨row.id, row.student, row.cohort, row.averagePercentage, row.subjectCount⟩

/-- `_aggregate_projection_items`. -/
def aggregateProjectionItems (aggregates : List AcademicAggregate) : List AggregateItem :=
  aggregates.map fun row =>
    ⟨row.id, row.scopeType, row.cohort, row.learningArea, row.streamLabel, row.departmentKey,
      row.metrics, row.minGroupSizeMet⟩

/-- The best average first. -/
def LearnerItem.ranksBefore (a b : LearnerItem) : Prop :=
  b.averagePercentage < a.averagePercentage ∨
    a.averagePercentage = b.averagePercentage ∧ a.studentId ≤ b.studentId

instance : DecidableRel LearnerItem.ranksBefore := fun _ _ => inferInstanceAs (Decidable (_ ∨ _))

/-- `rank_learners`: the first ten. -/
def rankLearners (items : List LearnerItem) : List RankedLearner :=
  (((items.insertionSort LearnerItem.ranksBefore).take 10).zipIdx).map fun (item, index) =>
    ⟨item.studentId, index + 1, item.averagePercentage⟩

def ImprovedLearner.ranksBefore (a b : ImprovedLearner) : Prop :=
  b.delta < a.delta ∨ a.delta = b.delta ∧ a.studentId ≤ b.studentId

instance : DecidableRel ImprovedLearner.ranksBefore := fun _ _ =>
  inferInstanceAs (Decidable (_ ∨ _))

/-- `detect_most_improved`, without a previous report to compare with. -/
def detectMostImproved (current : List LearnerItem) : List ImprovedLearner :=
  ((current.map fun item =>
    (⟨item.studentId, item.averagePercentage - 0, item.averagePercentage⟩ : ImprovedLearner))
    |>.insertionSort ImprovedLearner.ranksBefore).take 10

/-- The key of an area in text order: no area is the empty text. -/
def WeakSubject.weakestFirst (a b : WeakSubject) : Prop :=
  a.meanPercentage < b.meanPercentage ∨ a.meanPercentage = b.meanPercentage ∧
    a.learningAreaId.elim 0 (· + 1) ≤ b.learningAreaId.elim 0 (· + 1)

instance : DecidableRel WeakSubject.weakestFirst := fun _ _ => inferInstanceAs (Decidable (_ ∨ _))

/-- `detect_weak_subjects`: a mean below 50.00. -/
def detectWeakSubjects (aggregates : List AggregateItem) : List WeakSubject :=
  ((aggregates.filter fun item => item.metrics.meanPercentage < 5000).map fun item =>
    (⟨item.learningAreaId, item.metrics.meanPercentage, item.metrics.learnerCount⟩ : WeakSubject))
    |>.insertionSort WeakSubject.weakestFirst

/-- `build_role_analytics_projection`. -/
def buildRoleAnalyticsProjection (projectionType : String) (learners : List LearnerItem)
    (aggregates : List AggregateItem) (readinessSummary : Option EligibilitySummary) :
    AnalyticsProjection where
  projectionType := projectionType
  snapshotCount := learners.length
  aggregateCount := aggregates.length
  readinessSummary := readinessSummary
  topLearners := rankLearners learners
  mostImproved := detectMostImproved learners
  weakSubjects := detectWeakSubjects (aggregates.filter (·.scopeType == .subject))
  aggregates := aggregates

/-- `_analytics_projection`. -/
def analyticsProjection (projectionType : String) (run : Option ReportSnapshotRun)
    (learners : List LearnerReportSnapshot) (aggregates : List AcademicAggregate) :
    AnalyticsProjection :=
  buildRoleAnalyticsProjection projectionType (learnerProjectionItems learners)
    (aggregateProjectionItems aggregates) (run.bind (·.eligibilitySummary))

/-- `get_hod_analytics_projection`. -/
def getHodAnalyticsProjection (db : Database) (actor : CustomUser) (tenant : ℕ) :
    AnalyticsProjection :=
  let context := db.staff.policyContext actor tenant [.hod]
  match db.latestReportSnapshotRun tenant with
  | none => analyticsProjection "hod" none [] []
  | some run =>
    let lines := db.reportSubjectLineSnapshots tenant run.id none actor.id
    if lines.isEmpty then analyticsProjection "hod" (some run) [] []
    else
      let visibleAreas := (lines.filter fun line =>
        (db.assessment? line.assessment).any (db.canViewHodAssessment context)).map (·.learningArea)
      let aggregates := (db.academicAggregates tenant run.id none none).filter fun aggregate =>
        aggregate.learningArea.any visibleAreas.contains &&
          db.canViewHodAggregate context aggregate
      let learnerIds := (lines.filter fun line => visibleAreas.contains line.learningArea).map
        (·.student)
      let learners := (db.learnerReportSnapshots tenant run.id none).filter fun row =>
        learnerIds.contains row.student
      analyticsProjection "hod" (some run) learners aggregates

/-- `get_class_teacher_analytics_projection`. -/
def getClassTeacherAnalyticsProjection (db : Database) (actor : CustomUser) (tenant : ℕ)
    (cohort : Option ℕ) : AnalyticsProjection :=
  let context := db.staff.policyContext actor tenant [.classTeacher, .hod]
  if !db.canViewClassTeacherAnalytics context cohort then
    analyticsProjection "class_teacher" none [] []
  else
    match db.latestReportSnapshotRun tenant with
    | none => analyticsProjection "class_teacher" none [] []
    | some run =>
      analyticsProjection "class_teacher" (some run)
        (db.learnerReportSnapshots tenant run.id cohort)
        (db.academicAggregates tenant run.id cohort none)

/-- `get_subject_teacher_analytics_projection`. -/
def getSubjectTeacherAnalyticsProjection (db : Database) (actor : CustomUser) (tenant : ℕ)
    (learningArea : Option ℕ) : AnalyticsProjection :=
  let context := db.staff.policyContext actor tenant [.subjectTeacher, .hod]
  match db.latestReportSnapshotRun tenant with
  | none => analyticsProjection "subject_teacher" none [] []
  | some run =>
    let lines := db.reportSubjectLineSnapshots tenant run.id learningArea actor.id
    let visible := lines.filter fun line =>
      (db.assessment? line.assessment).any (db.canViewSubjectTeacherAnalytics context)
    let learnerIds := visible.map (·.student)
    let learners := (db.learnerReportSnapshots tenant run.id none).filter fun row =>
      learnerIds.contains row.student
    analyticsProjection "subject_teacher" (some run) learners
      (db.academicAggregates tenant run.id none learningArea)

/-! ## Requests -/

/-- A projection that is asked for. -/
inductive AnalyticsRequest where
  | subjectTeacher (learningArea : Option ℕ)
  | hod
  | classTeacher (cohort : Option ℕ)

namespace AnalyticsRequest

def projection (db : Database) (actor : CustomUser) (tenant : ℕ) :
    AnalyticsRequest → AnalyticsProjection
  | subjectTeacher learningArea => getSubjectTeacherAnalyticsProjection db actor tenant learningArea
  | hod => getHodAnalyticsProjection db actor tenant
  | classTeacher cohort => getClassTeacherAnalyticsProjection db actor tenant cohort

def projectionType : AnalyticsRequest → String
  | subjectTeacher _ => "subject_teacher"
  | hod => "hod"
  | classTeacher _ => "class_teacher"

/-- The roles a projection accepts. -/
def roles : AnalyticsRequest → List RoleCode
  | subjectTeacher _ => [.subjectTeacher, .hod]
  | hod => [.hod]
  | classTeacher _ => [.classTeacher, .hod]

/-- The assignment is one for what is asked: the learning area, any area of the tenant, or
the cohort. -/
def covers (tenant : ℕ) (assignment : TeacherAssignment) : AnalyticsRequest → Prop
  | subjectTeacher learningArea => ∀ id ∈ learningArea, assignment.learningArea = id
  | hod => assignment.tenant = tenant
  | classTeacher cohort => assignment.tenant = tenant ∧ ∀ id ∈ cohort, assignment.cohort = id

/-- The actor holds an active role of the tenant that the projection accepts. -/
def HoldsRole (db : Database) (actor : CustomUser) (tenant : ℕ) (request : AnalyticsRequest) :
    Prop :=
  ∃ binding ∈ db.staff.tenantRoles, binding.tenant = tenant ∧ binding.user = actor.id ∧
    binding.isActive = true ∧ ∃ role ∈ db.staff.role? binding.role,
      role.isActive = true ∧ role.code ∈ request.roles

/-- The actor has an active assignment for what is asked. -/
def HoldsAssignment (db : Database) (actor : CustomUser) (tenant : ℕ)
    (request : AnalyticsRequest) : Prop :=
  ∃ assignment ∈ db.school.assignments, assignment.teacher = actor.id ∧
    assignment.isActive = true ∧ request.covers tenant assignment

/-- The actor lacks the role or the assignment. -/
def Denied (db : Database) (actor : CustomUser) (tenant : ℕ) (request : AnalyticsRequest) :
    Prop :=
  ¬ request.HoldsRole db actor tenant ∨ ¬ request.HoldsAssignment db actor tenant

/-- What is shown without a role or an assignment: aggregates of the latest report and its
eligibility summary. -/
def exposed (db : Database) (tenant : ℕ) :
    AnalyticsRequest → List AggregateItem × Option EligibilitySummary
  | subjectTeacher learningArea =>
    match db.latestReportSnapshotRun tenant with
    | none => ([], none)
    | some run =>
      (aggregateProjectionItems (db.academicAggregates tenant run.id none learningArea),
        run.eligibilitySummary)
  | hod => ([], (db.latestReportSnapshotRun tenant).bind (·.eligibilitySummary))
  | classTeacher _ => ([], none)

end AnalyticsRequest

/-! ## What the denied are shown -/

section

variable {db : Database} {actor : CustomUser} {tenant run : ℕ} {request : AnalyticsRequest}
  {line : ReportSubjectLineSnapshot} {assessment : Assessment}

/-- Without a role the projection accepts, the context has none. -/
theorem role_of_denied (denied : ¬ request.HoldsRole db actor tenant) :
    db.staff.roleFor actor.id tenant request.roles = none := by
  unfold Core.Staff.roleFor
  have none : (db.staff.tenantRoles.filter fun binding =>
      binding.tenant == tenant && binding.user == actor.id && binding.isActive &&
        (db.staff.role? binding.role).any fun role =>
          role.isActive && request.roles.contains role.code) = [] := by
    rw [List.filter_eq_nil_iff]
    intro binding member holds
    simp only [Bool.and_eq_true, beq_iff_eq, Option.any_eq_true, List.contains_iff_mem] at holds
    obtain ⟨⟨⟨ofTenant, ofUser⟩, active⟩, role, found, usable, accepted⟩ := holds
    exact denied ⟨binding, member, ofTenant, ofUser, active, role, found, usable, accepted⟩
  simp only [none]
  rfl

/-- A context without a role is not valid. -/
theorem context_of_denied (denied : ¬ request.HoldsRole db actor tenant) :
    db.staff.contextIsValid (db.staff.policyContext actor tenant request.roles) = false := by
  unfold Core.Staff.contextIsValid Core.Staff.policyContext
  rw [role_of_denied denied]
  simp

/-- An assignment for an assessment is an active one of the tenant. -/
theorem assignment_for_assessment {codes : List RoleCode}
    (holds : db.hasAssignmentForAssessment (db.staff.policyContext actor tenant codes) assessment =
      true) :
    ∃ assignment ∈ db.school.assignments, assignment.teacher = actor.id ∧
      assignment.isActive = true ∧ assignment.tenant = tenant := by
  unfold Database.hasAssignmentForAssessment at holds
  rw [Bool.and_eq_true, Option.isSome_iff_exists] at holds
  obtain ⟨-, assignment, found⟩ := holds
  have fits := List.find?_some found
  simp only [Bool.and_eq_true, beq_iff_eq] at fits
  obtain ⟨⟨⟨⟨⟨ofTenant, ofTeacher⟩, -⟩, active⟩, -⟩, -⟩ := fits
  exact ⟨assignment, List.mem_of_find?_eq_some found, ofTeacher, active, ofTenant⟩

/-- The selector gives an actor the lines of the actor's own assignments. -/
theorem assignment_of_line {learningArea : Option ℕ}
    (member : line ∈ db.reportSubjectLineSnapshots tenant run learningArea actor.id) :
    (AnalyticsRequest.subjectTeacher learningArea).HoldsAssignment db actor tenant := by
  unfold Database.reportSubjectLineSnapshots at member
  rw [List.mem_filter, Bool.and_eq_true, Option.any_eq_true] at member
  obtain ⟨-, ofArea, assessment, -, teaches⟩ := member
  obtain ⟨assignment, there, holds⟩ := List.any_eq_true.mp teaches
  simp only [Bool.and_eq_true, beq_iff_eq] at holds
  obtain ⟨⟨ofTeacher, ofContext⟩, active⟩ := holds
  refine ⟨assignment, there, ofTeacher, active, fun id asked => ?_⟩
  have ofLine : assignment.learningArea = line.learningArea := congrArg (·.learningArea) ofContext
  rw [ofLine]
  exact beq_iff_eq.mp ((Option.all_eq_true _ _).mp ofArea id asked)

/-- A denied subject teacher sees no line. -/
theorem subject_line_hidden {learningArea : Option ℕ}
    (denied : (AnalyticsRequest.subjectTeacher learningArea).Denied db actor tenant)
    (member : line ∈ db.reportSubjectLineSnapshots tenant run learningArea actor.id) :
    db.canViewSubjectTeacherAnalytics
      (db.staff.policyContext actor tenant [.subjectTeacher, .hod]) assessment = false := by
  rcases denied with noRole | noAssignment
  · unfold Database.canViewSubjectTeacherAnalytics
    have invalid := context_of_denied noRole
    unfold AnalyticsRequest.roles at invalid
    rw [invalid]
    rfl
  · exact absurd (assignment_of_line member) noAssignment

/-- A denied head of department may see no assessment. -/
theorem hod_assessment_hidden (denied : AnalyticsRequest.hod.Denied db actor tenant) :
    db.canViewHodAssessment (db.staff.policyContext actor tenant [.hod]) assessment = false := by
  unfold Database.canViewHodAssessment
  rcases denied with noRole | noAssignment
  · have invalid := context_of_denied noRole
    unfold AnalyticsRequest.roles at invalid
    rw [invalid]
    rfl
  · rw [Bool.eq_false_iff]
    intro visible
    exact noAssignment (assignment_for_assessment (Bool.and_eq_true_iff.mp visible).2)

/-- A denied class teacher is refused. -/
theorem class_hidden {cohort : Option ℕ}
    (denied : (AnalyticsRequest.classTeacher cohort).Denied db actor tenant) :
    db.canViewClassTeacherAnalytics (db.staff.policyContext actor tenant [.classTeacher, .hod])
      cohort = false := by
  unfold Database.canViewClassTeacherAnalytics
  rcases denied with noRole | noAssignment
  · have invalid := context_of_denied noRole
    unfold AnalyticsRequest.roles at invalid
    rw [invalid]
    rfl
  · rw [Bool.eq_false_iff]
    intro visible
    rw [Bool.and_eq_true, Option.any_eq_true] at visible
    obtain ⟨-, id, asked, teaches⟩ := visible
    obtain ⟨assignment, there, holds⟩ := List.any_eq_true.mp teaches
    simp only [Bool.and_eq_true, beq_iff_eq] at holds
    obtain ⟨⟨⟨ofTenant, ofTeacher⟩, ofCohort⟩, active⟩ := holds
    refine noAssignment ⟨assignment, there, ofTeacher, active, ofTenant, fun id' asked' => ?_⟩
    cases asked.symm.trans asked'
    exact ofCohort

/-- What is exposed, and nothing else. -/
def AnalyticsRequest.deniedProjection (db : Database) (tenant : ℕ) (request : AnalyticsRequest) :
    AnalyticsProjection :=
  buildRoleAnalyticsProjection request.projectionType [] (request.exposed db tenant).1
    (request.exposed db tenant).2

/-- A denied actor is shown what is exposed. -/
theorem projection_of_denied (denied : request.Denied db actor tenant) :
    request.projection db actor tenant = request.deniedProjection db tenant := by
  cases request with
  | subjectTeacher learningArea =>
    unfold AnalyticsRequest.deniedProjection AnalyticsRequest.exposed AnalyticsRequest.projection
      getSubjectTeacherAnalyticsProjection
    cases db.latestReportSnapshotRun tenant with
    | none => rfl
    | some run =>
      have hidden : ((db.reportSubjectLineSnapshots tenant run.id learningArea actor.id).filter
          fun line => (db.assessment? line.assessment).any (db.canViewSubjectTeacherAnalytics
            (db.staff.policyContext actor tenant [.subjectTeacher, .hod]))) = [] := by
        rw [List.filter_eq_nil_iff]
        intro line member visible
        obtain ⟨assessment, -, allowed⟩ := (Option.any_eq_true _ _).mp visible
        rw [subject_line_hidden denied member] at allowed
        cases allowed
      simp only [hidden]
      simp [analyticsProjection, AnalyticsRequest.projectionType, learnerProjectionItems]
  | hod =>
    unfold AnalyticsRequest.deniedProjection AnalyticsRequest.exposed AnalyticsRequest.projection
      getHodAnalyticsProjection
    cases db.latestReportSnapshotRun tenant with
    | none => rfl
    | some run =>
      have hidden : ((db.reportSubjectLineSnapshots tenant run.id none actor.id).filter
          fun line => (db.assessment? line.assessment).any (db.canViewHodAssessment
            (db.staff.policyContext actor tenant [.hod]))) = [] := by
        rw [List.filter_eq_nil_iff]
        intro line member visible
        obtain ⟨assessment, -, allowed⟩ := (Option.any_eq_true _ _).mp visible
        rw [hod_assessment_hidden denied] at allowed
        cases allowed
      have noArea : ∀ area : Option ℕ, area.any ([] : List ℕ).contains = false := by
        intro area
        cases area <;> rfl
      simp only [hidden]
      split
      · rfl
      · simp [analyticsProjection, AnalyticsRequest.projectionType, learnerProjectionItems,
          aggregateProjectionItems, noArea]
  | classTeacher cohort =>
    unfold AnalyticsRequest.projection getClassTeacherAnalyticsProjection
    simp only [class_hidden denied]
    rfl

/-- **When analytics leak nothing.**  For an actor who lacks the role or the assignment in
two states of the tables, the projections are equal exactly when the aggregates and the
eligibility summary exposed to anyone are. -/
theorem projections_equal_iff {db₁ db₂ : Database} (denied₁ : request.Denied db₁ actor tenant)
    (denied₂ : request.Denied db₂ actor tenant) :
    request.projection db₁ actor tenant = request.projection db₂ actor tenant ↔
      request.exposed db₁ tenant = request.exposed db₂ tenant := by
  rw [projection_of_denied denied₁, projection_of_denied denied₂]
  unfold AnalyticsRequest.deniedProjection
  constructor
  · intro same
    exact Prod.ext (congrArg (·.aggregates) same) (congrArg (·.readinessSummary) same)
  · intro same
    rw [same]

end

section Sample

attribute [local instance] Unicode.ascii

/-- The tables after the report of the term. -/
def Sample.reportedTables : Database :=
  match Sample.report with
  | .ok (_, db) => db
  | .error _ => Sample.compiled

/-- The same tables without a row of a learner. -/
private def Sample.rowless : Database :=
  { Sample.reportedTables with subjectLines := [], learnerReports := [] }

private theorem Sample.stranger_denied {request : AnalyticsRequest} {db : Database}
    (roleless : ∀ binding ∈ db.staff.tenantRoles, binding.user ≠ 99) :
    request.Denied db ⟨99, true⟩ 1 :=
  .inl fun ⟨binding, member, _, ofUser, _⟩ => roleless binding member ofUser

private theorem Sample.stranger_facts :
    ((∀ binding ∈ Sample.compiled.staff.tenantRoles, binding.user ≠ 99) ∧
      ∀ binding ∈ Sample.reportedTables.staff.tenantRoles, binding.user ≠ 99) ∧
    Sample.reportedTables.subjectLines ≠ [] ∧
    AnalyticsRequest.hod.exposed Sample.compiled 1 ≠
      AnalyticsRequest.hod.exposed Sample.reportedTables 1 ∧
    (AnalyticsRequest.subjectTeacher (some 1)).projection Sample.compiled ⟨99, true⟩ 1 ≠
      (AnalyticsRequest.subjectTeacher (some 1)).projection Sample.reportedTables ⟨99, true⟩ 1 := by
  decide +kernel

/-- Someone without any role cannot tell whether the rows of the learners are there, but can
tell that there is a report. -/
theorem Sample.stranger_sees_no_row :
    Sample.reportedTables.subjectLines ≠ [] ∧
    (AnalyticsRequest.subjectTeacher (some 1)).projection Sample.reportedTables ⟨99, true⟩ 1 =
      (AnalyticsRequest.subjectTeacher (some 1)).projection Sample.rowless ⟨99, true⟩ 1 ∧
    AnalyticsRequest.hod.projection Sample.compiled ⟨99, true⟩ 1 ≠
      AnalyticsRequest.hod.projection Sample.reportedTables ⟨99, true⟩ 1 := by
  obtain ⟨⟨before, after⟩, lines, differ, -⟩ := Sample.stranger_facts
  refine ⟨lines, ?_, ?_⟩
  · have denied : (AnalyticsRequest.subjectTeacher (some 1)).Denied Sample.rowless ⟨99, true⟩ 1 :=
      Sample.stranger_denied after
    exact (projections_equal_iff (Sample.stranger_denied after) denied).mpr rfl
  · rw [ne_eq, projections_equal_iff (Sample.stranger_denied before) (Sample.stranger_denied after)]
    exact differ

/-- Someone without any role is shown the results of mathematics. -/
theorem Sample.stranger_sees_results :
    (AnalyticsRequest.subjectTeacher (some 1)).Denied Sample.compiled ⟨99, true⟩ 1 ∧
      (AnalyticsRequest.subjectTeacher (some 1)).Denied Sample.reportedTables ⟨99, true⟩ 1 ∧
      (AnalyticsRequest.subjectTeacher (some 1)).projection Sample.compiled ⟨99, true⟩ 1 ≠
        (AnalyticsRequest.subjectTeacher (some 1)).projection Sample.reportedTables ⟨99, true⟩ 1 :=
  ⟨Sample.stranger_denied Sample.stranger_facts.1.1,
    Sample.stranger_denied Sample.stranger_facts.1.2, Sample.stranger_facts.2.2.2⟩

end Sample

end Darasa.Grading
