import Darasa.Academics.School
import Darasa.Foundation.Tables
import Darasa.Runtime.Errors
import Mathlib.Data.List.Dedup

/-!
Class rosters.

The roster of a cohort projects its enrolment rows, one entry for each row; the
roster of an assessment selects learners.  A learner enrolled in the cohort for two
terms is one learner and two enrolments.
-/

namespace Darasa.Academics

open Darasa (Outcome)

/-! ## The cohort's roster -/

/-- The names of a learner, columns of the `Student` row. -/
structure LearnerDetails where
  firstName : String
  lastName : String
  admissionNumber : String
  deriving DecidableEq, Repr

/-- An entry of the roster. -/
structure RosterEntry where
  id : ℕ
  details : LearnerDetails
  deriving DecidableEq, Repr

/-- `order_by("student__last_name", "student__first_name")`, under the database's
collation. -/
def RosterEntry.listedBefore (collation : String → String → Bool) (a b : RosterEntry) : Prop :=
  collation a.details.lastName b.details.lastName = true ∧
    (collation b.details.lastName a.details.lastName = true →
      collation a.details.firstName b.details.firstName = true)

instance (collation : String → String → Bool) :
    DecidableRel (RosterEntry.listedBefore collation) :=
  fun _ _ => inferInstanceAs (Decidable (_ ∧ _))

namespace SchoolTables

variable (t : SchoolTables)

/-- `verify_teacher_assignment`. -/
def verifyTeacherAssignment (tenant teacher cohort learningArea : ℕ) : Bool :=
  t.assignments.any fun row =>
    row.tenant == tenant && row.teacher == teacher && row.cohort == cohort &&
      row.learningArea == learningArea && row.isActive && t.cohortIsActive row.cohort &&
      t.learningAreaIsActive row.learningArea

/-- The learner is an active learner of the tenant. -/
def isActiveLearner (tenant student : ℕ) : Bool :=
  (t.student? student).any fun row => row.isActive && row.tenant == tenant

/-- The enrolments `get_cohort_roster` selects. -/
def cohortEnrollments (tenant cohort : ℕ) : List Enrollment :=
  t.enrollments.filter fun row =>
    row.tenant == tenant && row.cohort == cohort && row.isActive &&
      t.isActiveLearner tenant row.student

/-- `get_cohort_roster`. -/
def getCohortRoster (details : ℕ → LearnerDetails) (collation : String → String → Bool)
    (tenant actor cohort learningArea : ℕ) : Outcome (List RosterEntry) :=
  if !t.verifyTeacherAssignment tenant actor cohort learningArea then
    .error (.other "PermissionDenied" "Access denied.")
  else
    let roster := (t.cohortEnrollments tenant cohort).map fun row =>
      (⟨row.student, details row.student⟩ : RosterEntry)
    .ok (roster.insertionSort (RosterEntry.listedBefore collation))

/-- The keys of the academic tables: learners by their identifier, active enrolments
by `academics_active_enrollment_unique`. -/
structure Keyed : Prop where
  students : (t.students.map Student.id).Nodup
  enrollments : (t.enrollments.filter Enrollment.isActive).Nodup

/-! ## What it lists -/

variable {t} {details : ℕ → LearnerDetails} {collation : String → String → Bool}
  {tenant actor cohort learningArea student : ℕ} {entries : List RosterEntry}

/-- The learners listed are those of the selected enrolments, row for row. -/
theorem listed_students
    (listed : t.getCohortRoster details collation tenant actor cohort learningArea = .ok entries) :
    (entries.map RosterEntry.id).Perm
      ((t.cohortEnrollments tenant cohort).map Enrollment.student) := by
  unfold getCohortRoster at listed
  split at listed
  · cases listed
  · cases listed
    have each := (List.perm_insertionSort (RosterEntry.listedBefore collation)
      ((t.cohortEnrollments tenant cohort).map fun row =>
        (⟨row.student, details row.student⟩ : RosterEntry))).map RosterEntry.id
    rwa [List.map_map] at each

/-- The roster is given to a teacher of the class. -/
theorem granted_iff :
    (∃ entries, t.getCohortRoster details collation tenant actor cohort learningArea =
      .ok entries) ↔ t.verifyTeacherAssignment tenant actor cohort learningArea = true := by
  unfold getCohortRoster
  cases t.verifyTeacherAssignment tenant actor cohort learningArea <;> simp

theorem mem_cohort_enrollments {row : Enrollment} :
    row ∈ t.cohortEnrollments tenant cohort ↔
      row ∈ t.enrollments ∧ row.tenant = tenant ∧ row.cohort = cohort ∧ row.isActive = true ∧
        t.isActiveLearner tenant row.student = true := by
  simp [cohortEnrollments, and_assoc]

/-- A learner of an assessment's roster has a selected enrolment. -/
theorem enrolled_of_roster (keyed : t.Keyed) {academicYear term : ℕ}
    (member : student ∈ t.roster tenant cohort academicYear term) :
    student ∈ (t.cohortEnrollments tenant cohort).map Enrollment.student := by
  unfold roster at member
  obtain ⟨row, known, rfl⟩ := List.mem_map.mp (List.mem_dedup.mp member)
  obtain ⟨known, here⟩ := List.mem_filter.mp known
  have found : t.student? row.id = some row := Table.find_of_mem keyed.students known
  simp only [Bool.and_eq_true, beq_iff_eq] at here
  obtain ⟨⟨ours, active⟩, enrolled⟩ := here
  obtain ⟨enrollment, there, is⟩ := List.any_eq_true.mp enrolled
  simp only [Bool.and_eq_true, beq_iff_eq] at is
  refine List.mem_map.mpr ⟨enrollment, mem_cohort_enrollments.mpr ?_, is.1.1.1.1.2⟩
  refine ⟨there, is.1.1.1.1.1, is.1.1.1.2, is.2, ?_⟩
  rw [is.1.1.1.1.2, isActiveLearner, found]
  simp [active, ours]

/-! ## Each learner once -/

/-- Each active learner with an active enrolment in the cohort is listed once, and
nobody else is; the learners of every assessment of the cohort are among them. -/
structure ListsEachOnce (t : SchoolTables) (tenant cohort : ℕ) (entries : List RosterEntry) :
    Prop where
  once : ∀ student, student ∈ (t.cohortEnrollments tenant cohort).map Enrollment.student →
    (entries.map RosterEntry.id).count student = 1
  only : ∀ student, student ∉ (t.cohortEnrollments tenant cohort).map Enrollment.student →
    student ∉ entries.map RosterEntry.id
  assessed : ∀ academicYear term, ∀ student ∈ t.roster tenant cohort academicYear term,
    student ∈ entries.map RosterEntry.id

/-- No active learner has active enrolments in the cohort for two terms. -/
def OneTermEach (t : SchoolTables) (tenant cohort : ℕ) : Prop :=
  ∀ a ∈ t.cohortEnrollments tenant cohort, ∀ b ∈ t.cohortEnrollments tenant cohort,
    a.student = b.student → a.academicYear = b.academicYear ∧ a.term = b.term

theorem cohort_enrollments_distinct (keyed : t.Keyed) :
    (t.cohortEnrollments tenant cohort).Nodup := by
  refine List.Nodup.sublist ?_ keyed.enrollments
  unfold cohortEnrollments
  have kept : t.enrollments.filter (fun row =>
      row.tenant == tenant && row.cohort == cohort && row.isActive &&
        t.isActiveLearner tenant row.student) =
      (t.enrollments.filter Enrollment.isActive).filter (fun row =>
        row.tenant == tenant && row.cohort == cohort &&
          t.isActiveLearner tenant row.student) := by
    rw [List.filter_filter]
    refine List.filter_congr fun row _ => ?_
    cases row.isActive <;> simp
  rw [kept]
  exact List.filter_sublist

/-- Enrolments of a learner in the cohort differ in their term. -/
theorem one_term_each_iff (keyed : t.Keyed) :
    t.OneTermEach tenant cohort ↔
      ((t.cohortEnrollments tenant cohort).map Enrollment.student).Nodup := by
  constructor
  · intro single
    refine List.Nodup.map_on ?_ (cohort_enrollments_distinct keyed)
    intro a known b known' same
    obtain ⟨year, term⟩ := single a known b known' same
    obtain ⟨_, tenant, cohort, active, _⟩ := mem_cohort_enrollments.mp known
    obtain ⟨_, tenant', cohort', active', _⟩ := mem_cohort_enrollments.mp known'
    cases a
    cases b
    simp_all
  · intro distinct a known b known' same
    obtain rfl := Table.eq_of_key distinct known known' same
    exact ⟨rfl, rfl⟩

/-- A list has each of its elements once when it has no duplicates. -/
theorem lists_each_once_iff (keyed : t.Keyed)
    (listed : t.getCohortRoster details collation tenant actor cohort learningArea = .ok entries) :
    t.ListsEachOnce tenant cohort entries ↔ t.OneTermEach tenant cohort := by
  have each := listed_students listed
  rw [one_term_each_iff keyed]
  constructor
  · intro ⟨once, _, _⟩
    refine List.nodup_iff_count_le_one.mpr fun student => ?_
    by_cases enrolled : student ∈ (t.cohortEnrollments tenant cohort).map Enrollment.student
    · rw [← each.count_eq]
      exact Nat.le_of_eq (once student enrolled)
    · rw [List.count_eq_zero_of_not_mem enrolled]
      exact Nat.zero_le 1
  · intro distinct
    refine ⟨fun student enrolled => ?_, fun student absent listed => ?_, ?_⟩
    · rw [each.count_eq]
      exact List.count_eq_one_of_mem distinct enrolled
    · exact absent (each.mem_iff.mp listed)
    · intro academicYear term student member
      exact each.mem_iff.mpr (enrolled_of_roster keyed member)

/-- **The roster of a cohort lists each learner once exactly when no active learner is
actively enrolled in it for two terms.** -/
theorem cohort_roster_lists_each_once_iff (keyed : t.Keyed)
    (details : ℕ → LearnerDetails) (collation : String → String → Bool)
    (tenant actor cohort learningArea : ℕ) :
    (∀ entries, t.getCohortRoster details collation tenant actor cohort learningArea =
      .ok entries → t.ListsEachOnce tenant cohort entries) ↔
    (t.verifyTeacherAssignment tenant actor cohort learningArea = true →
      t.OneTermEach tenant cohort) := by
  constructor
  · intro lists granted
    obtain ⟨entries, listed⟩ := granted_iff.mpr granted
    exact (lists_each_once_iff keyed listed).mp (lists entries listed)
  · intro single entries listed
    exact (lists_each_once_iff keyed listed).mpr (single (granted_iff.mp ⟨entries, listed⟩))

end SchoolTables

/-! ## Two classes -/

/-- A class of two terms: the first learner's second row is no longer active, the second learner
came for the second term, and a third has left the school. -/
def classOfTwoTerms : SchoolTables where
  academicYears := [⟨1, 1⟩]
  terms := [⟨1, 1, 1⟩, ⟨2, 1, 1⟩]
  gradeLevels := []
  learningAreas := [⟨1, 1, "MAT", "Mathematics", true⟩]
  cohorts := [⟨1, 1, 1, "Grade 7", "Blue", true⟩]
  students := [⟨1, 1, true⟩, ⟨2, 1, true⟩, ⟨3, 1, false⟩]
  enrollments := [⟨1, 1, 1, 1, 1, true⟩, ⟨1, 1, 1, 1, 2, false⟩, ⟨1, 2, 1, 1, 2, true⟩,
    ⟨1, 3, 1, 1, 1, true⟩]
  assignments := [⟨1, 1, 1, 1, 1, 1, 1, true⟩]
  metadata := fun _ => []

/-- The names of its learners. -/
def learnerNames (student : ℕ) : LearnerDetails :=
  if student = 1 then ⟨"Amina", "Otieno", "A1"⟩ else ⟨"Baraka", "Kamau", "A2"⟩

/-- Its roster lists the two learners once each, by their last names. -/
theorem class_of_two_terms_lists_each_once :
    classOfTwoTerms.getCohortRoster learnerNames (fun a b => decide (a ≤ b)) 1 1 1 1 =
      .ok [⟨2, ⟨"Baraka", "Kamau", "A2"⟩⟩, ⟨1, ⟨"Amina", "Otieno", "A1"⟩⟩] ∧
    classOfTwoTerms.ListsEachOnce 1 1
      [⟨2, ⟨"Baraka", "Kamau", "A2"⟩⟩, ⟨1, ⟨"Amina", "Otieno", "A1"⟩⟩] := by
  have listed : classOfTwoTerms.getCohortRoster learnerNames (fun a b => decide (a ≤ b)) 1 1 1 1 =
      .ok [⟨2, ⟨"Baraka", "Kamau", "A2"⟩⟩, ⟨1, ⟨"Amina", "Otieno", "A1"⟩⟩] := by decide +kernel
  have single : classOfTwoTerms.OneTermEach 1 1 := by
    unfold SchoolTables.OneTermEach
    decide +kernel
  exact ⟨listed, (SchoolTables.cohort_roster_lists_each_once_iff ⟨by decide, by decide⟩
    learnerNames _ 1 1 1 1).mpr (fun _ => single) _ listed⟩

/-- A class with one learner, enrolled for the given terms. -/
def classOfOne (terms : List ℕ) : SchoolTables where
  academicYears := [⟨1, 1⟩]
  terms := terms.map fun term => ⟨term, 1, 1⟩
  gradeLevels := []
  learningAreas := [⟨1, 1, "MAT", "Mathematics", true⟩]
  cohorts := [⟨1, 1, 1, "Grade 7", "Blue", true⟩]
  students := [⟨1, 1, true⟩]
  enrollments := terms.map fun term => ⟨1, 1, 1, 1, term, true⟩
  assignments := [⟨1, 1, 1, 1, 1, 1, 1, true⟩]
  metadata := fun _ => []

/-- A learner enrolled for two terms of the year is listed twice. -/
theorem two_term_learner_is_listed_twice :
    (classOfOne [1, 2]).Keyed ∧
      (classOfOne [1, 2]).getCohortRoster (fun _ => ⟨"Amina", "Otieno", "A1"⟩)
        (fun _ _ => true) 1 1 1 1 =
        .ok [⟨1, ⟨"Amina", "Otieno", "A1"⟩⟩, ⟨1, ⟨"Amina", "Otieno", "A1"⟩⟩] ∧
      ¬ (classOfOne [1, 2]).ListsEachOnce 1 1
        [⟨1, ⟨"Amina", "Otieno", "A1"⟩⟩, ⟨1, ⟨"Amina", "Otieno", "A1"⟩⟩] := by
  refine ⟨⟨by decide, by decide⟩, by decide, fun lists => ?_⟩
  have once := lists.once 1 (by decide)
  revert once
  decide

end Darasa.Academics
