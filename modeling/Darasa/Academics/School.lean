import Darasa.Core.Staff
import Darasa.Runtime.Json

/-!
The school's academic tables: years, terms, cohorts, learning areas, learners,
enrolments and teacher assignments.

Rows refer to each other by identifier.  `SchoolTables` changes only from outside
the grading services, which read it.
-/

namespace Darasa.Academics

/-- An `AcademicYear` row. -/
structure AcademicYear where
  id : ℕ
  tenant : ℕ
  deriving DecidableEq, Repr

/-- A `Term` row. -/
structure Term where
  id : ℕ
  tenant : ℕ
  academicYear : ℕ
  deriving DecidableEq, Repr

/-- A `GradeLevel` row. -/
structure GradeLevel where
  id : ℕ
  code : String
  name : String
  deriving DecidableEq, Repr

/-- A `LearningArea` row. -/
structure LearningArea where
  id : ℕ
  tenant : ℕ
  code : String
  name : String
  isActive : Bool
  deriving DecidableEq, Repr

/-- A `Cohort` row. -/
structure Cohort where
  id : ℕ
  tenant : ℕ
  gradeLevel : ℕ
  name : String
  streamLabel : String
  isActive : Bool
  deriving DecidableEq, Repr

/-- A `Student` row. -/
structure Student where
  id : ℕ
  tenant : ℕ
  isActive : Bool
  deriving DecidableEq, Repr

/-- An `Enrollment` row. -/
structure Enrollment where
  tenant : ℕ
  student : ℕ
  cohort : ℕ
  academicYear : ℕ
  term : ℕ
  isActive : Bool
  deriving DecidableEq, Repr

/-- A `TeacherAssignment` row. -/
structure TeacherAssignment where
  id : ℕ
  tenant : ℕ
  teacher : ℕ
  cohort : ℕ
  learningArea : ℕ
  academicYear : ℕ
  term : ℕ
  isActive : Bool
  deriving DecidableEq, Repr

/-- The academic tables, and the metadata of each school. -/
structure SchoolTables where
  academicYears : List AcademicYear
  terms : List Term
  gradeLevels : List GradeLevel
  learningAreas : List LearningArea
  cohorts : List Cohort
  students : List Student
  enrollments : List Enrollment
  assignments : List TeacherAssignment
  metadata : ℕ → List (String × Json)

/-- Where a class is taught a learning area: what an assessment and an assignment
have in common. -/
structure TeachingContext where
  cohort : ℕ
  learningArea : ℕ
  academicYear : ℕ
  term : ℕ
  deriving DecidableEq, Repr

/-- The context of an assignment. -/
def TeacherAssignment.context (assignment : TeacherAssignment) : TeachingContext :=
  ⟨assignment.cohort, assignment.learningArea, assignment.academicYear, assignment.term⟩

namespace SchoolTables

variable (t : SchoolTables)

def academicYear? (id : ℕ) : Option AcademicYear := t.academicYears.find? (·.id == id)

def term? (id : ℕ) : Option Term := t.terms.find? (·.id == id)

def gradeLevel? (id : ℕ) : Option GradeLevel := t.gradeLevels.find? (·.id == id)

def learningArea? (id : ℕ) : Option LearningArea := t.learningAreas.find? (·.id == id)

def cohort? (id : ℕ) : Option Cohort := t.cohorts.find? (·.id == id)

def student? (id : ℕ) : Option Student := t.students.find? (·.id == id)

def cohortIsActive (id : ℕ) : Bool := (t.cohort? id).any Cohort.isActive

def learningAreaIsActive (id : ℕ) : Bool := (t.learningArea? id).any LearningArea.isActive

/-- The learner has an active enrolment of the tenant in the cohort. -/
def enrolled (tenant student cohort academicYear term : ℕ) : Bool :=
  t.enrollments.any fun row =>
    row.tenant == tenant && row.student == student && row.cohort == cohort &&
      row.academicYear == academicYear && row.term == term && row.isActive

/-- `get_roster_for_assessment`: the active learners of the tenant enrolled in the
cohort, each once.  Its callers here read it as a set. -/
def roster (tenant cohort academicYear term : ℕ) : List ℕ :=
  ((t.students.filter fun student =>
    student.tenant == tenant && student.isActive &&
      t.enrolled tenant student.id cohort academicYear term).map Student.id).dedup

/-- A teacher has an active assignment to the context, as the teacher's selectors
join it. -/
def teaches (teacher : ℕ) (context : TeachingContext) : Bool :=
  t.assignments.any fun row =>
    row.teacher == teacher && row.context == context && row.isActive

/-- The teacher's active assignment of the tenant to the context, while its
cohort and learning area are active. -/
def assignmentFor (tenant teacher : ℕ) (context : TeachingContext) : Option TeacherAssignment :=
  t.assignments.find? fun row =>
    row.tenant == tenant && row.teacher == teacher && row.context == context &&
      row.isActive && t.cohortIsActive row.cohort && t.learningAreaIsActive row.learningArea

end SchoolTables

end Darasa.Academics
