import Darasa.Grading.Marks
import Darasa.Grading.ReportRows

/-!
Bands in reports.

A report line takes its schema version from the assessment, and looks for the learner's
band there as well.  Bands are kept on records, so label and descriptor of every line are
blank.
-/

namespace Darasa.Grading

open Darasa (Json Machine Outcome Unicode requireSome)
open Darasa.Core (CustomUser)

/-- The calls that submit marks and correct them. -/
def MarksCall.marks : MarksCall → Bool
  | submit .. | createCorrection .. | reviewAsHod .. | escalate .. | reviewAsAcademicHead ..
  | applyCorrection .. => true
  | _ => false

/-- The assessment is bound to the schema, at its version. -/
structure BoundTo (id : ℕ) (schema : SchoolGradingSchema) (db : Database) : Prop where
  assessment : ∃ row, db.assessment? id = some row ∧ row.schoolGradingSchema = some schema.id ∧
    row.schoolGradingSchemaVersion = schema.versionLabel
  schema : db.schema? schema.id = some schema

/-- The band `map_score_to_band` returns for a learner's submitted score. -/
def Database.learnerBand (db : Database) (id student : ℕ) : Outcome BandMapping := do
  let assessment ← requireSome (db.assessment? id) "assessment" "Assessment is not available."
  let record ← requireSome ((db.submittedRecords assessment).find? (·.student == student))
    "student" "The learner has no record."
  mapScoreToBand record.rawScore assessment.maxScore
    (db.schemaBandsForAssessment assessment.tenant assessment)

/-- The learner's score has a band of this label and descriptor. -/
def HasBand (db : Database) (id student : ℕ) (label descriptor : String) : Prop :=
  (db.learnerBand id student).toOption.map (fun band => (band.bandLabel, band.bandDescriptor)) =
    some (label, descriptor)

instance {db : Database} {id student : ℕ} {label descriptor : String} :
    Decidable (HasBand db id student label descriptor) :=
  inferInstanceAs (Decidable (_ = some _))

/-- The lines of the assessment have the bands of the learners, and the schema's version. -/
def BandsSurvive (db : Database) (id : ℕ) (schema : SchoolGradingSchema)
    (lines : List ReportSubjectLineSnapshot) : Prop :=
  ∀ line ∈ lines, line.assessment = id →
    HasBand db id line.student line.internalBandLabel line.internalBandDescriptor ∧
      line.schoolGradingSchemaVersion = schema.versionLabel

instance {db : Database} {id : ℕ} {schema : SchoolGradingSchema}
    {lines : List ReportSubjectLineSnapshot} : Decidable (BandsSurvive db id schema lines) :=
  inferInstanceAs (Decidable (∀ line ∈ lines, _ → _ ∧ _))

section

variable [Unicode] {db db' : Database} {label : MarksCall} {id : ℕ}
  {schema : SchoolGradingSchema}

/-! ## The binding stands -/

/-- Marking changes no assessment, no schema and no band. -/
theorem marks_frame (marks : label.marks = true) (called : label.call db = .ok db') :
    db'.assessments = db.assessments ∧ db'.schemas = db.schemas ∧ db'.bands = db.bands := by
  cases label with
  | submit request =>
    obtain ⟨⟨reply, db''⟩, submitted, rfl⟩ := Outcome.map_ok called
    obtain ⟨key, assessment, assignment, rows, admitted, ⟨_, -, -, rfl⟩ | ⟨-, accepted⟩⟩ :=
      submit_ok.mp submitted
    · exact ⟨rfl, rfl, rfl⟩
    · have keyed : key.isEmpty = false := by
        obtain ⟨filled, rfl⟩ := admitted.isKey
        rw [← blank_iff_strip, filled]
      obtain ⟨records, -, effect, -⟩ := accept_ok keyed accepted
      rw [effect.result]
      exact ⟨rfl, rfl, rfl⟩
  | createCorrection actor tenant record payload =>
    obtain ⟨⟨reply, db''⟩, created, rfl⟩ := Outcome.map_ok called
    obtain ⟨record, entry, requested⟩ := create_correction_ok created
    rw [requested.result]
    exact ⟨rfl, rfl, rfl⟩
  | reviewAsHod actor tenant correction decision reason =>
    obtain ⟨⟨reply, db''⟩, reviewed, rfl⟩ := Outcome.map_ok called
    obtain ⟨before, entry, moved⟩ := review_as_hod_ok reviewed
    rw [moved.result]
    exact ⟨rfl, rfl, rfl⟩
  | escalate actor tenant correction reason =>
    obtain ⟨⟨reply, db''⟩, escalated, rfl⟩ := Outcome.map_ok called
    obtain ⟨before, entry, moved⟩ := escalate_ok escalated
    rw [moved.result]
    exact ⟨rfl, rfl, rfl⟩
  | reviewAsAcademicHead actor tenant correction decision reason =>
    obtain ⟨⟨reply, db''⟩, reviewed, rfl⟩ := Outcome.map_ok called
    obtain ⟨before, entry, moved⟩ := review_as_academic_head_ok reviewed
    rw [moved.result]
    exact ⟨rfl, rfl, rfl⟩
  | applyCorrection actor tenant correction =>
    obtain ⟨⟨reply, db''⟩, applied, rfl⟩ := Outcome.map_ok called
    obtain ⟨before, record, assessment, corrected, entry, -, effect⟩ := apply_ok applied
    rw [effect.result]
    exact ⟨rfl, rfl, rfl⟩
  | _ => cases marks

omit [Unicode] in
/-- A binding stands while assessments and schemas do. -/
theorem bound_of_same (bound : BoundTo id schema db) (assessments : db'.assessments = db.assessments)
    (schemas : db'.schemas = db.schemas) : BoundTo id schema db' := by
  obtain ⟨⟨row, found, ofRow⟩, there⟩ := bound
  constructor
  · refine ⟨row, ?_, ofRow⟩
    unfold Database.assessment? at found ⊢
    rw [assessments, found]
  · unfold Database.schema? at there ⊢
    rw [schemas, there]

/-- Marking keeps the binding, whatever is called and whatever is raised. -/
theorem marking_stays_bound {calls : List MarksCall} {marked : Database}
    (bound : BoundTo id schema db)
    (marking : marksMachine.Meets (fun _ call => call.marks = true) db calls)
    (ran : marksMachine.run db calls = some marked) : BoundTo id schema marked := by
  refine Machine.invariant_of_run ?_ bound marking ran
  intro db label db' bound marks stepped
  cases stepped
  rcases @next_cases _ db label with same | called
  · rw [same]
    exact bound
  · obtain ⟨assessments, schemas, -⟩ := marks_frame marks called
    exact bound_of_same bound assessments schemas

/-- What a compilation leaves alone. -/
theorem compile_frame {tenant : ℕ} {requestedBy : Option CustomUser} {run : CompilationRun}
    (compiles : compileAssessment db tenant id requestedBy = .ok (run, db')) :
    db' = { db with
      runs := db'.runs
      cohortSummaries := db'.cohortSummaries
      learnerSnapshots := db'.learnerSnapshots
      clock := db'.clock
      nextId := db'.nextId } := by
  obtain ⟨assessment, -, compiles⟩ := Outcome.bind_ok.mp compiles
  obtain ⟨user, -, compiles⟩ := Outcome.bind_ok.mp compiles
  obtain ⟨-, compiles⟩ := Outcome.check_ok.mp compiles
  unfold Database.compile at compiles
  obtain ⟨input, -, compiles⟩ := Outcome.bind_ok.mp compiles
  obtain ⟨missing, -, compiles⟩ := Outcome.bind_ok.mp compiles
  obtain ⟨invalid, -, compiles⟩ := Outcome.bind_ok.mp compiles
  obtain ⟨summary, -, compiles⟩ := Outcome.bind_ok.mp compiles
  obtain ⟨-, compiles⟩ := Outcome.check_ok.mp compiles
  obtain ⟨version, -, compiles⟩ := Outcome.bind_ok.mp compiles
  obtain ⟨snapshots, -, compiles⟩ := Outcome.bind_ok.mp compiles
  split at compiles
  next =>
    cases compiles
    rfl
  next => cases compiles

/-! ## The lines -/

variable {compiled : Database} {actor : CustomUser} {tenant academicYear term : ℕ}
  {filters : ReadinessFilters} {run : ReportSnapshotRun}
  {lines : List ReportSubjectLineSnapshot} {learners : List LearnerReportSnapshot}
  {aggregates : List AcademicAggregate}

/-- A report changes no band. -/
theorem report_keeps_bands {student : ℕ} {label descriptor : String}
    (reported : Reported compiled tenant academicYear term filters run lines learners aggregates
      db') :
    HasBand db' id student label descriptor ↔ HasBand compiled id student label descriptor := by
  rw [reported.frame]
  exact Iff.rfl

/-- A line carries the version its assessment is bound to. -/
theorem lines_carry_version (bound : BoundTo id schema compiled)
    (reported : Reported compiled tenant academicYear term filters run lines learners aggregates
      db') :
    ∀ line ∈ lines, line.assessment = id →
      line.schoolGradingSchemaVersion = schema.versionLabel := by
  intro line member ofAssessment
  obtain ⟨rows, -, ofLines, -⟩ := reported.source
  obtain ⟨row, -, ofRow, assessment, found, version⟩ := Table.source_of_mem ofLines member
  obtain ⟨row', found', -, ofSchema⟩ := bound.assessment
  rw [← ofRow.assessment, ofAssessment] at found
  cases found.symm.trans found'
  rw [version, ofSchema]

/-- Every line is blank, so that only blank bands are reported. -/
theorem lines_are_blank (bound : BoundTo id schema compiled)
    (reported : Reported compiled tenant academicYear term filters run lines learners aggregates
      db') :
    BandsSurvive db' id schema lines ↔
      ∀ row ∈ compiled.eligibleSnapshots tenant academicYear term filters, row.assessment = id →
        HasBand compiled id row.student "" "" := by
  obtain ⟨rows, same, ofLines, -⟩ := reported.source
  constructor
  · intro survive row eligible ofAssessment
    obtain ⟨line, member, ofRow, -⟩ := Table.source_of_mem (List.Forall₂.flip ofLines)
      (same.mem_iff.mpr eligible)
    have here := (survive line member (ofRow.assessment.trans ofAssessment)).1
    rw [ofRow.label, ofRow.descriptor, ofRow.student] at here
    exact (report_keeps_bands reported).mp here
  · intro blank line member ofAssessment
    refine ⟨?_, lines_carry_version bound reported line member ofAssessment⟩
    obtain ⟨row, eligible, ofRow, -⟩ := Table.source_of_mem ofLines member
    have ofId : row.assessment = id := ofRow.assessment.symm.trans ofAssessment
    rw [ofRow.label, ofRow.descriptor, ofRow.student]
    exact (report_keeps_bands reported).mpr (blank row (same.mem_iff.mp eligible) ofId)

/-- **When bands survive to the report.**  Whatever is submitted and corrected of an
assessment bound to a schema, once it is compiled and reported its lines carry the version
of the schema; they carry the learners' bands exactly when those are blank. -/
theorem bands_survive_iff {calls : List MarksCall} {marked : Database}
    {requestedBy : Option CustomUser} {compilation : CompilationRun}
    (bound : BoundTo id schema db)
    (marking : marksMachine.Meets (fun _ call => call.marks = true) db calls)
    (ran : marksMachine.run db calls = some marked)
    (compiles : compileAssessment marked tenant id requestedBy = .ok (compilation, compiled))
    (reports : createReportSnapshotRun compiled actor tenant academicYear term filters =
      .ok (run, db')) :
    ∃ lines, db'.subjectLines = compiled.subjectLines ++ lines ∧ BoundTo id schema db' ∧
      (∀ line ∈ lines, line.assessment = id →
        line.schoolGradingSchemaVersion = schema.versionLabel) ∧
      (BandsSurvive db' id schema lines ↔
        ∀ row ∈ compiled.eligibleSnapshots tenant academicYear term filters, row.assessment = id →
          HasBand compiled id row.student "" "") := by
  obtain ⟨lines, learners, aggregates, reported⟩ := create_report_ok reports
  have ofCompiled : BoundTo id schema compiled :=
    bound_of_same (marking_stays_bound bound marking ran) (by rw [compile_frame compiles])
      (by rw [compile_frame compiles])
  have ofReport : BoundTo id schema db' :=
    bound_of_same ofCompiled (by rw [reported.frame]) (by rw [reported.frame])
  exact ⟨lines, reported.subjectLines, ofReport, lines_carry_version ofCompiled reported,
    lines_are_blank ofCompiled reported⟩

end

section Sample

attribute [local instance] Unicode.ascii

/-- A schema of one band that covers everything. -/
def Sample.oneBand : List (String × Json) :=
  [("name", .str "Exams"), ("assessment_type", .str "exam"), ("version_label", .str "v1"),
    ("bands", .arr [.obj [("label", .str "A"), ("min_percentage", .int 0),
      ("max_percentage", .int 100)]])]

/-- The exam is bound to it. -/
def Sample.boundExam : Database :=
  [MarksCall.createSchema ⟨12, true⟩ 1 Sample.oneBand, .activateSchema ⟨12, true⟩ 1 0,
    .save Sample.exam, .bindSchema ⟨12, true⟩ 1 1 0].foldl MarksCall.next Sample.database

/-- The class is marked; a score is corrected. -/
def Sample.marking : List MarksCall :=
  [.submit Sample.classMarks,
    .createCorrection ⟨10, true⟩ 1 2 [("reason", .str "Recount"), ("proposed_raw_score", .int 90)],
    .reviewAsHod ⟨11, true⟩ 1 5 "approve" "Checked", .applyCorrection ⟨11, true⟩ 1 5]

def Sample.markedExam : Database := Sample.marking.foldl MarksCall.next Sample.boundExam

/-- The exam is compiled and reported. -/
def Sample.bandedReport : Outcome (CompilationRun × Database × ReportSnapshotRun × Database) := do
  let (compilation, compiled) ← compileAssessment Sample.markedExam 1 1 (some ⟨12, true⟩)
  let (run, reported) ← createReportSnapshotRun compiled ⟨12, true⟩ 1 1 1 []
  return (compilation, compiled, run, reported)

/-- The schema, as it was activated. -/
def Sample.exams : SchoolGradingSchema where
  id := 0
  tenant := 1
  name := "Exams"
  assessmentType := .exam
  versionLabel := "v1"
  status := .active
  requiresFullCoverage := true
  activatedBy := some 12
  activatedAt := some 102

private theorem Sample.exam_is_bound : BoundTo 1 Sample.exams Sample.boundExam :=
  ⟨⟨{ Sample.exam with
      curriculumBindingLockedAt := some 104
      schoolGradingSchema := some 0
      schoolGradingSchemaVersion := "v1"
      updatedAt := 106 }, by decide +kernel, rfl, rfl⟩, by decide +kernel⟩

private theorem Sample.band_facts :
    (Sample.bandedReport.toOption.any fun result =>
      decide (HasBand result.2.2.2 1 1 "A" "" ∧ ¬ BandsSurvive result.2.2.2 1 Sample.exams
        (result.2.2.2.reportLines 1 result.2.2.1.id))) = true ∧
    marksMachine.Meets (fun _ call => call.marks = true) Sample.boundExam Sample.marking := by
  decide +kernel

theorem Sample.bands_of_the_exam_survive_iff :
    ∃ compilation compiled run db lines,
      Sample.bandedReport = .ok (compilation, compiled, run, db) ∧
      db.subjectLines = compiled.subjectLines ++ lines ∧ BoundTo 1 Sample.exams db ∧
      (∀ line ∈ lines, line.assessment = 1 → line.schoolGradingSchemaVersion = "v1") ∧
      (BandsSurvive db 1 Sample.exams lines ↔
        ∀ row ∈ compiled.eligibleSnapshots 1 1 1 [], row.assessment = 1 →
          HasBand compiled 1 row.student "" "") := by
  obtain ⟨seen, marking⟩ := Sample.band_facts
  obtain ⟨⟨compilation, compiled, run, db⟩, reported, -⟩ := Outcome.ok_of_any seen
  obtain ⟨⟨compilation', compiled'⟩, compiles, rest⟩ := Outcome.bind_ok.mp reported
  obtain ⟨⟨run', db'⟩, reports, same⟩ := Outcome.bind_ok.mp rest
  cases same
  obtain ⟨lines, added, bound, versions, survive⟩ :=
    bands_survive_iff Sample.exam_is_bound marking rfl compiles reports
  exact ⟨compilation, compiled, run, db, lines, reported, added, bound, versions, survive⟩

/-- The corrected score has band A of an active schema; the line has none. -/
theorem Sample.band_of_the_exam_is_lost :
    BoundTo 1 Sample.exams Sample.boundExam ∧
      ∃ compilation compiled run db,
        Sample.bandedReport = .ok (compilation, compiled, run, db) ∧
        HasBand db 1 1 "A" "" ∧ ¬ BandsSurvive db 1 Sample.exams (db.reportLines 1 run.id) := by
  obtain ⟨⟨compilation, compiled, run, db⟩, reported, lost⟩ :=
    Outcome.ok_of_any Sample.band_facts.1
  exact ⟨Sample.exam_is_bound, compilation, compiled, run, db, reported, of_decide_eq_true lost⟩

end Sample

end Darasa.Grading
