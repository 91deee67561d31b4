import Darasa.Grading.Reports
import Darasa.Grading.Resubmission
import Darasa.Runtime.Exactness

/-!
The rows of a report.

One line is written for each complete snapshot of an eligible compilation and one row for
each learner with a line; the row's numbers are those of the learner's lines, exactly.
-/

namespace Darasa.Grading

open Darasa (Decimal Json Outcome Unicode cleanDigits refuseIf requireSome)
open Darasa.Core (CustomUser)

/-! ## Keys -/

theorem mem_sorted_keys {ids : List ℕ} {id : ℕ} : id ∈ sortedKeys ids ↔ id ∈ ids := by
  unfold sortedKeys
  rw [List.mem_insertionSort, List.mem_dedup]

theorem nodup_sorted_keys {ids : List ℕ} : (sortedKeys ids).Nodup :=
  (List.perm_insertionSort _ _).nodup_iff.mpr (List.nodup_dedup ids)

/-! ## Numbers -/

/-- The mean of numbers, rounded half up. -/
def exactMean (values : List ℕ) : ℕ := ⌊(values.sum : ℚ) / values.length + 1 / 2⌋₊

/-- A total that fits is the exact sum. -/
theorem quantized_sum {values : List ℕ} {total : Decimal} {hundredths : ℕ}
    (summed : sumDecimals (values.map fun (value : ℕ) => .ofHundredths value) = .ok total)
    (quantized : quantize total = .ok hundredths) : hundredths = values.sum := by
  obtain ⟨total', summed', totals⟩ := Decimal.sum_totals Decimal.totals_zero values
  cases summed.symm.trans summed'
  rw [Nat.zero_add] at totals
  unfold quantize at quantized
  split at quantized
  next => cases quantized
  next fits =>
    cases quantized
    exact Decimal.totals_hundredths totals (not_le.mp fits)

/-- A mean in range is the exact mean, rounded half up. -/
theorem mean_of_ok {values : List ℕ} {mean : ℕ} (returned : meanOf values = .ok mean)
    (some : values ≠ []) (few : values.length < 5 * 10 ^ 10) (small : mean < 10 ^ 15) :
    mean = exactMean values := by
  unfold meanOf at returned
  rw [if_neg (by simpa using some)] at returned
  obtain ⟨total, summed, returned⟩ := Outcome.bind_ok.mp returned
  obtain ⟨quotient, divided, quantized⟩ := Outcome.bind_ok.mp returned
  obtain ⟨total', summed', totals⟩ := Decimal.sum_totals Decimal.totals_zero values
  cases summed.symm.trans summed'
  rw [Nat.zero_add] at totals
  unfold quantize at quantized
  split at quantized
  next => cases quantized
  next fits =>
    cases quantized
    exact Decimal.mean_hundredths totals (List.length_pos_of_ne_nil some) few divided small

/-! ## Lines and learners -/

/-- A line repeats its source row. -/
structure ReportSubjectLineSnapshot.Of (line : ReportSubjectLineSnapshot) (tenant run : ℕ)
    (row : CompiledLearnerSnapshot) : Prop where
  ofTenant : line.tenant = tenant
  ofRun : line.snapshotRun = run
  compiledLearnerSnapshot : line.compiledLearnerSnapshot = row.id
  compilationRun : line.compilationRun = row.compilationRun
  assessment : line.assessment = row.assessment
  student : line.student = row.student
  cohort : line.cohort = row.cohort
  learningArea : line.learningArea = row.learningArea
  scoreSummary : line.scoreSummary = row.scoreSummary
  componentSummary : line.componentSummary = row.componentSummary
  status : line.status = row.status
  label : line.internalBandLabel = ""
  descriptor : line.internalBandDescriptor = ""

/-- A learner's row sums up what it is computed from: runs and score summaries. -/
structure LearnerReportSnapshot.SumsUp (report : LearnerReportSnapshot)
    (facts : List (ℕ × ScoreSummary)) : Prop where
  some : facts ≠ []
  subjectCount : report.subjectCount = facts.length
  totalScore : report.totalScore = (facts.map (·.2.rawScore)).sum
  averagePercentage : report.averagePercentage = exactMean (facts.map (·.2.percentage))
  distinctRuns : report.sourceCompilationRunIds.Nodup
  runs : ∀ id, id ∈ report.sourceCompilationRunIds ↔ id ∈ facts.map (·.1)

/-- A learner's row, as it is created of the learner's source rows. -/
structure LearnerReportSnapshot.Of (report : LearnerReportSnapshot) (tenant run : ℕ)
    (rows : List CompiledLearnerSnapshot) (student : ℕ) : Prop where
  ofTenant : report.tenant = tenant
  ofRun : report.snapshotRun = run
  ofStudent : report.student = student
  sumsUp : report.SumsUp ((rows.filter (·.student == student)).map fun row =>
    (row.compilationRun, row.scoreSummary))

section

variable {db db' : Database} {run : ReportSnapshotRun} {rows : List CompiledLearnerSnapshot}
  {row : CompiledLearnerSnapshot} {student : ℕ} {report : LearnerReportSnapshot}

/-- The lines of rows are about those rows. -/
theorem lines_snapshot {own : List CompiledLearnerSnapshot} {assessments : List Assessment}
    (found : List.Forall₂ (fun row assessment => db.assessmentOfSnapshot row = .ok assessment) own
      assessments) :
    (List.zipWith buildSubjectLinePayload own assessments).map (·.snapshot) = own := by
  induction found with
  | nil => rfl
  | cons here rest ih => exact congrArg (_ :: ·) ih

theorem count_ok {field : String} {count : ℕ} (fits : cleanCount field count = .ok ()) :
    count ≤ 2147483647 := by
  simpa [cleanCount] using fits

theorem digits_ok {field : String} {digits hundredths : ℕ}
    (fits : cleanDigits field digits hundredths = .ok ()) : hundredths < 10 ^ digits := by
  simpa [cleanDigits] using fits

/-- The payload of lines, once it fits its columns. -/
theorem payload_sums_up {base : LearnerReportSnapshot} {lines : List SubjectLine}
    {readinessStatus : String}
    (built : buildLearnerSnapshotPayload base lines readinessStatus = .ok report)
    (valid : report.validate db = .ok ()) (some : lines ≠ []) :
    report.SumsUp (lines.map fun line =>
      (line.snapshot.compilationRun, line.snapshot.scoreSummary)) := by
  obtain ⟨average, averaged, built⟩ := Outcome.bind_ok.mp built
  obtain ⟨total, summed, built⟩ := Outcome.bind_ok.mp built
  obtain ⟨hundredths, quantized, built⟩ := Outcome.bind_ok.mp built
  cases built
  obtain ⟨count, valid⟩ := Outcome.check_ok.mp valid
  obtain ⟨-, valid⟩ := Outcome.check_ok.mp valid
  obtain ⟨digits, -⟩ := Outcome.check_ok.mp valid
  have few := count_ok count
  have small := digits_ok digits
  have summed' : sumDecimals ((lines.map (·.snapshot.scoreSummary.rawScore)).map
      fun (value : ℕ) => .ofHundredths value) = .ok total := by
    rw [List.map_map]
    exact summed
  refine ⟨by simpa using some, by simp, ?_, ?_, nodup_sorted_keys, fun id => ?_⟩
  · rw [quantized_sum summed' quantized, List.map_map]
    rfl
  · simp only at few small
    rw [mean_of_ok averaged (by simpa using some) (by rw [List.length_map]; omega) (by omega),
      List.map_map]
    rfl
  · rw [mem_sorted_keys, List.map_map]
    rfl

/-- What creating a learner's row does. -/
theorem create_learner_report_ok (created : db.createLearnerReport run rows student = .ok db') :
    ∃ report, report.Of run.tenant run.id rows student ∧
      db' = { db with
        learnerReports := db.learnerReports ++ [report]
        nextId := db.nextId + 1 } := by
  obtain ⟨report, built, created⟩ := Outcome.bind_ok.mp created
  obtain ⟨valid, created⟩ := Outcome.check_ok.mp created
  cases created
  obtain ⟨assessments, found, built⟩ := Outcome.bind_ok.mp built
  obtain ⟨first, head, built⟩ := Outcome.bind_ok.mp built
  have snapshots := lines_snapshot (Outcome.mapM_ok found)
  generalize linesAre : List.zipWith buildSubjectLinePayload (rows.filter (·.student == student))
    assessments = lines at built snapshots
  have some : lines ≠ [] := by
    rintro rfl
    rw [List.map_nil] at snapshots
    rw [← snapshots] at head
    simp at head
  have sumsUp := payload_sums_up built valid some
  have facts : (lines.map fun line =>
      (line.snapshot.compilationRun, line.snapshot.scoreSummary)) =
      (rows.filter (·.student == student)).map fun row =>
        (row.compilationRun, row.scoreSummary) := by
    rw [← snapshots, List.map_map]
    rfl
  rw [facts] at sumsUp
  refine ⟨report, ⟨?_, ?_, ?_, sumsUp⟩, rfl⟩
  all_goals
    obtain ⟨average, -, built⟩ := Outcome.bind_ok.mp built
    obtain ⟨total, -, built⟩ := Outcome.bind_ok.mp built
    obtain ⟨hundredths, -, built⟩ := Outcome.bind_ok.mp built
    cases built
    rfl

/-- The learners' rows are created one after the other. -/
theorem create_learner_reports_ok {students : List ℕ}
    (created : students.foldlM (fun db student => db.createLearnerReport run rows student) db =
      .ok db') :
    ∃ reports,
      List.Forall₂ (fun student report =>
        LearnerReportSnapshot.Of report run.tenant run.id rows student) students reports ∧
      db' = { db with
        learnerReports := db.learnerReports ++ reports
        nextId := db.nextId + reports.length } := by
  induction students generalizing db with
  | nil =>
    cases created
    exact ⟨[], .nil, by simp⟩
  | cons student students ih =>
    rw [List.foldlM_cons] at created
    obtain ⟨db₁, first, rest⟩ := Outcome.bind_ok.mp created
    obtain ⟨report, here, rfl⟩ := create_learner_report_ok first
    obtain ⟨reports, there, rfl⟩ := ih rest
    refine ⟨report :: reports, .cons here there, ?_⟩
    simp only [List.append_assoc, List.singleton_append, List.length_cons, Nat.add_assoc,
      Nat.add_comm 1]

/-- What creating a line does. -/
theorem create_subject_line_ok (created : db.createSubjectLine run row = .ok db') :
    ∃ line, line.Of run.tenant run.id row ∧
      (∃ assessment, db.assessment? row.assessment = some assessment ∧
        line.schoolGradingSchemaVersion = assessment.schoolGradingSchemaVersion) ∧
      db' = { db with subjectLines := db.subjectLines ++ [line], nextId := db.nextId + 1 } := by
  obtain ⟨assessment, found, created⟩ := Outcome.bind_ok.mp created
  obtain ⟨learner, -, created⟩ := Outcome.bind_ok.mp created
  obtain ⟨-, created⟩ := Outcome.check_ok.mp created
  cases created
  refine ⟨_, ⟨rfl, rfl, rfl, rfl, rfl, rfl, rfl, rfl, rfl, rfl, rfl, rfl, rfl⟩,
    ⟨assessment, ?_, rfl⟩, rfl⟩
  unfold Database.assessmentOfSnapshot at found
  split at found
  next here =>
    cases found
    exact here
  next => cases found

/-- The lines are created one after the other. -/
theorem create_subject_lines_ok
    (created : rows.foldlM (fun db row => db.createSubjectLine run row) db = .ok db') :
    ∃ lines, List.Forall₂ (fun row line => ReportSubjectLineSnapshot.Of line run.tenant run.id row ∧
        ∃ assessment, db.assessment? row.assessment = some assessment ∧
          line.schoolGradingSchemaVersion = assessment.schoolGradingSchemaVersion) rows lines ∧
      db' = { db with
        subjectLines := db.subjectLines ++ lines
        nextId := db.nextId + lines.length } := by
  induction rows generalizing db with
  | nil =>
    cases created
    exact ⟨[], .nil, by simp⟩
  | cons row rows ih =>
    rw [List.foldlM_cons] at created
    obtain ⟨db₁, first, rest⟩ := Outcome.bind_ok.mp created
    obtain ⟨line, here, version, rfl⟩ := create_subject_line_ok first
    obtain ⟨lines, there, rfl⟩ := ih rest
    refine ⟨line :: lines, .cons ⟨here, version⟩ there, ?_⟩
    simp only [List.append_assoc, List.singleton_append, List.length_cons, Nat.add_assoc,
      Nat.add_comm 1]

/-! ## Aggregates -/

/-- An aggregate of the percentages it counts. -/
structure AcademicAggregate.Of (aggregate : AcademicAggregate) (tenant run : ℕ)
    (scopeType : ScopeType) (cohort learningArea : Option ℕ) (percentages : List ℕ) : Prop where
  ofTenant : aggregate.tenant = tenant
  ofRun : aggregate.snapshotRun = run
  ofScope : aggregate.scopeType = scopeType
  ofCohort : aggregate.cohort = cohort
  ofArea : aggregate.learningArea = learningArea
  count : aggregate.metrics.learnerCount = percentages.length
  minimum : aggregate.metrics.minimumGroupSize = 3
  met : aggregate.metrics.minGroupSizeMet = decide (3 ≤ percentages.length)
  flag : aggregate.minGroupSizeMet = decide (3 ≤ percentages.length)

/-- The tables with aggregates appended. -/
def Database.withAggregates (db : Database) (aggregates : List AcademicAggregate) : Database :=
  { db with aggregates := db.aggregates ++ aggregates, nextId := db.nextId + aggregates.length }

theorem with_aggregates_append {first rest : List AcademicAggregate} :
    (db.withAggregates first).withAggregates rest = db.withAggregates (first ++ rest) := by
  simp only [Database.withAggregates, List.append_assoc, List.length_append, Nat.add_assoc]

/-- What creating an aggregate does. -/
theorem create_aggregate_ok {scopeType : ScopeType} {percentages : List ℕ}
    {cohort : Option Academics.Cohort} {learningArea : Option ℕ}
    {streamLabel departmentKey : String}
    (created : db.createAggregate run scopeType percentages cohort learningArea streamLabel
      departmentKey = .ok db') :
    ∃ aggregate : AcademicAggregate,
      aggregate.Of run.tenant run.id scopeType (cohort.map (·.id)) learningArea percentages ∧
      db' = db.withAggregates [aggregate] := by
  obtain ⟨metrics, built, created⟩ := Outcome.bind_ok.mp created
  obtain ⟨-, created⟩ := Outcome.check_ok.mp created
  cases created
  obtain ⟨mean, -, built⟩ := Outcome.bind_ok.mp built
  cases built
  exact ⟨_, ⟨rfl, rfl, rfl, rfl, rfl, rfl, rfl, rfl, rfl⟩, rfl⟩

/-- The two aggregates of a scope, over the same percentages. -/
def IsPair (tenant run : ℕ) (first second : ScopeType) (cohort learningArea : Option ℕ)
    (percentages : List ℕ) (pair : List AcademicAggregate) : Prop :=
  ∃ one two : AcademicAggregate, pair = [one, two] ∧
    one.Of tenant run first cohort learningArea percentages ∧
    two.Of tenant run second cohort learningArea percentages

theorem create_cohort_aggregates_ok {learners : List LearnerReportSnapshot} {cohortId : ℕ}
    (created : db.createCohortAggregates run learners cohortId = .ok db') :
    ∃ pair, IsPair run.tenant run.id .cohort .stream (some cohortId) none
        ((learners.filter (·.cohort == cohortId)).map (·.averagePercentage)) pair ∧
      db' = db.withAggregates pair := by
  obtain ⟨cohort, found, created⟩ := Outcome.bind_ok.mp created
  obtain ⟨db₁, first, second⟩ := Outcome.bind_ok.mp created
  obtain ⟨one, oneOf, rfl⟩ := create_aggregate_ok first
  obtain ⟨two, twoOf, rfl⟩ := create_aggregate_ok second
  have here : cohort.id = cohortId := by
    simpa using List.find?_some (requireSome_ok.mp found)
  rw [Option.map_some, here] at oneOf twoOf
  exact ⟨[one, two], ⟨one, two, rfl, oneOf, twoOf⟩, with_aggregates_append⟩

theorem create_area_aggregates_ok {lines : List ReportSubjectLineSnapshot} {areaId : ℕ}
    (created : db.createAreaAggregates run lines areaId = .ok db') :
    ∃ pair, IsPair run.tenant run.id .subject .department none (some areaId)
        ((lines.filter (·.learningArea == areaId)).map (·.scoreSummary.percentage)) pair ∧
      db' = db.withAggregates pair := by
  obtain ⟨area, -, created⟩ := Outcome.bind_ok.mp created
  obtain ⟨db₁, first, second⟩ := Outcome.bind_ok.mp created
  obtain ⟨one, oneOf, rfl⟩ := create_aggregate_ok first
  obtain ⟨two, twoOf, rfl⟩ := create_aggregate_ok second
  exact ⟨[one, two], ⟨one, two, rfl, oneOf, twoOf⟩, with_aggregates_append⟩

/-- Groups of aggregates created one after the other. -/
theorem create_groups_ok {create : Database → ℕ → Outcome Database}
    {isGroup : ℕ → List AcademicAggregate → Prop} {keys : List ℕ}
    (each : ∀ db db' key, create db key = .ok db' →
      ∃ group, isGroup key group ∧ db' = db.withAggregates group)
    (created : keys.foldlM create db = .ok db') :
    ∃ groups, List.Forall₂ isGroup keys groups ∧ db' = db.withAggregates groups.flatten := by
  induction keys generalizing db with
  | nil =>
    cases created
    exact ⟨[], .nil, by simp [Database.withAggregates]⟩
  | cons key keys ih =>
    rw [List.foldlM_cons] at created
    obtain ⟨db₁, first, rest⟩ := Outcome.bind_ok.mp created
    obtain ⟨group, here, rfl⟩ := each db db₁ key first
    obtain ⟨groups, there, rfl⟩ := ih rest
    exact ⟨group :: groups, .cons here there, with_aggregates_append⟩

/-- The aggregates of a run, as they are created of its learners and lines. -/
structure Aggregated (tenant run : ℕ) (learners : List LearnerReportSnapshot)
    (lines : List ReportSubjectLineSnapshot) (school : AcademicAggregate)
    (cohorts areas : List (List AcademicAggregate)) : Prop where
  ofSchool : school.Of tenant run .school none none (learners.map (·.averagePercentage))
  ofCohorts : List.Forall₂ (fun cohortId pair =>
    IsPair tenant run .cohort .stream (some cohortId) none
      ((learners.filter (·.cohort == cohortId)).map (·.averagePercentage)) pair)
    (sortedKeys (learners.map (·.cohort))) cohorts
  ofAreas : List.Forall₂ (fun areaId pair =>
    IsPair tenant run .subject .department none (some areaId)
      ((lines.filter (·.learningArea == areaId)).map (·.scoreSummary.percentage)) pair)
    (sortedKeys (lines.map (·.learningArea))) areas

/-- What `compute_report_snapshot_aggregates` does. -/
theorem compute_aggregates_ok (computed : db.computeReportSnapshotAggregates run = .ok db') :
    ∃ school cohorts areas,
      Aggregated run.tenant run.id (db.reportLearners run.tenant run.id)
        (db.reportLines run.tenant run.id) school cohorts areas ∧
      db' = db.withAggregates (school :: (cohorts.flatten ++ areas.flatten)) := by
  obtain ⟨db₁, first, computed⟩ := Outcome.bind_ok.mp computed
  obtain ⟨db₂, second, third⟩ := Outcome.bind_ok.mp computed
  obtain ⟨school, ofSchool, rfl⟩ := create_aggregate_ok first
  obtain ⟨cohorts, ofCohorts, rfl⟩ :=
    create_groups_ok (fun _ _ _ created => create_cohort_aggregates_ok created) second
  obtain ⟨areas, ofAreas, rfl⟩ :=
    create_groups_ok (fun _ _ _ created => create_area_aggregates_ok created) third
  refine ⟨school, cohorts, areas, ⟨ofSchool, ofCohorts, ofAreas⟩, ?_⟩
  rw [with_aggregates_append, with_aggregates_append]
  rfl

end

/-! ## The run -/

/-- The compilation is the latest of an assessment of the report found eligible. -/
def EligibleRun [Unicode] (db : Database) (assessments : List Assessment) (compilation : ℕ) :
    Prop :=
  ∃ assessment ∈ assessments,
    (evaluateReportEligibility (db.assessmentReadiness assessment)).eligible = true ∧
    (db.assessmentReadiness assessment).compilationRun = some compilation

instance [Unicode] {db : Database} {assessments : List Assessment} {compilation : ℕ} :
    Decidable (EligibleRun db assessments compilation) :=
  inferInstanceAs (Decidable (∃ assessment ∈ assessments, _ ∧ _))

section

variable [Unicode] {db db' : Database} {actor : CustomUser} {tenant academicYear term : ℕ}
  {filters : ReadinessFilters} {run : ReportSnapshotRun}

/-- The complete snapshots of the tenant in eligible compilations. -/
def Database.eligibleSnapshots (db : Database) (tenant academicYear term : ℕ)
    (filters : ReadinessFilters) : List CompiledLearnerSnapshot :=
  db.learnerSnapshots.filter fun row =>
    row.tenant == tenant && row.status == .complete &&
      EligibleRun db (db.academicHeadReadinessScope tenant academicYear term filters)
        row.compilationRun

theorem eligibility_results {started : Database} {assessments : List Assessment}
    {created : List (EligibilityResult × ReportEligibilityRecord)}
    (each : List.Forall₂ (fun assessment pair =>
      started.createEligibilityRecord run assessment = .ok pair) assessments created) :
    created.map (·.1) = assessments.map fun assessment =>
      evaluateReportEligibility (started.assessmentReadiness assessment) := by
  induction each with
  | nil => rfl
  | cons here rest ih =>
    obtain ⟨-, here⟩ := Outcome.check_ok.mp here
    rw [List.map_cons, List.map_cons, ih, ← Except.ok.inj here]

/-- What the records of eligibility are. -/
theorem create_eligibility_ok {started : Database} {assessments : List Assessment}
    {results : List EligibilityResult}
    (created : started.createEligibilityRecords run assessments = .ok (results, db')) :
    results = assessments.map (fun assessment =>
        evaluateReportEligibility (started.assessmentReadiness assessment)) ∧
      ∃ records, db' = { started with eligibility := started.eligibility ++ records } := by
  obtain ⟨pairs, each, created⟩ := Outcome.bind_ok.mp created
  cases created
  exact ⟨eligibility_results (Outcome.mapM_ok each), _, rfl⟩

omit [Unicode] in
theorem mem_eligible_ids {results : List EligibilityResult} {compilation : ℕ} :
    compilation ∈ eligibleCompilationIds results ↔
      ∃ result ∈ results, result.eligible = true ∧ result.compilationRun = some compilation := by
  simp [eligibleCompilationIds, List.mem_dedup, List.mem_filterMap]

/-- What a report run is made of. -/
structure Reported (db : Database) (tenant academicYear term : ℕ) (filters : ReadinessFilters)
    (run : ReportSnapshotRun) (lines : List ReportSubjectLineSnapshot)
    (learners : List LearnerReportSnapshot) (aggregates : List AcademicAggregate)
    (db' : Database) : Prop where
  id : run.id = db.nextId
  ofTenant : run.tenant = tenant
  source : ∃ rows : List CompiledLearnerSnapshot,
    rows.Perm (db.eligibleSnapshots tenant academicYear term filters) ∧
    List.Forall₂ (fun row line => ReportSubjectLineSnapshot.Of line run.tenant run.id row ∧
      ∃ assessment, db.assessment? row.assessment = some assessment ∧
        line.schoolGradingSchemaVersion = assessment.schoolGradingSchemaVersion) rows lines ∧
    List.Forall₂ (fun student report => LearnerReportSnapshot.Of report run.tenant run.id rows
        student)
      (sortedKeys (rows.map (·.student))) learners
  subjectLines : db'.subjectLines = db.subjectLines ++ lines
  learnerReports : db'.learnerReports = db.learnerReports ++ learners
  aggregates : db'.aggregates = db.aggregates ++ aggregates
  frame : db' = { db with
    eligibility := db'.eligibility
    subjectLines := db'.subjectLines
    learnerReports := db'.learnerReports
    aggregates := db'.aggregates
    reportRuns := db'.reportRuns
    clock := db'.clock
    nextId := db'.nextId }

/-- What `create_report_snapshot_run` does. -/
theorem create_report_ok
    (created : createReportSnapshotRun db actor tenant academicYear term filters = .ok (run, db')) :
    ∃ lines learners aggregates,
      Reported db tenant academicYear term filters run lines learners aggregates db' := by
  obtain ⟨-, created⟩ := Outcome.check_ok.mp created
  obtain ⟨-, created⟩ := Outcome.check_ok.mp created
  obtain ⟨⟨results, recorded⟩, eligibility, created⟩ := Outcome.bind_ok.mp created
  obtain ⟨snapshots, built, created⟩ := Outcome.bind_ok.mp created
  obtain ⟨aggregated, computed, created⟩ := Outcome.bind_ok.mp created
  obtain ⟨-, created⟩ := Outcome.check_ok.mp created
  cases created
  obtain ⟨resultsAre, records, rfl⟩ := create_eligibility_ok eligibility
  obtain ⟨withLearners, learned, lined⟩ := Outcome.bind_ok.mp built
  obtain ⟨learners, ofLearners, rfl⟩ := create_learner_reports_ok learned
  obtain ⟨lines, ofLines, rfl⟩ := create_subject_lines_ok lined
  obtain ⟨school, cohorts, areas, -, rfl⟩ := compute_aggregates_ok computed
  refine ⟨lines, learners, _, rfl, rfl, ⟨_, ?_, ofLines, ofLearners⟩, rfl, rfl, rfl, rfl⟩
  refine (List.perm_insertionSort _ _).trans (List.Perm.of_eq ?_)
  refine List.filter_congr fun row _ => ?_
  have eligible : (eligibleCompilationIds results).contains row.compilationRun =
      decide (EligibleRun db (db.academicHeadReadinessScope tenant academicYear term filters)
        row.compilationRun) := by
    rw [Bool.eq_iff_iff, decide_eq_true_eq, List.contains_iff_mem, mem_eligible_ids, resultsAre]
    simp only [List.mem_map, exists_exists_and_eq_and]
    rfl
  rw [eligible]
  simp only [Bool.and_assoc, Bool.and_comm (row.status == _)]

omit [Unicode] in
/-- Lines carry the facts of the rows they were written of. -/
theorem lines_facts {rows : List CompiledLearnerSnapshot} {lines : List ReportSubjectLineSnapshot}
    {runId : ℕ}
    (each : List.Forall₂ (fun row line => ReportSubjectLineSnapshot.Of line tenant runId row) rows
      lines) :
    (lines.map fun line => (line.student, line.compilationRun, line.scoreSummary)) =
      rows.map fun row => (row.student, row.compilationRun, row.scoreSummary) := by
  induction each with
  | nil => rfl
  | cons here rest ih =>
    rw [List.map_cons, List.map_cons, ih, here.student, here.compilationRun, here.scoreSummary]

omit [Unicode] in
theorem learners_students {rows : List CompiledLearnerSnapshot} {students : List ℕ}
    {learners : List LearnerReportSnapshot} {runId : ℕ}
    (each : List.Forall₂ (fun student report =>
      LearnerReportSnapshot.Of report tenant runId rows student) students learners) :
    learners.map (·.student) = students := by
  induction each with
  | nil => rfl
  | cons here rest ih => rw [List.map_cons, ih, here.ofStudent]

omit [Unicode] in
theorem facts_of_student {rows : List CompiledLearnerSnapshot}
    {lines : List ReportSubjectLineSnapshot} {student : ℕ}
    (same : (lines.map fun line => (line.student, line.compilationRun, line.scoreSummary)) =
      rows.map fun row => (row.student, row.compilationRun, row.scoreSummary)) :
    ((rows.filter (·.student == student)).map fun row => (row.compilationRun, row.scoreSummary)) =
      (lines.filter (·.student == student)).map fun line =>
        (line.compilationRun, line.scoreSummary) := by
  have filtered := congrArg (fun facts => (facts.filter (·.1 == student)).map (·.2)) same
  simp only [List.filter_map, List.map_map] at filtered
  exact filtered.symm

/-- What a report says of the compilations it was made of. -/
structure ReportConserved (db : Database) (tenant academicYear term : ℕ)
    (filters : ReadinessFilters) (run : ℕ) (lines : List ReportSubjectLineSnapshot)
    (learners : List LearnerReportSnapshot) : Prop where
  /-- One line for each complete snapshot of an eligible compilation. -/
  sources : ∃ rows : List CompiledLearnerSnapshot,
    rows.Perm (db.eligibleSnapshots tenant academicYear term filters) ∧
    List.Forall₂ (fun row line => ReportSubjectLineSnapshot.Of line tenant run row) rows lines
  /-- One row for each learner with a line. -/
  distinct : (learners.map (·.student)).Nodup
  students : ∀ student, student ∈ learners.map (·.student) ↔ student ∈ lines.map (·.student)
  /-- The numbers of the row are those of the learner's lines. -/
  sumsUp : ∀ report ∈ learners, report.tenant = tenant ∧ report.snapshotRun = run ∧
    report.SumsUp ((lines.filter (·.student == report.student)).map fun line =>
      (line.compilationRun, line.scoreSummary))

/-- **Reports conserve what was compiled.**  Whatever the tables hold, a report that is
created adds one line for each complete snapshot of an eligible compilation, and one row
for each learner with a line, with the exact numbers of the learner's lines. -/
theorem report_is_conserved
    (created : createReportSnapshotRun db actor tenant academicYear term filters = .ok (run, db')) :
    ∃ lines learners, db'.subjectLines = db.subjectLines ++ lines ∧
      db'.learnerReports = db.learnerReports ++ learners ∧
      ReportConserved db tenant academicYear term filters run.id lines learners := by
  obtain ⟨lines, learners, aggregates, reported⟩ := create_report_ok created
  obtain ⟨rows, same, ofLines, ofLearners⟩ := reported.source
  rw [reported.ofTenant] at ofLines ofLearners
  have ofRows := ofLines.imp fun _ _ line => line.1
  have facts := lines_facts ofRows
  have students := learners_students ofLearners
  refine ⟨lines, learners, reported.subjectLines, reported.learnerReports,
    ⟨rows, same, ofRows⟩, ?_, fun student => ?_, fun report member => ?_⟩
  · rw [students]
    exact nodup_sorted_keys
  · have lineStudents := congrArg (List.map Prod.fst) facts
    rw [List.map_map, List.map_map] at lineStudents
    rw [students, mem_sorted_keys]
    exact iff_of_eq (congrArg (student ∈ ·) lineStudents.symm)
  · obtain ⟨student, -, ofReport⟩ := Table.source_of_mem ofLearners member
    obtain rfl := ofReport.ofStudent
    rw [← facts_of_student facts]
    exact ⟨ofReport.ofTenant, ofReport.ofRun, ofReport.sumsUp⟩

end

section Sample

attribute [local instance] Unicode.ascii

/-- The marks of the whole class. -/
def Sample.classMarks : SubmitRequest :=
  { Sample.marks with
    payload := [("rows", .arr ([(1, "80"), (2, "55.5"), (3, "61.25")].map fun row =>
      .obj [("student_id", .str (uuidText row.1)), ("raw_score", .str row.2)]))] }

/-- The exam is opened, marked and compiled. -/
def Sample.compiled : Database :=
  let marked := (SubmissionStep.submit classMarks).next (Sample.database.store Sample.exam)
  match compileAssessment marked 1 1 (some ⟨12, true⟩) with
  | .ok (_, db) => db
  | .error _ => marked

/-- A report of the term. -/
def Sample.report : Outcome (ReportSnapshotRun × Database) :=
  createReportSnapshotRun Sample.compiled ⟨12, true⟩ 1 1 1 []

/-- Its three learners each have a line and a row. -/
theorem Sample.report_conserves_the_exam :
    ∃ run db lines learners, Sample.report = .ok (run, db) ∧
      db.subjectLines = Sample.compiled.subjectLines ++ lines ∧ lines.length = 3 ∧
      db.learnerReports = Sample.compiled.learnerReports ++ learners ∧ learners.length = 3 ∧
      ReportConserved Sample.compiled 1 1 1 [] run.id lines learners := by
  obtain ⟨⟨run, db⟩, created, counts⟩ := Outcome.ok_of_any (x := Sample.report)
    (p := fun result => decide (result.2.subjectLines.length = 3 ∧
      result.2.learnerReports.length = 3)) (by decide +kernel)
  have none : Sample.compiled.subjectLines = [] ∧ Sample.compiled.learnerReports = [] :=
    ⟨by decide +kernel, by decide +kernel⟩
  obtain ⟨lines, learners, added, there, conserved⟩ := report_is_conserved created
  obtain ⟨three, three'⟩ := of_decide_eq_true counts
  refine ⟨run, db, lines, learners, created, added, ?_, there, ?_, conserved⟩
  · rwa [added, none.1] at three
  · rwa [there, none.2] at three'

end Sample

end Darasa.Grading
