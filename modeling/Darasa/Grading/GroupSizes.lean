import Darasa.Grading.ReportRows

/-!
Group sizes.

An aggregate counts the percentages it is built of.  A learner has one row in a report, so
school, cohort and stream count learners; a learner has a line for each assessment, so
subject and department count lines.
-/

namespace Darasa.Grading

open Darasa (Unicode)

/-! ## What is promised -/

/-- The learners whose results enter an aggregate, once for each result. -/
def AcademicAggregate.entering (aggregate : AcademicAggregate)
    (learners : List LearnerReportSnapshot) (lines : List ReportSubjectLineSnapshot) : List ℕ :=
  match aggregate.scopeType with
  | .school => learners.map (·.student)
  | .cohort | .stream =>
    (learners.filter fun row => aggregate.cohort == some row.cohort).map (·.student)
  | .subject | .department =>
    (lines.filter fun line => aggregate.learningArea == some line.learningArea).map (·.student)

/-- The count is that of distinct learners, and both flags tell whether they are enough. -/
structure AcademicAggregate.CountsLearners (aggregate : AcademicAggregate)
    (learners : List LearnerReportSnapshot) (lines : List ReportSubjectLineSnapshot) : Prop where
  count : aggregate.metrics.learnerCount = (aggregate.entering learners lines).dedup.length
  met : aggregate.metrics.minGroupSizeMet = true ↔
    aggregate.metrics.minimumGroupSize ≤ (aggregate.entering learners lines).dedup.length
  flag : aggregate.minGroupSizeMet = aggregate.metrics.minGroupSizeMet

/-- The counts of the aggregates of one scope. -/
def countsOf (scopeType : ScopeType) (aggregates : List AcademicAggregate) : List ℕ :=
  (aggregates.filter (·.scopeType == scopeType)).map (·.metrics.learnerCount)

/-- Every aggregate counts learners, and the school counts what its cohorts count. -/
structure GroupsCounted (learners : List LearnerReportSnapshot)
    (lines : List ReportSubjectLineSnapshot) (aggregates : List AcademicAggregate) : Prop where
  counts : ∀ aggregate ∈ aggregates, aggregate.CountsLearners learners lines
  school : ∀ count ∈ countsOf .school aggregates, count = (countsOf .cohort aggregates).sum

/-- No learner has two lines of one learning area. -/
def OneLineAnArea (lines : List ReportSubjectLineSnapshot) : Prop :=
  (lines.map fun line => (line.student, line.learningArea)).Nodup

instance {lines : List ReportSubjectLineSnapshot} : Decidable (OneLineAnArea lines) :=
  inferInstanceAs (Decidable (List.Nodup _))

/-- The constraint `grading_learner_report_unique`. -/
def Database.LearnerReportsUnique (db : Database) : Prop :=
  (db.learnerReports.map fun row => (row.tenant, row.snapshotRun, row.student)).Nodup

instance {db : Database} : Decidable db.LearnerReportsUnique :=
  inferInstanceAs (Decidable (List.Nodup _))

/-! ## One row a learner -/

theorem nodup_filtered {α β : Type} {values : List α} {p : α → Bool} {f : α → β} :
    ((values.filter p).map f).Nodup ↔
      values.Pairwise fun a b => p a = true → p b = true → f a ≠ f b := by
  unfold List.Nodup
  rw [List.pairwise_map, List.pairwise_filter]

theorem report_learners_nodup {db : Database} {tenant run : ℕ}
    (unique : db.LearnerReportsUnique) :
    ((db.reportLearners tenant run).map (·.student)).Nodup := by
  unfold Database.LearnerReportsUnique List.Nodup at unique
  rw [List.pairwise_map] at unique
  refine nodup_filtered.mpr (unique.imp fun {a b} different here there same => different ?_)
  rw [Bool.and_eq_true, beq_iff_eq, beq_iff_eq] at here there
  rw [here.1, here.2, there.1, there.2, same]

/-- Creating a learner's row keeps the constraint. -/
theorem learner_reports_stay_unique {db db' : Database} {run : ReportSnapshotRun}
    {rows : List CompiledLearnerSnapshot} {student : ℕ} (unique : db.LearnerReportsUnique)
    (created : db.createLearnerReport run rows student = .ok db') :
    db'.LearnerReportsUnique := by
  obtain ⟨report, -, created⟩ := Outcome.bind_ok.mp created
  obtain ⟨valid, created⟩ := Outcome.check_ok.mp created
  cases created
  have fresh : ∀ row ∈ db.learnerReports, row.tenant = report.tenant →
      row.snapshotRun = report.snapshotRun → ¬row.student = report.student := by
    unfold LearnerReportSnapshot.validate at valid
    simp only [Outcome.check_ok] at valid
    simpa using valid.2.2.2.2.2
  unfold Database.LearnerReportsUnique
  rw [List.map_append, List.nodup_append]
  refine ⟨unique, List.nodup_singleton _, fun key member key' member' same => ?_⟩
  obtain ⟨row, there, rfl⟩ := List.mem_map.mp member
  obtain rfl := List.mem_singleton.mp member'
  obtain ⟨tenant, rest⟩ := Prod.mk.inj same
  obtain ⟨run, student⟩ := Prod.mk.inj rest
  exact fresh row there tenant run student

/-- One line an area, seen from the areas. -/
theorem one_line_an_area_iff {lines : List ReportSubjectLineSnapshot} :
    OneLineAnArea lines ↔
      ∀ areaId, ((lines.filter (·.learningArea == areaId)).map (·.student)).Nodup := by
  unfold OneLineAnArea
  simp only [nodup_filtered]
  unfold List.Nodup
  rw [List.pairwise_map]
  constructor
  · intro apart areaId
    refine apart.imp fun {a b} different here there same => different ?_
    rw [beq_iff_eq] at here there
    rw [here, there, same]
  · intro apart
    rw [List.pairwise_iff_getElem]
    intro i j left right before same
    obtain ⟨student, area⟩ := Prod.mk.inj same
    exact List.pairwise_iff_getElem.mp (apart lines[j].learningArea) i j left right before
      (beq_iff_eq.mpr area) (beq_self_eq_true _) student

/-! ## What is counted -/

section

variable {tenant run : ℕ} {learners : List LearnerReportSnapshot}
  {lines : List ReportSubjectLineSnapshot} {aggregate : AcademicAggregate}
  {scopeType : ScopeType} {cohort area : Option ℕ} {percentages : List ℕ}

theorem length_dedup_iff {values : List ℕ} : values.length = values.dedup.length ↔
    values.Nodup := by
  rw [← List.dedup_eq_self]
  constructor
  · intro same
    exact (List.dedup_sublist values).eq_of_length same.symm
  · intro same
    rw [same]

/-- An aggregate counts learners when none enters twice. -/
theorem counts_learners_iff
    (ofPercentages : aggregate.Of tenant run scopeType cohort area percentages)
    (each : percentages.length = (aggregate.entering learners lines).length) :
    aggregate.CountsLearners learners lines ↔ (aggregate.entering learners lines).Nodup := by
  rw [← length_dedup_iff]
  constructor
  · intro counted
    rw [← each, ← ofPercentages.count, counted.count]
  · intro once
    refine ⟨?_, ?_, ?_⟩
    · rw [ofPercentages.count, each, once]
    · rw [ofPercentages.met, ofPercentages.minimum, ← once, each, decide_eq_true_iff]
    · rw [ofPercentages.flag, ofPercentages.met]

theorem school_entering
    (ofPercentages : aggregate.Of tenant run .school cohort area percentages) :
    aggregate.entering learners lines = learners.map (·.student) := by
  unfold AcademicAggregate.entering
  rw [ofPercentages.ofScope]

theorem cohort_entering {cohortId : ℕ}
    (ofPercentages : aggregate.Of tenant run scopeType (some cohortId) area percentages)
    (scope : scopeType = .cohort ∨ scopeType = .stream) :
    aggregate.entering learners lines =
      (learners.filter (·.cohort == cohortId)).map (·.student) := by
  unfold AcademicAggregate.entering
  have same : (fun row : LearnerReportSnapshot => some cohortId == some row.cohort) =
      fun row => row.cohort == cohortId := funext fun row => BEq.comm
  rcases scope with rfl | rfl <;>
    simp only [ofPercentages.ofScope, ofPercentages.ofCohort, same]

theorem area_entering {areaId : ℕ}
    (ofPercentages : aggregate.Of tenant run scopeType cohort (some areaId) percentages)
    (scope : scopeType = .subject ∨ scopeType = .department) :
    aggregate.entering learners lines =
      (lines.filter (·.learningArea == areaId)).map (·.student) := by
  unfold AcademicAggregate.entering
  have same : (fun line : ReportSubjectLineSnapshot => some areaId == some line.learningArea) =
      fun line => line.learningArea == areaId := funext fun line => BEq.comm
  rcases scope with rfl | rfl <;>
    simp only [ofPercentages.ofScope, ofPercentages.ofArea, same]

/-! ## The aggregates of a run -/

variable {first second : ScopeType} {cohortOf areaOf : ℕ → Option ℕ} {values : ℕ → List ℕ}
  {keys : List ℕ} {groups : List (List AcademicAggregate)}

/-- What holds of all aggregates in pairs, when it depends on their key only. -/
theorem pairs_all {good : AcademicAggregate → Prop} {holds : ℕ → Prop}
    (each : ∀ key aggregate scopeType, scopeType = first ∨ scopeType = second →
      AcademicAggregate.Of aggregate tenant run scopeType (cohortOf key) (areaOf key)
        (values key) → (good aggregate ↔ holds key))
    (pairs : List.Forall₂ (fun key pair =>
      IsPair tenant run first second (cohortOf key) (areaOf key) (values key) pair) keys groups) :
    (∀ aggregate ∈ groups.flatten, good aggregate) ↔ ∀ key ∈ keys, holds key := by
  induction pairs with
  | nil => simp
  | cons here rest ih =>
    obtain ⟨one, two, rfl, ofOne, ofTwo⟩ := here
    have one := each _ one first (.inl rfl) ofOne
    have two := each _ two second (.inr rfl) ofTwo
    simp only [List.flatten_cons, List.forall_mem_append, List.forall_mem_cons,
      List.not_mem_nil, IsEmpty.forall_iff, implies_true, and_true, ih, one, two, and_self]

theorem counts_append {aggregates others : List AcademicAggregate} :
    countsOf scopeType (aggregates ++ others) =
      countsOf scopeType aggregates ++ countsOf scopeType others := by
  simp only [countsOf, List.filter_append, List.map_append]

/-- The first aggregates of pairs count the percentages of the keys. -/
theorem pairs_counts (apart : second ≠ first)
    (pairs : List.Forall₂ (fun key pair =>
      IsPair tenant run first second (cohortOf key) (areaOf key) (values key) pair) keys groups) :
    countsOf first groups.flatten = keys.map fun key => (values key).length := by
  induction pairs with
  | nil => rfl
  | cons here rest ih =>
    obtain ⟨one, two, rfl, ofOne, ofTwo⟩ := here
    rw [List.flatten_cons, counts_append, ih]
    simp [countsOf, ofOne.ofScope, ofTwo.ofScope, ofOne.count, apart]

theorem other_pairs_counts (notFirst : first ≠ scopeType) (notSecond : second ≠ scopeType)
    (pairs : List.Forall₂ (fun key pair =>
      IsPair tenant run first second (cohortOf key) (areaOf key) (values key) pair) keys groups) :
    countsOf scopeType groups.flatten = [] := by
  induction pairs with
  | nil => rfl
  | cons here rest ih =>
    obtain ⟨one, two, rfl, ofOne, ofTwo⟩ := here
    rw [List.flatten_cons, counts_append, ih]
    simp [countsOf, ofOne.ofScope, ofTwo.ofScope, notFirst, notSecond]

/-- Learners counted cohort by cohort. -/
theorem cohort_counts_sum :
    ((sortedKeys (learners.map (·.cohort))).map fun cohortId =>
      ((learners.filter (·.cohort == cohortId)).map (·.averagePercentage)).length).sum =
      learners.length := by
  have each : (fun cohortId =>
      ((learners.filter (·.cohort == cohortId)).map (·.averagePercentage)).length) =
      fun cohortId => (learners.map (·.cohort)).count cohortId := by
    funext cohortId
    rw [List.length_map, List.count, List.countP_map, List.countP_eq_length_filter]
    rfl
  unfold sortedKeys
  rw [each, ((List.perm_insertionSort _ _).map _).sum_eq, List.sum_map_count_dedup_eq_length,
    List.length_map]

variable {school : AcademicAggregate} {cohorts areas : List (List AcademicAggregate)}

/-- The school counts what its cohorts count. -/
theorem school_counts (made : Aggregated tenant run learners lines school cohorts areas) :
    countsOf .school (school :: (cohorts.flatten ++ areas.flatten)) = [learners.length] ∧
    (countsOf .cohort (school :: (cohorts.flatten ++ areas.flatten))).sum = learners.length := by
  rw [← List.singleton_append, counts_append, counts_append, counts_append, counts_append]
  constructor
  · rw [other_pairs_counts (by decide) (by decide) made.ofCohorts,
      other_pairs_counts (by decide) (by decide) made.ofAreas]
    simp [countsOf, made.ofSchool.ofScope, made.ofSchool.count]
  · rw [pairs_counts (by decide) made.ofCohorts,
      other_pairs_counts (by decide) (by decide) made.ofAreas, List.append_nil,
      List.sum_append, cohort_counts_sum]
    simp [countsOf, made.ofSchool.ofScope]

/-- The aggregates count learners when no learner has two lines of an area. -/
theorem groups_counted_iff (made : Aggregated tenant run learners lines school cohorts areas)
    (distinct : (learners.map (·.student)).Nodup) :
    GroupsCounted learners lines (school :: (cohorts.flatten ++ areas.flatten)) ↔
      OneLineAnArea lines := by
  obtain ⟨schoolCount, cohortSum⟩ := school_counts made
  have ofSchool : school.CountsLearners learners lines := by
    rw [counts_learners_iff made.ofSchool (by rw [school_entering made.ofSchool]; simp),
      school_entering made.ofSchool]
    exact distinct
  have ofCohorts : (∀ aggregate ∈ cohorts.flatten, aggregate.CountsLearners learners lines) ↔
      ∀ cohortId ∈ sortedKeys (learners.map (·.cohort)),
        ((learners.filter (·.cohort == cohortId)).map (·.student)).Nodup := by
    refine pairs_all (fun cohortId aggregate scopeType scope made => ?_) made.ofCohorts
    rw [counts_learners_iff made (by rw [cohort_entering made scope]; simp),
      cohort_entering made scope]
  have ofAreas : (∀ aggregate ∈ areas.flatten, aggregate.CountsLearners learners lines) ↔
      ∀ areaId ∈ sortedKeys (lines.map (·.learningArea)),
        ((lines.filter (·.learningArea == areaId)).map (·.student)).Nodup := by
    refine pairs_all (fun areaId aggregate scopeType scope made => ?_) made.ofAreas
    rw [counts_learners_iff made (by rw [area_entering made scope]; simp),
      area_entering made scope]
  rw [one_line_an_area_iff]
  constructor
  · intro counted areaId
    by_cases member : areaId ∈ sortedKeys (lines.map (·.learningArea))
    · exact ofAreas.mp (fun aggregate inAreas => counted.counts aggregate
        (List.mem_cons_of_mem _ (List.mem_append_right _ inAreas))) areaId member
    · have none : lines.filter (·.learningArea == areaId) = [] := by
        rw [List.filter_eq_nil_iff]
        intro line there here
        rw [beq_iff_eq] at here
        exact member (mem_sorted_keys.mpr (List.mem_map.mpr ⟨line, there, here⟩))
      rw [none]
      exact List.nodup_nil
  · intro apart
    constructor
    · rw [List.forall_mem_cons, List.forall_mem_append]
      exact ⟨ofSchool,
        ofCohorts.mpr fun cohortId _ => distinct.sublist (List.filter_sublist.map _),
        ofAreas.mpr fun areaId _ => apart areaId⟩
    · rw [schoolCount, cohortSum]
      simp

end

/-- **Groups are counted in learners, with one assessment an area.**  Under the table's own
constraint, the aggregates of a run count distinct learners, flag their number and add up
to the school's exactly when no learner has two lines of one learning area. -/
theorem groups_are_counted_iff {db db' : Database} {run : ReportSnapshotRun}
    (unique : db.LearnerReportsUnique)
    (computed : db.computeReportSnapshotAggregates run = .ok db') :
    ∃ aggregates, db'.aggregates = db.aggregates ++ aggregates ∧
      (GroupsCounted (db.reportLearners run.tenant run.id) (db.reportLines run.tenant run.id)
        aggregates ↔ OneLineAnArea (db.reportLines run.tenant run.id)) := by
  obtain ⟨school, cohorts, areas, made, rfl⟩ := compute_aggregates_ok computed
  exact ⟨_, rfl, groups_counted_iff made (report_learners_nodup unique)⟩

section Sample

attribute [local instance] Unicode.ascii

/-- A class of two that sits a second exam in the same learning area. -/
def Sample.twoExams : Database :=
  let school := { Sample.school with enrollments := Sample.school.enrollments.take 2 }
  let marks (assessment : ℕ) (key : String) : SubmitRequest :=
    { Sample.marks with
      assessment := assessment
      idempotencyKey := key
      payload := [("rows", .arr ([(1, "80"), (2, "55.5")].map fun row =>
        .obj [("student_id", .str (uuidText row.1)), ("raw_score", .str row.2)]))] }
  let opened := { Sample.database with school := school }
    |>.store Sample.exam |>.store { Sample.exam with id := 2, title := "Mid term" }
  let marked := (SubmissionStep.submit (marks 2 "second")).next
    ((SubmissionStep.submit (marks 1 "first")).next opened)
  let compile (db : Database) (assessment : ℕ) : Database :=
    match compileAssessment db 1 assessment (some ⟨12, true⟩) with
    | .ok (_, compiled) => compiled
    | .error _ => db
  compile (compile marked 1) 2

/-- A report of the two exams. -/
def Sample.twoExamsReport : Outcome (ReportSnapshotRun × Database) :=
  createReportSnapshotRun Sample.twoExams ⟨12, true⟩ 1 1 1 []

/-- Two learners pass for four, and for a group that is large enough. -/
theorem Sample.two_learners_count_as_four :
    ∃ run db, Sample.twoExamsReport = .ok (run, db) ∧
      ∃ aggregate ∈ db.aggregates, aggregate.snapshotRun = run.id ∧
        aggregate.metrics.learnerCount = 4 ∧ aggregate.metrics.minimumGroupSize = 3 ∧
        aggregate.minGroupSizeMet = true ∧
        (aggregate.entering (db.reportLearners run.tenant run.id)
          (db.reportLines run.tenant run.id)).dedup.length = 2 := by
  have seen : (Sample.twoExamsReport.toOption.any fun result =>
      decide (∃ aggregate ∈ result.2.aggregates, aggregate.snapshotRun = result.1.id ∧
        aggregate.metrics.learnerCount = 4 ∧ aggregate.metrics.minimumGroupSize = 3 ∧
        aggregate.minGroupSizeMet = true ∧
        (aggregate.entering (result.2.reportLearners result.1.tenant result.1.id)
          (result.2.reportLines result.1.tenant result.1.id)).dedup.length = 2)) = true := by
    decide +kernel
  obtain ⟨result, created, found⟩ := Outcome.ok_of_any seen
  exact ⟨result.1, result.2, created, of_decide_eq_true found⟩

theorem Sample.two_exams_groups_are_counted_iff :
    ∃ run db db' aggregates, Sample.twoExamsReport = .ok (run, db) ∧
      db.computeReportSnapshotAggregates run = .ok db' ∧
      db'.aggregates = db.aggregates ++ aggregates ∧
      (GroupsCounted (db.reportLearners run.tenant run.id) (db.reportLines run.tenant run.id)
        aggregates ↔ OneLineAnArea (db.reportLines run.tenant run.id)) := by
  have seen : (Sample.twoExamsReport.toOption.any fun result =>
      (result.2.computeReportSnapshotAggregates result.1).returns &&
        decide result.2.LearnerReportsUnique) = true := by decide +kernel
  obtain ⟨result, created, ready⟩ := Outcome.ok_of_any seen
  obtain ⟨computes, unique⟩ := Bool.and_eq_true_iff.mp ready
  obtain ⟨db', computed⟩ := Outcome.returns_iff.mp computes
  obtain ⟨aggregates, added, counted⟩ :=
    groups_are_counted_iff (of_decide_eq_true unique) computed
  exact ⟨result.1, result.2, db', aggregates, created, computed, added, counted⟩

end Sample

end Darasa.Grading
