import Mathlib.Data.List.Perm.Basic
import Darasa.Grading.ComponentTotals

/-!
The status and the counts a compilation finds.

`compilation_facts_are` reads the status of `compile_assessment` off the roster and the records,
and `compile_facts` says that a run holds nothing else.
-/

namespace Darasa.Grading

open Darasa (Decimal Exn Json Outcome Unicode refuseIf requireSome)
open Darasa.Core (CustomUser)

/-- What `compile_assessment` finds before it writes anything. -/
structure CompilationFacts where
  status : CompilationStatus
  expectedLearnerCount : ℕ
  submittedLearnerCount : ℕ
  missingLearnerCount : ℕ
  deriving DecidableEq, Repr

/-- The pipeline of `compile_assessment`, up to the counts of its summary. -/
def compilationFacts [Unicode] (roster : List ℕ) (records : List GradeRecord)
    (components : List AssessmentComponent) (maximum : ℕ) : Outcome CompilationFacts := do
  let missing ← detectMissingMarks roster records components
  let invalid ← detectInvalidComponentScores records components maximum
  return {
    status := determineCompilationStatus missing invalid (!records.isEmpty)
    expectedLearnerCount := roster.length
    submittedLearnerCount := ((records.map (·.student)).dedup.filter (roster.contains ·)).length
    missingLearnerCount := missing.countP (·.code == "missing_learner_mark") }

/-- The component scores of a record. -/
def GradeRecord.scores (record : GradeRecord) : List (String × Json) :=
  match record.componentScores with
  | .obj fields => fields
  | _ => []

section

variable {roster : List ℕ} {records : List GradeRecord} {components : List AssessmentComponent}
  {maximum : ℕ} {record : GradeRecord}

/-! ## Missing marks -/

/-- A learner of the roster has a score for every required component. -/
def HasRequired (components : List AssessmentComponent) (record : GradeRecord) : Prop :=
  ∀ component ∈ components, component.isRequired = true →
    (componentScore record.scores component).isSome = true

/-- Component scores that are an object, or count as none. -/
def IsObject (record : GradeRecord) : Prop :=
  record.componentScores.truthy = true → ∃ fields, record.componentScores = .obj fields

theorem score_fields_of_object {method : String} (object : IsObject record) :
    scoreFields method record.componentScores = .ok record.scores := by
  unfold scoreFields GradeRecord.scores
  split
  next truthy =>
    obtain ⟨fields, is⟩ := object truthy
    rw [is]
  next falsy =>
    cases is : record.componentScores with
    | obj fields =>
      cases fields with
      | nil => rfl
      | cons field fields => exact absurd rfl (is ▸ falsy)
    | _ => rfl

/-- The missing components of a record, where its scores are an object. -/
def missingOf (components : List AssessmentComponent) (record : GradeRecord) :
    List AssessmentComponent :=
  (components.filter (·.isRequired)).filter fun component =>
    (componentScore record.scores component).isNone

theorem missing_components_are (object : IsObject record) :
    missingComponents components record = .ok (missingOf components record) := by
  unfold missingComponents missingOf
  simp only
  split
  next none => rw [List.isEmpty_iff.mp none, List.filter_nil]
  next => rw [score_fields_of_object object]; rfl

theorem missing_of_nil : missingOf components record = [] ↔ HasRequired components record := by
  unfold missingOf HasRequired
  rw [List.filter_eq_nil_iff]
  simp [Option.isSome_iff_ne_none]

/-- What is found in a record, where its scores are an object. -/
def findingsOf (roster : List ℕ) (components : List AssessmentComponent)
    (record : GradeRecord) : List MissingMark :=
  if !roster.contains record.student then
    [⟨record.student, [], "failed", "student_outside_roster"⟩]
  else if (missingOf components record).isEmpty then []
  else [⟨record.student, (missingOf components record).map (uuidText ·.id), "blocked",
    "missing_required_component"⟩]

theorem record_findings_are (object : IsObject record) :
    recordFindings roster components record = .ok (findingsOf roster components record) := by
  unfold recordFindings findingsOf
  split
  next => rfl
  next =>
    rw [missing_components_are object]
    rfl

theorem findings_of_nil :
    findingsOf roster components record = [] ↔
      record.student ∈ roster ∧ HasRequired components record := by
  unfold findingsOf
  rw [← missing_of_nil]
  by_cases onRoster : record.student ∈ roster <;> simp [onRoster]

/-- The learners of the roster without a record. -/
def absentFrom (roster : List ℕ) (records : List GradeRecord) : List ℕ :=
  roster.filter (!(records.map (·.student)).contains ·)

/-- The learners with several records. -/
def duplicatedIn (records : List GradeRecord) : List ℕ :=
  (records.map (·.student)).dedup.filter fun student => 1 < (records.map (·.student)).count student

theorem detect_missing_marks_are (objects : ∀ record ∈ records, IsObject record) :
    ∃ missing, detectMissingMarks roster records components = .ok missing ∧
      missing.Perm ((records.map (findingsOf roster components)).flatten ++
        (absentFrom roster records).map
          (⟨·, ["raw_score"], "partial", "missing_learner_mark"⟩) ++
        (duplicatedIn records).map (⟨·, [], "failed", "duplicate_grade_record"⟩)) := by
  refine ⟨_, ?_, List.perm_insertionSort MissingMark.before _⟩
  unfold detectMissingMarks
  rw [Outcome.mapM_of_ok fun record member => record_findings_are (objects record member)]
  rfl

theorem absent_nil : absentFrom roster records = [] ↔
    ∀ student ∈ roster, student ∈ records.map (·.student) := by
  unfold absentFrom
  rw [List.filter_eq_nil_iff]
  simp

theorem duplicated_nil : duplicatedIn records = [] ↔ (records.map (·.student)).Nodup := by
  unfold duplicatedIn
  rw [List.filter_eq_nil_iff, List.nodup_iff_count_le_one]
  constructor
  · intro once student
    by_cases known : student ∈ records.map (·.student)
    · exact not_lt.mp (by simpa using once student (List.mem_dedup.mpr known))
    · rw [List.count_eq_zero_of_not_mem known]
      exact Nat.zero_le 1
  · intro once student _
    simpa using once student

/-- Every learner of the roster has one record, no other learner has any, and no required
component is missing. -/
structure AllMarked (roster : List ℕ) (components : List AssessmentComponent)
    (records : List GradeRecord) : Prop where
  once : (records.map (·.student)).Nodup
  learners : ∀ student, student ∈ records.map (·.student) ↔ student ∈ roster
  required : ∀ record ∈ records, HasRequired components record

/-- Nothing is found missing exactly when all is marked. -/
theorem no_missing_marks_iff {missing : List MissingMark}
    (objects : ∀ record ∈ records, IsObject record)
    (detected : detectMissingMarks roster records components = .ok missing) :
    missing = [] ↔ AllMarked roster components records := by
  obtain ⟨missing', detected', perm⟩ := detect_missing_marks_are objects
  obtain rfl := Except.ok.inj (detected.symm.trans detected')
  have empty : missing = [] ↔ (∀ record ∈ records, findingsOf roster components record = []) ∧
      absentFrom roster records = [] ∧ duplicatedIn records = [] := by
    rw [← List.length_eq_zero_iff, perm.length_eq, List.length_eq_zero_iff]
    simp
  rw [empty, absent_nil, duplicated_nil]
  simp only [findings_of_nil]
  constructor
  · rintro ⟨each, present, once⟩
    refine ⟨once, fun student => ⟨fun known => ?_, present student⟩,
      fun record member => (each record member).2⟩
    obtain ⟨record, member, rfl⟩ := List.mem_map.mp known
    exact (each record member).1
  · rintro ⟨once, learners, required⟩
    refine ⟨fun record member => ⟨?_, required record member⟩,
      fun student known => (learners student).mpr known, once⟩
    exact (learners record.student).mp (List.mem_map_of_mem member)

/-- The learners with a record and those without make up the roster. -/
theorem counts_add_up {missing : List MissingMark} (distinct : roster.Nodup)
    (objects : ∀ record ∈ records, IsObject record)
    (detected : detectMissingMarks roster records components = .ok missing) :
    ((records.map (·.student)).dedup.filter (roster.contains ·)).length +
      missing.countP (·.code == "missing_learner_mark") = roster.length := by
  obtain ⟨missing', detected', perm⟩ := detect_missing_marks_are objects
  obtain rfl := Except.ok.inj (detected.symm.trans detected')
  have absent : missing.countP (·.code == "missing_learner_mark") =
      (absentFrom roster records).length := by
    rw [perm.countP_eq, List.countP_append, List.countP_append, List.countP_map, List.countP_map]
    have none : ((records.map (findingsOf roster components)).flatten).countP
        (·.code == "missing_learner_mark") = 0 := by
      rw [List.countP_eq_zero]
      intro found member
      obtain ⟨findings, known, member⟩ := List.mem_flatten.mp member
      obtain ⟨record, -, rfl⟩ := List.mem_map.mp known
      unfold findingsOf at member
      split at member
      · rw [List.mem_singleton.mp member]
        simp
      · split at member
        · cases member
        · rw [List.mem_singleton.mp member]
          simp
    rw [none, zero_add]
    simp [Function.comp_def]
  have present : ((records.map (·.student)).dedup.filter (roster.contains ·)).Perm
      (roster.filter ((records.map (·.student)).contains ·)) := by
    rw [List.perm_ext_iff_of_nodup ((List.nodup_dedup _).filter _) (distinct.filter _)]
    intro student
    simp only [List.mem_filter, List.mem_dedup, List.contains_iff_mem]
    exact and_comm
  rw [absent, present.length_eq]
  exact List.length_eq_length_filter_add _ |>.symm

/-! ## Invalid scores -/

section

variable [Unicode]

/-- A record whose known component scores are absent, blank or finite numbers, with a total
in the range of the decimal context when each of them is in its own range. -/
structure Countable (components : List AssessmentComponent) (record : GradeRecord) : Prop where
  object : IsObject record
  finite : ∀ field ∈ knownScores components record.scores,
    ∃ score, field.2.toDecimal? = some score ∧ score.isFinite = true
  inRange : (∀ component ∈ componentById components, EntryInRange record.scores component) →
    staysInRange (.finite false 0 (-2)) (numbers (knownScores components record.scores)) = true

/-- A known component score is out of its range, or their total is out of the assessment's. -/
def OutOfRange (maximum : ℕ) (components : List AssessmentComponent) (record : GradeRecord) :
    Prop :=
  (∃ component ∈ componentById components, ∃ value ∈ componentScore record.scores component,
    ∃ score ∈ value.toDecimal?, ¬ Within component.maxScore score) ∨
  ∃ total, componentTotal (knownScores components record.scores) = .ok total ∧
    ¬ Within maximum total

omit [Unicode] in
theorem component_score_known {component : AssessmentComponent} {value : Json}
    {fields : List (String × Json)} (member : component ∈ componentById components)
    (found : componentScore fields component = some value) :
    (uuidText component.id, value) ∈ knownScores components fields := by
  unfold componentScore Json.lookup at found
  obtain ⟨looked, filled⟩ := Option.filter_eq_some_iff.mp found
  obtain ⟨⟨key, value'⟩, here, rfl⟩ := Option.map_eq_some_iff.mp looked
  obtain rfl : key = uuidText component.id := by simpa using List.find?_some here
  refine List.mem_filter.mpr ⟨List.mem_of_find?_eq_some here, ?_⟩
  rw [Bool.and_eq_true, List.contains_iff_mem]
  exact ⟨List.mem_map_of_mem (mem_component_by_id member), by simpa using filled⟩

/-- The total of finite scores is finite. -/
theorem finite_total {scores : List (String × Json)} {total sum : Decimal}
    (finite : total.isFinite = true)
    (each : ∀ field ∈ scores, ∃ score, field.2.toDecimal? = some score ∧ score.isFinite = true)
    (added : scores.foldlM addScore total = .ok sum) : sum.isFinite = true := by
  induction scores generalizing total with
  | nil =>
    obtain rfl := Except.ok.inj added
    exact finite
  | cons field scores ih =>
    obtain ⟨next, here, later⟩ := Outcome.bind_ok.mp added
    obtain ⟨⟨score, is, finite'⟩, each⟩ := List.forall_mem_cons.mp each
    rw [add_score is] at here
    exact ih (Decimal.plus_finite finite finite' here) each later

omit [Unicode] in
theorem finite_not_nan {score : Decimal} (finite : score.isFinite = true) :
    score.isNaN = false := by
  cases score <;> first | rfl | cases finite

theorem countable_total (countable : Countable components record)
    (each : ∀ component ∈ componentById components, EntryInRange record.scores component) :
    ∃ total, componentTotal (knownScores components record.scores) = .ok total ∧
      total.isFinite = true := by
  have summable : Summable (knownScores components record.scores) :=
    { numeric := fun field member => by
        obtain ⟨score, is, finite⟩ := countable.finite field member
        exact ⟨score, is, finite_not_nan finite⟩
      oneSided := fun negative infinite => by
        obtain ⟨field, member, is⟩ := List.mem_filterMap.mp infinite
        obtain ⟨score, is', finite⟩ := countable.finite field member
        cases is.symm.trans is'
        cases finite
      inRange := countable.inRange each }
  obtain ⟨total, added, -⟩ := component_total_iff.mpr summable
  exact ⟨total, added, finite_total rfl countable.finite added⟩

theorem entry_in_range_iff {component : AssessmentComponent}
    (countable : Countable components record) (positive : 0 < component.maxScore)
    (member : component ∈ componentById components) :
    EntryInRange record.scores component ↔
      ∀ value ∈ componentScore record.scores component, ∀ score ∈ value.toDecimal?,
        Within component.maxScore score := by
  constructor
  · intro inRange value found score is
    obtain ⟨score', is', -, within⟩ := inRange value found
    obtain rfl := Option.some.inj (is'.symm.trans is)
    exact within
  · intro bounds value found
    obtain ⟨score, is, -⟩ := countable.finite _ (component_score_known member found)
    exact ⟨score, is, positive, bounds value found score is⟩

variable (positive : 0 < maximum) (positives : ∀ component ∈ components, 0 < component.maxScore)
  (countable : Countable components record)
include positive positives countable

/-- The summary of a record is built exactly when nothing is out of range. -/
theorem summary_returns_iff :
    (∃ summary, buildComponentSummary record.componentScores components maximum = .ok summary) ↔
      ¬ OutOfRange maximum components record := by
  have areFields : ∀ method, scoreFields method record.componentScores = .ok record.scores :=
    fun _ => score_fields_of_object countable.object
  constructor
  · rintro ⟨summary, built⟩ out
    obtain ⟨fields, areFields', ⟨each, -, total, added, within⟩, -⟩ := component_summary_ok built
    obtain rfl := Except.ok.inj ((areFields _).symm.trans areFields')
    rcases out with ⟨component, known, value, found, score, is, out⟩ | ⟨total', added', above⟩
    · have bounds := (entry_in_range_iff countable
        (positives component (mem_component_by_id known)) known).mp (each component known)
      exact out (bounds value found score is)
    · obtain rfl := Except.ok.inj (added.symm.trans added')
      exact above within
  · intro inside
    have each : ∀ component ∈ componentById components,
        EntryInRange record.scores component := by
      intro component known
      rw [entry_in_range_iff countable (positives component (mem_component_by_id known)) known]
      intro value found score is
      by_contra out
      exact inside (.inl ⟨component, known, value, found, score, is, out⟩)
    obtain ⟨total, added, -⟩ := countable_total countable each
    refine component_summary_returns (areFields _) ⟨each, positive, total, added, ?_⟩
    by_contra above
    exact inside (.inr ⟨total, added, above⟩)

omit positive positives in
/-- Nothing but a validation error is raised of a record. -/
theorem summary_controlled :
    (buildComponentSummary record.componentScores components maximum).Controlled := by
  unfold buildComponentSummary
  rw [score_fields_of_object countable.object, Outcome.controlled_bind]
  refine ⟨Outcome.controlled_ok, fun fields is => ?_⟩
  obtain rfl := Except.ok.inj is
  rw [Outcome.controlled_bind]
  constructor
  · refine Outcome.controlled_mapM fun component known => ?_
    rw [component_entry_controlled]
    intro value found score is
    obtain ⟨score', is', finite⟩ := countable.finite _ (component_score_known known found)
    obtain rfl := Option.some.inj (is'.symm.trans is)
    exact .inr (finite_not_nan finite)
  · intro entries mapped
    have each : ∀ component ∈ componentById components, EntryInRange record.scores component :=
      fun component known => component_entry_returns.mp
        (Outcome.mapM_returns.mp ⟨entries, mapped⟩ component known)
    obtain ⟨total, added, finite⟩ := countable_total countable each
    rw [added, Outcome.controlled_bind]
    refine ⟨Outcome.controlled_ok, fun total' is => ?_⟩
    obtain rfl := Except.ok.inj is
    refine Outcome.controlled_bind.mpr ⟨?_, fun _ _ => Outcome.controlled_ok⟩
    exact validate_score_bounds_controlled.mpr (.inr (finite_not_nan finite))

end

section

variable [Unicode]

/-- The summary of a record is not built. -/
def isInvalid (components : List AssessmentComponent) (maximum : ℕ) (record : GradeRecord) :
    Bool :=
  !(buildComponentSummary record.componentScores components maximum).returns

omit [Unicode] in
theorem catch_controlled {α : Type} {x : Outcome α} (controlled : x.Controlled) :
    catchValidationError x = .ok !x.returns := by
  cases x with
  | ok a => rfl
  | error e =>
    unfold catchValidationError
    simp only [controlled e rfl, if_true]
    rfl

omit [Unicode] in
theorem zip_filter_map {α : Type} {p : α → Bool} {as : List α} :
    ((as.zip (as.map p)).filter (·.2)).map (·.1) = as.filter p := by
  induction as with
  | nil => rfl
  | cons a as ih =>
    cases holds : p a <;> simp [holds, ih]

theorem detect_invalid_are
    (countable : ∀ record ∈ records, Countable components record) :
    detectInvalidComponentScores records components maximum =
      .ok ((records.filter (isInvalid components maximum)).map (·.student)) := by
  unfold detectInvalidComponentScores
  rw [Outcome.mapM_of_ok fun record member => catch_controlled
    (summary_controlled (countable record member))]
  rw [← @zip_filter_map _ (isInvalid components maximum) records, List.map_map]
  rfl

omit [Unicode] in
/-- How the findings decide the status. -/
theorem status_cases {missing : List MissingMark} {invalid : List ℕ} :
    (determineCompilationStatus missing invalid (!records.isEmpty) = .failed ↔
      invalid ≠ []) ∧
    (determineCompilationStatus missing invalid (!records.isEmpty) = .blocked ↔
      invalid = [] ∧ records = []) ∧
    (determineCompilationStatus missing invalid (!records.isEmpty) = .complete ↔
      invalid = [] ∧ records ≠ [] ∧ missing = []) ∧
    (determineCompilationStatus missing invalid (!records.isEmpty) = .partialMarks ↔
      invalid = [] ∧ records ≠ [] ∧ missing ≠ []) := by
  unfold determineCompilationStatus
  cases invalid <;> cases records <;> cases missing <;> simp

/-- **Compilation facts.**  The status is failed exactly when a record is out of range, and
else blocked when there is no record, complete when all is marked and partial otherwise; the
learners with and without a record make up the roster. -/
theorem compilation_facts_are (distinct : roster.Nodup) (positive : 0 < maximum)
    (positives : ∀ component ∈ components, 0 < component.maxScore)
    (countable : ∀ record ∈ records, Countable components record) :
    ∃ facts, compilationFacts roster records components maximum = .ok facts ∧
      (facts.status = .failed ↔ ∃ record ∈ records, OutOfRange maximum components record) ∧
      (facts.status = .blocked ↔ records = []) ∧
      (facts.status = .complete ↔
        (∀ record ∈ records, ¬ OutOfRange maximum components record) ∧ records ≠ [] ∧
          AllMarked roster components records) ∧
      (facts.status = .partialMarks ↔
        (∀ record ∈ records, ¬ OutOfRange maximum components record) ∧ records ≠ [] ∧
          ¬ AllMarked roster components records) ∧
      facts.expectedLearnerCount = roster.length ∧
      facts.submittedLearnerCount + facts.missingLearnerCount = facts.expectedLearnerCount := by
  have objects : ∀ record ∈ records, IsObject record :=
    fun record member => (countable record member).object
  obtain ⟨missing, detected, -⟩ := @detect_missing_marks_are roster records components objects
  refine ⟨_, Outcome.bind_ok.mpr ⟨missing, detected, Outcome.bind_ok.mpr
    ⟨_, detect_invalid_are countable, rfl⟩⟩, ?_⟩
  have marked := no_missing_marks_iff objects detected
  have valid : (records.filter (isInvalid components maximum)).map (·.student) = [] ↔
      ∀ record ∈ records, ¬ OutOfRange maximum components record := by
    rw [List.map_eq_nil_iff, List.filter_eq_nil_iff]
    refine forall₂_congr fun record member => ?_
    rw [← summary_returns_iff positive positives (countable record member), isInvalid,
      ← Outcome.returns_iff]
    simp
  obtain ⟨failed, blocked, complete, partialMarks⟩ := @status_cases records missing
    ((records.filter (isInvalid components maximum)).map (·.student))
  refine ⟨failed.trans ?_, blocked.trans ?_, complete.trans ?_, partialMarks.trans ?_, rfl,
    counts_add_up distinct objects detected⟩
  · rw [ne_eq, valid]
    push Not
    rfl
  · rw [valid]
    refine and_iff_right_of_imp fun none => ?_
    rw [none]
    exact nofun
  · rw [valid, marked]
  · rw [valid, ne_eq missing, marked]

/-- A run holds what the pipeline finds. -/
theorem compile_facts {db db' : Database} {assessment : Assessment} {requestedBy : CustomUser}
    {run : CompilationRun} (compiled : db.compile assessment requestedBy = .ok (run, db')) :
    ∃ facts, compilationFacts (db.rosterForAssessment assessment.tenant assessment)
        (db.submittedRecords assessment) (db.componentsForCompilation assessment)
        assessment.maxScore = .ok facts ∧
      facts = ⟨run.status, run.expectedLearnerCount, run.submittedLearnerCount,
        run.missingLearnerCount⟩ := by
  unfold Database.compile at compiled
  obtain ⟨input, isInput, compiled⟩ := Outcome.bind_ok.mp compiled
  obtain ⟨missing, detected, compiled⟩ := Outcome.bind_ok.mp compiled
  obtain ⟨invalid, checked, compiled⟩ := Outcome.bind_ok.mp compiled
  obtain ⟨summary, summarized, compiled⟩ := Outcome.bind_ok.mp compiled
  obtain ⟨-, compiled⟩ := Outcome.check_ok.mp compiled
  obtain ⟨version, -, compiled⟩ := Outcome.bind_ok.mp compiled
  obtain ⟨snapshots, -, compiled⟩ := Outcome.bind_ok.mp compiled
  obtain ⟨-, isInput⟩ := Outcome.check_ok.mp isInput
  obtain ⟨-, isInput⟩ := Outcome.check_ok.mp isInput
  cases isInput
  obtain ⟨percentage, -, summarized⟩ := Outcome.bind_ok.mp summarized
  cases summarized
  split at compiled
  next =>
    cases compiled
    refine ⟨_, Outcome.bind_ok.mpr ⟨missing, detected, Outcome.bind_ok.mpr
      ⟨invalid, checked, rfl⟩⟩, rfl⟩
  next => cases compiled

end

end

section Sample

attribute [local instance] Unicode.ascii

/-- An essay and a project, each of at most 100 marks. -/
private def parts : List AssessmentComponent :=
  [{ id := 5, tenant := 1, assessment := 1, name := "Essay", maxScore := 10000, order := 1,
      isRequired := true, rubricFoundation := none },
    { id := 6, tenant := 1, assessment := 1, name := "Project", maxScore := 10000, order := 2,
      isRequired := true, rubricFoundation := none }]

/-- A record with these scores of the two. -/
private def partsRecord (essay project : String) : GradeRecord where
  id := 1
  tenant := 1
  assessment := 1
  submissionBatch := 1
  student := 1
  rawScore := 10000
  normalizedScore := none
  componentScores := .obj [(uuidText 5, .str essay), (uuidText 6, .str project)]
  remarks := ""
  schoolGradingSchemaVersion := ""
  internalBandLabel := ""
  internalBandDescriptor := ""
  version := 1
  submittedBy := 10

private theorem parts_record_countable {essay project : String}
    (finite : ∀ field ∈ knownScores parts (partsRecord essay project).scores,
      (field.2.toDecimal?).any Decimal.isFinite = true)
    (inRange : staysInRange (.finite false 0 (-2))
      (numbers (knownScores parts (partsRecord essay project).scores)) = true) :
    Countable parts (partsRecord essay project) where
  object := fun _ => ⟨_, rfl⟩
  finite := fun field member => (Option.any_eq_true _ _).mp (finite field member)
  inRange := fun _ => inRange

/-- A sum of more than 28 digits is rounded, and no longer exceeds the maximum. -/
theorem rounded_sum_does_not_exceed :
    Countable parts (partsRecord "100" "1e-30") ∧
      (10000 : ℚ) / 100 < ((numbers (knownScores parts
        (partsRecord "100" "1e-30").scores)).map Decimal.toRat).sum ∧
      ∃ facts, compilationFacts [1] [partsRecord "100" "1e-30"] parts 10000 = .ok facts ∧
        facts.status = .complete := by
  refine ⟨parts_record_countable (by decide +kernel) (by decide +kernel), by decide +kernel, ?_⟩
  obtain ⟨facts, found, complete⟩ := Outcome.ok_of_any
    (x := compilationFacts [1] [partsRecord "100" "1e-30"] parts 10000)
    (p := fun facts => facts.status == .complete) (by decide +kernel)
  exact ⟨facts, found, eq_of_beq complete⟩

/-- Marks in range of the whole roster make a complete compilation. -/
theorem marks_in_range_are_complete :
    ∃ facts, compilationFacts [1] [partsRecord "60" "30"] parts 10000 = .ok facts ∧
      facts.status = .complete ∧
      facts.submittedLearnerCount + facts.missingLearnerCount = facts.expectedLearnerCount := by
  have countable : ∀ record ∈ [partsRecord "60" "30"], Countable parts record := by
    intro record member
    obtain rfl := List.mem_singleton.mp member
    exact parts_record_countable (by decide +kernel) (by decide +kernel)
  obtain ⟨facts, found, -, -, complete, -, -, counts⟩ :=
    @compilation_facts_are [1] [partsRecord "60" "30"] parts 10000 _ (by decide) (by decide)
      (by decide) countable
  refine ⟨facts, found, complete.mpr ⟨fun record member => ?_, by decide, ?_⟩, counts⟩
  · rw [← summary_returns_iff (by decide) (by decide) (countable record member)]
    obtain rfl := List.mem_singleton.mp member
    exact Outcome.returns_iff.mp (by decide +kernel)
  · refine ⟨by decide, fun student => Iff.rfl, fun record member => ?_⟩
    obtain rfl := List.mem_singleton.mp member
    exact missing_of_nil.mp (by decide +kernel)

end Sample

end Darasa.Grading
