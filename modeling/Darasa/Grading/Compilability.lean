import Darasa.Grading.CompilationFacts
import Darasa.Grading.Resubmission

/-!
When an assessment can be compiled after a submission.

`compile_returns_iff` says it of the records that are there, and
`accepted_submission_compiles_iff` of the rows a submission was accepted with.
-/

namespace Darasa.Grading

open Darasa (Decimal Exn Json Outcome Unicode cleanForeignKey refuseIf requireSome)
open Darasa.Core (CustomUser)

/-! ## What always returns -/

theorem divided_returns {n n' : Bool} {c c' : ℕ} {e e' : ℤ} (nonzero : c' ≠ 0) :
    ∃ negative coefficient exponent, (Decimal.finite n c e).div (.finite n' c' e') =
      .ok (.finite negative coefficient exponent) := by
  unfold Decimal.div
  simp only
  rw [if_neg nonzero]
  split
  next => exact ⟨_, _, _, rfl⟩
  next =>
    unfold Decimal.roundToPrecision
    simp only
    split
    next => exact ⟨_, _, _, rfl⟩
    next => split <;> exact ⟨_, _, _, rfl⟩

theorem completion_returns {submitted expected : ℕ} :
    ∃ percentage, completionPercentage submitted expected = .ok percentage := by
  unfold completionPercentage
  split
  next => exact ⟨0, rfl⟩
  next some =>
    obtain ⟨negative, coefficient, exponent, divided⟩ :=
      @divided_returns false false submitted expected 0 0 some
    rw [divided]
    exact ⟨_, rfl⟩

theorem score_summary_returns {record : GradeRecord} {assessment : Assessment} :
    ∃ summary, buildScoreSummary record assessment = .ok summary := by
  have percent : ∃ percent, percentage record.rawScore assessment.maxScore = .ok percent := by
    unfold percentage percentageOf
    split
    next => exact ⟨0, rfl⟩
    next some =>
      obtain ⟨negative, coefficient, exponent, divided⟩ :=
        @divided_returns _ _ (record.rawScore : ℤ).natAbs (assessment.maxScore : ℤ).natAbs (-2) (-2)
          (by simpa using some)
      have columns : (Decimal.ofHundredths record.rawScore).div
          (.ofHundredths assessment.maxScore) = .ok (.finite negative coefficient exponent) :=
        divided
      rw [columns]
      exact ⟨_, rfl⟩
  obtain ⟨percent, is⟩ := percent
  exact ⟨_, Outcome.bind_ok.mpr ⟨percent, is, rfl⟩⟩

section

variable [Unicode] {max : ℕ} {components : List AssessmentComponent} {record : GradeRecord}
  {records : List GradeRecord} {db : Database} {assessment : Assessment} {user : CustomUser}

/-! ## Records a compilation gets through -/

/-- A record whose component scores are an object, with its known scores and their total in
range. -/
structure Summarizable (max : ℕ) (components : List AssessmentComponent) (record : GradeRecord) :
    Prop where
  object : IsObject record
  inRange : SummaryInRange max components record.scores

theorem summarizable_iff :
    (∃ summary, buildComponentSummary record.componentScores components max = .ok summary) ↔
      Summarizable max components record := by
  constructor
  · rintro ⟨summary, built⟩
    obtain ⟨fields, areFields, inRange, -⟩ := component_summary_ok built
    have object : IsObject record := by
      intro truthy
      unfold scoreFields at areFields
      rw [if_pos truthy] at areFields
      split at areFields
      next fields' is => exact ⟨fields', is⟩
      next => cases areFields
    obtain rfl := Except.ok.inj ((score_fields_of_object object).symm.trans areFields)
    exact ⟨object, inRange⟩
  · rintro ⟨object, inRange⟩
    exact component_summary_returns (score_fields_of_object object) inRange

theorem learner_snapshots_return {version id : ℕ} {input : CompilationInput}
    {missing : List MissingMark} {run : CompilationRun}
    (summarizable : ∀ record ∈ records,
      Summarizable assessment.maxScore input.components record) :
    ∃ snapshots, buildLearnerSnapshots assessment version input missing run id records =
      .ok snapshots ∧ snapshots.map (·.student) = records.map (·.student) := by
  induction records generalizing id with
  | nil => exact ⟨[], rfl, rfl⟩
  | cons record records ih =>
    obtain ⟨here, later⟩ := List.forall_mem_cons.mp summarizable
    obtain ⟨summary, summarized⟩ := summarizable_iff.mpr here
    obtain ⟨rest, later, students⟩ := @ih (id + 1) later
    obtain ⟨scores, scored⟩ := @score_summary_returns record assessment
    have here : ∃ first, learnerSnapshot assessment version input missing run id record =
        .ok first ∧ first.student = record.student :=
      ⟨_, Outcome.bind_ok.mpr ⟨summary, summarized, Outcome.bind_ok.mpr ⟨scores, scored, rfl⟩⟩, rfl⟩
    obtain ⟨first, here, student⟩ := here
    refine ⟨first :: rest, Outcome.bind_ok.mpr ⟨first, here,
      Outcome.bind_ok.mpr ⟨rest, later, rfl⟩⟩, ?_⟩
    rw [List.map_cons, List.map_cons, student, students]

theorem snapshots_summarizable {version id : ℕ} {input : CompilationInput}
    {missing : List MissingMark} {run : CompilationRun} {snapshots : List CompiledLearnerSnapshot}
    (built : buildLearnerSnapshots assessment version input missing run id records =
      .ok snapshots) :
    ∀ record ∈ records, Summarizable assessment.maxScore input.components record := by
  induction records generalizing id snapshots with
  | nil => simp
  | cons record records ih =>
    obtain ⟨first, here, built⟩ := Outcome.bind_ok.mp built
    obtain ⟨rest, later, -⟩ := Outcome.bind_ok.mp built
    obtain ⟨summary, summarized, -⟩ := Outcome.bind_ok.mp here
    exact List.forall_mem_cons.mpr ⟨summarizable_iff.mp ⟨summary, summarized⟩, ih later⟩

theorem detect_invalid_returns
    (summarizable : ∀ record ∈ records, Summarizable max components record) :
    ∃ invalid, detectInvalidComponentScores records components max = .ok invalid := by
  unfold detectInvalidComponentScores
  rw [Outcome.mapM_of_ok (g := fun _ => false) fun record member => ?_]
  · exact ⟨_, rfl⟩
  · obtain ⟨summary, built⟩ := summarizable_iff.mpr (summarizable record member)
    rw [built]
    rfl

/-- What an authorised compilation of an assessment finds besides its records. -/
structure Compilable (db : Database) (assessment : Assessment) (user : CustomUser) : Prop where
  isOpen : assessment.status = .open
  bound : assessment.isOperationallyBound db.curriculum = true
  tenant : db.staff.schools.any (·.id == assessment.tenant) = true
  stored : (db.assessment? assessment.id).isSome = true
  user : db.cleanUser "requested_by" (some user.id) = .ok ()
  related : ∃ version, assessment.validateCompiled db = .ok version
  records : (db.records.map (·.key)).Nodup

omit [Unicode] in
theorem roster_distinct {tenant : ℕ} : (db.rosterForAssessment tenant assessment).Nodup := by
  unfold Database.rosterForAssessment
  split
  · exact List.nodup_dedup _
  · exact List.nodup_nil

omit [Unicode] in
/-- The learners of the submitted records of an assessment are different. -/
theorem submitted_students_distinct (distinct : (db.records.map (·.key)).Nodup) :
    ((db.submittedRecords assessment).map (·.student)).Nodup := by
  have keys : ((db.submittedRecords assessment).map (·.key)).Nodup :=
    (List.filter_sublist.map _).nodup distinct
  refine List.Nodup.of_map (fun student => (assessment.tenant, assessment.id, student)) ?_
  rw [List.map_map]
  refine (List.map_congr_left fun record member => ?_) ▸ keys
  have own := (List.mem_filter.mp member).2
  simp only [Bool.and_eq_true, beq_iff_eq] at own
  simp [GradeRecord.key, own.1.1, own.1.2]

theorem compile_returns (compilable : Compilable db assessment user)
    (few : (db.rosterForAssessment assessment.tenant assessment).length ≤ 2147483647)
    (summarizable : ∀ record ∈ db.submittedRecords assessment,
      Summarizable assessment.maxScore (db.componentsForCompilation assessment) record) :
    ∃ run db', db.compile assessment user = .ok (run, db') := by
  obtain ⟨version, related⟩ := compilable.related
  have objects : ∀ record ∈ db.submittedRecords assessment, IsObject record :=
    fun record member => (summarizable record member).object
  obtain ⟨missing, detected, -⟩ := @detect_missing_marks_are
    (db.rosterForAssessment assessment.tenant assessment) (db.submittedRecords assessment)
    (db.componentsForCompilation assessment) objects
  obtain ⟨invalid, checked⟩ := detect_invalid_returns summarizable
  have counts := counts_add_up roster_distinct objects detected
  obtain ⟨percentage, completed⟩ := @completion_returns
    (((db.submittedRecords assessment).map (·.student)).dedup.filter
      ((db.rosterForAssessment assessment.tenant assessment).contains ·)).length
    (db.rosterForAssessment assessment.tenant assessment).length
  have fits : ∀ {field count}, count ≤ (db.rosterForAssessment assessment.tenant assessment).length →
      cleanCount field count = .ok () :=
    fun {_ _} le => refuseIf_ok.mpr (decide_eq_false (not_lt.mpr (le.trans few)))
  have selected : buildCompilationInput db assessment = .ok {
      roster := db.rosterForAssessment assessment.tenant assessment
      records := db.submittedRecords assessment
      components := db.componentsForCompilation assessment
      sourceBatchIds := ((((db.submittedRecords assessment).map (·.submissionBatch)).dedup)
        |>.insertionSort (· ≤ ·)) } := by
    unfold buildCompilationInput
    rw [compilable.isOpen, compilable.bound]
    rfl
  obtain ⟨result, compiled⟩ : ∃ result, db.compile assessment user = .ok result := by
    refine Outcome.bind_returns selected ?_
    refine Outcome.bind_returns detected ?_
    refine Outcome.bind_returns checked ?_
    refine Outcome.bind_returns (Outcome.bind_ok.mpr ⟨percentage, completed, rfl⟩) ?_
    refine Outcome.bind_returns (a := ()) ?_ (Outcome.bind_returns related ?_)
    · refine Outcome.check_ok.mpr ⟨clean_foreign_key_ok.mpr compilable.tenant,
        Outcome.check_ok.mpr ⟨clean_foreign_key_ok.mpr compilable.stored,
        Outcome.check_ok.mpr ⟨compilable.user, Outcome.check_ok.mpr ⟨fits le_rfl,
        Outcome.check_ok.mpr ⟨fits ?_, fits ?_⟩⟩⟩⟩⟩
      · exact le_of_add_le_left counts.le
      · exact le_of_add_le_right counts.le
    · have sorted := List.perm_insertionSort (fun a b : GradeRecord => a.student ≤ b.student)
        (db.submittedRecords assessment)
      refine Outcome.bind_returns_of (learner_snapshots_return fun record member =>
        summarizable record (sorted.mem_iff.mp member)) fun snapshots students => ?_
      have distinct : (snapshots.map (·.student)).Nodup := by
        rw [students, (sorted.map _).nodup_iff]
        exact submitted_students_distinct compilable.records
      rw [if_pos distinct]
      exact ⟨_, rfl⟩
  exact ⟨result.1, result.2, compiled⟩

theorem compile_summarizable {run : CompilationRun} {db' : Database}
    (compiled : db.compile assessment user = .ok (run, db')) :
    (db.rosterForAssessment assessment.tenant assessment).length ≤ 2147483647 ∧
      ∀ record ∈ db.submittedRecords assessment,
        Summarizable assessment.maxScore (db.componentsForCompilation assessment) record := by
  unfold Database.compile at compiled
  obtain ⟨input, isInput, compiled⟩ := Outcome.bind_ok.mp compiled
  obtain ⟨missing, -, compiled⟩ := Outcome.bind_ok.mp compiled
  obtain ⟨invalid, -, compiled⟩ := Outcome.bind_ok.mp compiled
  obtain ⟨summary, summarized, compiled⟩ := Outcome.bind_ok.mp compiled
  obtain ⟨valid, compiled⟩ := Outcome.check_ok.mp compiled
  obtain ⟨version, -, compiled⟩ := Outcome.bind_ok.mp compiled
  obtain ⟨snapshots, built, -⟩ := Outcome.bind_ok.mp compiled
  obtain ⟨-, isInput⟩ := Outcome.check_ok.mp isInput
  obtain ⟨-, isInput⟩ := Outcome.check_ok.mp isInput
  cases isInput
  obtain ⟨percentage, -, summarized⟩ := Outcome.bind_ok.mp summarized
  cases summarized
  obtain ⟨-, valid⟩ := Outcome.check_ok.mp valid
  obtain ⟨-, valid⟩ := Outcome.check_ok.mp valid
  obtain ⟨-, valid⟩ := Outcome.check_ok.mp valid
  obtain ⟨few, -⟩ := Outcome.check_ok.mp valid
  constructor
  · simpa [cleanCount] using few
  · intro record member
    exact snapshots_summarizable built record
      ((List.perm_insertionSort _ _).mem_iff.mpr member)

/-- A compilation returns exactly when the roster can be counted and every submitted record
summarized. -/
theorem compile_returns_iff (compilable : Compilable db assessment user) :
    (∃ run db', db.compile assessment user = .ok (run, db')) ↔
      (db.rosterForAssessment assessment.tenant assessment).length ≤ 2147483647 ∧
        ∀ record ∈ db.submittedRecords assessment,
          Summarizable assessment.maxScore (db.componentsForCompilation assessment) record :=
  ⟨fun ⟨_, _, compiled⟩ => compile_summarizable compiled,
    fun ⟨few, summarizable⟩ => compile_returns compilable few summarizable⟩

/-! ## Rows a submission was accepted with -/

/-- The component scores of a row are an object, and those of the components add up to a
total in range once the column has put their keys in order. -/
def RowCompiles (max : ℕ) (components : List AssessmentComponent)
    (fields : List (String × Json)) : Prop :=
  ∃ scores, rowComponentScores fields = .obj scores ∧
    ∃ total, componentTotal (knownScores components (Json.jsonbFields scores)) = .ok total ∧
      Within max total

variable {roster : List ℕ} {fields scores : List (String × Json)} {component : AssessmentComponent}
  {row : NormalizedRow} {batch : GradeSubmissionBatch} {id : ℕ}

theorem entry_in_range_jsonb (inRange : EntryInRange scores component) :
    EntryInRange (Json.jsonbFields scores) component := by
  intro value found
  unfold componentScore at found
  rw [Json.lookup_jsonb] at found
  obtain ⟨looked, filled⟩ := Option.filter_eq_some_iff.mp found
  obtain ⟨value', looked', rfl⟩ := Option.map_eq_some_iff.mp looked
  rw [Json.blank_jsonb] at filled
  obtain ⟨score, numeric, positive, within⟩ := inRange value'
    (Option.filter_eq_some_iff.mpr ⟨looked', filled⟩)
  obtain ⟨score', numeric', finite, same⟩ := Json.to_decimal_jsonb numeric within.finite
  exact ⟨score', numeric', positive, finite, same ▸ within.nonneg, same ▸ within.le⟩

/-- A row with complete marks is accepted under a positive maximum only. -/
theorem row_score_positive {score : Option Decimal} {scores : Json} {value : Option Json}
    (scored : rowScore max components true scores value = .ok score) : 0 < max := by
  unfold rowScore at scored
  split at scored
  next =>
    unfold simpleRowScore at scored
    split at scored
    next =>
      obtain ⟨incomplete, -⟩ := Outcome.check_ok.mp scored
      cases refuseIf_ok.mp incomplete
    next =>
      obtain ⟨score', -, compared⟩ := Outcome.bind_ok.mp scored
      obtain ⟨total, bounded, -⟩ := Outcome.bind_ok.mp compared
      exact (validate_score_bounds_iff.mp bounded).1
  next =>
    cases scores with
    | obj fields =>
      obtain ⟨-, total, -, positive, -⟩ := component_row_score_iff.mp scored
      exact positive
    | _ => cases scored

theorem row_entries_in_range (distinct : (components.map (·.id)).Nodup)
    (of : row.Of roster max components true fields)
    (areScores : rowComponentScores fields = .obj scores) :
    ∀ component ∈ components, EntryInRange scores component := by
  intro component member
  have scored := of.scored
  have named : components.isEmpty = false := by
    cases components with
    | nil => cases member
    | cons => rfl
  unfold rowScore at scored
  rw [named, if_neg (by decide), areScores] at scored
  obtain ⟨each, -⟩ := component_row_score_iff.mp scored
  rw [component_by_id_distinct distinct] at each
  exact component_passes_in_range (each component member)

omit [Unicode] in
/-- Component scores that count as false are read as none. -/
theorem empty_of_falsy (falsy : ¬ (rowComponentScores fields).truthy = true) :
    rowComponentScores fields = .obj [] := by
  unfold rowComponentScores at falsy ⊢
  cases looked : (Json.lookup "component_scores" fields).filter Json.truthy with
  | none => rfl
  | some value =>
    rw [looked] at falsy
    exact absurd (Option.filter_eq_some_iff.mp looked).2 falsy

/-- The record of an accepted row can be summarized exactly when the row compiles. -/
theorem record_summarizable_iff {tenant : ℕ} (distinct : (components.map (·.id)).Nodup)
    (of : row.Of roster max components true fields)
    (written : row.record batch id = .ok record) :
    Summarizable max (components.filter (·.tenant == tenant)) record ↔
      RowCompiles max (components.filter (·.tenant == tenant)) fields := by
  have stored : record.componentScores = (rowComponentScores fields).jsonb := by
    unfold NormalizedRow.record at written
    split at written
    next => cases written
    next =>
      obtain ⟨-, written⟩ := Outcome.check_ok.mp written
      cases written
      exact congrArg Json.jsonb of.scores
  have distinct' : ((components.filter (·.tenant == tenant)).map (·.id)).Nodup :=
    (List.filter_sublist.map _).nodup distinct
  constructor
  · rintro ⟨object, each, positive, total, added, within⟩
    obtain ⟨scores, areScores⟩ : ∃ scores, rowComponentScores fields = .obj scores := by
      by_cases truthy : (rowComponentScores fields).truthy = true
      · obtain ⟨fields', is⟩ := object (by rw [stored, Json.truthy_jsonb, truthy])
        exact Json.object_of_jsonb (stored.symm.trans is)
      · exact ⟨[], empty_of_falsy truthy⟩
    refine ⟨scores, areScores, total, ?_, within⟩
    unfold GradeRecord.scores at added
    rw [stored, areScores] at added
    exact added
  · rintro ⟨scores, areScores, total, added, within⟩
    rw [areScores] at stored
    have are : record.scores = Json.jsonbFields scores := by
      unfold GradeRecord.scores
      rw [stored]
      rfl
    refine ⟨fun _ => ⟨_, stored⟩, ?_, row_score_positive of.scored, total, are ▸ added, within⟩
    rw [component_by_id_distinct distinct', are]
    exact fun component member => entry_in_range_jsonb
      (row_entries_in_range distinct of areScores component (List.mem_of_mem_filter member))

/-! ## What an accepted submission leaves -/

/-- What the constraints of the tables promise. -/
structure Constrained (db : Database) (assessment : Assessment) : Prop where
  records : (db.records.map (·.key)).Nodup
  components : (db.components.map (·.id)).Nodup
  version : ∀ id ∈ assessment.curriculumVersion, (db.curriculum.version? id).isSome = true
  batches : ∀ batch ∈ db.batches, batch.id < db.nextId
  owned : ∀ record ∈ db.records, record.submissionBatch < db.nextId

omit [Unicode] in
theorem insert_records_each {table table' : List GradeRecord} {rows : List NormalizedRow}
    (inserted : insertRecords batch id table rows = .ok table') :
    ∃ records, table' = table ++ records ∧
      List.Forall₂ (fun row record => ∃ id, NormalizedRow.record row batch id = .ok record)
        rows records := by
  induction rows generalizing id table with
  | nil =>
    cases inserted
    exact ⟨[], (List.append_nil _).symm, .nil⟩
  | cons row rows ih =>
    obtain ⟨record, written, inserted⟩ := Outcome.bind_ok.mp inserted
    split at inserted
    next => cases inserted
    next =>
      obtain ⟨records, rfl, each⟩ := ih inserted
      exact ⟨record :: records, by simp, .cons ⟨id, written⟩ each⟩

variable {db' : Database} {actor : CustomUser} {tenant assessmentId : ℕ} {key : String}
  {assignment : Academics.TeacherAssignment} {rows : List Json} {reply : Submission}
  {confirmation : Option Confirmation} {payload : List (String × Json)} {idempotencyKey : String}

/-- The records an accepted submission adds are those of its rows. -/
theorem accept_rows
    (accepted : acceptSubmission db actor tenant assessment assignment key rows confirmation =
      .ok (reply, db')) :
    ∃ normalized records,
      validateGradeRows (db.rosterForAssessment tenant assessment) assessment.maxScore
        (db.assessmentComponents assessment) true rows = .ok normalized ∧
      List.Forall₂ (fun row record => ∃ id, NormalizedRow.record row reply.batch id = .ok record)
        normalized records ∧
      reply.batch.id = db.nextId ∧ reply.batch.status = .submitted ∧
      reply.batch.tenant = tenant ∧ reply.batch.assessment = assessment.id ∧
      db'.batches = db.batches ++ [reply.batch] ∧ db'.records = db.records ++ records ∧
      db'.staff = db.staff ∧ db'.school = db.school ∧ db'.curriculum = db.curriculum ∧
      db'.assessments = db.assessments ∧ db'.components = db.components := by
  unfold acceptSubmission at accepted
  obtain ⟨-, accepted⟩ := Outcome.check_ok.mp accepted
  obtain ⟨confirmed, -, accepted⟩ := Outcome.bind_ok.mp accepted
  obtain ⟨normalized, passed, accepted⟩ := Outcome.bind_ok.mp accepted
  obtain ⟨-, accepted⟩ := Outcome.check_ok.mp accepted
  obtain ⟨-, accepted⟩ := Outcome.check_ok.mp accepted
  obtain ⟨table, inserted, accepted⟩ := Outcome.bind_ok.mp accepted
  cases accepted
  obtain ⟨records, rfl, each⟩ := insert_records_each inserted
  exact ⟨normalized, records, passed, each, rfl, rfl, rfl, rfl, rfl, rfl, rfl, rfl, rfl, rfl, rfl⟩

omit [Unicode] in
/-- The submitted records of an assessment, after its new ones are added. -/
theorem submitted_records_append {records : List GradeRecord} {batch : GradeSubmissionBatch}
    (constrained : Constrained db assessment) (numbered : batch.id = db.nextId)
    (submitted : batch.status = .submitted) (batches : db'.batches = db.batches ++ [batch])
    (added : db'.records = db.records ++ records)
    (own : ∀ record ∈ records, record.tenant = assessment.tenant ∧
      record.assessment = assessment.id ∧ record.submissionBatch = batch.id) :
    db'.submittedRecords assessment = db.submittedRecords assessment ++ records := by
  have fresh : ∀ id ≤ db.nextId, db'.batch? id =
      if id = db.nextId then some batch else db.batch? id := by
    intro id le
    unfold Database.batch?
    rw [batches, List.find?_append]
    by_cases new : id = db.nextId
    · have none : db.batches.find? (·.id == id) = none := by
        rw [List.find?_eq_none]
        intro old member same
        exact absurd (constrained.batches old member) (by simp_all)
      rw [none, if_pos new, Option.none_or]
      simp [numbered, new]
    · have other : ¬ (batch.id == id) = true := by simpa [numbered] using fun same => new same.symm
      simp [new, other]
  unfold Database.submittedRecords
  rw [added, List.filter_append]
  congr 1
  · refine List.filter_congr fun record member => ?_
    have older := constrained.owned record member
    unfold Database.isSubmitted
    rw [fresh _ older.le, if_neg older.ne]
  · rw [List.filter_eq_self]
    intro record member
    obtain ⟨ofTenant, ofAssessment, ofBatch⟩ := own record member
    unfold Database.isSubmitted
    rw [fresh _ (ofBatch.trans numbered).le, if_pos (ofBatch.trans numbered)]
    simp [ofTenant, ofAssessment, submitted]

omit [Unicode] in
/-- A bound assessment names a version, and a rubric that is there. -/
theorem bound_references (isOpen : assessment.status = .open)
    (bound : assessment.isOperationallyBound db.curriculum = true) :
    (∃ version, assessment.curriculumVersion = some version) ∧
      ∃ id, assessment.rubricFoundation = some id ∧ (db.curriculum.rubric? id).isSome = true := by
  unfold Assessment.isOperationallyBound at bound
  obtain ⟨-, valid⟩ := Bool.and_eq_true_iff.mp bound
  rw [Option.isNone_iff_eq_none, binding_ok (by rw [isOpen]; decide)] at valid
  obtain ⟨version, -, -, -, matched, -⟩ := valid
  refine ⟨Option.isSome_iff_exists.mp version, ?_⟩
  unfold Assessment.rubricMatchesAssessmentContext at matched
  split at matched
  next rubric _ named _ =>
    obtain ⟨id, is, found⟩ := Option.bind_eq_some_iff.mp named
    exact ⟨id, is, by rw [found]; rfl⟩
  next => cases matched

omit [Unicode] in
theorem compilable_of_authorized (records : (db.records.map (·.key)).Nodup)
    (version : ∀ id ∈ assessment.curriculumVersion, (db.curriculum.version? id).isSome = true)
    (found : db.tenantAssessment tenant assessmentId = some assessment)
    (isOpen : assessment.status = .open)
    (cohort : (db.school.cohort? assessment.cohort).isSome = true)
    (learningArea : (db.school.learningArea? assessment.learningArea).isSome = true)
    (authorized : db.canCompileAssessment (db.staff.policyContext user tenant adminRoles)
      assessment = true) : Compilable db assessment user := by
  obtain ⟨stored, ofTenant⟩ := Option.filter_eq_some_iff.mp found
  obtain rfl : assessment.tenant = tenant := by simpa using ofTenant
  obtain rfl : assessment.id = assessmentId := by simpa using List.find?_some stored
  unfold Database.canCompileAssessment at authorized
  simp only [Bool.and_eq_true] at authorized
  obtain ⟨⟨⟨-, bound⟩, valid⟩, -⟩ := authorized
  unfold Core.Staff.contextIsValid at valid
  obtain ⟨-, valid⟩ := Bool.and_eq_true_iff.mp valid
  obtain ⟨role, -, valid⟩ := (Option.any_eq_true _ _).mp valid
  obtain ⟨-, holds⟩ := Bool.and_eq_true_iff.mp valid
  unfold Core.Staff.userHasRoleInTenant at holds
  obtain ⟨binding, -, holds⟩ := List.any_eq_true.mp holds
  simp only [Bool.and_eq_true] at holds
  obtain ⟨⟨⟨-, isUser⟩, isSchool⟩, -⟩ := holds
  exact
    { isOpen := isOpen
      bound := bound
      tenant := by
        obtain ⟨school, member, is⟩ := List.any_eq_true.mp isSchool
        exact List.any_eq_true.mpr ⟨school, member, (Bool.and_eq_true_iff.mp is).1⟩
      stored := by
        rw [stored]
        rfl
      user := by
        obtain ⟨row, member, is⟩ := List.any_eq_true.mp isUser
        refine clean_foreign_key_ok.mpr ?_
        exact List.any_eq_true.mpr ⟨row, member, (Bool.and_eq_true_iff.mp is).1⟩
      related := by
        obtain ⟨⟨id, named⟩, rubric, rubricNamed, rubricThere⟩ := bound_references isOpen bound
        refine ⟨id, Outcome.check_ok.mpr ⟨clean_foreign_key_ok.mpr cohort,
          Outcome.check_ok.mpr ⟨clean_foreign_key_ok.mpr learningArea,
          Outcome.bind_ok.mpr ⟨id, requireSome_ok.mpr named,
          Outcome.check_ok.mpr ⟨clean_foreign_key_ok.mpr (version id named),
          Outcome.check_ok.mpr ⟨clean_foreign_key_ok.mpr ?_, rfl⟩⟩⟩⟩⟩⟩
        rw [rubricNamed]
        exact rubricThere
      records := records }

/-- The records of accepted rows can be summarized exactly when the rows compile. -/
theorem records_summarizable_iff {normalized : List NormalizedRow} {records : List GradeRecord}
    (distinct : (components.map (·.id)).Nodup)
    (passes : validateGradeRows roster max components true rows = .ok normalized)
    (written : List.Forall₂ (fun row record => ∃ id, NormalizedRow.record row batch id = .ok record)
      normalized records) :
    (∀ record ∈ records, Summarizable max (components.filter (·.tenant == tenant)) record) ↔
      ∀ fields, .obj fields ∈ rows →
        RowCompiles max (components.filter (·.tenant == tenant)) fields := by
  obtain ⟨normalized', passed, returned⟩ := Outcome.bind_ok.mp passes
  obtain ⟨-, returned⟩ := Outcome.check_ok.mp returned
  cases returned
  have each := rows_of passed
  constructor
  · intro summarizable fields member
    obtain ⟨row, known, fields', same, of⟩ := Table.source_of_mem each.flip member
    cases same
    obtain ⟨record, known', id, is⟩ := Table.source_of_mem written.flip known
    exact (record_summarizable_iff distinct of is).mp (summarizable record known')
  · intro compiles record member
    obtain ⟨row, known, id, is⟩ := Table.source_of_mem written member
    obtain ⟨source, known', fields, rfl, of⟩ := Table.source_of_mem each known
    exact (record_summarizable_iff distinct of is).mpr (compiles fields known')

/-- A compilation by an authorised actor is one of the assessment. -/
theorem compile_authorized (found : db.tenantAssessment tenant assessmentId = some assessment)
    (authorized : db.canCompileAssessment (db.staff.policyContext user tenant adminRoles)
      assessment = true) :
    compileAssessment db tenant assessmentId (some user) = db.compile assessment user := by
  unfold compileAssessment
  rw [found]
  simp only [requireSome, bind, Except.bind, authorized, refuseIf, Bool.not_true,
    Bool.false_eq_true, if_false]

/-- **Accepted submissions compile.**  After a submission is accepted, an authorised actor's
compilation of its assessment returns exactly when the roster can be counted, the records
submitted before can be summarized, and, unless the submission was a replay, so can its rows:
their component scores are objects, and the scores of the components do not add up to more
than the maximum. -/
theorem accepted_submission_compiles_iff (constrained : Constrained db assessment)
    (found : db.tenantAssessment tenant assessmentId = some assessment)
    (hasRows : gradeRowsPayload payload = .ok rows)
    (accepted : submitGradeBatch db actor tenant assessmentId payload idempotencyKey confirmation =
      .ok (reply, db'))
    (authorized : db'.canCompileAssessment (db'.staff.policyContext user tenant adminRoles)
      assessment = true) :
    (∃ run db'', compileAssessment db' tenant assessmentId (some user) = .ok (run, db'')) ↔
      (db.rosterForAssessment tenant assessment).length ≤ 2147483647 ∧
      (∀ record ∈ db.submittedRecords assessment,
        Summarizable assessment.maxScore (db.componentsForCompilation assessment) record) ∧
      (db.batchWithKey tenant (Text.strip idempotencyKey) = none →
        ∀ fields, .obj fields ∈ rows →
          RowCompiles assessment.maxScore (db.componentsForCompilation assessment) fields) := by
  obtain ⟨key, assessment', assignment, rows', admitted, branch⟩ := submit_ok.mp accepted
  obtain ⟨-, rfl⟩ := admitted.isKey
  obtain rfl : rows' = rows := Except.ok.inj (admitted.hasRows.symm.trans hasRows)
  obtain ⟨here, checks⟩ := Option.filter_eq_some_iff.mp admitted.found
  obtain ⟨stored, ofTenant⟩ := Option.filter_eq_some_iff.mp found
  obtain rfl : assessment' = assessment := Option.some.inj (here.symm.trans stored)
  obtain rfl : assessment'.tenant = tenant := by simpa using ofTenant
  simp only [Bool.and_eq_true, beq_iff_eq] at checks
  obtain ⟨⟨⟨⟨⟨-, isOpen⟩, -⟩, -⟩, -⟩, -⟩ := checks
  obtain ⟨cohort, learningArea⟩ : (db.school.cohort? assessment'.cohort).isSome = true ∧
      (db.school.learningArea? assessment'.learningArea).isSome = true := by
    have assigned := List.find?_some admitted.assigned
    simp only [Bool.and_eq_true, beq_iff_eq] at assigned
    obtain ⟨⟨⟨⟨-, context⟩, -⟩, cohort⟩, learningArea⟩ := assigned
    obtain ⟨ofCohort, ofArea, -⟩ := Academics.TeachingContext.mk.inj context
    rw [ofCohort] at cohort
    rw [ofArea] at learningArea
    exact ⟨Option.isSome_of_any cohort, Option.isSome_of_any learningArea⟩
  rcases branch with ⟨existing, used, -, rfl⟩ | ⟨unused, accepted⟩
  · have compilable := compilable_of_authorized constrained.records constrained.version found isOpen
      cohort learningArea authorized
    rw [compile_authorized found authorized, compile_returns_iff compilable, used]
    simp
  · obtain ⟨normalized, records, passes, written, numbered, submitted, batchTenant, batchAssessment,
      batches, added, staff, school, curriculum, assessments, components⟩ := accept_rows accepted
    have keyed : (Text.strip idempotencyKey).isEmpty = false := by
      rw [← blank_iff_strip]
      exact admitted.isKey.1
    obtain ⟨records', -, writes, -⟩ := accept_ok keyed accepted
    have added' : db'.records = db.records ++ records' := by rw [writes.result]
    obtain rfl : records' = records := List.append_cancel_left (added'.symm.trans added)
    have distinct : (db'.records.map (·.key)).Nodup := added ▸ writes.distinct constrained.records
    have found' : db'.tenantAssessment assessment'.tenant assessmentId = some assessment' := by
      rw [← found]
      unfold Database.tenantAssessment Database.assessment?
      rw [assessments]
    have compilable := compilable_of_authorized distinct (curriculum ▸ constrained.version) found'
      isOpen (school ▸ cohort) (school ▸ learningArea) authorized
    rw [compile_authorized found' authorized, compile_returns_iff compilable]
    have roster : db'.rosterForAssessment assessment'.tenant assessment' =
        db.rosterForAssessment assessment'.tenant assessment' := by
      unfold Database.rosterForAssessment
      rw [school]
    have parts : db'.componentsForCompilation assessment' =
        db.componentsForCompilation assessment' := by
      unfold Database.componentsForCompilation Database.assessmentComponents
      rw [components]
    have own : ∀ record ∈ records', record.tenant = assessment'.tenant ∧
        record.assessment = assessment'.id ∧ record.submissionBatch = reply.batch.id :=
      fun record member => by
        have by_batch := writes.written record member
        exact ⟨by_batch.tenant.trans batchTenant, by_batch.assessment.trans batchAssessment,
          by_batch.submissionBatch⟩
    have partsDistinct : ((db.assessmentComponents assessment').map (·.id)).Nodup := by
      unfold Database.assessmentComponents
      rw [((List.perm_insertionSort _ _).map _).nodup_iff]
      exact (List.filter_sublist.map _).nodup constrained.components
    rw [roster, parts, submitted_records_append constrained numbered submitted batches added own,
      List.forall_mem_append, unused, imp_iff_right rfl]
    exact and_congr_right fun _ => and_congr_right fun _ =>
      records_summarizable_iff partsDistinct passes written

/-! ## Compilations that are to fail -/

/-- A compilation with invalid scores is recorded as failed, and the runs before it are
stale. -/
def FailureRecorded (db : Database) (tenant assessmentId : ℕ) (user : CustomUser) : Prop :=
  ∃ run db', compileAssessment db tenant assessmentId (some user) = .ok (run, db') ∧
    run ∈ db'.runs ∧ run.status = .failed ∧ run.errorSummary = "invalid_component_score" ∧
    ∀ earlier ∈ db.runs, earlier.tenant = tenant → earlier.assessment = assessmentId →
      { earlier with status := .stale } ∈ db'.runs

theorem not_summarizable_of_out_of_range (out : OutOfRange max components record) :
    ¬ Summarizable max components record := by
  rintro ⟨-, each, -, total, added, within⟩
  rcases out with ⟨component, known, value, found, score, is, out⟩ | ⟨total', added', above⟩
  · obtain ⟨score', is', -, within⟩ := each component known value found
    obtain rfl := Option.some.inj (is'.symm.trans is)
    exact out within
  · obtain rfl := Except.ok.inj (added.symm.trans added')
    exact above within

/-- **Failures are not recorded.**  Whenever a submitted record has an invalid component
score, a compilation raises, and so records nothing. -/
theorem invalid_scores_raise (found : db.tenantAssessment tenant assessmentId = some assessment)
    (member : record ∈ db.submittedRecords assessment)
    (out : OutOfRange assessment.maxScore (db.componentsForCompilation assessment) record) :
    (∃ e, compileAssessment db tenant assessmentId (some user) = .error e) ∧
      ¬ FailureRecorded db tenant assessmentId user := by
  have never : ∀ run db', compileAssessment db tenant assessmentId (some user) ≠
      .ok (run, db') := by
    intro run db' compiled
    obtain ⟨assessment', found', compiled⟩ := Outcome.bind_ok.mp compiled
    obtain ⟨user', isUser, compiled⟩ := Outcome.bind_ok.mp compiled
    obtain ⟨-, compiled⟩ := Outcome.check_ok.mp compiled
    obtain rfl := Option.some.inj (found.symm.trans (requireSome_ok.mp found'))
    exact not_summarizable_of_out_of_range out ((compile_summarizable compiled).2 record member)
  constructor
  · cases compiled : compileAssessment db tenant assessmentId (some user) with
    | error e => exact ⟨e, rfl⟩
    | ok result => exact absurd compiled (never result.1 result.2)
  · rintro ⟨run, db', compiled, -⟩
    exact never run db' compiled

end

section Sample

attribute [local instance] Unicode.ascii

private def openedExam : Database := Sample.database.store Sample.exam

/-- A mark whose row also has a list of component scores. -/
private def listedScores : SubmitRequest :=
  { Sample.marks with
    payload := [("rows", .arr [.obj [("student_id", .str (uuidText 1)), ("raw_score", .str "80"),
      ("component_scores", .arr [.int 1])]])] }

/-- Such a mark is accepted, and no compilation gets past it. -/
theorem listed_scores_do_not_compile :
    ∃ reply db, listedScores.call openedExam = .ok (reply, db) ∧
      db.canCompileAssessment (db.staff.policyContext ⟨12, true⟩ 1 adminRoles)
        (Sample.exam.stored 100) = true ∧
      db.tenantAssessment 1 1 = some (Sample.exam.stored 100) ∧
      ∀ run db', compileAssessment db 1 1 (some ⟨12, true⟩) ≠ .ok (run, db') := by
  obtain ⟨⟨reply, db⟩, called, seen⟩ := Outcome.ok_of_any
    (x := listedScores.call openedExam)
    (p := fun result => result.2.canCompileAssessment
        (result.2.staff.policyContext ⟨12, true⟩ 1 adminRoles) (Sample.exam.stored 100) &&
      decide (result.2.tenantAssessment 1 1 = some (Sample.exam.stored 100)) &&
      !(compileAssessment result.2 1 1 (some ⟨12, true⟩)).returns) (by decide +kernel)
  simp only [Bool.and_eq_true, Bool.not_eq_true', decide_eq_true_eq] at seen
  obtain ⟨⟨authorized, found⟩, raised⟩ := seen
  refine ⟨reply, db, called, authorized, found, fun run db' compiled => ?_⟩
  rw [compiled] at raised
  cases raised

/-- A mark without them compiles. -/
theorem plain_mark_compiles :
    ∃ reply db run db', Sample.marks.call openedExam = .ok (reply, db) ∧
      compileAssessment db 1 1 (some ⟨12, true⟩) = .ok (run, db') := by
  obtain ⟨⟨reply, db⟩, called, authorized⟩ := Outcome.ok_of_any
    (x := Sample.marks.call openedExam)
    (p := fun result => result.2.canCompileAssessment
      (result.2.staff.policyContext ⟨12, true⟩ 1 adminRoles) (Sample.exam.stored 100))
    (by decide +kernel)
  have constrained : Constrained openedExam (Sample.exam.stored 100) :=
    ⟨by decide +kernel, by decide +kernel, by decide +kernel, by decide +kernel,
      by decide +kernel⟩
  have none : openedExam.submittedRecords (Sample.exam.stored 100) = [] := by decide +kernel
  obtain ⟨run, db', compiled⟩ := (accepted_submission_compiles_iff constrained
    (by decide +kernel) rfl called authorized).mpr
      ⟨by decide +kernel, by simp [none], fun _ fields member => by
        obtain rfl := Json.obj.inj (List.mem_singleton.mp member)
        exact ⟨[], by decide +kernel, .finite false 0 (-2), by decide +kernel,
          ⟨rfl, by decide +kernel, by decide +kernel⟩⟩⟩
  exact ⟨reply, db, run, db', called, compiled⟩

private def longEssay : AssessmentComponent where
  id := 5
  tenant := 1
  assessment := 1
  name := "Essay"
  maxScore := 20000
  order := 1
  isRequired := true
  rubricFoundation := none

/-- The exam with an essay that may earn more than the exam. -/
private def essayExam : Database := { openedExam with components := [longEssay] }

/-- An essay of 150 marks, with a penalty. -/
private def penalized : SubmitRequest :=
  { Sample.marks with
    payload := [("rows", .arr [.obj [("student_id", .str (uuidText 1)),
      ("component_scores", .obj [(uuidText 5, .str "150"), ("penalty", .str "-60")])]])] }

private def penalizedExam : Database := (SubmissionStep.submit penalized).next essayExam

private def exceeds (record : GradeRecord) : Bool :=
  (componentTotal (knownScores
    (penalizedExam.componentsForCompilation (Sample.exam.stored 100)) record.scores)).toOption.any
      fun total => decide (100 < total.toRat)

private theorem out_of_range_of_exceeds {record : GradeRecord} (above : exceeds record = true) :
    OutOfRange (Sample.exam.stored 100).maxScore
      (penalizedExam.componentsForCompilation (Sample.exam.stored 100)) record := by
  obtain ⟨total, added, above⟩ := Outcome.ok_of_any above
  have maximum : ((Sample.exam.stored 100).maxScore : ℚ) / 100 = 100 := by decide +kernel
  refine .inr ⟨total, added, fun within => ?_⟩
  have below := within.le
  rw [maximum] at below
  exact absurd below (not_le.mpr (of_decide_eq_true above))

/-- The record of the penalized essay is out of range, and its failure is not recorded. -/
theorem penalized_essay_is_not_recorded :
    (∃ record ∈ penalizedExam.submittedRecords (Sample.exam.stored 100),
      OutOfRange (Sample.exam.stored 100).maxScore
        (penalizedExam.componentsForCompilation (Sample.exam.stored 100)) record) ∧
      penalizedExam.tenantAssessment 1 1 = some (Sample.exam.stored 100) ∧
      penalizedExam.canCompileAssessment (penalizedExam.staff.policyContext ⟨12, true⟩ 1
        adminRoles) (Sample.exam.stored 100) = true ∧
      ¬ FailureRecorded penalizedExam 1 1 ⟨12, true⟩ := by
  refine ⟨?_, by decide +kernel, by decide +kernel, ?_⟩
  · obtain ⟨record, member, above⟩ := List.any_eq_true.mp
      (show (penalizedExam.submittedRecords (Sample.exam.stored 100)).any exceeds = true by
        decide +kernel)
    exact ⟨record, member, out_of_range_of_exceeds above⟩
  · rintro ⟨run, db', compiled, -⟩
    have raised : (compileAssessment penalizedExam 1 1 (some ⟨12, true⟩)).returns = false := by
      decide +kernel
    rw [compiled] at raised
    cases raised

/-- The theorem, at that record. -/
theorem penalized_essay_raises :
    ∃ e, compileAssessment penalizedExam 1 1 (some ⟨12, true⟩) = .error e := by
  obtain ⟨record, member, above⟩ := List.any_eq_true.mp
    (show (penalizedExam.submittedRecords (Sample.exam.stored 100)).any exceeds = true by
      decide +kernel)
  exact (invalid_scores_raise (by decide +kernel) member (out_of_range_of_exceeds above)).1

end Sample

end Darasa.Grading
