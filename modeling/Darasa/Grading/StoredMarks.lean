import Darasa.Grading.Marks

/-!
Laws about stored marks, over every run of the calls that read or write them.

A score is checked against the maximum of the moment it is written, a band label is
stamped with the schema of the moment, and the context is frozen when grading begins.
Which runs keep the first two true of every stored record is said by
`scores_stay_in_range_iff` and `schema_is_stable_iff`; the third holds in all of them.
-/

namespace Darasa.Grading

open Darasa (Json Machine Outcome Unicode)

section

variable [Unicode] {db db' s : Database} {label : MarksCall} {self row assessment : Assessment}
  {record corrected : GradeRecord} {id : ℕ}

/-! ## Assessments and records after a call -/

omit [Unicode] in
/-- An applied correction writes one record of the assessment it was found with. -/
theorem applied_record {before after : GradeCorrectionRequest}
    {entry : GradeCorrectionAuditRecord}
    (applied : Applied db before after record assessment corrected entry db') :
    db'.assessment? = db.assessment? ∧ corrected.assessment = record.assessment ∧
      record ∈ db.records ∧ corrected.id = record.id ∧
      db'.records = Table.replace GradeRecord.id corrected db.records ∧
      corrected.rawScore ≤ assessment.maxScore := by
  obtain ⟨member, -⟩ := record_found applied.ofCorrection
  obtain ⟨sameId, -, sameAssessment, -⟩ := banded_same applied.banded
  have valid := (full_clean_ok.mp applied.valid).2
  unfold GradeRecord.clean at valid
  obtain ⟨score, bounded, -⟩ := Outcome.bind_ok.mp valid
  obtain ⟨-, le, -⟩ := column_score_bounds_ok.mp bounded
  have result := applied.result
  subst result
  exact ⟨rfl, sameAssessment, member, sameId, rfl, le⟩

/-! ## Scores -/

/-- Every stored score is within the range of its assessment. -/
def InRange (db : Database) : Prop :=
  ∀ record ∈ db.records, ∃ assessment, db.assessment? record.assessment = some assessment ∧
    record.rawScore ≤ assessment.maxScore

omit [Unicode] in
theorem in_range_iff : InRange db ↔ ∀ record ∈ db.records,
    (db.assessment? record.assessment).any (fun row => record.rawScore ≤ row.maxScore) = true := by
  simp [InRange, Option.any_eq_true]

instance : Decidable (InRange db) := decidable_of_iff _ in_range_iff.symm

/-- No accepted save takes the maximum below a stored score. -/
def KeepsRange (db : Database) (label : MarksCall) : Prop :=
  ∀ self ∈ label.saves db, (label.call db).isOk = true →
    ∀ record ∈ db.records, record.assessment = self.id → record.rawScore ≤ self.maxScore

instance : Decidable (KeepsRange db label) :=
  inferInstanceAs (Decidable (∀ self ∈ label.saves db, _ → ∀ record ∈ db.records, _ → _))

theorem call_in_range (inRange : InRange db) (keeps : KeepsRange db label)
    (called : label.call db = .ok db') : InRange db' := by
  intro record' member
  cases call_effect called with
  | saved self saves valid result =>
    subst result
    obtain ⟨row, found, le⟩ := inRange record' member
    by_cases same : record'.assessment = self.id
    · refine ⟨self.stored db.clock, assessment_of_store.trans (if_pos same), ?_⟩
      rw [stored_maxScore]
      exact keeps self saves (by rw [called]; rfl) record' member same
    · exact ⟨row, (assessment_of_store.trans (if_neg same)).trans found, le⟩
  | submitted assessment batch records found accepted =>
    have written := accepted.written
    have bounded := accepted.inRange
    rw [accepted.result] at member ⊢
    rcases List.mem_append.mp member with known | new
    · exact inRange record' known
    · refine ⟨assessment, ?_, bounded record' new⟩
      rw [(written record' new).assessment]
      exact found
  | applied before after record corrected assessment entry ofLabel applied =>
    obtain ⟨same, sameAssessment, -, -, records, le⟩ := applied_record applied
    rw [records] at member
    rw [same]
    rcases Table.mem_replace member with rfl | ⟨known, -⟩
    · exact ⟨assessment, sameAssessment ▸ applied.ofRecord, le⟩
    · exact inRange record' known
  | requested record correction entry requested =>
    rw [requested.result] at member ⊢
    exact inRange record' member
  | moved before after entry moved =>
    rw [moved.result] at member ⊢
    exact inRange record' member
  | elsewhere staff school curriculum schemas bands clock nextId later result =>
    subst result
    exact inRange record' member

/-- **When scores stay in range.**  Every stored score stays within the range of its
assessment exactly when no accepted save takes a maximum below one. -/
theorem scores_stay_in_range_iff (start : InRange db) (calls : List MarksCall) :
    marksMachine.Always (fun _ _ s => InRange s) db calls ↔
      marksMachine.Meets KeepsRange db calls := by
  refine Machine.always_iff_meets ?keeps ?gives ?needs (fun _ _ => ⟨_, rfl⟩) start
  case keeps | gives =>
    intro db label db' inRange keeps stepped
    cases stepped
    rcases @next_cases _ db label with same | called
    · rw [same]
      exact inRange
    · exact call_in_range inRange keeps called
  case needs =>
    intro db label db' _ stepped inRange self saves accepted record member same
    cases stepped
    obtain ⟨db', called⟩ := Outcome.returns_iff.mp accepted
    obtain ⟨-, stored⟩ := saves_call saves called
    have next : label.next db = db.store self := by
      unfold MarksCall.next
      rw [called, stored]
    rw [next] at inRange
    obtain ⟨assessment, found, le⟩ := inRange record member
    rw [assessment_of_store, if_pos same] at found
    cases found
    exact le

/-! ## Context -/

/-- A final batch or a record of the assessment is there. -/
def Begun (id : ℕ) (db : Database) : Prop :=
  Assessment.hasSubmittedBatches id db = true ∨ Assessment.hasGradeRecords id db = true

/-- Grading has begun, under this context. -/
structure Frozen (id : ℕ) (context : CurriculumContext) (db : Database) : Prop where
  keyed : Keyed db
  begun : Begun id db
  stands : ∃ row, db.assessment? id = some row ∧ row.context = context

omit [Unicode] in
theorem begun_append {batches : List GradeSubmissionBatch} {records : List GradeRecord}
    (begun : Begun id db) (batches' : db'.batches = db.batches ++ batches)
    (records' : db'.records = db.records ++ records) : Begun id db' := by
  unfold Begun Assessment.hasSubmittedBatches Assessment.hasGradeRecords at *
  rw [batches', records', List.any_append, List.any_append]
  rcases begun with yes | yes <;> simp [yes]

omit [Unicode] in
/-- A record written over itself is of the same assessment. -/
theorem begun_replace (keyed : Keyed db) (begun : Begun id db) (member : record ∈ db.records)
    (sameId : corrected.id = record.id) (sameAssessment : corrected.assessment = record.assessment)
    (batches : db'.batches = db.batches)
    (records : db'.records = Table.replace GradeRecord.id corrected db.records) :
    Begun id db' := by
  unfold Begun Assessment.hasSubmittedBatches Assessment.hasGradeRecords at *
  rw [batches, records]
  refine begun.imp_right fun yes => ?_
  obtain ⟨old, known, ofAssessment⟩ := List.any_eq_true.mp yes
  refine List.any_eq_true.mpr ⟨_, List.mem_map_of_mem known, ?_⟩
  split
  next same =>
    obtain rfl := Table.eq_of_key keyed.records known member (same.trans sameId)
    rw [sameAssessment]
    exact ofAssessment
  next => exact ofAssessment

theorem effect_frozen {context : CurriculumContext} (frozen : Frozen id context db)
    (effect : Effect db label db') : Frozen id context db' := by
  have keyed' := effect_keyed frozen.keyed effect
  obtain ⟨keyed, begun, row, found, same⟩ := frozen
  cases effect with
  | saved self saves valid result =>
    subst result
    refine ⟨keyed', begun, ?_⟩
    by_cases here : id = self.id
    · subst here
      refine ⟨self.stored db.clock, assessment_of_store.trans (if_pos rfl), ?_⟩
      rw [stored_context, context_kept valid found begun, same]
    · exact ⟨row, (assessment_of_store.trans (if_neg here)).trans found, same⟩
  | submitted assessment batch records found' accepted =>
    have result := accepted.result
    subst result
    exact ⟨keyed', begun_append begun rfl rfl, row, found, same⟩
  | applied before after record corrected assessment entry ofLabel applied =>
    obtain ⟨-, sameAssessment, member, sameId, -⟩ := applied_record applied
    have result := applied.result
    subst result
    exact ⟨keyed', begun_replace keyed begun member sameId sameAssessment rfl rfl, row, found,
      same⟩
  | requested record correction entry requested =>
    have result := requested.result
    subst result
    exact ⟨keyed', begun, row, found, same⟩
  | moved before after entry moved =>
    have result := moved.result
    subst result
    exact ⟨keyed', begun, row, found, same⟩
  | elsewhere staff school curriculum schemas bands clock nextId later result =>
    subst result
    exact ⟨keyed', begun, row, found, same⟩

/-- **The context is immutable once grading began.**  From a state with a final batch or
a record of the assessment on, no run of calls changes its stored context. -/
theorem context_is_immutable (keyed : Keyed db) (begun : Begun id db)
    (found : db.assessment? id = some row) (calls : List MarksCall)
    (ran : marksMachine.run db calls = some s) :
    ∃ row', s.assessment? id = some row' ∧ row'.context = row.context := by
  have start : Frozen id row.context db := ⟨keyed, begun, row, found, rfl⟩
  refine (Machine.invariant_of_steps ?_ start ran).stands
  intro db label db' frozen stepped
  cases stepped
  rcases @next_cases _ db label with same | called
  · rw [same]
    exact frozen
  · exact effect_frozen frozen (call_effect called)

/-! ## Schemas -/

/-- The schema an assessment interprets its marks with. -/
def Assessment.schemaPair (assessment : Assessment) : Option ℕ × String :=
  (assessment.schoolGradingSchema, assessment.schoolGradingSchemaVersion)

/-- Every record's assessment is there, with the version the record carries. -/
def Stamped (db : Database) : Prop :=
  ∀ record ∈ db.records, ∃ assessment, db.assessment? record.assessment = some assessment ∧
    (record.schoolGradingSchemaVersion ≠ "" →
      record.schoolGradingSchemaVersion = assessment.schoolGradingSchemaVersion)

/-- Assessments with records keep their schema, and their records agree on it. -/
structure StableSchema (db db' : Database) : Prop where
  kept : ∀ record ∈ db.records, ∀ row, db.assessment? record.assessment = some row →
    ∃ row', db'.assessment? record.assessment = some row' ∧ row'.schemaPair = row.schemaPair
  agree : ∀ record ∈ db'.records, ∀ other ∈ db'.records, record.assessment = other.assessment →
    record.schoolGradingSchemaVersion ≠ "" → other.schoolGradingSchemaVersion ≠ "" →
    record.schoolGradingSchemaVersion = other.schoolGradingSchemaVersion

omit [Unicode] in
theorem StableSchema.pairs (stable : StableSchema db db') :
    ∀ record ∈ db.records, ∀ row ∈ db.assessment? record.assessment,
      (db'.assessment? record.assessment).map Assessment.schemaPair = some row.schemaPair := by
  intro record member row found
  obtain ⟨row', found', same⟩ := stable.kept record member row found
  rw [found', Option.map_some, same]

/-- No accepted save or binding gives an assessment with a record another schema. -/
def KeepsSchema (db : Database) (label : MarksCall) : Prop :=
  ∀ self ∈ label.saves db, (label.call db).isOk = true →
    ∀ record ∈ db.records, record.assessment = self.id →
      ∀ row ∈ db.assessment? self.id, self.schemaPair = row.schemaPair

instance : Decidable (KeepsSchema db label) :=
  inferInstanceAs (Decidable (∀ self ∈ label.saves db, _ → ∀ record ∈ db.records,
    _ → ∀ row ∈ db.assessment? self.id, _))

omit [Unicode] in
theorem agree_of_stamped (stamped : Stamped db) {record other : GradeRecord}
    (member : record ∈ db.records) (member' : other ∈ db.records)
    (same : record.assessment = other.assessment) (carries : record.schoolGradingSchemaVersion ≠ "")
    (carries' : other.schoolGradingSchemaVersion ≠ "") :
    record.schoolGradingSchemaVersion = other.schoolGradingSchemaVersion := by
  obtain ⟨row, found, carried⟩ := stamped record member
  obtain ⟨row', found', carried'⟩ := stamped other member'
  rw [same] at found
  cases found.symm.trans found'
  rw [carried carries, carried' carries']

/-- An accepted call that keeps the schemas keeps the stamps. -/
theorem call_stamped (stamped : Stamped db) (keeps : KeepsSchema db label)
    (called : label.call db = .ok db') : Stamped db' := by
  intro record' member
  cases call_effect called with
  | saved self saves valid result =>
    subst result
    obtain ⟨row, found, carried⟩ := stamped record' member
    by_cases same : record'.assessment = self.id
    · refine ⟨self.stored db.clock, assessment_of_store.trans (if_pos same), fun carries => ?_⟩
      have pair := keeps self saves (by rw [called]; rfl) record' member same row (same ▸ found)
      rw [stored_schema_version, (Prod.mk.inj pair).2]
      exact carried carries
    · exact ⟨row, (assessment_of_store.trans (if_neg same)).trans found, carried⟩
  | submitted assessment batch records found accepted =>
    have written := accepted.written
    rw [accepted.result] at member ⊢
    rcases List.mem_append.mp member with known | new
    · exact stamped record' known
    · refine ⟨assessment, ?_, fun carries => absurd (written record' new).schemaVersion carries⟩
      rw [(written record' new).assessment]
      exact found
  | applied before after record corrected assessment entry ofLabel applied =>
    obtain ⟨same, sameAssessment, known, -, records, -⟩ := applied_record applied
    rw [records] at member
    rw [same]
    rcases Table.mem_replace member with rfl | ⟨known, -⟩
    · refine ⟨assessment, sameAssessment ▸ applied.ofRecord, ?_⟩
      obtain ⟨row, found, carried⟩ := stamped record known
      cases found.symm.trans applied.ofRecord
      have banded := applied.banded
      unfold GradeRecord.banded at banded
      split at banded
      next =>
        cases banded
        exact carried
      next =>
        obtain ⟨mapping, -, banded⟩ := Outcome.bind_ok.mp banded
        cases banded
        exact fun _ => rfl
    · exact stamped record' known
  | requested record correction entry requested =>
    rw [requested.result] at member ⊢
    exact stamped record' member
  | moved before after entry moved =>
    rw [moved.result] at member ⊢
    exact stamped record' member
  | elsewhere staff school curriculum schemas bands clock nextId later result =>
    subst result
    exact stamped record' member

/-- Where a call keeps the schemas, assessments with records keep theirs. -/
theorem call_keeps_pairs (keeps : KeepsSchema db label) (called : label.call db = .ok db')
    (member : record ∈ db.records) (found : db.assessment? record.assessment = some row) :
    ∃ row', db'.assessment? record.assessment = some row' ∧ row'.schemaPair = row.schemaPair := by
  cases call_effect called with
  | saved self saves valid result =>
    subst result
    by_cases same : record.assessment = self.id
    · refine ⟨self.stored db.clock, assessment_of_store.trans (if_pos same), ?_⟩
      exact keeps self saves (by rw [called]; rfl) record member same row (same ▸ found)
    · exact ⟨row, (assessment_of_store.trans (if_neg same)).trans found, rfl⟩
  | submitted assessment batch records found' accepted =>
    rw [accepted.result]
    exact ⟨row, found, rfl⟩
  | applied before after record' corrected assessment entry ofLabel applied =>
    rw [(applied_record applied).1]
    exact ⟨row, found, rfl⟩
  | requested record correction entry requested =>
    rw [requested.result]
    exact ⟨row, found, rfl⟩
  | moved before after entry moved =>
    rw [moved.result]
    exact ⟨row, found, rfl⟩
  | elsewhere staff school curriculum schemas bands clock nextId later result =>
    subst result
    exact ⟨row, found, rfl⟩

/-- **When the interpretation of marks is stable.**  Assessments with records keep their
schema, and their records carry one version, exactly when no accepted save or binding
gives an assessment that has a record another schema. -/
theorem schema_is_stable_iff (start : Stamped db) (calls : List MarksCall) :
    marksMachine.Always (fun db _ db' => StableSchema db db') db calls ↔
      marksMachine.Meets KeepsSchema db calls := by
  refine Machine.always_iff_meets ?keeps ?gives ?needs (fun _ _ => ⟨_, rfl⟩) start
  case keeps =>
    intro db label db' stamped keeps stepped
    cases stepped
    rcases @next_cases _ db label with same | called
    · rw [same]
      exact stamped
    · exact call_stamped stamped keeps called
  case gives =>
    intro db label db' stamped keeps stepped
    cases stepped
    rcases @next_cases _ db label with same | called
    · rw [same]
      exact ⟨fun record member row found => ⟨row, found, rfl⟩,
        fun record member other member' => agree_of_stamped stamped member member'⟩
    · exact ⟨fun record member row found => call_keeps_pairs keeps called member found,
        fun record member other member' =>
          agree_of_stamped (call_stamped stamped keeps called) member member'⟩
  case needs =>
    intro db label db' _ stepped stable self saves accepted record member same row found
    cases stepped
    obtain ⟨db', called⟩ := Outcome.returns_iff.mp accepted
    obtain ⟨-, stored⟩ := saves_call saves called
    have next : label.next db = db.store self := by
      unfold MarksCall.next
      rw [called, stored]
    obtain ⟨row', found', pair⟩ := stable.kept record member row (same ▸ found)
    rw [next, assessment_of_store, if_pos same] at found'
    cases found'
    exact pair

end

section Sample

attribute [local instance] Unicode.ascii

/-- The exam is opened and the first learner gets 80.00. -/
private def marked : List MarksCall := [.save Sample.exam, .submit Sample.marks]

/-- The exam, out of 50.00 only. -/
private def lowered : Assessment :=
  { Sample.exam with maxScore := 5000, curriculumBindingLockedAt := some 100 }

/-- Marking keeps the scores in range. -/
theorem marked_scores_are_in_range :
    marksMachine.Always (fun _ _ s => InRange s) Sample.database marked :=
  (scores_stay_in_range_iff (by decide +kernel) marked).mpr (by decide +kernel)

/-- The maximum is then lowered below the stored score. -/
theorem lowered_maximum_leaves_range :
    ¬ marksMachine.Always (fun _ _ s => InRange s) Sample.database
      (marked ++ [.save lowered]) := by
  intro always
  have last := Machine.Always.at_step always rfl rfl
  revert last
  decide +kernel

/-- After marking, another rubric is refused. -/
private def redirected : Assessment :=
  { Sample.exam with rubricFoundation := some 2, curriculumBindingLockedAt := some 100 }

private def markedTables : Database :=
  (MarksCall.submit Sample.marks).next ((MarksCall.save Sample.exam).next Sample.database)

/-- The saves that would redirect it, operational and through draft. -/
private def redirections : List MarksCall :=
  [.save redirected, .save { redirected with status := .draft }, .save redirected]

/-- None of them changes the context. -/
theorem redirections_keep_context :
    ∃ s row', marksMachine.run markedTables redirections = some s ∧
      s.assessment? 1 = some row' ∧ row'.context = Sample.exam.context := by
  have keyed : Keyed markedTables :=
    ⟨by decide +kernel, by decide +kernel, by decide +kernel, by decide +kernel⟩
  have found : markedTables.assessment? 1 = some (Sample.exam.stored 100) := by decide +kernel
  obtain ⟨row', found', same⟩ :=
    context_is_immutable keyed (.inr (by decide +kernel)) found redirections rfl
  exact ⟨_, row', rfl, found', same⟩

/-- A schema of one band. -/
private def bands (label : String) : List (String × Json) :=
  [("name", .str "Exams"), ("assessment_type", .str "exam"), ("version_label", .str label),
    ("bands", .arr [.obj [("label", .str "All"), ("min_percentage", .int 0),
      ("max_percentage", .int 100)]])]

/-- Two versions are activated, and the exam is bound to the first and marked. -/
private def bound : List MarksCall :=
  [.createSchema ⟨12, true⟩ 1 (bands "v1"), .activateSchema ⟨12, true⟩ 1 0,
    .createSchema ⟨12, true⟩ 1 (bands "v2"), .activateSchema ⟨12, true⟩ 1 1,
    .save Sample.exam, .bindSchema ⟨12, true⟩ 1 1 0, .submit Sample.marks]

/-- Binding before marking is stable. -/
theorem bound_schema_is_stable :
    marksMachine.Always (fun db _ db' => StableSchema db db') Sample.database bound :=
  (schema_is_stable_iff (by intro record member; cases member) bound).mpr (by decide +kernel)

/-- The marked exam is bound to the second version. -/
theorem rebinding_changes_interpretation :
    ¬ marksMachine.Always (fun db _ db' => StableSchema db db') Sample.database
      (bound ++ [.bindSchema ⟨12, true⟩ 1 1 1]) := by
  intro always
  have last := (Machine.Always.at_step always rfl rfl).pairs
  revert last
  decide +kernel

end Sample

end Darasa.Grading
