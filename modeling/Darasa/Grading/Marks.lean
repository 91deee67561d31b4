import Darasa.Grading.Resubmission
import Darasa.Grading.Schemas

/-!
Every call that reads or writes marks, as one machine.

`MarksCall.effect` says what an accepted call does to the assessments, the batches and
the records, which is all that the laws about stored marks look at.
-/

namespace Darasa.Grading

open Darasa (Json Machine Outcome Unicode)
open Darasa.Core (CustomUser Staff)
open Darasa.Academics (SchoolTables)
open Darasa.Curriculum (CurriculumTables)

/-- A call, or a change from outside grading. -/
inductive MarksCall where
  | save (assessment : Assessment)
  | submit (request : SubmitRequest)
  | createCorrection (actor : CustomUser) (tenant record : ℕ) (payload : List (String × Json))
  | reviewAsHod (actor : CustomUser) (tenant correction : ℕ) (decision reason : String)
  | escalate (actor : CustomUser) (tenant correction : ℕ) (reason : String)
  | reviewAsAcademicHead (actor : CustomUser) (tenant correction : ℕ) (decision reason : String)
  | applyCorrection (actor : CustomUser) (tenant correction : ℕ)
  | createSchema (actor : CustomUser) (tenant : ℕ) (payload : List (String × Json))
  | activateSchema (actor : CustomUser) (tenant schema : ℕ)
  | deprecateSchema (actor : CustomUser) (tenant schema : ℕ)
  | bindSchema (actor : CustomUser) (tenant assessment schema : ℕ)
  | outside (staff : Staff) (school : SchoolTables) (curriculum : CurriculumTables) (ticks : ℕ)

section

variable [Unicode]

/-- The tables the call leaves, or what it raises. -/
def MarksCall.call (db : Database) : MarksCall → Outcome Database
  | save assessment => assessment.save db
  | submit request => (request.call db).map Prod.snd
  | createCorrection actor tenant record payload =>
    (createCorrectionRequest db actor tenant record payload).map Prod.snd
  | reviewAsHod actor tenant correction decision reason =>
    (reviewCorrectionAsHod db actor tenant correction decision reason).map Prod.snd
  | escalate actor tenant correction reason =>
    (escalateCorrectionRequest db actor tenant correction reason).map Prod.snd
  | reviewAsAcademicHead actor tenant correction decision reason =>
    (reviewCorrectionAsAcademicHead db actor tenant correction decision reason).map Prod.snd
  | applyCorrection actor tenant correction =>
    (applyApprovedCorrection db actor tenant correction).map Prod.snd
  | createSchema actor tenant payload =>
    (createSchoolGradingSchema db actor tenant payload).map Prod.snd
  | activateSchema actor tenant schema =>
    (activateSchoolGradingSchema db actor tenant schema).map Prod.snd
  | deprecateSchema actor tenant schema =>
    (deprecateSchoolGradingSchema db actor tenant schema).map Prod.snd
  | bindSchema actor tenant assessment schema =>
    bindSchemaToAssessment db actor tenant assessment schema
  | outside staff school curriculum ticks =>
    .ok { db with
      staff := staff
      school := school
      curriculum := curriculum
      clock := db.clock + ticks }

/-- The tables after a call; one that raises is rolled back. -/
def MarksCall.next (db : Database) (label : MarksCall) : Database :=
  match label.call db with
  | .ok db' => db'
  | .error _ => db

/-- The calls, in any order, each atomic. -/
def marksMachine : Machine Database MarksCall where
  step db label := some (label.next db)

/-! ## What a call does -/

/-- The assessment a call saves, when it saves one. -/
def MarksCall.saves (db : Database) : MarksCall → Option Assessment
  | save assessment => some assessment
  | bindSchema _ _ assessment schema =>
    (db.assessment? assessment).bind fun row => (db.schema? schema).map row.bound
  | _ => none

/-- What the tables of marks are after an accepted call. -/
inductive Effect (db : Database) (label : MarksCall) (db' : Database) : Prop where
  /-- An assessment is saved. -/
  | saved (self : Assessment) (saves : label.saves db = some self)
      (valid : self.validate db = .ok ()) (result : db' = db.store self)
  /-- A submission is accepted. -/
  | submitted (assessment : Assessment) (batch : GradeSubmissionBatch)
      (records : List GradeRecord) (found : db.assessment? batch.assessment = some assessment)
      (accepted : Accepted db assessment batch records db')
  /-- A correction is applied. -/
  | applied (before after : GradeCorrectionRequest) (record corrected : GradeRecord)
      (assessment : Assessment) (entry : GradeCorrectionAuditRecord)
      (ofLabel : ∃ actor tenant, label = .applyCorrection actor tenant before.id)
      (applied : Applied db before after record assessment corrected entry db')
  /-- A correction is requested. -/
  | requested (record : GradeRecord) (correction : GradeCorrectionRequest)
      (entry : GradeCorrectionAuditRecord) (requested : Requested db record correction entry db')
  /-- A correction moves along. -/
  | moved (before after : GradeCorrectionRequest) (entry : GradeCorrectionAuditRecord)
      (moved : Moved db before after entry db')
  /-- Other tables change. -/
  | elsewhere (staff : Staff) (school : SchoolTables) (curriculum : CurriculumTables)
      (schemas : List SchoolGradingSchema) (bands : List SchoolGradingBand) (clock nextId : ℕ)
      (later : db.nextId ≤ nextId)
      (result : db' = { db with
        staff := staff, school := school, curriculum := curriculum, schemas := schemas
        bands := bands, clock := clock, nextId := nextId })

variable {db db' : Database} {label : MarksCall}

/-- Only the tables named change. -/
private theorem elsewhere_of {staff : Staff} {school : SchoolTables}
    {curriculum : CurriculumTables} {schemas : List SchoolGradingSchema}
    {bands : List SchoolGradingBand} {clock nextId : ℕ} (later : db.nextId ≤ nextId)
    (result : db' = { db with
      staff := staff, school := school, curriculum := curriculum, schemas := schemas
      bands := bands, clock := clock, nextId := nextId }) : Effect db label db' :=
  .elsewhere staff school curriculum schemas bands clock nextId later result

/-- What an accepted call does. -/
theorem call_effect (called : label.call db = .ok db') : Effect db label db' := by
  cases label with
  | save assessment =>
    obtain ⟨valid, result⟩ := save_ok.mp called
    exact .saved assessment rfl valid result
  | submit request =>
    obtain ⟨⟨reply, db''⟩, submitted, rfl⟩ := Outcome.map_ok called
    obtain ⟨key, assessment, assignment, rows, admitted, ⟨_, -, -, rfl⟩ | ⟨-, accepted⟩⟩ :=
      submit_ok.mp submitted
    · exact elsewhere_of (le_refl _) rfl
    · have keyed : key.isEmpty = false := by
        obtain ⟨filled, rfl⟩ := admitted.isKey
        rw [← blank_iff_strip, filled]
      obtain ⟨records, -, effect, -, ofAssessment, -⟩ := accept_ok keyed accepted
      obtain ⟨found, same, -⟩ := assessment_for_teacher admitted.found
      refine .submitted assessment reply.batch records ?_ effect
      rw [ofAssessment, same, found]
  | createCorrection actor tenant record payload =>
    obtain ⟨⟨reply, db''⟩, created, rfl⟩ := Outcome.map_ok called
    obtain ⟨record, entry, requested⟩ := create_correction_ok created
    exact .requested record reply entry requested
  | reviewAsHod actor tenant correction decision reason =>
    obtain ⟨⟨reply, db''⟩, reviewed, rfl⟩ := Outcome.map_ok called
    obtain ⟨before, entry, moved⟩ := review_as_hod_ok reviewed
    exact .moved before reply entry moved
  | escalate actor tenant correction reason =>
    obtain ⟨⟨reply, db''⟩, escalated, rfl⟩ := Outcome.map_ok called
    obtain ⟨before, entry, moved⟩ := escalate_ok escalated
    exact .moved before reply entry moved
  | reviewAsAcademicHead actor tenant correction decision reason =>
    obtain ⟨⟨reply, db''⟩, reviewed, rfl⟩ := Outcome.map_ok called
    obtain ⟨before, entry, moved⟩ := review_as_academic_head_ok reviewed
    exact .moved before reply entry moved
  | applyCorrection actor tenant correction =>
    obtain ⟨⟨reply, db''⟩, applied, rfl⟩ := Outcome.map_ok called
    obtain ⟨before, record, assessment, corrected, entry, rfl, effect⟩ := apply_ok applied
    exact .applied before reply record corrected assessment entry ⟨actor, tenant, rfl⟩ effect
  | createSchema actor tenant payload =>
    obtain ⟨⟨reply, db''⟩, created, rfl⟩ := Outcome.map_ok called
    obtain ⟨rows, result⟩ := create_schema_ok created
    exact elsewhere_of (Nat.le_succ _) result
  | activateSchema actor tenant schema =>
    obtain ⟨⟨reply, db''⟩, activated, rfl⟩ := Outcome.map_ok called
    exact elsewhere_of (le_refl _) (activate_schema_ok activated)
  | deprecateSchema actor tenant schema =>
    obtain ⟨⟨reply, db''⟩, deprecated, rfl⟩ := Outcome.map_ok called
    exact elsewhere_of (le_refl _) (deprecate_schema_ok deprecated)
  | bindSchema actor tenant assessment schema =>
    obtain ⟨row, target, found, found', saved⟩ := bind_schema_ok called
    obtain ⟨valid, result⟩ := save_ok.mp saved
    exact .saved (row.bound target) (by simp [MarksCall.saves, found, found']) valid result
  | outside staff school curriculum ticks =>
    exact elsewhere_of (le_refl _) (Except.ok.inj called).symm

/-- A call that saves an assessment validates and stores it. -/
theorem saves_call {self : Assessment} (saves : label.saves db = some self)
    (called : label.call db = .ok db') : self.validate db = .ok () ∧ db' = db.store self := by
  cases label with
  | save assessment =>
    cases saves
    exact save_ok.mp called
  | bindSchema actor tenant assessment schema =>
    obtain ⟨row, target, found, found', saved⟩ := bind_schema_ok called
    simp only [MarksCall.saves, found, found', Option.bind_some, Option.map_some] at saves
    cases saves
    exact save_ok.mp saved
  | _ => cases saves

/-- After a call, either nothing has changed or it was accepted. -/
theorem next_cases : label.next db = db ∨ label.call db = .ok (label.next db) := by
  unfold MarksCall.next
  cases called : label.call db with
  | error e => exact .inl rfl
  | ok db' => exact .inr rfl

/-! ## Keys -/

/-- Records and corrections stand under keys of their own, all drawn already. -/
structure Keyed (db : Database) : Prop where
  records : (db.records.map (·.id)).Nodup
  recordsDrawn : ∀ record ∈ db.records, record.id < db.nextId
  corrections : (db.corrections.map (·.id)).Nodup
  correctionsDrawn : ∀ correction ∈ db.corrections, correction.id < db.nextId

omit [Unicode] in
/-- The records of an accepted submission stand under new keys. -/
theorem accepted_keys {assessment : Assessment} {batch : GradeSubmissionBatch}
    {records : List GradeRecord} (keyed : Keyed db)
    (accepted : Accepted db assessment batch records db') :
    (db'.records.map (·.id)).Nodup ∧ ∀ record ∈ db'.records, record.id < db'.nextId := by
  have bounds : ∀ record ∈ records, db.nextId + 1 ≤ record.id ∧ record.id < db'.nextId :=
    fun record member => (accepted.written record member).fresh
  have ids := accepted.ids
  rw [accepted.result] at bounds ⊢
  constructor
  · rw [List.map_append, List.nodup_append]
    refine ⟨keyed.records, ids, ?_⟩
    intro id known id' new same
    obtain ⟨old, member, rfl⟩ := List.mem_map.mp known
    obtain ⟨record, member', rfl⟩ := List.mem_map.mp new
    have drawn := keyed.recordsDrawn old member
    have fresh := (bounds record member').1
    omega
  · intro record member
    rcases List.mem_append.mp member with known | new
    · have drawn := keyed.recordsDrawn record known
      simp only
      omega
    · exact (bounds record new).2

omit [Unicode] in
/-- Rows written over others keep the keys. -/
theorem replaced_keys {α : Type} {id : α → ℕ} {row : α} {table : List α} {next next' : ℕ}
    (keys : (table.map id).Nodup) (drawn : ∀ old ∈ table, id old < next) (later : next ≤ next')
    (there : id row < next) :
    ((Table.replace id row table).map id).Nodup ∧
      ∀ old ∈ Table.replace id row table, id old < next' := by
  constructor
  · rw [Table.keys_replace]
    exact keys
  intro old member
  rcases Table.mem_replace member with rfl | ⟨known, -⟩
  · omega
  · have below := drawn old known
    omega

omit [Unicode] in
theorem banded_same {record corrected : GradeRecord} {assessment : Assessment}
    {bands : List SchoolGradingBand} (banded : record.banded assessment bands = .ok corrected) :
    corrected.id = record.id ∧ corrected.key = record.key ∧
      corrected.assessment = record.assessment ∧ corrected.version = record.version ∧
      corrected.rawScore = record.rawScore := by
  unfold GradeRecord.banded at banded
  split at banded
  next =>
    cases banded
    exact ⟨rfl, rfl, rfl, rfl, rfl⟩
  next =>
    obtain ⟨mapping, -, banded⟩ := Outcome.bind_ok.mp banded
    cases banded
    exact ⟨rfl, rfl, rfl, rfl, rfl⟩

omit [Unicode] in
/-- A found record is in the table, under its key. -/
theorem record_found {id : ℕ} {record : GradeRecord} (found : db.record? id = some record) :
    record ∈ db.records ∧ record.id = id :=
  ⟨List.mem_of_find?_eq_some found, by simpa using List.find?_some found⟩

/-- Every call keeps the keys. -/
theorem effect_keyed (keyed : Keyed db) (effect : Effect db label db') : Keyed db' := by
  obtain ⟨records, recordsDrawn, corrections, correctionsDrawn⟩ := id keyed
  cases effect with
  | saved self saves valid result =>
    subst result
    exact ⟨records, recordsDrawn, corrections, correctionsDrawn⟩
  | submitted assessment batch written found accepted =>
    obtain ⟨records', drawn'⟩ := accepted_keys keyed accepted
    refine ⟨records', drawn', ?_, ?_⟩
    · rw [accepted.result]
      exact corrections
    · rw [accepted.result]
      intro correction member
      have drawn := correctionsDrawn correction member
      simp only
      omega
  | applied before after record corrected assessment entry ofLabel applied =>
    obtain ⟨member, here⟩ := record_found applied.ofCorrection
    have drawn := recordsDrawn record member
    have known := List.mem_of_find?_eq_some applied.found
    have drawn' := correctionsDrawn before known
    have same : corrected.id = record.id := (banded_same applied.banded).1
    obtain ⟨records', below⟩ :=
      @replaced_keys _ GradeRecord.id corrected _ _ (db.nextId + 1) records recordsDrawn
        (Nat.le_succ _) (by omega)
    obtain ⟨corrections', below'⟩ :=
      @replaced_keys _ GradeCorrectionRequest.id after _ _ (db.nextId + 1) corrections
        correctionsDrawn (Nat.le_succ _) (by rw [applied.id]; omega)
    rw [applied.result]
    exact ⟨records', below, corrections', below'⟩
  | requested record correction entry requested =>
    rw [requested.result]
    refine ⟨records, fun old member => ?_, ?_, fun old member => ?_⟩
    · have drawn := recordsDrawn old member
      simp only
      omega
    · refine Table.nodup_concat corrections fun old member same => ?_
      have drawn := correctionsDrawn old member
      rw [same, requested.id] at drawn
      omega
    · rcases List.mem_append.mp member with known | new
      · have drawn := correctionsDrawn old known
        simp only
        omega
      · obtain rfl : old = correction := by simpa using new
        rw [requested.id]
        simp only
        omega
  | moved before after entry moved =>
    have known := List.mem_of_find?_eq_some moved.found
    have drawn := correctionsDrawn before known
    obtain ⟨corrections', below⟩ :=
      @replaced_keys _ GradeCorrectionRequest.id after _ _ (db.nextId + 1) corrections
        correctionsDrawn (Nat.le_succ _) (by rw [moved.id]; omega)
    rw [moved.result]
    refine ⟨records, fun old member => ?_, corrections', below⟩
    have drawn := recordsDrawn old member
    simp only
    omega
  | elsewhere staff school curriculum schemas bands clock nextId later result =>
    subst result
    exact ⟨records, fun old member => (recordsDrawn old member).trans_le later, corrections,
      fun old member => (correctionsDrawn old member).trans_le later⟩

theorem next_keyed (keyed : Keyed db) : Keyed (label.next db) := by
  rcases @next_cases _ db label with same | called
  · rw [same]
    exact keyed
  · exact effect_keyed keyed (call_effect called)

end

end Darasa.Grading
