import Darasa.Grading.Assessments

/-!
What becomes of a bound assessment when the curriculum around it changes.

`preserved_historical_context` waives the question whether the version is
published and adopted, and nothing else: a save asks again whether the version is
active, the rubric is active and the bound schema is in force.
`locked_context_stays_usable_iff` says exactly when that lets the assessment go on.
-/

namespace Darasa.Grading

open Darasa (Outcome Unicode)
open Darasa.Curriculum

/-! ## Changes elsewhere -/

/-- A change to the tables an assessment refers to. -/
inductive LaterChange where
  | version (id : ℕ) (isActive : Bool)
  | rubric (id : ℕ) (isActive : Bool)
  | schema (id : ℕ) (status : SchemaStatus)
  | publications (rows : List CurriculumPublication)
  | adoptions (rows : List SchoolCurriculumAdoption)
  | withdrawals (rows : List CurriculumVersionWithdrawal)
  | time (clock : ℕ)

def LaterChange.apply (db : Database) : LaterChange → Database
  | version id isActive =>
    { db with curriculum.versions := db.curriculum.versions.map fun row =>
        if row.id = id then { row with isActive := isActive } else row }
  | rubric id isActive =>
    { db with curriculum.rubrics := db.curriculum.rubrics.map fun row =>
        if row.id = id then { row with isActive := isActive } else row }
  | schema id status =>
    { db with schemas := db.schemas.map fun row =>
        if row.id = id then { row with status := status } else row }
  | publications rows => { db with curriculum.publications := rows }
  | adoptions rows => { db with curriculum.adoptions := rows }
  | withdrawals rows => { db with curriculum.withdrawals := rows }
  | time clock => { db with clock := clock }

/-- What an assessment refers to has changed only in what may change elsewhere. -/
structure Elsewhere (db db' : Database) : Prop where
  staff : db'.staff = db.staff
  school : db'.school = db.school
  areas : db'.curriculum.learningAreas = db.curriculum.learningAreas
  versions : ∀ id, (db'.curriculum.version? id).isSome = (db.curriculum.version? id).isSome
  rubrics : ∀ id, ∃ isActive, db'.curriculum.rubric? id =
    (db.curriculum.rubric? id).map fun row => { row with isActive := isActive }
  schemas : ∀ id, ∃ status, db'.schema? id =
    (db.schema? id).map fun row => { row with status := status }

theorem Elsewhere.refl {db : Database} : Elsewhere db db := by
  refine ⟨rfl, rfl, rfl, fun _ => rfl, fun id => ?_, fun id => ?_⟩
  · cases found : db.curriculum.rubric? id with
    | none => exact ⟨true, rfl⟩
    | some row => exact ⟨row.isActive, rfl⟩
  · cases found : db.schema? id with
    | none => exact ⟨.draft, rfl⟩
    | some row => exact ⟨row.status, rfl⟩

theorem Elsewhere.trans {db db' db'' : Database} (first : Elsewhere db db')
    (second : Elsewhere db' db'') : Elsewhere db db'' := by
  refine ⟨second.staff.trans first.staff, second.school.trans first.school,
    second.areas.trans first.areas, fun id => (second.versions id).trans (first.versions id),
    fun id => ?_, fun id => ?_⟩
  · obtain ⟨isActive, after⟩ := second.rubrics id
    obtain ⟨_, before⟩ := first.rubrics id
    exact ⟨isActive, by rw [after, before, Option.map_map]; rfl⟩
  · obtain ⟨status, after⟩ := second.schemas id
    obtain ⟨_, before⟩ := first.schemas id
    exact ⟨status, by rw [after, before, Option.map_map]; rfl⟩

/-- Setting a field of the rows with one key, seen by key. -/
private theorem find_set {α : Type} {rows : List α} {key : α → ℕ} {set : α → α} {id id' : ℕ}
    (keeps : ∀ row, key (set row) = key row) :
    (rows.map fun row => if key row = id then set row else row).find? (key · == id') =
      (rows.find? (key · == id')).map fun row => if id' = id then set row else row := by
  have same : (fun row => key row == id') ∘ (fun row => if key row = id then set row else row) =
      fun row => key row == id' := by
    funext row
    simp only [Function.comp_apply]
    split <;> simp [keeps]
  rw [List.find?_map, same]
  cases found : rows.find? (key · == id') with
  | none => rfl
  | some row =>
    have here : key row = id' := by simpa using List.find?_some found
    rw [Option.map_some, Option.map_some, here]

theorem apply_elsewhere {db : Database} (change : LaterChange) :
    Elsewhere db (change.apply db) := by
  have rubrics := (@Elsewhere.refl db).rubrics
  have schemas := (@Elsewhere.refl db).schemas
  cases change with
  | version id isActive =>
    refine ⟨rfl, rfl, rfl, fun id' => ?_, rubrics, schemas⟩
    have set := @find_set _ db.curriculum.versions CurriculumVersion.id
      (fun row => { row with isActive := isActive }) id id' fun _ => rfl
    exact (congrArg Option.isSome set).trans Option.isSome_map
  | rubric id isActive =>
    refine ⟨rfl, rfl, rfl, fun _ => rfl, fun id' => ?_, schemas⟩
    have set := @find_set _ db.curriculum.rubrics AssessmentRubricFoundation.id
      (fun row => { row with isActive := isActive }) id id' fun _ => rfl
    by_cases same : id' = id
    · simp only [if_pos same] at set
      exact ⟨isActive, set⟩
    · obtain ⟨isActive', still⟩ := rubrics id'
      simp only [if_neg same, Option.map_id'] at set
      exact ⟨isActive', set.trans still⟩
  | schema id status =>
    refine ⟨rfl, rfl, rfl, fun _ => rfl, rubrics, fun id' => ?_⟩
    have set := @find_set _ db.schemas SchoolGradingSchema.id
      (fun row => { row with status := status }) id id' fun _ => rfl
    by_cases same : id' = id
    · simp only [if_pos same] at set
      exact ⟨status, set⟩
    · obtain ⟨status', still⟩ := schemas id'
      simp only [if_neg same, Option.map_id'] at set
      exact ⟨status', set.trans still⟩
  | _ => exact ⟨rfl, rfl, rfl, fun _ => rfl, rubrics, schemas⟩

/-- The tables after the changes, in order. -/
def after (db : Database) (changes : List LaterChange) : Database :=
  changes.foldl LaterChange.apply db

theorem after_elsewhere {db : Database} (changes : List LaterChange) :
    Elsewhere db (after db changes) ∧ (after db changes).assessments = db.assessments := by
  induction changes generalizing db with
  | nil => exact ⟨.refl, rfl⟩
  | cons change changes ih =>
    refine ⟨(apply_elsewhere change).trans ih.1, ih.2.trans ?_⟩
    cases change <;> rfl

/-! ## Saves of a bound assessment -/

/-- What a save asks again of a context it takes as preserved. -/
structure StillLive (row : Assessment) (db : Database) : Prop where
  titled : row.title ≠ ""
  version : ∀ id ∈ row.curriculumVersion, db.curriculum.versionIsActive id = true
  rubric : ∀ id ∈ row.rubricFoundation,
    (db.curriculum.rubric? id).any AssessmentRubricFoundation.isActive = true
  schema : ∀ id ∈ row.schoolGradingSchema, ∀ schema ∈ db.schema? id,
    schema.status = .active ∨ schema.status = .locked

section

variable [Unicode] {a row : Assessment} {db db₂ : Database}

omit [Unicode] in
/-- Away from its rubric's own flag, a context fits as it did. -/
theorem matches_elsewhere (elsewhere : Elsewhere db db₂)
    (fitted : a.rubricMatchesAssessmentContext db.curriculum = true)
    (context : row.context = a.context) :
    row.rubricMatchesAssessmentContext db₂.curriculum = true ↔
      ∀ id ∈ row.rubricFoundation,
        (db₂.curriculum.rubric? id).any AssessmentRubricFoundation.isActive = true := by
  obtain ⟨version, area, rubric⟩ : row.curriculumVersion = a.curriculumVersion ∧
      row.learningArea = a.learningArea ∧ row.rubricFoundation = a.rubricFoundation := by
    simpa [Assessment.context] using context
  unfold Assessment.rubricMatchesAssessmentContext at fitted ⊢
  rw [version, area, rubric]
  cases foundation : a.rubricFoundation with
  | none => simp [foundation] at fitted
  | some id =>
    obtain ⟨isActive, now⟩ := elsewhere.rubrics id
    cases found : db.curriculum.rubric? id with
    | none => simp [foundation, found] at fitted
    | some before =>
      cases known : a.curriculumVersion with
      | none => simp [foundation, found, known] at fitted
      | some v =>
        simp only [foundation, Option.bind_some, found, known, Bool.and_eq_true] at fitted
        simp only [Option.bind_some, now, found, Option.map_some, Option.mem_def,
          Option.some.injEq, forall_eq', Option.any_some, Bool.and_eq_true]
        unfold CurriculumTables.areaOf at fitted ⊢
        rw [elsewhere.areas]
        exact and_iff_left fitted.2

omit [Unicode] in
theorem refers_elsewhere (elsewhere : Elsewhere db db₂) (refers : row.Refers db) :
    row.Refers db₂ := by
  have rubrics (id : ℕ) :
      (db₂.curriculum.rubric? id).isSome = (db.curriculum.rubric? id).isSome := by
    obtain ⟨_, now⟩ := elsewhere.rubrics id
    rw [now, Option.isSome_map]
  have schemas (id : ℕ) : (db₂.schema? id).isSome = (db.schema? id).isSome := by
    obtain ⟨_, now⟩ := elsewhere.schemas id
    rw [now, Option.isSome_map]
  obtain ⟨tenant, year, term, grade, cohort, area, version, rubric, schema⟩ := refers
  constructor
  all_goals simp only [elsewhere.staff, elsewhere.school, elsewhere.versions, rubrics, schemas]
  all_goals assumption

omit [Unicode] in
theorem placed_elsewhere (elsewhere : Elsewhere db db₂) (placed : row.WellPlaced db) :
    row.WellPlaced db₂ := by
  obtain ⟨positive, year, term, cohort, area, grade, times⟩ := placed
  constructor
  all_goals first | rw [elsewhere.school] | skip
  all_goals assumption

omit [Unicode] in
/-- A bound schema passes again exactly when it is still in force. -/
theorem schema_elsewhere (elsewhere : Elsewhere db db₂)
    (passed : ∀ schema ∈ row.schoolGradingSchema.bind db.schema?, row.cleanSchema schema = .ok ())
    (refers : row.Refers db) :
    (∀ schema ∈ row.schoolGradingSchema.bind db₂.schema?, row.cleanSchema schema = .ok ()) ↔
      ∀ id ∈ row.schoolGradingSchema, ∀ schema ∈ db₂.schema? id,
        schema.status = .active ∨ schema.status = .locked := by
  cases bound : row.schoolGradingSchema with
  | none => simp
  | some id =>
    obtain ⟨status, now⟩ := elsewhere.schemas id
    obtain ⟨schema, found⟩ : ∃ schema, db.schema? id = some schema := by
      simpa [bound, Option.isSome_iff_exists] using refers.schema
    obtain ⟨tenant, type, -, boundary⟩ :=
      clean_schema_ok.mp (passed schema (by simp [bound, found]))
    simp only [Option.bind_some, now, found, Option.map_some, Option.mem_def, Option.some.injEq,
      forall_eq', clean_schema_ok]
    exact ⟨fun clean => clean.2.2.1, fun live => ⟨tenant, type, live, boundary⟩⟩

theorem strip_length (s : String) : (Text.strip s).length ≤ s.length := by
  unfold Text.strip Text.stripChars Text.lstripChars
  rw [String.length_ofList, List.length_reverse, ← String.length_toList]
  have first := (List.dropWhile_sublist Unicode.isSpace (l := s.toList)).length_le
  have second := (List.dropWhile_sublist Unicode.isSpace
    (l := (List.dropWhile Unicode.isSpace s.toList).reverse)).length_le
  rw [List.length_reverse] at second
  exact second.trans first

-- an instance is compared with its stored row field by field: the title stays folded
attribute [local irreducible] Text.strip

/-- The stored row moved to another status. -/
def moved (a : Assessment) (clock : ℕ) (status : AssessmentStatus) : Assessment :=
  { a.stored clock with status := status }

variable {clock : ℕ} {status : AssessmentStatus}

theorem moved_refers (refers : a.Refers db) : (moved a clock status).Refers db := by
  obtain ⟨tenant, year, term, grade, cohort, area, version, rubric, schema⟩ := refers
  exact ⟨tenant, year, term, grade, cohort, area, version, rubric, schema⟩

theorem moved_placed (placed : a.WellPlaced db) : (moved a clock status).WellPlaced db := by
  obtain ⟨positive, year, term, cohort, area, grade, times⟩ := placed
  exact ⟨positive, year, term, cohort, area, grade, times⟩

theorem moved_fields_ok (fields : a.cleanFields db = .ok ()) (elsewhere : Elsewhere db db₂) :
    (moved a clock status).cleanFields db₂ = .ok () ↔ (a.stored clock).title ≠ "" := by
  obtain ⟨refers, -, short, max, digits, label⟩ := clean_fields_ok.mp fields
  rw [clean_fields_ok]
  constructor
  · intro fields
    exact fields.2.1
  · intro titled
    exact ⟨moved_refers (refers_elsewhere elsewhere refers), titled,
      (strip_length a.title).trans short, max, digits, label⟩

/-- The stored context is taken as preserved. -/
theorem moved_unchanged (there : db₂.assessment? a.id = some (a.stored clock)) :
    ((moved a clock status).curriculumContextChangedFields db₂).isEmpty = true := by
  unfold Assessment.curriculumContextChangedFields
  rw [show db₂.assessment? (moved a clock status).id = some (a.stored clock) from there]
  exact changed_fields_empty.mpr rfl

theorem moved_binding_ok (opened : a.status = .open)
    (binding : a.validateCurriculumBindingForStatus db = .ok ()) (elsewhere : Elsewhere db db₂)
    (there : db₂.assessment? a.id = some (a.stored clock)) (operational : status ≠ .draft) :
    (moved a clock status).validateCurriculumBindingForStatus db₂ = .ok () ↔
      (∀ id ∈ a.curriculumVersion, db₂.curriculum.versionIsActive id = true) ∧
      ∀ id ∈ a.rubricFoundation,
        (db₂.curriculum.rubric? id).any AssessmentRubricFoundation.isActive = true := by
  unfold Assessment.validateCurriculumBindingForStatus at binding ⊢
  rw [refuseIf_ok, Option.isSome_eq_false_iff, Option.isNone_iff_eq_none] at binding ⊢
  rw [binding_ok (by simp [opened])] at binding
  obtain ⟨version, rubric, -, -, fits, -⟩ := binding
  have locked : (moved a clock status).curriculumBindingLockedAt.isSome = true :=
    stored_locked (by simp [opened])
  have preserved : (moved a clock status).preservesHistoricalContext db₂ = true := by
    unfold Assessment.preservesHistoricalContext
    rw [locked, moved_unchanged there, Bool.and_self]
  have active : (moved a clock status).curriculumVersion.any db₂.curriculum.versionIsActive = true ↔
      ∀ id ∈ a.curriculumVersion, db₂.curriculum.versionIsActive id = true := by
    obtain ⟨id, is⟩ := Option.isSome_iff_exists.mp version
    rw [show (moved a clock status).curriculumVersion = some id from is,
      show a.curriculumVersion = some id from is]
    simp
  have rubrics : (moved a clock status).rubricMatchesAssessmentContext db₂.curriculum = true ↔
      ∀ id ∈ a.rubricFoundation,
        (db₂.curriculum.rubric? id).any AssessmentRubricFoundation.isActive = true :=
    matches_elsewhere elsewhere fits rfl
  rw [show (moved a clock status).status = status from rfl, binding_ok operational, preserved,
    active, rubrics]
  constructor
  · rintro ⟨-, -, active, -, rubrics, -⟩
    exact ⟨active, rubrics⟩
  · rintro ⟨active, rubrics⟩
    exact ⟨version, rubric, active, rfl, rubrics, by simp⟩

/-- A save that only moves the status passes exactly when the context is still
live. -/
theorem moved_save_ok (opened : a.status = .open) (valid : a.validate db = .ok ())
    (elsewhere : Elsewhere db db₂)
    (there : db₂.assessment? a.id = some (a.stored clock)) (operational : status ≠ .draft) :
    (∃ db₃, (moved a clock status).save db₂ = .ok db₃) ↔ StillLive (a.stored clock) db₂ := by
  obtain ⟨fields, clean, weight⟩ := validate_ok.mp valid
  have refers := (clean_fields_ok.mp fields).1
  obtain ⟨placed, schema, binding, -⟩ := clean_ok.mp clean
  have immutable : (moved a clock status).validateCurriculumContextImmutability db₂ = .ok () := by
    unfold Assessment.validateCurriculumContextImmutability curriculumContextMutationAllowed
    rw [moved_unchanged there]
    rfl
  have valid' : (∃ db₃, (moved a clock status).save db₂ = .ok db₃) ↔
      (moved a clock status).validate db₂ = .ok () := by
    simp [save_ok]
  have schemas : (∀ schema ∈ (moved a clock status).schoolGradingSchema.bind db₂.schema?,
      (moved a clock status).cleanSchema schema = .ok ()) ↔ _ :=
    schema_elsewhere elsewhere schema (moved_refers refers)
  rw [valid', validate_ok, clean_ok, moved_fields_ok fields elsewhere,
    moved_binding_ok opened binding elsewhere there operational, schemas]
  constructor
  · rintro ⟨titled, ⟨-, schemas, ⟨version, rubric⟩, -⟩, -⟩
    exact ⟨titled, version, rubric, schemas⟩
  · rintro ⟨titled, version, rubric, schemas⟩
    exact ⟨titled, ⟨moved_placed (placed_elsewhere elsewhere placed), schemas,
      ⟨version, rubric⟩, immutable⟩, weight⟩

/-- **When locked context stays usable.**  A row that was saved open stays
operationally bound, and may be moved to every other operational status, exactly
when nothing that a save asks again has gone out of force. -/
theorem locked_context_stays_usable_iff {db₁ : Database} (opened : a.status = .open)
    (saved : a.save db = .ok db₁) (changes : List LaterChange)
    (there : (after db₁ changes).assessment? a.id = some row) :
    ((∀ status : AssessmentStatus, status ≠ .draft → status ≠ .open →
        ∃ db₃, ({ row with status := status } : Assessment).save (after db₁ changes) = .ok db₃) ∧
      row.isOperationallyBound (after db₁ changes).curriculum = true) ↔
      StillLive row (after db₁ changes) := by
  obtain ⟨valid, rfl⟩ := save_ok.mp saved
  obtain ⟨elsewhere', assessments⟩ := @after_elsewhere (db.store a) changes
  have elsewhere : Elsewhere db (after (db.store a) changes) :=
    ⟨elsewhere'.staff, elsewhere'.school, elsewhere'.areas, elsewhere'.versions,
      elsewhere'.rubrics, elsewhere'.schemas⟩
  have stored : (after (db.store a) changes).assessment? a.id = some (a.stored db.clock) := by
    unfold Database.assessment?
    rw [assessments]
    exact assessment_of_store.trans (if_pos rfl)
  cases there.symm.trans stored
  have saves (status : AssessmentStatus) (operational : status ≠ .draft) :=
    @moved_save_ok _ a db _ db.clock status opened valid elsewhere stored operational
  constructor
  · rintro ⟨moves, -⟩
    exact (saves .locked (by simp)).mp (moves .locked (by simp) (by simp))
  · intro live
    refine ⟨fun status operational _ => (saves status operational).mpr live, ?_⟩
    have binding := (clean_ok.mp (validate_ok.mp valid).2.1).2.2.1
    unfold Assessment.validateCurriculumBindingForStatus at binding
    rw [refuseIf_ok, Option.isSome_eq_false_iff, Option.isNone_iff_eq_none,
      binding_ok (by simp [opened])] at binding
    obtain ⟨version, rubric, -, -, fits, -⟩ := binding
    have fits' := (@matches_elsewhere a (a.stored db.clock) db _ elsewhere fits rfl).mpr live.rubric
    have operational : (a.stored db.clock).status ≠ .draft := by simp [opened]
    unfold Assessment.isOperationallyBound assessmentStatusRequiresBinding
    rw [Bool.and_eq_true, Option.isNone_iff_eq_none, binding_ok operational]
    exact ⟨by simpa using operational, version, rubric, rfl, rfl, fits',
      fun _ => stored_locked (by simp [opened])⟩

end

section Sample

attribute [local instance] Unicode.ascii

private theorem exam_saved : Sample.exam.save Sample.database =
    .ok (Sample.database.store Sample.exam) :=
  save_ok.mpr ⟨by decide +kernel, rfl⟩

/-- The version is withdrawn and no longer adopted. -/
private def withdrawn : List LaterChange :=
  [.withdrawals [⟨1, .withdrawn⟩], .adoptions [], .publications []]

/-- The exam goes on after its version is withdrawn. -/
theorem withdrawn_context_stays_usable :
    (∀ status : AssessmentStatus, status ≠ .draft → status ≠ .open →
      ∃ db₃, ({ Sample.exam.stored 100 with status := status } : Assessment).save
        (after (Sample.database.store Sample.exam) withdrawn) = .ok db₃) ∧
    (Sample.exam.stored 100).isOperationallyBound
      (after (Sample.database.store Sample.exam) withdrawn).curriculum = true :=
  (locked_context_stays_usable_iff rfl exam_saved withdrawn (by decide +kernel)).mpr
    ⟨by decide +kernel, by decide +kernel, by decide +kernel, by decide +kernel⟩

/-- Once the version is deactivated the exam cannot be locked. -/
theorem deactivated_version_blocks_save :
    ∃ db₁ row, Sample.exam.save Sample.database = .ok db₁ ∧
      (after db₁ [.version 1 false]).assessment? 1 = some row ∧
      ¬ ∃ db₃, ({ row with status := .locked } : Assessment).save
        (after db₁ [.version 1 false]) = .ok db₃ := by
  refine ⟨_, Sample.exam.stored 100, exam_saved, by decide +kernel, ?_⟩
  rintro ⟨db₃, saved⟩
  have valid := (save_ok.mp saved).1
  revert valid
  decide +kernel

end Sample

end Darasa.Grading
