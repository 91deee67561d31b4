import Darasa.Grading.Assessments
import Darasa.Grading.Corrections

/-!
School grading schemas: their bands, the services that create, activate and deprecate
them, and the one that binds an assessment to one.
-/

namespace Darasa.Grading

open Darasa (Decimal Exn Json Outcome Unicode cleanForeignKey cleanText fullClean refuseIf
  refuseUnstorable requireSome)
open Darasa.Core (CustomUser)

/-! ## Bands -/

/-- A band's range, as `validate_schema_bands` reads it. -/
structure BandRange where
  min : Decimal
  max : Decimal

/-- `x == y`, which signals on a signaling NaN only. -/
def sameNumber : Decimal → Decimal → Outcome Bool
  | .nan true, _ => .error .invalidOperation
  | _, .nan true => .error .invalidOperation
  | .nan false, _ => .ok false
  | _, .nan false => .ok false
  | x, y => do
    let less ← x.lt y
    let more ← y.lt x
    return !less && !more

/-- `<` of the pairs the ranges are sorted by. -/
def BandRange.before (a b : BandRange) : Outcome Bool := do
  let sameMin ← sameNumber a.min b.min
  if !sameMin then a.min.lt b.min
  else do
    let sameMax ← sameNumber a.max b.max
    if !sameMax then a.max.lt b.max else return false

def insertRange (range : BandRange) : List BandRange → Outcome (List BandRange)
  | [] => .ok [range]
  | first :: rest => do
    let later ← first.before range
    if later then do
      let rest ← insertRange range rest
      return first :: rest
    else return range :: first :: rest

/-- The ranges sorted.  Every sort compares what ends up side by side, so this one raises
where another does: when two of the ranges do not compare. -/
def sortRanges : List BandRange → Outcome (List BandRange)
  | [] => .ok []
  | range :: ranges => do
    let rest ← sortRanges ranges
    insertRange range rest

/-- `min < 0 or max > 100 or min > max`, which reads no further than it has to. -/
def BandRange.isInvalid (range : BandRange) : Outcome Bool := do
  let negative ← range.min.lt (.finite false 0 0)
  if negative then return true
  else do
    let large ← range.max.gt (.finite false 100 0)
    if large then return true else range.min.gt range.max

/-- The range does not start a hundredth above the one before. -/
def leavesGap (previous current : BandRange) : Outcome Bool := do
  let next ← previous.max.plus (.finite false 1 (-2))
  let joined ← sameNumber current.min next
  return !joined

/-- Full coverage is required and the sorted ranges do not run from 0.00 to 100.00 without
a gap. -/
def coverageGap (requiresFullCoverage : Bool) (sorted : List BandRange) : Outcome Bool :=
  match requiresFullCoverage, sorted.head?, sorted.getLast? with
  | true, some first, some last => do
    let fromZero ← sameNumber first.min (.finite false 0 (-2))
    let toHundred ← sameNumber last.max (.finite false 10000 (-2))
    let gap ← (sorted.zip sorted.tail).anyM fun pair => leavesGap pair.1 pair.2
    return !fromZero || !toHundred || gap
  | _, _, _ => .ok false

/-- `validate_schema_bands`: the errors it finds. -/
def validateSchemaBands (ranges : List BandRange) (requiresFullCoverage : Bool) :
    Outcome (List String) := do
  let sorted ← sortRanges ranges
  let required := sorted.isEmpty
  let invalid ← sorted.mapM BandRange.isInvalid
  let overlapping ← (sorted.zip sorted.tail).mapM fun pair => pair.2.min.le pair.1.max
  let gap ← coverageGap requiresFullCoverage sorted
  return (if required then ["bands_required"] else []) ++ (if gap then ["coverage_gap"] else []) ++
    (if invalid.any id then ["invalid_range"] else []) ++
    (if overlapping.any id then ["overlapping_ranges"] else [])

/-- What the services do with the errors. -/
def refuseBands (ranges : List BandRange) (requiresFullCoverage : Bool) : Outcome Unit := do
  let errors ← validateSchemaBands ranges requiresFullCoverage
  refuseIf (!errors.isEmpty) "bands" (String.intercalate ", " errors)

section

variable [Unicode]

/-- `band[key]`. -/
def bandItem (key : String) : Json → Outcome Json
  | .obj fields =>
    match Json.lookup key fields with
    | some value => .ok value
    | none => .error (.other "KeyError" key)
  | other => .error (.typeError s!"'{other.typeName}' object is not subscriptable")

/-- `Decimal(str(value))`. -/
def bandNumber (value : Json) : Outcome Decimal :=
  match value.toDecimal? with
  | some number => .ok number
  | none => .error .invalidOperation

def bandRange (band : Json) : Outcome BandRange := do
  let min ← bandItem "min_percentage" band
  let min ← bandNumber min
  let max ← bandItem "max_percentage" band
  let max ← bandNumber max
  return ⟨min, max⟩

/-- `payload.get("bands") or []`, as it is iterated. -/
def bandsPayload (payload : List (String × Json)) : Outcome (List Json) :=
  match (Json.lookup "bands" payload).filter Json.truthy with
  | none => .ok []
  | some (.arr bands) => .ok bands
  | some other => .error (.typeError s!"'{other.typeName}' object is not a list of bands")

/-- The points of a band in its `numeric(5, 2)` column. -/
def pointsColumn : Decimal → Outcome Decimal
  | .finite negative coefficient exponent =>
    let hundredths := (Decimal.finite negative coefficient exponent).hundredths
    if hundredths < 10 ^ 5 then
      .ok (.ofHundredths (if negative then -hundredths else hundredths))
    else .error (.other "DataError" "numeric field overflow")
  | .nan _ => .ok (.nan false)
  | .infinity _ => .error (.other "DataError" "numeric field overflow")

/-- `band.get("points")`, in its column. -/
def bandPoints (fields : List (String × Json)) : Outcome (Option Decimal) :=
  match (Json.lookup "points" fields).filter (· != .null) with
  | none => .ok none
  | some value => do
    let number ← bandNumber value
    let points ← pointsColumn number
    return some points

/-- The row of a band of the payload. -/
def buildBand (tenant schema order : ℕ) (band : Json) : Outcome SchoolGradingBand := do
  let label ← bandItem "label" band
  let label ← sanitizeUntrustedText label 32
  let fields := match band with
    | .obj fields => fields
    | _ => []
  let descriptor ← sanitizeUntrustedText ((Json.lookup "descriptor" fields).getD (.str "")) 160
  let range ← bandRange band
  let points ← bandPoints fields
  refuseUnstorable (Text.storable label && Text.storable descriptor)
  return ⟨tenant, schema, label, descriptor, range.min.hundredths, range.max.hundredths, points,
    order⟩

def buildBands (tenant schema : ℕ) : ℕ → List Json → Outcome (List SchoolGradingBand)
  | _, [] => .ok []
  | order, band :: bands => do
    let first ← buildBand tenant schema order band
    let rest ← buildBands tenant schema (order + 1) bands
    return first :: rest

end

/-! ## Schemas -/

/-- The assessment type a value names. -/
def AssessmentType.ofValue? : String → Option AssessmentType
  | "quiz" => some .quiz
  | "assignment" => some .assignment
  | "practical" => some .practical
  | "exam" => some .exam
  | "project" => some .project
  | "cat" => some .cat
  | "internal_exam" => some .internalExam
  | "mock_exam" => some .mockExam
  | "trial_exam" => some .trialExam
  | "departmental_test" => some .departmentalTest
  | "practical_component" => some .practicalComponent
  | "cbe_rubric_assessment" => some .cbeRubricAssessment
  | _ => none

/-- `can_bind_school_schema`: the reason it refuses with. -/
def canBindSchoolSchema (assessmentType schemaType : AssessmentType) (hasCbeContext : Bool) :
    Option String :=
  if assessmentType = .cbeRubricAssessment then some "cbe_rubric_schema_override_denied"
  else if assessmentType ≠ schemaType then some "schema_type_mismatch"
  else if hasCbeContext then none
  else some "missing_cbe_context"

namespace SchoolGradingSchema

variable [Unicode]

/-- `SchoolGradingSchema.clean`; `name` and `version_label` are stripped. -/
def clean (self : SchoolGradingSchema) : Outcome Unit := do
  refuseIf self.name.isEmpty "name" "Schema name is required."
  refuseIf self.versionLabel.isEmpty "version_label" "Schema version is required."
  refuseIf (unsafeText self.name) "name" "Schema name is unsafe."
  refuseIf ([SchemaStatus.active, .locked].contains self.status &&
      (self.activatedBy.isNone || self.activatedAt.isNone))
    "activated_at" "Active schema requires activation audit."

/-- `full_clean`, with the user of the column the service has just set. -/
def validate (self : SchoolGradingSchema) (db : Database) (field : String) (user : ℕ) :
    Outcome Unit := do
  fullClean
    (do
      cleanForeignKey "tenant" "school" (db.staff.schools.any (·.id == self.tenant))
      cleanText "name" 120 self.name
      cleanText "version_label" 48 self.versionLabel
      db.cleanUser field (some user)
      db.cleanUser "activated_by" self.activatedBy)
    self.clean
  refuseIf (db.schemas.any fun row =>
      row.id != self.id && row.tenant == self.tenant &&
        row.assessmentType == self.assessmentType && row.versionLabel == self.versionLabel)
    "__all__" "Constraint “grading_schema_type_version_unique” is violated."

end SchoolGradingSchema

namespace Database

variable (db : Database)

/-- `filter(tenant=tenant, id=schema_id).first()`. -/
def tenantSchema (tenant id : ℕ) : Option SchoolGradingSchema :=
  (db.schema? id).filter (·.tenant == tenant)

/-- The ranges of a schema's bands. -/
def schemaRanges (schema : ℕ) : List BandRange :=
  (db.bands.filter (·.schema == schema)).map fun band =>
    ⟨.ofHundredths band.minPercentage, .ofHundredths band.maxPercentage⟩

/-- A stored schema written again. -/
def saveSchema [Unicode] (schema : SchoolGradingSchema) (field : String) (user : ℕ) :
    Outcome Database := do
  schema.validate db field user
  return { db with
    schemas := Table.replace SchoolGradingSchema.id schema db.schemas
    clock := db.clock + 2 }

end Database

/-! ## The services -/

section

variable [Unicode]

/-- `create_school_grading_schema`. -/
def createSchoolGradingSchema (db : Database) (actor : CustomUser) (tenant : ℕ)
    (payload : List (String × Json)) : Outcome (SchoolGradingSchema × Database) := do
  rejectCorrectionMassAssignment payload
  let context := db.correctionContext actor tenant schemaAdminRoles
  refuseIf (!db.canManageSchoolGradingSchema context []) "schema"
    "Schema management is not authorized."
  let bands ← bandsPayload payload
  let full := ((Json.lookup "requires_full_coverage" payload).getD (.bool true)).truthy
  let ranges ← bands.mapM bandRange
  refuseBands ranges full
  let name ← sanitizeUntrustedText ((Json.lookup "name" payload).getD .null) 120
  let typeValue := (Json.lookup "assessment_type" payload).filter Json.truthy
  let versionLabel ← sanitizeUntrustedText ((Json.lookup "version_label" payload).getD .null) 48
  let assessmentType ← requireSome
    (typeValue.bind fun value => AssessmentType.ofValue? value.text) "assessment_type"
    "Value %(value)r is not a valid choice."
  let schema : SchoolGradingSchema :=
    { id := db.nextId
      tenant := tenant
      name := Text.strip name
      assessmentType := assessmentType
      versionLabel := Text.strip versionLabel
      status := .draft
      requiresFullCoverage := full
      activatedBy := none
      activatedAt := none }
  schema.validate db "created_by" actor.id
  refuseUnstorable (Text.storable name && Text.storable versionLabel)
  let rows ← buildBands tenant schema.id 1 bands
  if (rows.map (·.label)).Nodup then
    return (schema,
      { db with
        schemas := db.schemas ++ [schema]
        bands := db.bands ++ rows
        nextId := db.nextId + 1
        clock := db.clock + 2 })
  else .error (.integrityError "grading_schema_band_label_unique")

/-- `activate_school_grading_schema`. -/
def activateSchoolGradingSchema (db : Database) (actor : CustomUser) (tenant schemaId : ℕ) :
    Outcome (SchoolGradingSchema × Database) := do
  let schema ← requireSome (db.tenantSchema tenant schemaId) "schema" "Schema is not available."
  let context := db.correctionContext actor tenant schemaAdminRoles
  refuseIf (!db.canManageSchoolGradingSchema context [schema.tenant]) "schema"
    "Schema management is not authorized."
  refuseBands (db.schemaRanges schema.id) schema.requiresFullCoverage
  let activated :=
    { schema with
      status := .active
      activatedBy := some actor.id
      activatedAt := some db.clock }
  let saved ← db.saveSchema activated "activated_by" actor.id
  return (activated, saved)

/-- `deprecate_school_grading_schema`. -/
def deprecateSchoolGradingSchema (db : Database) (actor : CustomUser) (tenant schemaId : ℕ) :
    Outcome (SchoolGradingSchema × Database) := do
  let schema ← requireSome (db.tenantSchema tenant schemaId) "schema" "Schema is not available."
  let context := db.correctionContext actor tenant schemaAdminRoles
  refuseIf (!db.canManageSchoolGradingSchema context [schema.tenant]) "schema"
    "Schema management is not authorized."
  let deprecated := { schema with status := .deprecated }
  let saved ← db.saveSchema deprecated "deprecated_by" actor.id
  return (deprecated, saved)

/-- The assessment, bound to a schema. -/
def Assessment.bound (assessment : Assessment) (schema : SchoolGradingSchema) : Assessment :=
  { assessment with
    schoolGradingSchema := some schema.id
    schoolGradingSchemaVersion := schema.versionLabel }

/-- `bind_schema_to_assessment`. -/
def bindSchemaToAssessment (db : Database) (actor : CustomUser)
    (tenant assessmentId schemaId : ℕ) : Outcome Database := do
  let assessment ← requireSome (db.tenantAssessment tenant assessmentId) "schema"
    "Schema binding is not available."
  let schema ← requireSome (db.tenantSchema tenant schemaId) "schema"
    "Schema binding is not available."
  let context := db.correctionContext actor tenant schemaAdminRoles
  refuseIf (!db.canManageSchoolGradingSchema context [schema.tenant, assessment.tenant]) "schema"
    "Schema binding is not authorized."
  let reason := canBindSchoolSchema assessment.assessmentType schema.assessmentType
    (assessment.curriculumVersion.isSome && assessment.rubricFoundation.isSome)
  refuseIf reason.isSome "schema" (reason.getD "")
  refuseIf (!([SchemaStatus.active, .locked].contains schema.status)) "schema"
    "Schema is not active."
  (assessment.bound schema).save db

end

/-! ## What the services change -/

section

variable [Unicode] {db db' : Database} {actor : CustomUser} {tenant id schemaId : ℕ}
  {payload : List (String × Json)} {reply : SchoolGradingSchema}

theorem save_schema_ok {schema : SchoolGradingSchema} {field : String} {user : ℕ}
    (saved : db.saveSchema schema field user = .ok db') :
    db' = { db with
      schemas := Table.replace SchoolGradingSchema.id schema db.schemas
      clock := db.clock + 2 } := by
  obtain ⟨-, stored⟩ := Outcome.check_ok.mp saved
  exact (Except.ok.inj stored).symm

/-- A new schema comes with its bands, under an identifier of its own. -/
theorem create_schema_ok
    (created : createSchoolGradingSchema db actor tenant payload = .ok (reply, db')) :
    ∃ rows, db' = { db with
      schemas := db.schemas ++ [reply]
      bands := db.bands ++ rows
      nextId := db.nextId + 1
      clock := db.clock + 2 } := by
  unfold createSchoolGradingSchema at created
  obtain ⟨-, created⟩ := Outcome.check_ok.mp created
  obtain ⟨-, created⟩ := Outcome.check_ok.mp created
  obtain ⟨bands, -, created⟩ := Outcome.bind_ok.mp created
  obtain ⟨ranges, -, created⟩ := Outcome.bind_ok.mp created
  obtain ⟨-, created⟩ := Outcome.check_ok.mp created
  obtain ⟨name, -, created⟩ := Outcome.bind_ok.mp created
  obtain ⟨versionLabel, -, created⟩ := Outcome.bind_ok.mp created
  obtain ⟨assessmentType, -, created⟩ := Outcome.bind_ok.mp created
  obtain ⟨-, created⟩ := Outcome.check_ok.mp created
  obtain ⟨-, created⟩ := Outcome.check_ok.mp created
  obtain ⟨rows, -, created⟩ := Outcome.bind_ok.mp created
  split at created
  next =>
    cases created
    exact ⟨rows, rfl⟩
  next => cases created

/-- Activating writes the schema again, active. -/
theorem activate_schema_ok
    (activated : activateSchoolGradingSchema db actor tenant id = .ok (reply, db')) :
    db' = { db with
      schemas := Table.replace SchoolGradingSchema.id reply db.schemas
      clock := db.clock + 2 } := by
  unfold activateSchoolGradingSchema at activated
  obtain ⟨schema, -, activated⟩ := Outcome.bind_ok.mp activated
  obtain ⟨-, activated⟩ := Outcome.check_ok.mp activated
  obtain ⟨-, activated⟩ := Outcome.check_ok.mp activated
  obtain ⟨saved, stored, activated⟩ := Outcome.bind_ok.mp activated
  cases activated
  exact save_schema_ok stored

theorem deprecate_schema_ok
    (deprecated : deprecateSchoolGradingSchema db actor tenant id = .ok (reply, db')) :
    db' = { db with
      schemas := Table.replace SchoolGradingSchema.id reply db.schemas
      clock := db.clock + 2 } := by
  unfold deprecateSchoolGradingSchema at deprecated
  obtain ⟨schema, -, deprecated⟩ := Outcome.bind_ok.mp deprecated
  obtain ⟨-, deprecated⟩ := Outcome.check_ok.mp deprecated
  obtain ⟨saved, stored, deprecated⟩ := Outcome.bind_ok.mp deprecated
  cases deprecated
  exact save_schema_ok stored

/-- Binding saves the assessment with the schema and its label. -/
theorem bind_schema_ok (bound : bindSchemaToAssessment db actor tenant id schemaId = .ok db') :
    ∃ assessment schema, db.assessment? id = some assessment ∧ db.schema? schemaId = some schema ∧
      (assessment.bound schema).save db = .ok db' := by
  unfold bindSchemaToAssessment at bound
  obtain ⟨assessment, found, bound⟩ := Outcome.bind_ok.mp bound
  obtain ⟨schema, found', bound⟩ := Outcome.bind_ok.mp bound
  obtain ⟨-, bound⟩ := Outcome.check_ok.mp bound
  obtain ⟨-, bound⟩ := Outcome.check_ok.mp bound
  obtain ⟨-, bound⟩ := Outcome.check_ok.mp bound
  exact ⟨assessment, schema, (Option.filter_eq_some_iff.mp (requireSome_ok.mp found)).1,
    (Option.filter_eq_some_iff.mp (requireSome_ok.mp found')).1, bound⟩

end

end Darasa.Grading
