import Darasa.Grading.Readiness

/-!
Which curriculum impacts apply to an assessment.

An impact names values of the dimensions it is scoped to.  It should be set aside only for
an assessment known to lie elsewhere; the matcher also sets it aside where a value is
missing.
-/

namespace Darasa.Grading

open Darasa (Json Unicode)

/-! ## Dimensions -/

/-- The dimensions the matcher compares. -/
inductive ScopeDimension where
  | region | county | subCounty | schoolCategory | seniorSchoolPathway
  | gradeLevel | learningArea | rubric
  deriving DecidableEq, Repr

/-- The key of a dimension in a scope. -/
def ScopeDimension.key : ScopeDimension → String
  | region => "region"
  | county => "county"
  | subCounty => "sub_county"
  | schoolCategory => "school_category"
  | seniorSchoolPathway => "senior_school_pathway"
  | gradeLevel => "grade_level"
  | learningArea => "learning_area"
  | rubric => "rubric"

/-- A grade level, by its identifier, code and name. -/
def Database.gradeLevelNames (db : Database) (id : Option ℕ) : List Json :=
  let row := id.bind db.school.gradeLevel?
  [keyText id, .str ((row.map (·.code)).getD ""), .str ((row.map (·.name)).getD "")]

/-- What an assessment, or its tenant, is called in a dimension. -/
def Database.dimensionNames (db : Database) (assessment : Assessment) : ScopeDimension → List Json
  | .gradeLevel => db.gradeLevelNames assessment.gradeLevel
  | .learningArea =>
    let row := db.school.learningArea? assessment.learningArea
    [keyText (some assessment.learningArea), .str ((row.map (·.code)).getD ""),
      .str ((row.map (·.name)).getD "")]
  | .rubric =>
    let row := assessment.rubricFoundation.bind db.curriculum.rubric?
    [keyText assessment.rubricFoundation, .str ((row.map (·.levelCode)).getD ""),
      .str ((row.map (·.levelLabel)).getD "")]
  | dimension => [(Json.lookup dimension.key (db.school.metadata assessment.tenant)).getD .null]

/-- The names to hold a scope against: those of the assessment, and for the grade level
also those of its cohort. -/
def Database.knownNames (db : Database) (assessment : Assessment) (dimension : ScopeDimension) :
    List (List Json) :=
  match dimension with
  | .gradeLevel => [db.dimensionNames assessment .gradeLevel,
      db.gradeLevelNames ((db.school.cohort? assessment.cohort).map (·.gradeLevel))]
  | dimension => [db.dimensionNames assessment dimension]

section

variable [Unicode]

/-- The value a scope names in a dimension. -/
def namedValue (scope : List (String × Json)) (dimension : ScopeDimension) : Option String :=
  ((Json.lookup dimension.key scope).filter Json.truthy).bind fun value =>
    if (normalizedText value).isEmpty then none else some (normalizedText value)

/-- Some of the names is not blank. -/
def Known (names : List Json) : Prop := ∃ name ∈ names, (normalizedText name).isEmpty = false

/-- The names are known, and none of them is the value named. -/
def Differs (value : String) (names : List Json) : Prop :=
  Known names ∧ ∀ name ∈ names, normalizedText name ≠ value

/-- The scope names a value in the dimension, and the assessment is known to have
another. -/
def Contradicted (db : Database) (assessment : Assessment) (scope : List (String × Json))
    (dimension : ScopeDimension) : Prop :=
  ∃ value, namedValue scope dimension = some value ∧
    ∃ names ∈ db.knownNames assessment dimension, Differs value names

/-- The scope is left open. -/
def ScopeOpen (scope : List (String × Json)) : Prop :=
  scope = [] ∨ normalizedText ((Json.lookup "scope_type" scope).getD .null) = "scope_unknown"

/-! ## The matcher, by dimension -/

variable {db : Database} {assessment : Assessment} {scope : List (String × Json)}
  {dimension : ScopeDimension}

/-- A value named is not blank. -/
theorem named_filled {value : String} (named : namedValue scope dimension = some value) :
    value.isEmpty = false := by
  obtain ⟨text, -, shown⟩ := Option.bind_eq_some_iff.mp named
  cases blank : (normalizedText text).isEmpty with
  | true =>
    rw [blank, if_pos rfl] at shown
    exact absurd shown.symm (Option.some_ne_none value)
  | false =>
    rw [blank] at shown
    exact Option.some.inj shown ▸ blank

/-- A field matches unless the scope names a value none of the candidates has. -/
theorem field_matches_iff {candidates : List Json} :
    scopeFieldMatches scope dimension.key candidates = true ↔
      ∀ value, namedValue scope dimension = some value →
        ∃ candidate ∈ candidates, normalizedText candidate = value := by
  unfold scopeFieldMatches namedValue
  cases (Json.lookup dimension.key scope).filter Json.truthy with
  | none => simp
  | some value =>
    simp only [Option.all_some, scopeMatchesAny, Option.bind_some, Bool.or_eq_true,
      List.contains_iff_mem, List.mem_map]
    cases blank : (normalizedText value).isEmpty <;> simp

theorem metadata_matches_iff :
    metadataScopeMatches (db.school.metadata assessment.tenant) scope = true ↔
      ∀ dimension ∈ [ScopeDimension.region, .county, .subCounty, .schoolCategory,
        .seniorSchoolPathway],
        scopeFieldMatches scope dimension.key (db.dimensionNames assessment dimension) = true := by
  simp [metadataScopeMatches, ScopeDimension.key, Database.dimensionNames]

/-- The impact applies when its scope is open, or every dimension it names matches. -/
theorem scope_applies_iff :
    impactScopeAppliesToAssessment db assessment scope = true ↔
      ScopeOpen scope ∨ ∀ dimension value, namedValue scope dimension = some value →
        ∃ name ∈ db.dimensionNames assessment dimension, normalizedText name = value := by
  have each : (metadataScopeMatches (db.school.metadata assessment.tenant) scope = true ∧
      scopeFieldMatches scope "grade_level" (db.dimensionNames assessment .gradeLevel) = true ∧
      scopeFieldMatches scope "learning_area" (db.dimensionNames assessment .learningArea) = true ∧
      scopeFieldMatches scope "rubric" (db.dimensionNames assessment .rubric) = true) ↔
      ∀ dimension : ScopeDimension,
        scopeFieldMatches scope dimension.key (db.dimensionNames assessment dimension) = true := by
    rw [metadata_matches_iff]
    constructor
    · rintro ⟨metadata, gradeLevel, learningArea, rubric⟩ dimension
      cases dimension with
      | gradeLevel => exact gradeLevel
      | learningArea => exact learningArea
      | rubric => exact rubric
      | _ => exact metadata _ (by simp)
    · exact fun every =>
        ⟨fun dimension _ => every dimension, every .gradeLevel, every .learningArea, every .rubric⟩
  simp only [field_matches_iff] at each
  unfold impactScopeAppliesToAssessment ScopeOpen
  simp only [Bool.or_eq_true, Bool.and_eq_true, List.isEmpty_iff, beq_iff_eq]
  rw [← each, and_assoc, and_assoc]
  rfl

omit [Unicode] in
/-- The names the matcher compares are names to hold the scope against. -/
theorem own_names_known : db.dimensionNames assessment dimension ∈
    db.knownNames assessment dimension := by
  cases dimension <;> simp [Database.knownNames]

/-! ## Conservative scoping -/

/-- Every dimension the scope names is known of the assessment. -/
def NamedDimensionsKnown (db : Database) (assessment : Assessment)
    (scope : List (String × Json)) : Prop :=
  ∀ dimension, (namedValue scope dimension).isSome = true →
    Known (db.dimensionNames assessment dimension)

/-- **An impact is set aside only for an assessment known to lie elsewhere exactly when its
scope names no dimension in which the assessment is unknown**, but for scopes left open and
those contradicted in another dimension anyway. -/
theorem scoping_is_conservative_iff (db : Database) (assessment : Assessment)
    (scope : List (String × Json)) :
    (impactScopeAppliesToAssessment db assessment scope = false →
      ∃ dimension, Contradicted db assessment scope dimension) ↔
    ScopeOpen scope ∨ NamedDimensionsKnown db assessment scope ∨
      ∃ dimension, Contradicted db assessment scope dimension := by
  constructor
  · intro conservative
    by_cases applies : impactScopeAppliesToAssessment db assessment scope = true
    · rcases scope_applies_iff.mp applies with left | every
      · exact .inl left
      · refine .inr (.inl fun dimension named => ?_)
        obtain ⟨value, is⟩ := Option.isSome_iff_exists.mp named
        obtain ⟨name, member, same⟩ := every dimension value is
        exact ⟨name, member, same ▸ named_filled is⟩
    · exact .inr (.inr (conservative (by simpa using applies)))
  · rintro (left | known | contradicted) refused
    · rw [scope_applies_iff.mpr (.inl left)] at refused
      cases refused
    · by_contra agrees
      have every : ∀ dimension value, namedValue scope dimension = some value →
          ∃ name ∈ db.dimensionNames assessment dimension, normalizedText name = value := by
        intro dimension value named
        by_contra missing
        refine agrees ⟨dimension, value, named, _, own_names_known, ?_, ?_⟩
        · exact known dimension (by rw [named]; rfl)
        · exact fun name member same => missing ⟨name, member, same⟩
      rw [scope_applies_iff.mpr (.inr every)] at refused
      cases refused
    · exact contradicted

end

section

attribute [local instance] Unicode.ascii

/-- A school whose county is not recorded is taken out of a county's impact. -/
theorem unknown_county_is_set_aside :
    impactScopeAppliesToAssessment Sample.database Sample.exam [("county", .str "Nairobi")] =
        false ∧
      ¬ ∃ dimension, Contradicted Sample.database Sample.exam [("county", .str "Nairobi")]
        dimension := by
  refine ⟨by decide +kernel, ?_⟩
  rintro ⟨dimension, value, named, names, member, ⟨name, here, filled⟩, -⟩
  cases dimension with
  | county =>
    obtain rfl : names = [.null] := by simpa [Database.knownNames, Database.dimensionNames,
      Sample.database, Database.new, Sample.school, Json.lookup] using member
    obtain rfl : name = .null := by simpa using here
    revert filled
    decide +kernel
  | _ => simp [namedValue, Json.lookup, ScopeDimension.key] at named

end

end Darasa.Grading
