import Darasa.Grading.Compilation

/-!
What `validate_grade_rows` does with rows of any shape.

Rows are checked in their order and the components of a row in theirs, so what is raised
depends on the rows and components that are reached.  `grade_rows_validated_iff` says when
nothing but a validation error comes of them.
-/

namespace Darasa.Grading

open Darasa (Decimal Exn Json Outcome Unicode refuseIf requireSome)

section

variable [Unicode]

/-- `validate_grade_rows`, of whatever value the rows are. -/
def validateGradeRowsOf (roster : List ℕ) (maxScore : ℕ) (components : List AssessmentComponent)
    (requireComplete : Bool) (rows : Json) : Outcome (List NormalizedRow) :=
  match rows with
  | .arr rows => validateGradeRows roster maxScore components requireComplete rows
  | _ => .error (.validationError "rows" "Rows must be a list.")

/-! ## What a row gives -/

/-- The text a row names its learner with. -/
def rowStudentId (fields : List (String × Json)) : String :=
  Text.strip (((Json.lookup "student_id" fields).map Json.text).getD "")

/-- The learner of the roster a row names. -/
def rowStudent (roster : List ℕ) (fields : List (String × Json)) : Option ℕ :=
  roster.find? fun id => uuidText id == rowStudentId fields

omit [Unicode] in
/-- The component scores a row gives. -/
def rowComponentScores (fields : List (String × Json)) : Json :=
  ((Json.lookup "component_scores" fields).filter Json.truthy).getD (.obj [])

omit [Unicode] in
/-- The raw score a row gives. -/
def rowRawScore (fields : List (String × Json)) : Option Json :=
  (Json.lookup "raw_score" fields).filter (!·.isBlank)

omit [Unicode] in
/-- The scores that are not blank, under whatever keys. -/
def givenScores (scores : List (String × Json)) : List (String × Json) :=
  scores.filter (!·.2.isBlank)

variable {roster seen : List ℕ} {max : ℕ} {components : List AssessmentComponent}
  {complete : Bool} {scores fields : List (String × Json)} {component : AssessmentComponent}
  {student : ℕ} {row : Json} {rows : List Json}

/-! ## The score of a component -/

/-- The score of a component passes: it is a number within the bounds of the component, or
is not there and need not be. -/
def ComponentPasses (complete : Bool) (scores : List (String × Json))
    (component : AssessmentComponent) : Prop :=
  match componentScore scores component with
  | none => (component.isRequired && complete) = false
  | some value => ∃ score, value.toDecimal? = some score ∧ 0 < component.maxScore ∧
      Within component.maxScore score

/-- The score of a component can be compared with its bounds. -/
def ComponentComparable (scores : List (String × Json)) (component : AssessmentComponent) : Prop :=
  ∀ value ∈ componentScore scores component, ∀ score ∈ value.toDecimal?,
    component.maxScore = 0 ∨ score.isNaN = false

theorem check_component_ok :
    checkComponent complete scores component = .ok () ↔
      ComponentPasses complete scores component := by
  unfold checkComponent ComponentPasses componentScore
  cases (Json.lookup (uuidText component.id) scores).filter (!·.isBlank) with
  | none => exact refuseIf_ok
  | some value =>
    constructor
    · intro passes
      obtain ⟨score, numeric, passes⟩ := Outcome.bind_ok.mp passes
      obtain ⟨score', bounded, -⟩ := Outcome.bind_ok.mp passes
      obtain ⟨positive, within, -⟩ := validate_score_bounds_iff.mp bounded
      exact ⟨score, requireSome_ok.mp numeric, positive, within⟩
    · rintro ⟨score, numeric, positive, within⟩
      refine Outcome.bind_ok.mpr ⟨score, requireSome_ok.mpr numeric, ?_⟩
      exact Outcome.bind_ok.mpr
        ⟨score, validate_score_bounds_iff.mpr ⟨positive, within, rfl⟩, rfl⟩

theorem check_component_controlled :
    (checkComponent complete scores component).Controlled ↔
      ComponentComparable scores component := by
  unfold checkComponent ComponentComparable componentScore
  cases (Json.lookup (uuidText component.id) scores).filter (!·.isBlank) with
  | none => exact iff_of_true Outcome.controlled_refuse nofun
  | some value =>
    simp only [Outcome.controlled_bind, scoreOf, Outcome.controlled_require, true_and,
      requireSome_ok, validate_score_bounds_controlled, pure, Except.pure, Outcome.controlled_ok,
      implies_true, and_true, Option.mem_def, Option.some.injEq, forall_eq']

/-! ## The score of a row -/

/-- The component scores of a row pass: each does, and so does their total. -/
structure ComponentsPass (max : ℕ) (components : List AssessmentComponent) (complete : Bool)
    (scores : List (String × Json)) : Prop where
  each : ∀ component ∈ componentById components, ComponentPasses complete scores component
  total : ∃ total, componentTotal (givenScores scores) = .ok total ∧ Within max total

/-- The component scores of a row are compared and added without a signal.  A component is
reached when those before it pass, and the total when all of them do. -/
structure ComponentsSafe (components : List AssessmentComponent) (complete : Bool)
    (scores : List (String × Json)) : Prop where
  comparable : ∀ before component after,
    componentById components = before ++ component :: after →
    (∀ earlier ∈ before, ComponentPasses complete scores earlier) →
    ComponentComparable scores component
  summable : (∀ component ∈ componentById components, ComponentPasses complete scores component) →
    Summable (givenScores scores)

theorem component_row_score_iff {score : Option Decimal} :
    componentRowScore max components complete (.obj scores) = .ok score ↔
      (∀ component ∈ componentById components, ComponentPasses complete scores component) ∧
        ∃ total, componentTotal (givenScores scores) = .ok total ∧ 0 < max ∧ Within max total ∧
          score = if scores.isEmpty then none else some total := by
  simp only [componentRowScore, Outcome.check_ok, Outcome.forM_ok, check_component_ok]
  refine and_congr_right fun _ => ?_
  constructor
  · intro passes
    obtain ⟨total, added, compared⟩ := Outcome.bind_ok.mp passes
    obtain ⟨total', bounded, returned⟩ := Outcome.bind_ok.mp compared
    obtain ⟨positive, within, rfl⟩ := validate_score_bounds_iff.mp bounded
    exact ⟨total', added, positive, within, (Except.ok.inj returned).symm⟩
  · rintro ⟨total, added, positive, within, rfl⟩
    refine Outcome.bind_ok.mpr ⟨total, added, ?_⟩
    exact Outcome.bind_ok.mpr ⟨total, validate_score_bounds_iff.mpr ⟨positive, within, rfl⟩, rfl⟩

theorem component_row_score_controlled (positive : 0 < max) :
    (componentRowScore max components complete (.obj scores)).Controlled ↔
      ComponentsSafe components complete scores := by
  have totalled :
      (do
        let total ← componentTotal (givenScores scores)
        let total ← validateScoreBounds total (.ofHundredths max)
        return if scores.isEmpty then none else some total : Outcome (Option Decimal)).Controlled ↔
      Summable (givenScores scores) := by
    rw [← component_total_iff, Outcome.controlled_bind]
    constructor
    · rintro ⟨controlled, bounded⟩
      cases added : componentTotal (givenScores scores) with
      | error e =>
        exact absurd (controlled e added) (by rw [component_total_raises added]; decide)
      | ok total =>
        have compared := (Outcome.controlled_bind.mp (bounded total added)).1
        exact ⟨total, rfl, (validate_score_bounds_controlled.mp compared).resolve_left positive.ne'⟩
    · rintro ⟨total, added, number⟩
      rw [added]
      refine ⟨Outcome.controlled_ok, fun total' same => ?_⟩
      obtain rfl := Except.ok.inj same
      exact Outcome.controlled_bind.mpr
        ⟨validate_score_bounds_controlled.mpr (.inr number), fun _ _ => Outcome.controlled_ok⟩
  refine Iff.trans Outcome.controlled_check ?_
  rw [Outcome.controlled_forM, Outcome.forM_ok]
  simp only [check_component_controlled, check_component_ok]
  constructor
  · rintro ⟨comparable, reached⟩
    exact ⟨comparable, fun passes => totalled.mp (reached passes)⟩
  · rintro ⟨comparable, summable⟩
    exact ⟨comparable, fun passes => totalled.mpr (summable passes)⟩

/-- The score of a row passes. -/
def ScorePasses (max : ℕ) (components : List AssessmentComponent) (complete : Bool)
    (fields : List (String × Json)) : Prop :=
  if components.isEmpty then
    match rowRawScore fields with
    | none => complete = false
    | some value => ∃ score, value.toDecimal? = some score ∧ Within max score
  else
    ∃ scores, rowComponentScores fields = .obj scores ∧
      ComponentsPass max components complete scores

/-- The score of a row is checked without a signal. -/
def ScoreSafe (components : List AssessmentComponent) (complete : Bool)
    (fields : List (String × Json)) : Prop :=
  if components.isEmpty then
    ∀ value ∈ rowRawScore fields, ∀ score ∈ value.toDecimal?, score.isNaN = false
  else
    ∀ scores, rowComponentScores fields = .obj scores → ComponentsSafe components complete scores

theorem simple_row_score_iff (positive : 0 < max) {value : Option Json} {score : Option Decimal} :
    simpleRowScore max complete value = .ok score ↔
      match value.filter (!·.isBlank) with
      | none => complete = false ∧ score = none
      | some value => ∃ score', value.toDecimal? = some score' ∧ Within max score' ∧
          score = some score' := by
  unfold simpleRowScore
  cases value.filter (!·.isBlank) with
  | none =>
    simp only [Outcome.check_ok, refuseIf_ok]
    exact and_congr_right fun _ => ⟨fun same => (Except.ok.inj same).symm, fun same => same ▸ rfl⟩
  | some value =>
    constructor
    · intro passes
      obtain ⟨score', numeric, compared⟩ := Outcome.bind_ok.mp passes
      obtain ⟨total, bounded, returned⟩ := Outcome.bind_ok.mp compared
      obtain ⟨-, within, rfl⟩ := validate_score_bounds_iff.mp bounded
      exact ⟨total, requireSome_ok.mp numeric, within, (Except.ok.inj returned).symm⟩
    · rintro ⟨score', numeric, within, rfl⟩
      refine Outcome.bind_ok.mpr ⟨score', requireSome_ok.mpr numeric, ?_⟩
      exact Outcome.bind_ok.mpr
        ⟨score', validate_score_bounds_iff.mpr ⟨positive, within, rfl⟩, rfl⟩

theorem simple_row_score_controlled (positive : 0 < max) {value : Option Json} :
    (simpleRowScore max complete value).Controlled ↔
      ∀ given ∈ value.filter (!·.isBlank), ∀ score ∈ given.toDecimal?, score.isNaN = false := by
  unfold simpleRowScore
  cases value.filter (!·.isBlank) with
  | none =>
    refine iff_of_true ?_ nofun
    exact Outcome.controlled_check.mpr ⟨Outcome.controlled_refuse, fun _ => Outcome.controlled_ok⟩
  | some value =>
    simp only [Outcome.controlled_bind, scoreOf, Outcome.controlled_require, true_and,
      requireSome_ok, validate_score_bounds_controlled, positive.ne', false_or, pure, Except.pure,
      Outcome.controlled_ok, implies_true, and_true, Option.mem_def, Option.some.injEq,
      forall_eq']

/-- The score a row is given when it passes: none only without complete marks or with no
component scores. -/
theorem row_score_passes (positive : 0 < max) {score : Option Decimal}
    (passes : rowScore max components complete (rowComponentScores fields)
      (Json.lookup "raw_score" fields) = .ok score) :
    ScorePasses max components complete fields ∧ (∀ total ∈ score, Within max total) ∧
      (score = none → complete = true →
        components ≠ [] ∧ rowComponentScores fields = .obj []) := by
  unfold rowScore at passes
  unfold ScorePasses
  split at passes
  next empty =>
    rw [if_pos empty]
    rw [simple_row_score_iff positive] at passes
    change (match rowRawScore fields with
      | none => complete = false ∧ score = none
      | some value => _) at passes
    cases given : rowRawScore fields with
    | none =>
      rw [given] at passes
      obtain ⟨incomplete, rfl⟩ := passes
      exact ⟨incomplete, nofun, fun _ is => absurd (incomplete.symm.trans is) nofun⟩
    | some value =>
      rw [given] at passes
      obtain ⟨score', numeric, within, rfl⟩ := passes
      refine ⟨⟨score', numeric, within⟩, ?_, nofun⟩
      rintro total ⟨⟩
      exact within
  next some =>
    rw [if_neg some]
    cases given : rowComponentScores fields with
    | obj scores =>
      rw [given] at passes
      obtain ⟨each, total, added, -, within, rfl⟩ := component_row_score_iff.mp passes
      refine ⟨⟨scores, rfl, each, total, added, within⟩, ?_, fun none _ => ?_⟩
      · intro total' is
        split at is
        · cases is
        · cases is
          exact within
      · refine ⟨by simpa using some, ?_⟩
        split at none
        next empty => rw [List.isEmpty_iff.mp empty]
        next => cases none
    | _ =>
      rw [given] at passes
      cases passes

theorem row_score_of_passes (positive : 0 < max)
    (passes : ScorePasses max components complete fields) :
    ∃ score, rowScore max components complete (rowComponentScores fields)
      (Json.lookup "raw_score" fields) = .ok score := by
  unfold ScorePasses at passes
  unfold rowScore
  split
  next empty =>
    rw [if_pos empty] at passes
    simp only [simple_row_score_iff positive]
    change ∃ score, (match rowRawScore fields with
      | none => complete = false ∧ score = none
      | some value => _)
    cases given : rowRawScore fields with
    | none =>
      rw [given] at passes
      exact ⟨none, passes, rfl⟩
    | some value =>
      rw [given] at passes
      obtain ⟨score, numeric, within⟩ := passes
      exact ⟨some score, score, numeric, within, rfl⟩
  next some =>
    rw [if_neg some] at passes
    obtain ⟨scores, given, each, total, added, within⟩ := passes
    rw [given]
    exact ⟨_, component_row_score_iff.mpr ⟨each, total, added, positive, within, rfl⟩⟩

theorem row_score_controlled (positive : 0 < max) :
    (rowScore max components complete (rowComponentScores fields)
      (Json.lookup "raw_score" fields)).Controlled ↔ ScoreSafe components complete fields := by
  unfold rowScore ScoreSafe
  split
  next => exact simple_row_score_controlled positive
  next =>
    cases rowComponentScores fields with
    | obj scores =>
      rw [component_row_score_controlled positive]
      exact ⟨fun safe scores' same => by cases same; exact safe, fun safe => safe scores rfl⟩
    | _ => exact iff_of_true (Outcome.controlled_error.mpr rfl) nofun

/-! ## Rows -/

/-- A row passes, and is of this learner. -/
def RowPasses (roster : List ℕ) (max : ℕ) (components : List AssessmentComponent)
    (complete : Bool) (seen : List ℕ) (row : Json) (student : ℕ) : Prop :=
  ∃ fields, row = .obj fields ∧ rowStudent roster fields = some student ∧ student ∉ seen ∧
    ScorePasses max components complete fields

/-- A row is checked without a signal: it is an object, and so is its score checked, unless
its learner is refused. -/
def RowSafe (roster : List ℕ) (components : List AssessmentComponent)
    (complete : Bool) (seen : List ℕ) (row : Json) : Prop :=
  ∃ fields, row = .obj fields ∧ ∀ student, rowStudent roster fields = some student →
    student ∉ seen → ScoreSafe components complete fields

/-- All rows pass; `seen` are the learners of the rows before. -/
def RowsPass (roster : List ℕ) (max : ℕ) (components : List AssessmentComponent)
    (complete : Bool) : List ℕ → List Json → Prop
  | _, [] => True
  | seen, row :: rows => ∃ student, RowPasses roster max components complete seen row student ∧
      RowsPass roster max components complete (student :: seen) rows

/-- The rows are checked without a signal, each when those before it pass. -/
def RowsSafe (roster : List ℕ) (max : ℕ) (components : List AssessmentComponent)
    (complete : Bool) : List ℕ → List Json → Prop
  | _, [] => True
  | seen, row :: rows => RowSafe roster components complete seen row ∧
      ∀ student, RowPasses roster max components complete seen row student →
        RowsSafe roster max components complete (student :: seen) rows

/-- What a row is turned into. -/
structure NormalizedRow.Of (roster : List ℕ) (max : ℕ) (components : List AssessmentComponent)
    (complete : Bool) (fields : List (String × Json)) (normalized : NormalizedRow) : Prop where
  found : rowStudent roster fields = some normalized.student
  scores : normalized.componentScores = rowComponentScores fields
  scored : rowScore max components complete (rowComponentScores fields)
    (Json.lookup "raw_score" fields) = .ok normalized.rawScore

theorem validate_grade_row_of {normalized : NormalizedRow}
    (passes : validateGradeRow roster max components complete seen row = .ok normalized) :
    ∃ fields, row = .obj fields ∧ normalized.student ∉ seen ∧
      normalized.Of roster max components complete fields := by
  obtain ⟨fields, isObject, named⟩ := Outcome.bind_ok.mp passes
  obtain ⟨student, found, checked⟩ := Outcome.bind_ok.mp named
  obtain ⟨unseen, scored⟩ := Outcome.check_ok.mp checked
  obtain ⟨score, given, returned⟩ := Outcome.bind_ok.mp scored
  cases returned
  have isRow : row = .obj fields := by
    cases row <;> first | exact congrArg _ (Except.ok.inj isObject) | cases isObject
  exact ⟨fields, isRow, by simpa using refuseIf_ok.mp unseen, requireSome_ok.mp found, rfl, given⟩

theorem row_passes_iff (positive : 0 < max) :
    (∃ normalized, validateGradeRow roster max components complete seen row = .ok normalized ∧
        normalized.student = student) ↔
      RowPasses roster max components complete seen row student := by
  constructor
  · rintro ⟨normalized, passes, rfl⟩
    obtain ⟨fields, isRow, unseen, of⟩ := validate_grade_row_of passes
    exact ⟨fields, isRow, of.found, unseen, (row_score_passes positive of.scored).1⟩
  · rintro ⟨fields, rfl, found, unseen, scored⟩
    obtain ⟨score, scored⟩ := row_score_of_passes positive scored
    refine ⟨⟨student, score, rowComponentScores fields,
      ((Json.lookup "remarks" fields).map Json.text).getD ""⟩, ?_, rfl⟩
    refine Outcome.bind_ok.mpr ⟨fields, rfl, ?_⟩
    refine Outcome.bind_ok.mpr ⟨student, requireSome_ok.mpr found, ?_⟩
    refine Outcome.check_ok.mpr ⟨refuseIf_ok.mpr (by simpa using unseen), ?_⟩
    exact Outcome.bind_ok.mpr ⟨score, scored, rfl⟩

theorem row_controlled (positive : 0 < max) :
    (validateGradeRow roster max components complete seen row).Controlled ↔
      RowSafe roster components complete seen row := by
  unfold RowSafe
  cases row with
  | obj fields =>
    have checked : (validateGradeRow roster max components complete seen (.obj fields)).Controlled ↔
        ∀ student, rowStudent roster fields = some student → student ∉ seen →
          ScoreSafe components complete fields := by
      unfold validateGradeRow rowFields
      rw [Outcome.controlled_bind, and_iff_right Outcome.controlled_ok]
      simp only [Except.ok.injEq, forall_eq']
      rw [Outcome.controlled_bind, and_iff_right Outcome.controlled_require]
      refine forall_congr' fun student => ?_
      rw [requireSome_ok]
      refine imp_congr_right fun found => ?_
      rw [Outcome.controlled_check, and_iff_right Outcome.controlled_refuse, refuseIf_ok]
      refine imp_congr (by simp) ?_
      rw [Outcome.controlled_bind, ← row_score_controlled positive]
      exact and_iff_left fun _ _ => Outcome.controlled_ok
    rw [checked]
    constructor
    · intro safe
      exact ⟨fields, rfl, safe⟩
    · rintro ⟨fields', same, safe⟩
      cases same
      exact safe
  | _ =>
    refine iff_of_false ?_ ?_
    · intro controlled
      exact absurd (controlled _ rfl) (by simp [Exn.isValidationError])
    · rintro ⟨fields, same, -⟩
      cases same

theorem rows_controlled (positive : 0 < max) :
    (validateGradeRowsFrom roster max components complete seen rows).Controlled ↔
      RowsSafe roster max components complete seen rows := by
  induction rows generalizing seen with
  | nil => exact iff_of_true Outcome.controlled_ok trivial
  | cons row rows ih =>
    unfold validateGradeRowsFrom RowsSafe
    rw [Outcome.controlled_bind, row_controlled positive]
    refine and_congr_right fun _ => ?_
    constructor
    · intro later student passes
      obtain ⟨normalized, here, rfl⟩ := (row_passes_iff positive).mpr passes
      exact ih.mp (Outcome.controlled_bind.mp (later normalized here)).1
    · intro later normalized here
      have passes := (row_passes_iff positive).mp ⟨normalized, here, rfl⟩
      exact Outcome.controlled_bind.mpr
        ⟨ih.mpr (later normalized.student passes), fun _ _ => Outcome.controlled_ok⟩

/-- Rows pass together. -/
theorem rows_pass_iff (positive : 0 < max) :
    (∃ normalized, validateGradeRowsFrom roster max components complete seen rows =
        .ok normalized) ↔ RowsPass roster max components complete seen rows := by
  induction rows generalizing seen with
  | nil => exact iff_of_true ⟨[], rfl⟩ trivial
  | cons row rows ih =>
    unfold validateGradeRowsFrom RowsPass
    constructor
    · rintro ⟨normalized, passes⟩
      obtain ⟨first, here, passes⟩ := Outcome.bind_ok.mp passes
      obtain ⟨rest, later, -⟩ := Outcome.bind_ok.mp passes
      exact ⟨first.student, (row_passes_iff positive).mp ⟨first, here, rfl⟩, ih.mp ⟨rest, later⟩⟩
    · rintro ⟨student, passes, later⟩
      obtain ⟨first, here, rfl⟩ := (row_passes_iff positive).mpr passes
      obtain ⟨rest, later⟩ := ih.mpr later
      exact ⟨first :: rest, Outcome.bind_ok.mpr
        ⟨first, here, Outcome.bind_ok.mpr ⟨rest, later, rfl⟩⟩⟩

/-- What the rows are turned into, one for each. -/
theorem rows_of {normalized : List NormalizedRow}
    (passes : validateGradeRowsFrom roster max components complete seen rows = .ok normalized) :
    List.Forall₂ (fun row normalized => ∃ fields, row = .obj fields ∧
      normalized.Of roster max components complete fields) rows normalized := by
  induction rows generalizing seen normalized with
  | nil =>
    cases passes
    exact .nil
  | cons row rows ih =>
    obtain ⟨first, here, passes⟩ := Outcome.bind_ok.mp passes
    obtain ⟨rest, later, passes⟩ := Outcome.bind_ok.mp passes
    cases passes
    obtain ⟨fields, isRow, -, of⟩ := validate_grade_row_of here
    exact .cons ⟨fields, isRow, of⟩ (ih later)

/-- What is promised of the rows that pass. -/
structure Validated (roster : List ℕ) (max : ℕ) (complete : Bool) (rows : List Json)
    (normalized : List NormalizedRow) : Prop where
  each : List.Forall₂ (fun row normalized => ∃ fields, row = .obj fields ∧
    uuidText normalized.student = rowStudentId fields) rows normalized
  distinct : (normalized.map (·.student)).Nodup
  onRoster : ∀ row ∈ normalized, row.student ∈ roster
  scored : complete = true → ∀ row ∈ normalized, ∃ score, row.rawScore = some score ∧
    Within max score

/-- Rows that pass are as promised, unless one of them has an empty object of component
scores where marks are to be complete. -/
theorem rows_validated_iff (positive : 0 < max) {normalized : List NormalizedRow}
    (passes : validateGradeRows roster max components complete rows = .ok normalized) :
    Validated roster max complete rows normalized ↔
      (complete = true → components ≠ [] → ∀ fields, .obj fields ∈ rows →
        rowComponentScores fields ≠ .obj []) := by
  obtain ⟨distinct, onRoster⟩ := validate_grade_rows_ok passes
  obtain ⟨normalized', passed, returned⟩ := Outcome.bind_ok.mp passes
  obtain ⟨-, returned⟩ := Outcome.check_ok.mp returned
  cases returned
  have each := rows_of passed
  constructor
  · intro validated isComplete components_ne fields member empty
    obtain ⟨row, known, fields', same, of⟩ := Table.source_of_mem each.flip member
    cases same
    obtain ⟨score, is, -⟩ := validated.scored isComplete row known
    have scored := of.scored
    rw [empty] at scored
    unfold rowScore at scored
    rw [if_neg (by simpa using components_ne)] at scored
    obtain ⟨-, total, -, -, -, none⟩ := component_row_score_iff.mp scored
    exact absurd (is.symm.trans none) (by simp)
  · intro nonempty
    refine ⟨each.imp ?_, distinct, fun row member => (onRoster row member).1, ?_⟩
    · rintro row normalized ⟨fields, isRow, of⟩
      exact ⟨fields, isRow, by simpa using List.find?_some of.found⟩
    · intro isComplete row member
      obtain ⟨source, known, fields, rfl, of⟩ := Table.source_of_mem each member
      obtain ⟨-, within, missing⟩ := row_score_passes positive of.scored
      cases is : row.rawScore with
      | some score => exact ⟨score, rfl, within score is⟩
      | none =>
        obtain ⟨components_ne, empty⟩ := missing is isComplete
        exact absurd empty (nonempty isComplete components_ne fields known)

/-- **Rows of any shape.**  With a positive maximum, `validate_grade_rows` raises nothing but
validation errors and returns a valid row for each of its rows exactly when the rows are
checked without a signal and, where complete marks are required of components, no row that is
let through has an empty object of component scores. -/
theorem grade_rows_validated_iff (roster : List ℕ) (max : ℕ)
    (components : List AssessmentComponent) (complete : Bool) (rows : Json)
    (positive : 0 < max) :
    ((validateGradeRowsOf roster max components complete rows).Controlled ∧
      ∀ normalized, validateGradeRowsOf roster max components complete rows = .ok normalized →
        ∃ items, rows = .arr items ∧ Validated roster max complete items normalized) ↔
    ∀ items, rows = .arr items →
      RowsSafe roster max components complete [] items ∧
      (RowsPass roster max components complete [] items → complete = true → components ≠ [] →
        ∀ fields, .obj fields ∈ items → rowComponentScores fields ≠ .obj []) := by
  cases rows with
  | arr items =>
    have controlled : (validateGradeRows roster max components complete items).Controlled ↔
        RowsSafe roster max components complete [] items := by
      rw [← rows_controlled positive]
      refine Outcome.controlled_bind.trans (and_iff_left fun _ _ => ?_)
      exact Outcome.controlled_check.mpr ⟨Outcome.controlled_refuse, fun _ => Outcome.controlled_ok⟩
    simp only [Json.arr.injEq, forall_eq', exists_eq_left']
    refine and_congr controlled ?_
    rw [← rows_pass_iff positive]
    constructor
    · rintro validated ⟨normalized, passed⟩ isComplete components_ne fields member
      have source := rows_of passed
      have nonempty : normalized.isEmpty = false := by
        cases source with
        | nil => cases member
        | cons => rfl
      have passes : validateGradeRows roster max components complete items = .ok normalized := by
        refine Outcome.bind_ok.mpr ⟨normalized, passed, ?_⟩
        exact Outcome.check_ok.mpr ⟨refuseIf_ok.mpr (by rw [nonempty, Bool.and_false]), rfl⟩
      exact (rows_validated_iff positive passes).mp (validated normalized passes) isComplete
        components_ne fields member
    · intro nonempty normalized passes
      obtain ⟨normalized', passed, -⟩ := Outcome.bind_ok.mp passes
      exact (rows_validated_iff positive passes).mpr (nonempty ⟨normalized', passed⟩)
  | _ =>
    refine iff_of_true ⟨Outcome.controlled_error.mpr rfl, nofun⟩ nofun

end

section Sample

attribute [local instance] Unicode.ascii

/-- The rows of a marksheet without components, with one score. -/
private def scoredRows (score : Json) : Json :=
  .arr [.obj [("student_id", .str (uuidText 1)), ("raw_score", score)]]

/-- A score of `NaN` is taken for a number and compared. -/
theorem nan_score_is_compared :
    ¬ ((validateGradeRowsOf [1] 10000 [] true (scoredRows (.str "NaN"))).Controlled ∧
      ∀ normalized, validateGradeRowsOf [1] 10000 [] true (scoredRows (.str "NaN")) =
        .ok normalized → ∃ items, scoredRows (.str "NaN") = .arr items ∧
          Validated [1] 10000 true items normalized) :=
  fun ⟨controlled, _⟩ => absurd controlled (by decide +kernel)

/-- A numeral is let through. -/
theorem numeral_is_validated :
    (validateGradeRowsOf [1] 10000 [] true (scoredRows (.str "80"))).Controlled ∧
      ∀ normalized, validateGradeRowsOf [1] 10000 [] true (scoredRows (.str "80")) =
        .ok normalized → ∃ items, scoredRows (.str "80") = .arr items ∧
          Validated [1] 10000 true items normalized :=
  (grade_rows_validated_iff [1] 10000 [] true (scoredRows (.str "80")) (by decide)).mpr
    fun items is => by
      obtain rfl := Json.arr.inj is
      refine ⟨⟨⟨_, rfl, fun student _ _ => ?_⟩, fun _ _ => trivial⟩,
        fun _ _ none => absurd rfl none⟩
      rw [ScoreSafe, if_pos List.isEmpty_nil]
      decide +kernel

end Sample

end Darasa.Grading
