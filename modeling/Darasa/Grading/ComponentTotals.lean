import Darasa.Grading.RowChecks

/-!
Component summaries, and how their totals compare with the raw scores of submitted rows.

A row is checked over every key of its component scores, and a summary is built over the
keys of the components.
-/

namespace Darasa.Grading

open Darasa (Decimal Exn Json Outcome Unicode refuseIf requireSome)

section

variable [Unicode] {max : ℕ} {components : List AssessmentComponent} {complete : Bool}
  {scores fields : List (String × Json)} {component : AssessmentComponent} {value summary : Json}

/-! ## When a summary is built -/

/-- The score a dict has for a component is within its bounds, when there is one. -/
def EntryInRange (fields : List (String × Json)) (component : AssessmentComponent) : Prop :=
  ∀ value ∈ componentScore fields component, ∃ score, value.toDecimal? = some score ∧
    0 < component.maxScore ∧ Within component.maxScore score

theorem component_entry_returns :
    (∃ entry, componentEntry fields component = .ok entry) ↔ EntryInRange fields component := by
  unfold componentEntry EntryInRange
  cases componentScore fields component with
  | none => exact iff_of_true ⟨none, rfl⟩ nofun
  | some value =>
    constructor
    · rintro ⟨entry, passes⟩ value' ⟨⟩
      obtain ⟨score, numeric, compared⟩ := Outcome.bind_ok.mp passes
      obtain ⟨score', bounded, -⟩ := Outcome.bind_ok.mp compared
      obtain ⟨positive, within, -⟩ := validate_score_bounds_iff.mp bounded
      exact ⟨score, requireSome_ok.mp numeric, positive, within⟩
    · intro inRange
      obtain ⟨score, numeric, positive, within⟩ := inRange value rfl
      refine ⟨some score, Outcome.bind_ok.mpr ⟨score, requireSome_ok.mpr numeric, ?_⟩⟩
      exact Outcome.bind_ok.mpr
        ⟨score, validate_score_bounds_iff.mpr ⟨positive, within, rfl⟩, rfl⟩

theorem component_entry_controlled :
    (componentEntry fields component).Controlled ↔ ComponentComparable fields component := by
  unfold componentEntry ComponentComparable
  cases componentScore fields component with
  | none => exact iff_of_true Outcome.controlled_ok nofun
  | some value =>
    simp only [Outcome.controlled_bind, scoreOf, Outcome.controlled_require, true_and,
      requireSome_ok, validate_score_bounds_controlled, pure, Except.pure, Outcome.controlled_ok,
      implies_true, and_true, Option.mem_def, Option.some.injEq, forall_eq']

omit [Unicode] in
/-- The items of component scores, where they are an object or count as empty. -/
theorem score_fields_object {method : String} : scoreFields method (.obj scores) = .ok scores := by
  unfold scoreFields
  cases scores with
  | nil => rfl
  | cons field scores => rfl

/-- The known scores of a record are in range, and so is their total. -/
structure SummaryInRange (max : ℕ) (components : List AssessmentComponent)
    (fields : List (String × Json)) : Prop where
  each : ∀ component ∈ componentById components, EntryInRange fields component
  positive : 0 < max
  total : ∃ total, componentTotal (knownScores components fields) = .ok total ∧ Within max total

/-- A summary is built of scores in range, and says the total of the known ones. -/
theorem component_summary_ok (built : buildComponentSummary value components max = .ok summary) :
    ∃ fields, scoreFields (if components.isEmpty then "items" else "get") value = .ok fields ∧
      SummaryInRange max components fields ∧
      ∃ total items, componentTotal (knownScores components fields) = .ok total ∧
        summary = .obj items ∧ Json.lookup "component_total" items =
          some (if components.isEmpty then .null else .str total.text) := by
  unfold buildComponentSummary at built
  obtain ⟨fields, areFields, built⟩ := Outcome.bind_ok.mp built
  obtain ⟨entries, mapped, built⟩ := Outcome.bind_ok.mp built
  obtain ⟨total, added, built⟩ := Outcome.bind_ok.mp built
  obtain ⟨total', bounded, built⟩ := Outcome.bind_ok.mp built
  obtain ⟨positive, within, rfl⟩ := validate_score_bounds_iff.mp bounded
  cases built
  refine ⟨fields, areFields, ⟨fun component member => ?_, positive, total', added, within⟩,
    total', _, added, rfl, rfl⟩
  exact component_entry_returns.mp (Outcome.mapM_returns.mp ⟨entries, mapped⟩ component member)

theorem component_summary_returns
    (areFields : scoreFields (if components.isEmpty then "items" else "get") value = .ok fields)
    (inRange : SummaryInRange max components fields) :
    ∃ summary, buildComponentSummary value components max = .ok summary := by
  obtain ⟨each, positive, total, added, within⟩ := inRange
  obtain ⟨entries, mapped⟩ := Outcome.mapM_returns.mpr fun component member =>
    component_entry_returns.mpr (each component member)
  refine ⟨_, Outcome.bind_ok.mpr ⟨fields, areFields, Outcome.bind_ok.mpr ⟨entries, mapped,
    Outcome.bind_ok.mpr ⟨total, added, Outcome.bind_ok.mpr ⟨total, ?_, rfl⟩⟩⟩⟩⟩
  exact validate_score_bounds_iff.mpr ⟨positive, within, rfl⟩

/-! ## Totals of submitted rows -/

/-- The scores under keys that are no component's, without blanks. -/
def unknownScores (components : List AssessmentComponent) (fields : List (String × Json)) :
    List (String × Json) :=
  fields.filter fun field =>
    !(components.map (uuidText ·.id)).contains field.1 && !field.2.isBlank

/-- The scores under keys that are no component's leave the total as it is. -/
def UnknownScoresCancel (components : List AssessmentComponent)
    (scores : List (String × Json)) : Prop :=
  ∃ known given, componentTotal (knownScores components scores) = .ok known ∧
    componentTotal (givenScores scores) = .ok given ∧ known.SameNumber given

/-- The summary of a row's component scores is built, and its total is the row's raw score. -/
def SummaryKeepsScore (max : ℕ) (components : List AssessmentComponent) (row : NormalizedRow) :
    Prop :=
  ∃ scores items total raw, row.componentScores = .obj scores ∧
    buildComponentSummary (.obj scores) components max = .ok (.obj items) ∧
    componentTotal (knownScores components scores) = .ok total ∧
    Json.lookup "component_total" items = some (.str total.text) ∧
    row.rawScore = some raw ∧ total.SameNumber raw

variable {roster seen : List ℕ} {rows : List Json} {row : NormalizedRow}
  {normalized : List NormalizedRow}

/-- What is known of the component scores of a row that passes. -/
structure PassedScores (max : ℕ) (components : List AssessmentComponent)
    (scores : List (String × Json)) (total : Decimal) : Prop where
  each : ∀ component ∈ componentById components, EntryInRange scores component
  positive : 0 < max
  added : componentTotal (givenScores scores) = .ok total
  within : Within max total

theorem component_passes_in_range (passes : ComponentPasses complete scores component) :
    EntryInRange scores component := by
  unfold ComponentPasses at passes
  unfold EntryInRange
  cases given : componentScore scores component with
  | none => nofun
  | some value =>
    rw [given] at passes
    rintro value' ⟨⟩
    exact passes

theorem passed_scores (components_ne : components ≠ [])
    (passes : validateGradeRows roster max components complete rows = .ok normalized)
    (member : row ∈ normalized) :
    ∃ scores total, row.componentScores = .obj scores ∧
      PassedScores max components scores total ∧
      row.rawScore = if scores.isEmpty then none else some total := by
  obtain ⟨normalized', passed, returned⟩ := Outcome.bind_ok.mp passes
  obtain ⟨-, returned⟩ := Outcome.check_ok.mp returned
  cases returned
  obtain ⟨source, -, fields, rfl, of⟩ := Table.source_of_mem (rows_of passed) member
  have scored := of.scored
  unfold rowScore at scored
  rw [if_neg (by simpa using components_ne), ← of.scores] at scored
  cases areScores : row.componentScores with
  | obj scores =>
    rw [areScores] at scored
    obtain ⟨each, total, added, positive, within, raw⟩ := component_row_score_iff.mp scored
    exact ⟨scores, total, rfl, ⟨fun component member => component_passes_in_range
      (each component member), positive, added, within⟩, raw⟩
  | _ =>
    rw [areScores] at scored
    cases scored

/-- Without scores under unknown keys there is nothing to cancel. -/
theorem cancel_of_no_unknown {total : Decimal} (none : unknownScores components scores = [])
    (passed : PassedScores max components scores total) : UnknownScoresCancel components scores := by
  have all : knownScores components scores = givenScores scores := by
    unfold unknownScores at none
    unfold knownScores givenScores
    refine List.filter_congr fun field member => ?_
    have known := List.filter_eq_nil_iff.mp none field member
    cases blank : field.2.isBlank
    · simpa [blank] using known
    · simp
  exact ⟨total, total, all ▸ passed.added, passed.added, passed.within.finite, passed.within.finite,
    rfl⟩

/-- The running totals lose nothing to rounding. -/
def AddsExactly : Decimal → List Decimal → Prop
  | _, [] => True
  | total, value :: values => ∃ next, total.plus value = .ok next ∧ next.isFinite = true ∧
      next.toRat = total.toRat + value.toRat ∧ AddsExactly next values

theorem exact_total {total : Decimal} (finite : total.isFinite = true) (numeric : Numeric scores)
    (exact : AddsExactly total (numbers scores)) :
    ∃ sum, scores.foldlM addScore total = .ok sum ∧ sum.isFinite = true ∧
      sum.toRat = total.toRat + ((numbers scores).map Decimal.toRat).sum := by
  induction scores generalizing total with
  | nil => exact ⟨total, rfl, finite, by simp [numbers]⟩
  | cons field scores ih =>
    obtain ⟨score, is, -⟩ := numeric field List.mem_cons_self
    rw [numbers_cons is] at exact
    obtain ⟨next, here, finite', value, later⟩ := exact
    obtain ⟨sum, added, finite'', total'⟩ := ih finite' ((numeric_cons is).mp numeric).2 later
    refine ⟨sum, ?_, finite'', ?_⟩
    · rw [List.foldlM_cons, add_score is, here]
      exact added
    · rw [total', value, numbers_cons is, List.map_cons, List.sum_cons, add_assoc]

omit [Unicode] in
theorem known_unknown_perm :
    (knownScores components scores ++ unknownScores components scores).Perm
      (givenScores scores) := by
  have split := List.filter_append_perm
    (fun field => (components.map (uuidText ·.id)).contains field.1) (givenScores scores)
  unfold givenScores at split
  rw [List.filter_filter, List.filter_filter] at split
  exact split

/-- Where nothing is lost to rounding, the scores under unknown keys cancel exactly when they
add up to zero. -/
theorem unknown_scores_cancel_iff (numeric : Numeric (givenScores scores))
    (known : AddsExactly (.finite false 0 (-2)) (numbers (knownScores components scores)))
    (given : AddsExactly (.finite false 0 (-2)) (numbers (givenScores scores))) :
    UnknownScoresCancel components scores ↔
      ((numbers (unknownScores components scores)).map Decimal.toRat).sum = 0 := by
  have perm := @known_unknown_perm components scores
  have numeric' : Numeric (knownScores components scores) := fun field member =>
    numeric field (perm.subset (List.mem_append_left _ member))
  obtain ⟨total, added, finite, value⟩ := exact_total rfl numeric' known
  obtain ⟨total', added', finite', value'⟩ := exact_total rfl numeric given
  have sums : ((numbers (givenScores scores)).map Decimal.toRat).sum =
      ((numbers (knownScores components scores)).map Decimal.toRat).sum +
        ((numbers (unknownScores components scores)).map Decimal.toRat).sum := by
    have ordered := (perm.filterMap fun field => field.2.toDecimal?).map Decimal.toRat
    rw [List.filterMap_append, List.map_append] at ordered
    exact ordered.sum_eq.symm.trans List.sum_append
  constructor
  · rintro ⟨total₁, total₂, is, is', -, -, same⟩
    obtain rfl := Except.ok.inj (added.symm.trans is)
    obtain rfl := Except.ok.inj (added'.symm.trans is')
    rw [value, value', sums] at same
    linarith
  · intro zero
    refine ⟨total, total', added, added', finite, finite', ?_⟩
    rw [value, value', sums, zero, add_zero]

/-- The summary of scores that passed says the row's raw score exactly when there are scores
and those under unknown keys leave the total as it is. -/
theorem keeps_score_of_passed {given : Decimal} (components_ne : components ≠ [])
    (areScores : row.componentScores = .obj scores)
    (passed : PassedScores max components scores given)
    (raw : row.rawScore = if scores.isEmpty then none else some given) :
    SummaryKeepsScore max components row ↔
      scores ≠ [] ∧ UnknownScoresCancel components scores := by
  have named : components.isEmpty = false := by simpa using components_ne
  constructor
  · rintro ⟨scores', items, total, raw', areScores', built, added, -, isRaw, same⟩
    obtain rfl := Json.obj.inj (areScores.symm.trans areScores')
    rw [isRaw] at raw
    split at raw
    next => cases raw
    next nonempty =>
      obtain rfl := Option.some.inj raw
      exact ⟨by simpa using nonempty, total, raw', added, passed.added, same⟩
  · rintro ⟨nonempty, known, given', added, added', same⟩
    obtain rfl := Except.ok.inj (passed.added.symm.trans added')
    have within : Within max known :=
      ⟨same.1, same.2.2 ▸ passed.within.nonneg, same.2.2 ▸ passed.within.le⟩
    obtain ⟨summary, built⟩ := component_summary_returns score_fields_object
      ⟨passed.each, passed.positive, known, added, within⟩
    obtain ⟨fields, areFields, -, total, items, added', rfl, reported⟩ := component_summary_ok built
    obtain rfl := Except.ok.inj (score_fields_object.symm.trans areFields)
    obtain rfl := Except.ok.inj (added.symm.trans added')
    refine ⟨scores, items, known, given, areScores, built, added, ?_, ?_, same⟩
    · rw [reported, named]
      rfl
    · rw [raw, if_neg (by simpa using nonempty)]

/-- Scores that have a total are numbers. -/
theorem numeric_of_passed {given : Decimal} (passed : PassedScores max components scores given) :
    Numeric (givenScores scores) := by
  have number : given.isNaN = false := by
    have finite := passed.within.finite
    cases given <;> first | rfl | cases finite
  exact ((total_of_finite rfl).mp ⟨given, passed.added, number⟩).1

/-- **Totals agree.**  The summary of an accepted row's component scores is built and says the
row's raw score as its total, provided the row has component scores, where no score is under a
key that is no component's; and where nothing is lost to rounding exactly when the scores under
such keys add up to zero. -/
theorem summary_keeps_score_iff (components_ne : components ≠ [])
    (passes : validateGradeRows roster max components true rows = .ok normalized)
    (member : row ∈ normalized) :
    ∃ scores, row.componentScores = .obj scores ∧
      (unknownScores components scores = [] →
        (SummaryKeepsScore max components row ↔ scores ≠ [])) ∧
      (AddsExactly (.finite false 0 (-2)) (numbers (knownScores components scores)) →
        AddsExactly (.finite false 0 (-2)) (numbers (givenScores scores)) →
        (SummaryKeepsScore max components row ↔
          scores ≠ [] ∧
            ((numbers (unknownScores components scores)).map Decimal.toRat).sum = 0)) := by
  obtain ⟨scores, given, areScores, passed, raw⟩ := passed_scores components_ne passes member
  have keeps := keeps_score_of_passed components_ne areScores passed raw
  refine ⟨scores, areScores, fun none => ?_, fun known given => ?_⟩
  · rw [keeps, and_iff_left (cancel_of_no_unknown none passed)]
  · rw [keeps, unknown_scores_cancel_iff (numeric_of_passed passed) known given]

end

section Sample

attribute [local instance] Unicode.ascii

/-- An essay of at most 60 marks. -/
private def essay : AssessmentComponent where
  id := 5
  tenant := 1
  assessment := 1
  name := "Essay"
  maxScore := 6000
  order := 1
  isRequired := true
  rubricFoundation := none

/-- A learner's scores: one of the essay, and what else the row is sent with. -/
private def essayScores (others : List (String × Json)) : List (String × Json) :=
  (uuidText 5, .str "40") :: others

private def essayRow (others : List (String × Json)) : Json :=
  .obj [("student_id", .str (uuidText 1)), ("component_scores", .obj (essayScores others))]

private theorem essay_row_accepted : validateGradeRows [1] 10000 [essay] true [essayRow []] =
    .ok [⟨1, some (.finite false 4000 (-2)), .obj (essayScores []), ""⟩] := by
  obtain ⟨normalized, passes, is⟩ := Outcome.ok_of_any
    (x := validateGradeRows [1] 10000 [essay] true [essayRow []])
    (p := fun normalized => decide (normalized =
      [⟨1, some (.finite false 4000 (-2)), .obj (essayScores []), ""⟩])) (by decide +kernel)
  rw [passes, of_decide_eq_true is]

/-- The score of a bonus counts in the raw score and not in the summary. -/
theorem bonus_counts_in_raw_score_only :
    ∃ row, validateGradeRows [1] 10000 [essay] true [essayRow [("bonus", .str "5")]] = .ok [row] ∧
      ¬ SummaryKeepsScore 10000 [essay] row := by
  obtain ⟨normalized, passes, is⟩ := Outcome.ok_of_any
    (x := validateGradeRows [1] 10000 [essay] true [essayRow [("bonus", .str "5")]])
    (p := fun normalized => decide (normalized =
      [⟨1, some (.finite false 4500 (-2)), .obj (essayScores [("bonus", .str "5")]), ""⟩]))
    (by decide +kernel)
  obtain rfl := of_decide_eq_true is
  refine ⟨_, passes, ?_⟩
  rintro ⟨scores, items, total, raw, areScores, -, added, -, isRaw, same⟩
  obtain rfl := Json.obj.inj areScores
  obtain rfl := Option.some.inj isRaw
  have known : (componentTotal (knownScores [essay] (essayScores [("bonus", .str "5")]))).toOption =
      some (.finite false 4000 (-2)) := by decide +kernel
  rw [added] at known
  obtain rfl := Option.some.inj known
  exact absurd same (by decide +kernel)

/-- A bonus, and a deduction of as much. -/
private def adjustments : List (String × Json) := [("bonus", .str "5"), ("deduction", .str "-5")]

private theorem adjusted_row_accepted :
    validateGradeRows [1] 10000 [essay] true [essayRow adjustments] =
      .ok [⟨1, some (.finite false 4000 (-2)), .obj (essayScores adjustments), ""⟩] := by
  obtain ⟨normalized, passes, is⟩ := Outcome.ok_of_any
    (x := validateGradeRows [1] 10000 [essay] true [essayRow adjustments])
    (p := fun normalized => decide (normalized =
      [⟨1, some (.finite false 4000 (-2)), .obj (essayScores adjustments), ""⟩])) (by decide +kernel)
  rw [passes, of_decide_eq_true is]

/-- Without the bonus the two agree, and with a deduction that takes it back. -/
theorem essay_counts_in_both :
    SummaryKeepsScore 10000 [essay]
      ⟨1, some (.finite false 4000 (-2)), .obj (essayScores []), ""⟩ ∧
    SummaryKeepsScore 10000 [essay]
      ⟨1, some (.finite false 4000 (-2)), .obj (essayScores adjustments), ""⟩ := by
  constructor
  · obtain ⟨scores, are, plain, -⟩ :=
      summary_keeps_score_iff (by decide) essay_row_accepted (List.mem_singleton.mpr rfl)
    obtain rfl := Json.obj.inj are
    exact (plain (by decide +kernel)).mpr (by simp [essayScores])
  · obtain ⟨scores, are, -, exact_sums⟩ :=
      summary_keeps_score_iff (by decide) adjusted_row_accepted (List.mem_singleton.mpr rfl)
    obtain rfl := Json.obj.inj are
    have known : numbers (knownScores [essay] (essayScores adjustments)) =
        [.finite false 40 0] := by decide +kernel
    have given : numbers (givenScores (essayScores adjustments)) =
        [.finite false 40 0, .finite false 5 0, .finite true 5 0] := by decide +kernel
    have unknown : numbers (unknownScores [essay] (essayScores adjustments)) =
        [.finite false 5 0, .finite true 5 0] := by decide +kernel
    rw [known, given, unknown] at exact_sums
    refine (exact_sums ?_ ?_).mpr ⟨by simp [essayScores], by decide +kernel⟩
    · exact ⟨.finite false 4000 (-2), by decide +kernel, rfl, by decide +kernel, trivial⟩
    · exact ⟨.finite false 4000 (-2), by decide +kernel, rfl, by decide +kernel,
        .finite false 4500 (-2), by decide +kernel, rfl, by decide +kernel,
        .finite false 4000 (-2), by decide +kernel, rfl, by decide +kernel, trivial⟩

end Sample

end Darasa.Grading
