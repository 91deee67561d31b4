import Darasa.Grading.Records
import Darasa.Runtime.Rounding
import Mathlib.Data.List.Sort

/-!
Scores: their bounds, the total of their components, their percentage and the band
a percentage falls in.
-/

namespace Darasa.Grading

open Darasa (Decimal Exn Json Outcome Unicode refuseIf)

/-! ## Bounds -/

/-- `validate_score_bounds`. -/
def validateScoreBounds (score maximum : Decimal) : Outcome Decimal := do
  let empty ← maximum.le (.finite false 0 0)
  refuseIf empty "max_score" "Maximum score must be positive."
  let negative ← score.lt (.finite false 0 0)
  refuseIf negative "raw_score" "Score cannot be negative."
  let above ← score.gt maximum
  refuseIf above "raw_score" "Score cannot exceed maximum score."
  return score

/-- A score that passes lies between zero and the maximum. -/
theorem validate_score_bounds_ok {score score' : Decimal} {max : ℕ}
    (passes : validateScoreBounds score (.ofHundredths max) = .ok score') :
    0 ≤ score.toRat ∧ score.toRat ≤ max / 100 := by
  unfold validateScoreBounds at passes
  obtain ⟨empty, -, passes⟩ := Outcome.bind_ok.mp passes
  obtain ⟨-, passes⟩ := Outcome.check_ok.mp passes
  obtain ⟨negative, isNegative, passes⟩ := Outcome.bind_ok.mp passes
  obtain ⟨notNegative, passes⟩ := Outcome.check_ok.mp passes
  obtain ⟨above, isAbove, passes⟩ := Outcome.bind_ok.mp passes
  obtain ⟨notAbove, -⟩ := Outcome.check_ok.mp passes
  rw [refuseIf_ok] at notNegative notAbove
  subst notNegative notAbove
  have maximum : (Decimal.ofHundredths max).toRat = max / 100 := by
    rw [Decimal.to_rat_of_hundredths, Int.cast_natCast]
  cases score with
  | nan signaling => cases isNegative
  | infinity sign =>
    cases sign with
    | false => simp [Decimal.gt, Decimal.ofHundredths, Decimal.lt] at isAbove
    | true => simp [Decimal.lt] at isNegative
  | finite sign coefficient exponent =>
    constructor
    · simpa [Decimal.lt, Decimal.toRat] using isNegative
    · rw [← maximum]
      simpa [Decimal.gt, Decimal.ofHundredths, Decimal.lt] using isAbove

theorem validate_score_bounds_same {score score' maximum : Decimal}
    (passes : validateScoreBounds score maximum = .ok score') : score' = score := by
  unfold validateScoreBounds at passes
  obtain ⟨_, -, passes⟩ := Outcome.bind_ok.mp passes
  obtain ⟨-, passes⟩ := Outcome.check_ok.mp passes
  obtain ⟨_, -, passes⟩ := Outcome.bind_ok.mp passes
  obtain ⟨-, passes⟩ := Outcome.check_ok.mp passes
  obtain ⟨_, -, passes⟩ := Outcome.bind_ok.mp passes
  obtain ⟨-, passes⟩ := Outcome.check_ok.mp passes
  exact (Except.ok.inj passes).symm

/-- A score between zero and the maximum. -/
structure Within (max : ℕ) (score : Decimal) : Prop where
  finite : score.isFinite = true
  nonneg : 0 ≤ score.toRat
  le : score.toRat ≤ max / 100

/-- Column values compare as their counts do. -/
theorem hundredths_lt {a b : ℤ} :
    (Decimal.ofHundredths a).lt (.ofHundredths b) = .ok (decide (a < b)) := by
  have values : (Decimal.ofHundredths a).toRat < (Decimal.ofHundredths b).toRat ↔ a < b := by
    rw [Decimal.to_rat_of_hundredths, Decimal.to_rat_of_hundredths,
      div_lt_div_iff_of_pos_right (by norm_num), Int.cast_lt]
  exact congrArg Except.ok (decide_eq_decide.mpr values)

theorem hundredths_lt_zero {a : ℤ} :
    (Decimal.ofHundredths a).lt (.finite false 0 0) = .ok (decide (a < 0)) := by
  rw [← hundredths_lt]
  simp [Decimal.lt, Decimal.ofHundredths, Decimal.toRat]

theorem hundredths_le_zero {a : ℤ} :
    (Decimal.ofHundredths a).le (.finite false 0 0) = .ok (!decide (0 < a)) := by
  have below : (Decimal.finite false 0 0).lt (.ofHundredths a) = .ok (decide (0 < a)) := by
    rw [← hundredths_lt]
    simp [Decimal.lt, Decimal.ofHundredths, Decimal.toRat]
  exact congrArg (Except.map (!·)) below

/-- A score counted in hundredths passes exactly when it does not exceed a positive
maximum. -/
theorem column_score_bounds_ok {raw max : ℕ} {score' : Decimal} :
    validateScoreBounds (.ofHundredths raw) (.ofHundredths max) = .ok score' ↔
      0 < max ∧ raw ≤ max ∧ score' = .ofHundredths raw := by
  unfold validateScoreBounds Decimal.gt
  rw [hundredths_le_zero, hundredths_lt_zero, hundredths_lt]
  simp only [Outcome.bind_ok, Except.ok.injEq, exists_eq_left', exists_const, refuseIf_ok,
    Bool.not_eq_false', decide_eq_true_eq, decide_eq_false_iff_not, Nat.cast_pos, Nat.cast_lt,
    not_lt, Int.natCast_nonneg, true_and, pure, Except.pure]
  constructor
  · rintro ⟨positive, le, same⟩
    exact ⟨positive, le, same.symm⟩
  · rintro ⟨positive, le, same⟩
    exact ⟨positive, le, same.symm⟩

theorem hundredths_gt {score : Decimal} {max : ℕ} (finite : score.isFinite = true) :
    score.gt (.ofHundredths max) = .ok (decide ((max : ℚ) / 100 < score.toRat)) := by
  cases score with
  | finite negative coefficient exponent =>
    have column : (Decimal.ofHundredths max).toRat = max / 100 := by
      rw [Decimal.to_rat_of_hundredths, Int.cast_natCast]
    rw [← column]
    rfl
  | infinity negative => cases finite
  | nan signaling => cases finite

/-- A score passes exactly when it lies between zero and a positive maximum. -/
theorem validate_score_bounds_iff {score score' : Decimal} {max : ℕ} :
    validateScoreBounds score (.ofHundredths max) = .ok score' ↔
      0 < max ∧ Within max score ∧ score' = score := by
  constructor
  · intro passes
    obtain ⟨nonneg, le⟩ := validate_score_bounds_ok passes
    have same := validate_score_bounds_same passes
    unfold validateScoreBounds at passes
    rw [hundredths_le_zero] at passes
    obtain ⟨empty, is, passes⟩ := Outcome.bind_ok.mp passes
    cases is
    obtain ⟨positive, passes⟩ := Outcome.check_ok.mp passes
    obtain ⟨negative, isNegative, passes⟩ := Outcome.bind_ok.mp passes
    obtain ⟨notNegative, passes⟩ := Outcome.check_ok.mp passes
    obtain ⟨above, isAbove, passes⟩ := Outcome.bind_ok.mp passes
    obtain ⟨notAbove, -⟩ := Outcome.check_ok.mp passes
    rw [refuseIf_ok] at positive notNegative notAbove
    subst notNegative notAbove
    refine ⟨by simpa using positive, ⟨?_, nonneg, le⟩, same⟩
    cases score with
    | nan signaling => cases isNegative
    | infinity sign => cases sign <;> simp_all [Decimal.gt, Decimal.ofHundredths, Decimal.lt]
    | finite sign coefficient exponent => rfl
  · rintro ⟨positive, ⟨finite, nonneg, le⟩, rfl⟩
    unfold validateScoreBounds
    rw [hundredths_le_zero, hundredths_gt finite, decide_eq_true (Nat.cast_pos.mpr positive),
      decide_eq_false (not_lt.mpr le)]
    cases score' with
    | nan signaling => cases finite
    | infinity sign => cases finite
    | finite sign coefficient exponent =>
      have zero : (Decimal.finite false 0 0).toRat = 0 := by simp [Decimal.toRat]
      simp only [Decimal.lt, zero, decide_eq_false (not_lt.mpr nonneg)]
      rfl

/-- A score is compared unless the maximum is refused first, and a NaN is not comparable. -/
theorem validate_score_bounds_controlled {score : Decimal} {max : ℕ} :
    (validateScoreBounds score (.ofHundredths max)).Controlled ↔
      max = 0 ∨ score.isNaN = false := by
  unfold validateScoreBounds
  rw [hundredths_le_zero]
  by_cases zero : max = 0
  · subst zero
    exact iff_of_true (by simp [bind, Except.bind, refuseIf, Exn.isValidationError]) (.inl rfl)
  · rw [decide_eq_true (Nat.cast_pos.mpr (Nat.pos_of_ne_zero zero)), or_iff_right zero]
    cases score with
    | nan signaling => simp [bind, Except.bind, refuseIf, Decimal.lt, Decimal.isNaN,
        Exn.isValidationError]
    | infinity sign =>
      refine iff_of_true ?_ rfl
      cases sign <;> simp [bind, Except.bind, refuseIf, Decimal.lt, Decimal.gt,
        Decimal.ofHundredths, Exn.isValidationError]
    | finite sign coefficient exponent =>
      refine iff_of_true ?_ rfl
      rw [hundredths_gt rfl]
      simp only [Outcome.controlled_bind, Decimal.lt, Outcome.controlled_ok,
        Outcome.controlled_refuse, true_and, implies_true, pure, Except.pure]

/-! ## Components -/

/-- A component put into a dict keyed by ids: an id keeps the place it was first put at, and
the component last put there. -/
def putComponent (items : List AssessmentComponent) (component : AssessmentComponent) :
    List AssessmentComponent :=
  if items.any (·.id == component.id) then
    items.map fun item => if item.id = component.id then component else item
  else items ++ [component]

/-- What `component_by_id` iterates over. -/
def componentById (components : List AssessmentComponent) : List AssessmentComponent :=
  components.foldl putComponent []

section

variable {items components : List AssessmentComponent} {component known : AssessmentComponent}

theorem mem_put_component (member : known ∈ putComponent items component) :
    known = component ∨ known ∈ items := by
  unfold putComponent at member
  split at member
  · obtain ⟨item, here, is⟩ := List.mem_map.mp member
    split at is
    · exact .inl is.symm
    · exact .inr (is ▸ here)
  · rcases List.mem_append.mp member with here | here
    · exact .inr here
    · exact .inl (List.mem_singleton.mp here)

theorem mem_component_by_id (member : component ∈ componentById components) :
    component ∈ components := by
  have kept : ∀ items rest : List AssessmentComponent,
      component ∈ rest.foldl putComponent items → component ∈ items ∨ component ∈ rest := by
    intro items rest
    induction rest generalizing items with
    | nil => exact .inl
    | cons next rest ih =>
      intro member
      rcases ih _ member with here | later
      · rcases mem_put_component here with rfl | known
        · exact .inr List.mem_cons_self
        · exact .inl known
      · exact .inr (List.mem_cons_of_mem _ later)
  exact (kept [] components member).resolve_left List.not_mem_nil

/-- Components of distinct ids are all there, in their order. -/
theorem component_by_id_distinct (distinct : (components.map (·.id)).Nodup) :
    componentById components = components := by
  have grows : ∀ before after : List AssessmentComponent,
      ((before ++ after).map (·.id)).Nodup →
      after.foldl putComponent before = before ++ after := by
    intro before after
    induction after generalizing before with
    | nil => simp
    | cons component after ih =>
      intro distinct
      have new : before.any (·.id == component.id) = false := by
        rw [List.any_eq_false]
        intro old member same
        simp only [List.map_append, List.map_cons, List.nodup_append] at distinct
        exact distinct.2.2 _ (List.mem_map_of_mem member) _ List.mem_cons_self (by simpa using same)
      have put : putComponent before component = before ++ [component] := by
        unfold putComponent
        rw [new, if_neg (by decide)]
      rw [List.foldl_cons, put, ih _ (by simpa using distinct)]
      simp
  exact grows [] components distinct

end

/-- `total += Decimal(str(value))`. -/
def addScore [Unicode] (total : Decimal) (field : String × Json) : Outcome Decimal :=
  match field.2.toDecimal? with
  | some score => total.plus score
  | none => .error .invalidOperation

/-- `component_total`. -/
def componentTotal [Unicode] (scores : List (String × Json)) : Outcome Decimal :=
  scores.foldlM addScore (.finite false 0 (-2))

/-- The running totals stay in the range of the context up to the first infinite number. -/
def staysInRange : Decimal → List Decimal → Bool
  | _, [] => true
  | total, value :: values => !value.isFinite ||
    match total.plus value with
    | .ok next => staysInRange next values
    | .error _ => false

section

variable [Unicode]

/-- The scores are numbers. -/
def Numeric (scores : List (String × Json)) : Prop :=
  ∀ field ∈ scores, ∃ score, field.2.toDecimal? = some score ∧ score.isNaN = false

/-- The numbers among the scores. -/
def numbers (scores : List (String × Json)) : List Decimal :=
  scores.filterMap fun field => field.2.toDecimal?

/-- Scores that have a sum. -/
structure Summable (scores : List (String × Json)) : Prop where
  numeric : Numeric scores
  oneSided : ∀ negative, .infinity negative ∈ numbers scores →
    .infinity (!negative) ∉ numbers scores
  inRange : staysInRange (.finite false 0 (-2)) (numbers scores) = true

section

variable {field : String × Json} {scores : List (String × Json)} {total score : Decimal}

theorem numbers_cons (is : field.2.toDecimal? = some score) :
    numbers (field :: scores) = score :: numbers scores := by
  simp [numbers, is]

theorem numeric_cons (is : field.2.toDecimal? = some score) :
    Numeric (field :: scores) ↔ score.isNaN = false ∧ Numeric scores := by
  simp [Numeric, is]

theorem not_numeric_cons (is : field.2.toDecimal? = none) : ¬ Numeric (field :: scores) := by
  simp [Numeric, is]

theorem add_score (is : field.2.toDecimal? = some score) :
    addScore total field = total.plus score := by
  simp [addScore, is]

theorem add_no_score (is : field.2.toDecimal? = none) :
    addScore total field = .error .invalidOperation := by
  simp [addScore, is]

theorem add_score_raises {e : Exn} (raised : addScore total field = .error e) :
    e.isValidationError = false := by
  cases is : field.2.toDecimal? with
  | none =>
    rw [add_no_score is] at raised
    exact Except.error.inj raised ▸ rfl
  | some score =>
    rw [add_score is] at raised
    exact Decimal.plus_raises raised

/-- What is raised of a total is no validation error. -/
theorem component_total_raises {e : Exn} (raised : componentTotal scores = .error e) :
    e.isValidationError = false := by
  unfold componentTotal at raised
  generalize Decimal.finite false 0 (-2) = total at raised
  induction scores generalizing total with
  | nil => cases raised
  | cons field scores ih =>
    rw [List.foldlM_cons] at raised
    cases here : addScore total field with
    | error e' =>
      rw [here] at raised
      exact Except.error.inj raised ▸ add_score_raises here
    | ok next =>
      rw [here] at raised
      exact ih next raised

/-- A running total that is no number stays so. -/
theorem nan_stays {signaling : Bool}
    (added : scores.foldlM addScore (.nan signaling) = .ok total) : total.isNaN = true := by
  induction scores generalizing signaling with
  | nil => exact Except.ok.inj added ▸ rfl
  | cons field scores ih =>
    obtain ⟨next, here, later⟩ := Outcome.bind_ok.mp added
    cases is : field.2.toDecimal? with
    | none => cases (add_no_score is).symm.trans here
    | some score =>
      rw [add_score is] at here
      cases signaling with
      | true => cases score <;> cases here
      | false =>
        cases score with
        | nan signaling' =>
          cases signaling' <;> cases here
          exact ih later
        | _ =>
          cases here
          exact ih later

/-- A number that is none ends the sum, or leaves none. -/
theorem no_total_of_nan (is : field.2.toDecimal? = some (.nan true) ∨
      field.2.toDecimal? = some (.nan false)) :
    ¬ ∃ sum, (field :: scores).foldlM addScore total = .ok sum ∧ sum.isNaN = false := by
  rintro ⟨sum, added, number⟩
  obtain ⟨next, here, later⟩ := Outcome.bind_ok.mp added
  rcases is with is | is
  · rw [add_score is] at here
    cases total with
    | nan signaling => cases signaling <;> cases here
    | _ => cases here
  · rw [add_score is] at here
    have nan : next = .nan false := by
      cases total with
      | nan signaling =>
        cases signaling with
        | false => exact (Except.ok.inj here).symm
        | true => cases here
      | _ => exact (Except.ok.inj here).symm
    rw [nan] at later
    exact absurd (nan_stays later) (by simp [number])

/-- A running total that is infinite stays so, unless the opposite infinity is added. -/
theorem total_of_infinite {negative : Bool} :
    (∃ sum, scores.foldlM addScore (.infinity negative) = .ok sum ∧ sum.isNaN = false) ↔
      Numeric scores ∧ .infinity (!negative) ∉ numbers scores := by
  induction scores with
  | nil => exact iff_of_true ⟨_, rfl, rfl⟩ (by simp [Numeric, numbers])
  | cons field scores ih =>
    cases is : field.2.toDecimal? with
    | none =>
      refine iff_of_false ?_ fun found => not_numeric_cons is found.1
      rw [List.foldlM_cons, add_no_score is]
      rintro ⟨_, added, -⟩
      cases added
    | some score =>
      rw [numbers_cons is, numeric_cons is]
      cases score with
      | nan signaling =>
        refine iff_of_false (no_total_of_nan ?_) (by simp [Decimal.isNaN])
        cases signaling
        · exact .inr is
        · exact .inl is
      | finite negative' coefficient exponent =>
        rw [List.foldlM_cons, add_score is]
        simpa [Decimal.plus, Decimal.add, bind, Except.bind, Decimal.isNaN] using ih
      | infinity negative' =>
        rw [List.foldlM_cons, add_score is]
        by_cases same : negative = negative'
        · subst same
          simpa [Decimal.plus, Decimal.add, bind, Except.bind, Decimal.isNaN] using ih
        · obtain rfl : negative' = !negative := by
            cases negative <;> cases negative' <;> first | rfl | exact absurd rfl same
          simp [Decimal.plus, Decimal.add, bind, Except.bind]

/-- The running total of finite numbers. -/
theorem total_of_finite (finite : total.isFinite = true) :
    (∃ sum, scores.foldlM addScore total = .ok sum ∧ sum.isNaN = false) ↔
      Numeric scores ∧
        (∀ negative, .infinity negative ∈ numbers scores →
          .infinity (!negative) ∉ numbers scores) ∧
        staysInRange total (numbers scores) = true := by
  induction scores generalizing total with
  | nil =>
    have number : total.isNaN = false := by cases total <;> first | rfl | cases finite
    exact iff_of_true ⟨_, rfl, number⟩ (by simp [Numeric, numbers, staysInRange])
  | cons field scores ih =>
    cases is : field.2.toDecimal? with
    | none =>
      refine iff_of_false ?_ fun found => not_numeric_cons is found.1
      rw [List.foldlM_cons, add_no_score is]
      rintro ⟨_, added, -⟩
      cases added
    | some score =>
      rw [numbers_cons is, numeric_cons is]
      cases score with
      | nan signaling =>
        refine iff_of_false (no_total_of_nan ?_) (by simp [Decimal.isNaN])
        cases signaling
        · exact .inr is
        · exact .inl is
      | finite negative' coefficient exponent =>
        rw [List.foldlM_cons, add_score is]
        simp only [Decimal.isNaN, true_and, List.mem_cons, reduceCtorEq, false_or, staysInRange,
          Decimal.isFinite, Bool.not_true, Bool.false_or]
        cases added : total.plus (.finite negative' coefficient exponent) with
        | error e => simp [bind, Except.bind]
        | ok next => exact ih (Decimal.plus_finite finite rfl added)
      | infinity negative' =>
        have infinite : total.plus (.infinity negative') = .ok (.infinity negative') := by
          cases total <;> first | rfl | cases finite
        rw [List.foldlM_cons, add_score is, infinite]
        refine Iff.trans total_of_infinite ?_
        simp only [Decimal.isNaN, true_and, staysInRange, Decimal.isFinite, Bool.not_false,
          Bool.true_or, and_true, List.mem_cons, Decimal.infinity.injEq]
        refine and_congr_right fun _ => ⟨fun absent negative here there => ?_, fun both => ?_⟩
        · rcases here with rfl | here
          · rcases there with there | there
            · cases negative <;> cases there
            · exact absent there
          · rcases there with there | there
            · rw [← there, Bool.not_not] at absent
              exact absent here
            · cases negative <;> cases negative' <;> first | exact absent here | exact absent there
        · exact fun there => both negative' (.inl rfl) (.inr there)

/-- Scores have a total that is a number exactly when they are summable. -/
theorem component_total_iff :
    (∃ sum, componentTotal scores = .ok sum ∧ sum.isNaN = false) ↔ Summable scores := by
  refine Iff.trans (total_of_finite rfl) ⟨?_, ?_⟩
  · rintro ⟨numeric, oneSided, inRange⟩
    exact ⟨numeric, oneSided, inRange⟩
  · rintro ⟨numeric, oneSided, inRange⟩
    exact ⟨numeric, oneSided, inRange⟩

end

end

/-! ## Percentages and bands -/

/-- `(score / maximum) * 100`, rounded half up to hundredths. -/
def percentageOf (score maximum : ℕ) : Outcome ℕ := do
  let ratio ← (Decimal.ofHundredths score).div (.ofHundredths maximum)
  let percent ← ratio.mul (.finite false 100 0)
  return percent.hundredths

/-- `score_summary.percentage`. -/
def percentage (score maximum : ℕ) : Outcome ℕ :=
  if maximum = 0 then .ok 0 else percentageOf score maximum

/-- `normalize_percentage`. -/
def normalizePercentage (raw maximum : ℕ) : Outcome ℕ :=
  if maximum = 0 then .error (.valueError "max_score_must_be_positive")
  else if maximum < raw then .error (.valueError "raw_score_out_of_range")
  else percentageOf raw maximum

/-- `BandMapping`. -/
structure BandMapping where
  rawScore : ℕ
  maxScore : ℕ
  normalizedPercentage : ℕ
  bandLabel : String
  bandDescriptor : String
  points : Option Decimal
  deriving DecidableEq, Repr

/-- The order bands are tried in. -/
def lowestFirst (a b : SchoolGradingBand) : Prop :=
  a.minPercentage < b.minPercentage ∨
    a.minPercentage = b.minPercentage ∧ a.maxPercentage ≤ b.maxPercentage

instance : DecidableRel lowestFirst := fun _ _ => inferInstanceAs (Decidable (_ ∨ _))

/-- `map_score_to_band`. -/
def mapScoreToBand (raw maximum : ℕ) (bands : List SchoolGradingBand) : Outcome BandMapping := do
  let percent ← normalizePercentage raw maximum
  match (bands.insertionSort lowestFirst).find? fun band =>
      band.minPercentage ≤ percent && percent ≤ band.maxPercentage with
  | some band =>
    return ⟨raw, maximum, percent, band.label, band.descriptor, band.points⟩
  | none => .error (.valueError "no_matching_band")

end Darasa.Grading
