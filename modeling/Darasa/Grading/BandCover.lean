import Darasa.Grading.Percentages
import Darasa.Grading.Schemas
import Darasa.Runtime.Thresholds

/-!
An accepted schema gives every score one band.

The validator looks at neighbours in the sorted list, the mapper at a percentage that was
rounded.  Between them stands `Covers`: bands that take over from one another a hundredth
apart, from 0.00 to 100.00.
-/

namespace Darasa.Grading

open Darasa (Decimal Outcome)

/-! ## The mapper, on any numbers -/

/-- `<` of numbers none of which is a NaN. -/
def below (x y : Decimal) : Bool :=
  match x.lt y with
  | .ok b => b
  | .error _ => false

/-- `normalize_percentage`, of finite numbers. -/
def normalizePercentageOf (raw maximum : Decimal) : Outcome Decimal :=
  let zero : Decimal := .finite false 0 0
  if !below zero maximum then .error (.valueError "max_score_must_be_positive")
  else if below raw zero || below maximum raw then .error (.valueError "raw_score_out_of_range")
  else do
    let ratio ← raw.divide maximum
    let percent ← ratio.times (.finite false 100 0)
    percent.quantize

/-- `minimum <= percentage <= maximum`. -/
def SchoolGradingBand.holds (percent : Decimal) (band : SchoolGradingBand) : Bool :=
  !below percent (.ofHundredths band.minPercentage) &&
    !below (.ofHundredths band.maxPercentage) percent

/-- `BandMapping`, of any scores. -/
structure ScoreMapping where
  rawScore : Decimal
  maxScore : Decimal
  normalizedPercentage : Decimal
  bandLabel : String
  bandDescriptor : String
  points : Option Decimal
  deriving DecidableEq, Repr

/-- The mapping of a score to a band. -/
def SchoolGradingBand.mapping (band : SchoolGradingBand) (raw maximum percent : Decimal) :
    ScoreMapping :=
  ⟨raw, maximum, percent, band.label, band.descriptor, band.points⟩

/-- `map_score_to_band`, of finite numbers. -/
def mapScoreToBandOf (raw maximum : Decimal) (bands : List SchoolGradingBand) :
    Outcome ScoreMapping := do
  let percent ← normalizePercentageOf raw maximum
  match (bands.insertionSort lowestFirst).find? (·.holds percent) with
  | some band => return band.mapping raw maximum percent
  | none => .error (.valueError "no_matching_band")

/-! ## Numbers compared -/

theorem below_finite {n n' : Bool} {c c' : ℕ} {e e' : ℤ} :
    below (.finite n c e) (.finite n' c' e') =
      decide ((Decimal.finite n c e).toRat < (Decimal.finite n' c' e').toRat) := rfl

/-- A number worth so many hundredths. -/
structure Worth (number : Decimal) (h : ℕ) : Prop where
  finite : number.isFinite = true
  value : number.toRat = h / 100

theorem worth_column {h : ℕ} : Worth (.ofHundredths h) h :=
  ⟨rfl, Decimal.to_rat_column⟩

section

variable {x y : Decimal} {h h' : ℕ}

theorem Worth.form (worth : Worth x h) : ∃ n c e, x = .finite n c e := by
  have finite := worth.finite
  cases x with
  | infinity negative => cases finite
  | nan signaling => cases finite
  | finite n c e => exact ⟨n, c, e, rfl⟩

theorem lt_worth (left : Worth x h) (right : Worth y h') : x.lt y = .ok (decide (h < h')) := by
  obtain ⟨n, c, e, rfl⟩ := left.form
  obtain ⟨n', c', e', rfl⟩ := right.form
  have compared : (Decimal.finite n c e).lt (.finite n' c' e') =
      .ok (decide ((Decimal.finite n c e).toRat < (Decimal.finite n' c' e').toRat)) := rfl
  rw [compared, left.value, right.value]
  congr 1
  rw [decide_eq_decide, div_lt_div_iff_of_pos_right (by norm_num), Nat.cast_lt]

theorem below_worth (left : Worth x h) (right : Worth y h') : below x y = decide (h < h') := by
  rw [below, lt_worth left right]

theorem same_worth (left : Worth x h) (right : Worth y h') :
    sameNumber x y = .ok (decide (h = h')) := by
  have less := lt_worth left right
  have more := lt_worth right left
  obtain ⟨n, c, e, rfl⟩ := left.form
  obtain ⟨n', c', e', rfl⟩ := right.form
  unfold sameNumber
  simp only [less, more, bind, Except.bind, pure, Except.pure]
  congr 1
  rw [← decide_not, ← decide_not, ← Bool.decide_and, decide_eq_decide]
  omega

/-- The next hundredth of the scale. -/
theorem next_worth (inScale : h ≤ 10000) :
    ∃ next, (Decimal.ofHundredths h).plus (.finite false 1 (-2)) = .ok next ∧
      Worth next (h + 1) := by
  refine ⟨.ofHundredths (h + 1 : ℕ), ?_, worth_column⟩
  have short : (Nat.digits 10 (h + 1)).length ≤ 5 :=
    (Nat.digits_length_le_iff (by norm_num) _).mpr (by omega)
  have kept : Decimal.roundToContext false (h + 1) (-2) = .finite false (h + 1) (-2) := by
    have whole : max ((Nat.digits 10 (h + 1)).length - Decimal.precision)
        (Decimal.tiny - -2).toNat = 0 := by
      simp only [Decimal.precision, Decimal.tiny]
      omega
    unfold Decimal.roundToContext
    simp only
    rw [if_pos whole]
  have total : Decimal.scaled false h (-2) (-2) + Decimal.scaled false 1 (-2) (-2) =
      ((h + 1 : ℕ) : ℤ) := by
    simp [Decimal.scaled]
  rw [Decimal.of_hundredths_nat, Decimal.of_hundredths_nat]
  show Decimal.finish
    (decide (Decimal.scaled false h (-2) (-2) + Decimal.scaled false 1 (-2) (-2) < 0))
    (Decimal.scaled false h (-2) (-2) + Decimal.scaled false 1 (-2) (-2)).natAbs (-2) = _
  rw [total, Int.natAbs_natCast, decide_eq_false (by omega)]
  unfold Decimal.finish
  simp only [kept]
  rw [if_neg (by omega)]

end

/-- The percentage a mapping compares its bands with, in hundredths. -/
def Percent (percent : Decimal) (h : ℕ) : Prop :=
  ∃ negative, percent = .finite negative h (-2) ∧ (negative = true → h = 0)

theorem holds_percent {percent : Decimal} {h : ℕ} (is : Percent percent h)
    {band : SchoolGradingBand} :
    band.holds percent = true ↔ band.minPercentage ≤ h ∧ h ≤ band.maxPercentage := by
  obtain ⟨negative, rfl, zero⟩ := is
  have worth : Worth (.finite negative h (-2)) h := by
    refine ⟨rfl, ?_⟩
    cases negative with
    | false => rw [← Decimal.of_hundredths_nat, Decimal.to_rat_column]
    | true =>
      rw [zero rfl]
      simp [Decimal.to_rat_finite]
  simp only [SchoolGradingBand.holds, below_worth worth worth_column,
    below_worth worth_column worth, Bool.and_eq_true, Bool.not_eq_true',
    decide_eq_false_iff_not, not_lt]

/-! ## Bands that take over from one another -/

/-- Bands that cover the hundredths from a number up to 100.00, each once. -/
def Covers (low : ℕ) : List SchoolGradingBand → Prop
  | [] => low = 10001
  | band :: rest =>
    band.minPercentage = low ∧ band.minPercentage ≤ band.maxPercentage ∧
      Covers (band.maxPercentage + 1) rest

variable {bands order : List SchoolGradingBand} {low h : ℕ}

theorem none_below (covers : Covers low bands) (under : h < low) :
    bands.filter (fun band => band.minPercentage ≤ h ∧ h ≤ band.maxPercentage) = [] := by
  induction bands generalizing low with
  | nil => rfl
  | cons band rest ih =>
    obtain ⟨starts, valid, covers⟩ := covers
    rw [List.filter_cons_of_neg (by simp; omega)]
    exact ih covers (by omega)

/-- A percentage is in one of the bands that cover it. -/
theorem one_band (covers : Covers low bands) (above : low ≤ h) (most : h ≤ 10000) :
    ∃ band, bands.filter (fun band => band.minPercentage ≤ h ∧ h ≤ band.maxPercentage) =
      [band] := by
  induction bands generalizing low with
  | nil =>
    have past : low = 10001 := covers
    omega
  | cons band rest ih =>
    obtain ⟨starts, valid, covers⟩ := covers
    by_cases inside : h ≤ band.maxPercentage
    · rw [List.filter_cons_of_pos (by simp; omega), none_below covers (by omega)]
      exact ⟨band, rfl⟩
    · rw [List.filter_cons_of_neg (by simp; omega)]
      exact ih covers (by omega)

/-- Neighbours a hundredth apart, from a first start to 100.00, cover what is between. -/
theorem covers_of_neighbours (first : ∀ band ∈ bands.head?, band.minPercentage = low)
    (some : bands ≠ []) (last : ∀ band ∈ bands.getLast?, band.maxPercentage = 10000)
    (valid : ∀ band ∈ bands, band.minPercentage ≤ band.maxPercentage)
    (adjoin : ∀ pair ∈ bands.zip bands.tail, pair.2.minPercentage = pair.1.maxPercentage + 1) :
    Covers low bands := by
  induction bands generalizing low with
  | nil => exact absurd rfl some
  | cons band rest ih =>
    refine ⟨first band rfl, valid band List.mem_cons_self, ?_⟩
    cases rest with
    | nil =>
      have ends := last band rfl
      show band.maxPercentage + 1 = 10001
      omega
    | cons next rest =>
      refine ih ?_ (List.cons_ne_nil _ _) ?_ ?_ ?_
      · rintro other ⟨⟩
        exact adjoin (band, next) List.mem_cons_self
      · rwa [List.getLast?_cons_cons] at last
      · exact fun other member => valid other (List.mem_cons_of_mem _ member)
      · exact fun pair member => adjoin pair (List.mem_cons_of_mem _ member)

/-! ## What the validator accepts -/

/-- The range of a band, as the validator reads it. -/
def SchoolGradingBand.range (band : SchoolGradingBand) : BandRange :=
  ⟨.ofHundredths band.minPercentage, .ofHundredths band.maxPercentage⟩

/-- Ranges of the columns are sorted by what the bands are. -/
theorem before_columns {a b : SchoolGradingBand} :
    a.range.before b.range = .ok (!decide (lowestFirst b a)) := by
  unfold BandRange.before SchoolGradingBand.range
  simp only [same_worth worth_column worth_column, lt_worth worth_column worth_column, bind,
    Except.bind, pure, Except.pure]
  rcases Nat.lt_trichotomy a.minPercentage b.minPercentage with less | same | more
  · have earlier : ¬ lowestFirst b a := by
      unfold lowestFirst
      omega
    rw [decide_eq_false less.ne, decide_eq_true less, decide_eq_false earlier]
    rfl
  · have byMax : lowestFirst b a ↔ b.maxPercentage ≤ a.maxPercentage := by
      unfold lowestFirst
      omega
    by_cases equal : a.maxPercentage = b.maxPercentage
    · rw [decide_eq_true same, decide_eq_true equal, decide_eq_true (byMax.mpr equal.ge)]
      rfl
    · rw [decide_eq_true same, decide_eq_false equal, ← decide_not]
      show Except.ok _ = Except.ok _
      rw [Except.ok.injEq, decide_eq_decide, byMax]
      omega
  · have later : lowestFirst b a := Or.inl more
    rw [decide_eq_false more.ne', decide_eq_false more.asymm, decide_eq_true later]
    rfl

theorem insert_range {band : SchoolGradingBand} {bands : List SchoolGradingBand} :
    insertRange band.range (bands.map SchoolGradingBand.range) =
      .ok ((bands.orderedInsert lowestFirst band).map SchoolGradingBand.range) := by
  induction bands with
  | nil => rfl
  | cons first rest ih =>
    rw [List.map_cons, insertRange, before_columns, List.orderedInsert_cons]
    by_cases here : lowestFirst band first
    · rw [if_pos here, decide_eq_true here]
      rfl
    · rw [if_neg here, decide_eq_false here, ih]
      rfl

/-- The validator sorts ranges as the mapper sorts bands. -/
theorem sorted_ranges : sortRanges (bands.map SchoolGradingBand.range) =
    .ok ((bands.insertionSort lowestFirst).map SchoolGradingBand.range) := by
  induction bands with
  | nil => rfl
  | cons band bands ih =>
    rw [List.map_cons, sortRanges, ih]
    exact insert_range

/-- A range within the scale leaves no gap before one a hundredth above it only. -/
theorem leaves_gap {a b : SchoolGradingBand} (inScale : a.maxPercentage ≤ 10000) :
    leavesGap a.range b.range = .ok (!decide (b.minPercentage = a.maxPercentage + 1)) := by
  obtain ⟨next, added, worth⟩ := next_worth inScale
  unfold leavesGap SchoolGradingBand.range
  rw [added]
  show (do
    let joined ← sameNumber (.ofHundredths b.minPercentage) next
    return !joined) = _
  rw [same_worth worth_column worth]
  rfl

theorem is_invalid {band : SchoolGradingBand} :
    band.range.isInvalid = .ok (decide (10000 < band.maxPercentage) ||
      decide (band.maxPercentage < band.minPercentage)) := by
  have zero : Worth (.finite false 0 0) 0 := ⟨rfl, by simp [Decimal.to_rat_positive]⟩
  have hundred : Worth (.finite false 100 0) 10000 :=
    ⟨rfl, by rw [Decimal.to_rat_positive]; norm_num⟩
  unfold BandRange.isInvalid SchoolGradingBand.range
  simp only [Decimal.gt, lt_worth worth_column zero, lt_worth hundred worth_column,
    lt_worth worth_column worth_column, bind, Except.bind, pure, Except.pure]
  by_cases large : 10000 < band.maxPercentage
  · rw [decide_eq_true large]
    rfl
  · rw [decide_eq_false large]
    rfl

/-- When no call on the list answers yes, each has answered no. -/
theorem any_m_false {α : Type} {answer : α → Outcome Bool} {items : List α}
    (none : items.anyM answer = .ok false) : ∀ item ∈ items, answer item = .ok false := by
  induction items with
  | nil => exact fun _ member => absurd member List.not_mem_nil
  | cons item items ih =>
    rw [List.anyM] at none
    obtain ⟨here, is, none⟩ := Outcome.bind_ok.mp none
    cases here with
    | true => cases none
    | false =>
      rintro other (_ | ⟨_, later⟩)
      · exact is
      · exact ih none other later

theorem map_m_false {α : Type} {answer : α → Outcome Bool} {items : List α} {flags : List Bool}
    (mapped : items.mapM answer = .ok flags) (none : flags.any id = false) :
    ∀ item ∈ items, answer item = .ok false := by
  induction items generalizing flags with
  | nil => exact fun _ member => absurd member List.not_mem_nil
  | cons item items ih =>
    rw [List.mapM_cons] at mapped
    obtain ⟨here, is, mapped⟩ := Outcome.bind_ok.mp mapped
    obtain ⟨rest, later, mapped⟩ := Outcome.bind_ok.mp mapped
    obtain rfl := Except.ok.inj mapped
    rw [List.any_cons, Bool.or_eq_false_iff] at none
    obtain rfl : here = false := none.1
    rintro other (_ | ⟨_, member⟩)
    · exact is
    · exact ih later none.2 other member

/-- Bands without a coverage gap run from 0.00 to 100.00, each a hundredth above the one
before. -/
theorem joined_of_no_gap (some : bands ≠ []) (inScale : ∀ band ∈ bands, band.maxPercentage ≤ 10000)
    (covered : coverageGap true (bands.map SchoolGradingBand.range) = .ok false) :
    (∀ band ∈ bands.head?, band.minPercentage = 0) ∧
      (∀ band ∈ bands.getLast?, band.maxPercentage = 10000) ∧
        ∀ pair ∈ bands.zip bands.tail, pair.2.minPercentage = pair.1.maxPercentage + 1 := by
  have zero : Worth (.finite false 0 (-2)) 0 := ⟨rfl, by simp [Decimal.to_rat_positive]⟩
  have hundred : Worth (.finite false 10000 (-2)) 10000 :=
    ⟨rfl, by rw [Decimal.to_rat_positive]; norm_num⟩
  unfold coverageGap at covered
  rw [List.head?_map, List.getLast?_map, List.head?_eq_some_head some,
    List.getLast?_eq_some_getLast some] at covered
  obtain ⟨fromZero, first, covered⟩ := Outcome.bind_ok.mp covered
  obtain ⟨toHundred, last, covered⟩ := Outcome.bind_ok.mp covered
  obtain ⟨gap, joined, covered⟩ := Outcome.bind_ok.mp covered
  have none := Except.ok.inj covered
  rw [Bool.or_eq_false_iff, Bool.or_eq_false_iff, Bool.not_eq_false', Bool.not_eq_false'] at none
  obtain ⟨⟨rfl, rfl⟩, rfl⟩ := none
  refine ⟨?_, ?_, ?_⟩
  · rw [List.head?_eq_some_head some]
    rintro band ⟨⟩
    exact of_decide_eq_true (Except.ok.inj ((same_worth worth_column zero).symm.trans first))
  · rw [List.getLast?_eq_some_getLast some]
    rintro band ⟨⟩
    exact of_decide_eq_true (Except.ok.inj ((same_worth worth_column hundred).symm.trans last))
  · intro pair member
    rw [← List.map_tail, List.zip_map] at joined
    have next := any_m_false joined _ (List.mem_map_of_mem member)
    have known := (List.of_mem_zip member).1
    rw [Prod.map, leaves_gap (inScale pair.1 known)] at next
    simpa using next

/-- **Bands accepted with full coverage cover the scale.** -/
theorem covers_of_accepted
    (accepted : validateSchemaBands (bands.map SchoolGradingBand.range) true = .ok []) :
    Covers 0 (bands.insertionSort lowestFirst) := by
  have clear : ∀ {guard : Bool} {code : String}, (if guard = true then [code] else []) = [] →
      guard = false := fun {guard code} empty => by cases guard <;> simp at empty ⊢
  unfold validateSchemaBands at accepted
  rw [sorted_ranges] at accepted
  generalize bands.insertionSort lowestFirst = sorted at accepted ⊢
  obtain ⟨_, ⟨⟩, accepted⟩ := Outcome.bind_ok.mp accepted
  obtain ⟨flags, invalid, accepted⟩ := Outcome.bind_ok.mp accepted
  obtain ⟨_, -, accepted⟩ := Outcome.bind_ok.mp accepted
  obtain ⟨gap, covered, accepted⟩ := Outcome.bind_ok.mp accepted
  have accepted := Except.ok.inj accepted
  simp only [List.append_eq_nil_iff] at accepted
  obtain ⟨⟨⟨required, noGap⟩, noneInvalid⟩, -⟩ := accepted
  obtain rfl := clear noGap
  have fits : ∀ band ∈ sorted, band.minPercentage ≤ band.maxPercentage ∧
      band.maxPercentage ≤ 10000 := by
    intro band member
    have valid := map_m_false invalid (clear noneInvalid) _ (List.mem_map_of_mem member)
    rw [is_invalid, Except.ok.injEq, Bool.or_eq_false_iff, decide_eq_false_iff_not,
      decide_eq_false_iff_not] at valid
    omega
  have some : sorted ≠ [] := by
    rintro rfl
    cases clear required
  obtain ⟨first, last, joined⟩ :=
    joined_of_no_gap some (fun band member => (fits band member).2) covered
  exact covers_of_neighbours first some last (fun band member => (fits band member).1) joined

/-! ## What a score is mapped to -/

variable {raw raw' maximum percent : Decimal}

/-- A number that is not negative is zero when its sign is negative. -/
theorem zero_of_negative {c : ℕ} {e : ℤ} (nonneg : 0 ≤ (Decimal.finite true c e).toRat) :
    c = 0 := by
  rw [Decimal.to_rat_finite, if_pos rfl] at nonneg
  by_contra some
  have positive : (0 : ℚ) < c * 10 ^ e := by positivity
  linarith

theorem positive_of_value {n : Bool} {c : ℕ} {e : ℤ} (positive : 0 < (Decimal.finite n c e).toRat) :
    n = false ∧ 0 < c := by
  cases n with
  | false =>
    refine ⟨rfl, Nat.pos_of_ne_zero ?_⟩
    rintro rfl
    simp [Decimal.to_rat_positive] at positive
  | true =>
    obtain rfl := zero_of_negative positive.le
    simp [Decimal.to_rat_finite] at positive

/-- A score within its maximum. -/
structure OnPaper (raw maximum : Decimal) : Prop where
  score : raw.isFinite = true
  bound : maximum.isFinite = true
  nonneg : 0 ≤ raw.toRat
  le : raw.toRat ≤ maximum.toRat
  positive : 0 < maximum.toRat

/-- A score within its maximum has a percentage, and the hundredths it reaches are a matter
of the exact quotient. -/
theorem normalized_reaches (inRange : OnPaper raw maximum) :
    ∃ percent h, normalizePercentageOf raw maximum = .ok percent ∧ Percent percent h ∧
      h ≤ 10000 ∧ ∀ m, 0 < m → m ≤ 10001 →
        (m ≤ h ↔ Decimal.percentThreshold m ≤ raw.toRat / maximum.toRat) := by
  obtain ⟨finite, finite', nonneg, le, positive⟩ := inRange
  cases maximum with
  | infinity negative => cases finite'
  | nan signaling => cases finite'
  | finite n' c' e' =>
  obtain ⟨rfl, some⟩ := positive_of_value positive
  cases raw with
  | infinity negative => cases finite
  | nan signaling => cases finite
  | finite n c e =>
  have zero : (Decimal.finite false 0 0).toRat = 0 := by simp [Decimal.to_rat_positive]
  have guards : normalizePercentageOf (.finite n c e) (.finite false c' e') =
      (do
        let ratio ← (Decimal.finite n c e).divide (.finite false c' e')
        let percent ← ratio.times (.finite false 100 0)
        percent.quantize) := by
    unfold normalizePercentageOf
    simp only [below_finite, zero, decide_eq_true positive, decide_eq_false nonneg.not_gt,
      decide_eq_false le.not_gt, Bool.not_true, Bool.or_self, Bool.false_eq_true, if_false]
  rw [guards]
  cases n with
  | false =>
    rw [Decimal.to_rat_positive, Decimal.to_rat_positive] at le ⊢
    obtain ⟨ratio, percent, h, divided, multiplied, rounded, most, reaches⟩ :=
      Decimal.percent_reaches_iff some le
    refine ⟨_, h, ?_, ⟨false, rfl, fun absurd => nomatch absurd⟩, most, reaches⟩
    exact Outcome.bind_ok.mpr ⟨ratio, divided, Outcome.bind_ok.mpr ⟨percent, multiplied, rounded⟩⟩
  | true =>
    obtain rfl := zero_of_negative nonneg
    obtain ⟨e₁, divided⟩ := @Decimal.finish_zero true (e - e')
    obtain ⟨e₂, multiplied⟩ := @Decimal.finish_zero true (e₁ + 0)
    have none : (Decimal.finite true 0 e₂).hundredths = 0 := by
      simp [Decimal.hundredths]
    refine ⟨.finite true 0 (-2), 0, ?_, ⟨true, rfl, fun _ => rfl⟩, Nat.zero_le _, ?_⟩
    · have first : (Decimal.finite true 0 e).divide (.finite false c' e') =
          .ok (.finite true 0 e₁) := by
        simp only [Decimal.divide, if_neg some.ne', if_true]
        exact divided
      have third : (Decimal.finite true 0 e₂).quantize = .ok (.finite true 0 (-2)) := by
        unfold Decimal.quantize
        simp only [none]
        exact if_pos (by norm_num)
      rw [first]
      exact Outcome.bind_ok.mpr ⟨_, rfl, Outcome.bind_ok.mpr ⟨_, multiplied, third⟩⟩
    · intro m positive' few
      have above := Decimal.threshold_pos positive' few
      have value : (Decimal.finite true 0 e).toRat = 0 := by simp [Decimal.to_rat_finite]
      rw [value, zero_div]
      constructor
      · omega
      · intro reached
        linarith

/-- A score is mapped to the one band that holds its percentage, whatever the order of
the bands. -/
theorem mapped_of_perm {band : SchoolGradingBand}
    (normalized : normalizePercentageOf raw maximum = .ok percent)
    (single : bands.filter (·.holds percent) = [band]) (moved : order.Perm bands) :
    mapScoreToBandOf raw maximum order = .ok (band.mapping raw maximum percent) := by
  have sorted : ((order.insertionSort lowestFirst).filter (·.holds percent)) = [band] := by
    refine List.perm_singleton.mp ?_
    rw [← single]
    exact ((List.perm_insertionSort _ _).trans moved).filter _
  have found : (order.insertionSort lowestFirst).find? (·.holds percent) = some band := by
    rw [← List.head?_filter, sorted]
    rfl
  unfold mapScoreToBandOf
  rw [normalized]
  show (match (order.insertionSort lowestFirst).find? (·.holds percent) with
    | some band => _
    | none => _) = _
  rw [found]
  rfl

/-- One band of an accepted list holds a percentage of the scale. -/
theorem one_band_holds
    (accepted : validateSchemaBands (bands.map SchoolGradingBand.range) true = .ok [])
    {percent : Decimal} (is : Percent percent h) (most : h ≤ 10000) :
    ∃ band, bands.filter (·.holds percent) = [band] := by
  obtain ⟨band, single⟩ := one_band (covers_of_accepted accepted) (Nat.zero_le h) most
  refine ⟨band, List.perm_singleton.mp ?_⟩
  rw [← single]
  have same : (bands.insertionSort lowestFirst).filter (fun band =>
      band.minPercentage ≤ h ∧ h ≤ band.maxPercentage) =
      (bands.insertionSort lowestFirst).filter (·.holds percent) := by
    refine List.filter_congr fun band _ => ?_
    rw [Bool.eq_iff_iff, decide_eq_true_eq, holds_percent is]
  rw [same]
  exact (List.perm_insertionSort _ _).symm.filter _

/-- Bands that hold two percentages in their order are in that order. -/
theorem band_monotone
    (accepted : validateSchemaBands (bands.map SchoolGradingBand.range) true = .ok [])
    {percent percent' : Decimal} {h h' : ℕ} (is : Percent percent h) (is' : Percent percent' h')
    (le : h ≤ h') (most : h' ≤ 10000) {band band' : SchoolGradingBand}
    (single : bands.filter (·.holds percent) = [band])
    (single' : bands.filter (·.holds percent') = [band']) :
    band' = band ∨ band.maxPercentage < band'.minPercentage := by
  have holder : ∀ {p : Decimal} {k : ℕ} {held : SchoolGradingBand}, Percent p k →
      bands.filter (·.holds p) = [held] →
      held ∈ bands ∧ held.minPercentage ≤ k ∧ k ≤ held.maxPercentage := by
    intro p k held is only
    have member : held ∈ bands.filter (·.holds p) := only ▸ List.mem_singleton_self held
    obtain ⟨known, holds⟩ := List.mem_filter.mp member
    exact ⟨known, (holds_percent is).mp holds⟩
  obtain ⟨known, starts, ends⟩ := holder is single
  obtain ⟨known', starts', ends'⟩ := holder is' single'
  by_cases apart : band.maxPercentage < band'.minPercentage
  · exact .inr apart
  -- otherwise both hold the later of the first percentage and the second band's start
  have shared : Percent (.finite false (max h band'.minPercentage) (-2))
      (max h band'.minPercentage) := ⟨false, rfl, fun absurd => nomatch absurd⟩
  obtain ⟨only, here⟩ := one_band_holds accepted shared (by omega)
  have belongs : ∀ held ∈ bands, held.minPercentage ≤ max h band'.minPercentage →
      max h band'.minPercentage ≤ held.maxPercentage → held = only := by
    intro held known low high
    have member : held ∈ bands.filter (·.holds (.finite false (max h band'.minPercentage) (-2))) :=
      List.mem_filter.mpr ⟨known, (holds_percent shared).mpr ⟨low, high⟩⟩
    rw [here] at member
    exact List.mem_singleton.mp member
  refine .inl ((belongs band' known' ?_ ?_).trans (belongs band known ?_ ?_).symm) <;> omega

/-- **Bands accepted with full coverage give every score one band.**  One band holds the
percentage of the score, the mapper finds it for every order of the bands, and a higher
score has the same band or one above it. -/
theorem accepted_bands_map_every_score
    (accepted : validateSchemaBands (bands.map SchoolGradingBand.range) true = .ok [])
    (inRange : OnPaper raw maximum) :
    ∃ percent band, normalizePercentageOf raw maximum = .ok percent ∧
      bands.filter (·.holds percent) = [band] ∧
      (∀ order : List SchoolGradingBand, order.Perm bands →
        mapScoreToBandOf raw maximum order = .ok (band.mapping raw maximum percent)) ∧
      ∀ raw', OnPaper raw' maximum → raw.toRat ≤ raw'.toRat →
        ∃ percent' band', normalizePercentageOf raw' maximum = .ok percent' ∧
          bands.filter (·.holds percent') = [band'] ∧
          (band' = band ∨ band.maxPercentage < band'.minPercentage) := by
  obtain ⟨percent, h, normalized, is, most, reaches⟩ := normalized_reaches inRange
  obtain ⟨band, single⟩ := one_band_holds accepted is most
  refine ⟨percent, band, normalized, single, fun order => mapped_of_perm normalized single, ?_⟩
  intro raw' inRange' more
  obtain ⟨percent', h', normalized', is', most', reaches'⟩ := normalized_reaches inRange'
  obtain ⟨band', single'⟩ := one_band_holds accepted is' most'
  refine ⟨percent', band', normalized', single', ?_⟩
  have le : h ≤ h' := by
    rcases Nat.eq_zero_or_pos h with none | some
    · omega
    · refine (reaches' h some (by omega)).mpr (((reaches h some (by omega)).mp le_rfl).trans ?_)
      have positive := inRange.positive
      gcongr
  exact band_monotone accepted is is' le most' single single'

/-! ## Scores of the columns -/

/-- On scores of their columns, both models of the mapper compute one percentage. -/
theorem normalize_of_columns {raw maximum : ℕ} (digits : maximum < 10 ^ 7)
    (positive : 0 < maximum) (le : raw ≤ maximum) :
    ∃ percent h, normalizePercentageOf (.ofHundredths raw) (.ofHundredths maximum) = .ok percent ∧
      Percent percent h ∧ normalizePercentage raw maximum = .ok h := by
  have value : ∀ k : ℕ, (Decimal.ofHundredths k).toRat = k / 100 := fun _ =>
    Decimal.to_rat_column
  have positive' : (0 : ℚ) < maximum := by exact_mod_cast positive
  obtain ⟨percent, h, normalized, is, most, reaches⟩ :=
    @normalized_reaches (.ofHundredths raw) (.ofHundredths maximum)
      ⟨rfl, rfl, by rw [value]; positivity, by rw [value, value]; gcongr,
        by rw [value]; positivity⟩
  have same : ∀ m, 0 < m → m ≤ 10001 → (m ≤ h ↔ m ≤ ⌊(10000 * raw : ℚ) / maximum + 1 / 2⌋₊) := by
    intro m some few
    obtain ⟨below, near⟩ := Decimal.threshold_near_tie some few
    have ratio : (raw / 100 : ℚ) / (maximum / 100) = raw / maximum := by field_simp
    have scaled : (10000 * raw : ℚ) / maximum = 10000 * (raw / maximum) := by ring
    rw [reaches m some few, value, value, ratio, Nat.le_floor_iff (by positivity), scaled]
    constructor
    · intro reached
      by_contra short
      -- a quotient short of the tie is short of it by more than the threshold is
      have strict : 20000 * raw + 1 ≤ (2 * m - 1) * maximum := by
        have cast : (20000 * raw : ℚ) < (2 * m - 1 : ℕ) * maximum := by
          have off : (raw : ℚ) / maximum < (2 * m - 1) / 20000 := by linarith
          rw [div_lt_div_iff₀ positive' (by norm_num)] at off
          rw [Decimal.tie_cast some]
          linarith
        exact_mod_cast cast
      have gap : (raw : ℚ) / maximum + 1 / (20000 * maximum) ≤ (2 * m - 1) / 20000 := by
        have cast : (20000 * raw + 1 : ℚ) ≤ (2 * m - 1) * maximum := by
          rw [← Decimal.tie_cast some]
          exact_mod_cast strict
        calc (raw : ℚ) / maximum + 1 / (20000 * maximum)
            = (20000 * raw + 1) / (20000 * maximum) := by field_simp
          _ ≤ (2 * m - 1) * maximum / (20000 * maximum) := by gcongr
          _ = (2 * m - 1) / 20000 := by field_simp
      have wide : (10 : ℚ) ^ (-13 : ℤ) ≤ 1 / (20000 * maximum) := by
        have few' : (maximum : ℚ) ≤ 10 ^ 7 := by exact_mod_cast digits.le
        rw [le_div_iff₀ (by positivity)]
        norm_num
        linarith
      linarith
    · intro reached
      linarith
  have exact : h = halfUp (100 * columnValue raw / columnValue maximum) := by
    have bound := @half_up_percent_le (columnValue raw) (columnValue maximum)
      (by rw [columnValue, value]; positivity)
      (by rw [columnValue, columnValue, value, value]; gcongr)
    unfold halfUp at bound ⊢
    rw [← percent_of_columns positive] at bound ⊢
    generalize ⌊(10000 * raw : ℚ) / maximum + 1 / 2⌋₊ = k at same bound ⊢
    have up := same h
    have down := same k
    omega
  refine ⟨percent, h, normalized, is, ?_⟩
  rw [(percentages_agree positive le).1, percentage_of_exact (by omega) positive le, exact]

/-- A correction's mapping is the mapper's. -/
theorem map_score_of_columns {raw maximum : ℕ} (digits : maximum < 10 ^ 7)
    (positive : 0 < maximum) (le : raw ≤ maximum) {mapping : BandMapping}
    (mapped : mapScoreToBand raw maximum bands = .ok mapping) :
    ∃ percent, Percent percent mapping.normalizedPercentage ∧
      mapScoreToBandOf (.ofHundredths raw) (.ofHundredths maximum) bands =
        .ok ⟨.ofHundredths raw, .ofHundredths maximum, percent, mapping.bandLabel,
          mapping.bandDescriptor, mapping.points⟩ := by
  obtain ⟨percent, h, normalized, is, normalized'⟩ := normalize_of_columns digits positive le
  have holds : (fun band : SchoolGradingBand => decide (band.minPercentage ≤ h) &&
      decide (h ≤ band.maxPercentage)) = fun band => band.holds percent := by
    funext band
    rw [Bool.eq_iff_iff, holds_percent is, Bool.and_eq_true, decide_eq_true_eq, decide_eq_true_eq]
  obtain ⟨h', normalized'', mapped⟩ := Outcome.bind_ok.mp mapped
  cases normalized'.symm.trans normalized''
  rw [holds] at mapped
  cases found : (bands.insertionSort lowestFirst).find? (·.holds percent) with
  | none =>
    rw [found] at mapped
    cases mapped
  | some band =>
    rw [found] at mapped
    cases mapped
    refine ⟨percent, is, Outcome.bind_ok.mpr ⟨percent, normalized, ?_⟩⟩
    rw [found]
    rfl

/-- Two bands, and a score out of three whose percentage is rounded. -/
theorem two_bands_map_a_third :
    ∃ percent band, normalizePercentageOf (.finite false 1 0) (.finite false 3 0) = .ok percent ∧
      ([⟨1, 1, "Below", "", 0, 3333, none, 1⟩, ⟨1, 1, "Meets", "", 3334, 10000, none, 2⟩] :
        List SchoolGradingBand).filter (·.holds percent) = [band] ∧
      (∀ order : List SchoolGradingBand, order.Perm
          [⟨1, 1, "Below", "", 0, 3333, none, 1⟩, ⟨1, 1, "Meets", "", 3334, 10000, none, 2⟩] →
        mapScoreToBandOf (.finite false 1 0) (.finite false 3 0) order =
          .ok (band.mapping (.finite false 1 0) (.finite false 3 0) percent)) ∧
      ∀ raw', OnPaper raw' (.finite false 3 0) → (Decimal.finite false 1 0).toRat ≤ raw'.toRat →
        ∃ percent' band', normalizePercentageOf raw' (.finite false 3 0) = .ok percent' ∧
          ([⟨1, 1, "Below", "", 0, 3333, none, 1⟩, ⟨1, 1, "Meets", "", 3334, 10000, none, 2⟩] :
            List SchoolGradingBand).filter (·.holds percent') = [band'] ∧
          (band' = band ∨ band.maxPercentage < band'.minPercentage) :=
  accepted_bands_map_every_score (by decide +kernel)
    ⟨rfl, rfl, by decide +kernel, by decide +kernel, by decide +kernel⟩

end Darasa.Grading
