import Darasa.Grading.Compilation
import Darasa.Runtime.Exactness

/-!
Percentages are exact to the hundredth.

A percentage is rounded twice, to the precision of the context and half up to two
decimals; on scores of the columns the first rounding never decides the second.
-/

namespace Darasa.Grading

open Darasa (Decimal Outcome)

/-- The number rounded half up to two decimals, counted in hundredths. -/
def halfUp (x : ℚ) : ℕ := ⌊x * 100 + 1 / 2⌋₊

theorem half_up_mono {x y : ℚ} (le : x ≤ y) : halfUp x ≤ halfUp y :=
  Nat.floor_mono (by linarith)

/-- A part of a whole is at most 100.00 percent. -/
theorem half_up_percent_le {part whole : ℚ} (positive : 0 < whole) (le : part ≤ whole) :
    halfUp (100 * part / whole) ≤ 10000 := by
  have most : 100 * part / whole ≤ 100 := by
    rw [div_le_iff₀ positive]
    linarith
  calc halfUp (100 * part / whole) ≤ halfUp 100 := half_up_mono most
    _ = 10000 := by norm_num [halfUp, Nat.floor_eq_iff]

/-! ## The two percentages of a score -/

variable {raw maximum : ℕ}

/-- The number a two-decimal column holds. -/
abbrev columnValue (hundredths : ℕ) : ℚ := (Decimal.ofHundredths hundredths).toRat

theorem percent_of_columns (positive : 0 < maximum) :
    (10000 * raw : ℚ) / maximum + 1 / 2 =
      100 * columnValue raw / columnValue maximum * 100 + 1 / 2 := by
  have nonzero : (maximum : ℚ) ≠ 0 := by positivity
  rw [columnValue, columnValue, Decimal.to_rat_column, Decimal.to_rat_column]
  field_simp
  ring

theorem percentage_of_exact (few : maximum < 5 * 10 ^ 10) (positive : 0 < maximum)
    (le : raw ≤ maximum) :
    percentageOf raw maximum = .ok (halfUp (100 * columnValue raw / columnValue maximum)) := by
  obtain ⟨ratio, percent, divided, multiplied, is⟩ :=
    @Decimal.percent_hundredths raw maximum (-2) positive le few
  unfold percentageOf halfUp
  rw [← percent_of_columns positive, ← is, Decimal.of_hundredths_nat, Decimal.of_hundredths_nat]
  exact Outcome.bind_ok.mpr ⟨ratio, divided, Outcome.bind_ok.mpr ⟨percent, multiplied, rfl⟩⟩

/-- Both percentages divide a score by its maximum once they have checked it. -/
theorem percentages_agree (positive : 0 < maximum) (le : raw ≤ maximum) :
    normalizePercentage raw maximum = percentageOf raw maximum ∧
      percentage raw maximum = percentageOf raw maximum := by
  constructor
  · rw [normalizePercentage, if_neg positive.ne', if_neg le.not_gt]
  · rw [percentage, if_neg positive.ne']

/-- A mapping records the percentage the score is normalized to. -/
theorem mapping_percentage {bands : List SchoolGradingBand} {mapping : BandMapping}
    (mapped : mapScoreToBand raw maximum bands = .ok mapping) :
    normalizePercentage raw maximum = .ok mapping.normalizedPercentage := by
  obtain ⟨percent, normalized, mapped⟩ := Outcome.bind_ok.mp mapped
  rw [normalized]
  split at mapped
  · cases mapped
    rfl
  · cases mapped

/-! ## The completion of a class -/

theorem completion_exact {submitted expected : ℕ} (few : expected < 5 * 10 ^ 10)
    (positive : 0 < expected) (le : submitted ≤ expected) :
    completionPercentage submitted expected = .ok (halfUp (100 * submitted / expected)) := by
  obtain ⟨ratio, percent, divided, multiplied, is⟩ :=
    @Decimal.percent_hundredths submitted expected 0 positive le few
  have exact : (100 * submitted / expected : ℚ) * 100 + 1 / 2 =
      10000 * submitted / expected + 1 / 2 := by ring
  rw [completionPercentage, if_neg positive.ne', halfUp, exact, ← is]
  exact Outcome.bind_ok.mpr ⟨ratio, divided, Outcome.bind_ok.mpr ⟨percent, multiplied, rfl⟩⟩

/-- **Percentages are exactly rounded.**  The percentage of a mark, of the band it is
mapped to and of the report it is compiled into is one number: the exact percentage
rounded half up, at most 100.00 and monotone in the mark.  So is the completion of a
class. -/
theorem percentages_are_exact {maximum expected : ℕ} (digits : maximum < 10 ^ 7)
    (positive : 0 < maximum) (few : expected < 10 ^ 9) (some : 0 < expected) :
    (∀ raw ≤ maximum, ∃ percent, normalizePercentage raw maximum = .ok percent ∧
      percentage raw maximum = .ok percent ∧
      percent = halfUp (100 * columnValue raw / columnValue maximum) ∧ percent ≤ 10000 ∧
      (∀ bands mapping, mapScoreToBand raw maximum bands = .ok mapping →
        mapping.normalizedPercentage = percent) ∧
      ∀ raw' ≤ maximum, raw ≤ raw' →
        ∃ percent', normalizePercentage raw' maximum = .ok percent' ∧ percent ≤ percent') ∧
    ∀ submitted ≤ expected,
      completionPercentage submitted expected = .ok (halfUp (100 * submitted / expected)) := by
  have positive' : 0 < columnValue maximum := by
    rw [columnValue, Decimal.to_rat_column]
    positivity
  have mono : ∀ {a b : ℕ}, a ≤ b → columnValue a ≤ columnValue b := fun {a b} le => by
    rw [columnValue, columnValue, Decimal.to_rat_column, Decimal.to_rat_column]
    gcongr
  have normalized : ∀ raw ≤ maximum, normalizePercentage raw maximum =
      .ok (halfUp (100 * columnValue raw / columnValue maximum)) := fun raw le =>
    (percentages_agree positive le).1.trans (percentage_of_exact (by omega) positive le)
  refine ⟨fun raw le => ?_, fun submitted le => completion_exact (by omega) some le⟩
  refine ⟨_, normalized raw le, ?_, rfl, half_up_percent_le positive' (mono le), ?_, ?_⟩
  · exact (percentages_agree positive le).2.trans (percentage_of_exact (by omega) positive le)
  · intro bands mapping mapped
    exact Except.ok.inj ((mapping_percentage mapped).symm.trans (normalized raw le))
  · intro raw' le' more
    refine ⟨_, normalized raw' le', half_up_mono ?_⟩
    have grows := mono more
    gcongr

/-- Marks out of 30.00, in a class of three. -/
theorem percentages_of_thirty_are_exact :
    (∀ raw ≤ 3000, ∃ percent, normalizePercentage raw 3000 = .ok percent ∧
      percentage raw 3000 = .ok percent ∧
      percent = halfUp (100 * columnValue raw / columnValue (3000 : ℕ)) ∧ percent ≤ 10000 ∧
      (∀ bands mapping, mapScoreToBand raw 3000 bands = .ok mapping →
        mapping.normalizedPercentage = percent) ∧
      ∀ raw' ≤ 3000, raw ≤ raw' →
        ∃ percent', normalizePercentage raw' 3000 = .ok percent' ∧ percent ≤ percent') ∧
    ∀ submitted ≤ 3,
      completionPercentage submitted 3 = .ok (halfUp (100 * submitted / (3 : ℕ))) :=
  percentages_are_exact (by decide) (by decide) (by decide) (by decide)

end Darasa.Grading
