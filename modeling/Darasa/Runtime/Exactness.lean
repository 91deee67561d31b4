import Mathlib.Algebra.Order.Field.Power
import Mathlib.Algebra.Order.Floor.Semifield
import Mathlib.Data.Nat.Cast.Field
import Mathlib.Data.Nat.Cast.Order.Field
import Mathlib.Data.Nat.Digits.Lemmas
import Mathlib.Tactic.Linarith
import Mathlib.Tactic.GCongr
import Darasa.Runtime.Rounding

/-!
What rounding to the precision of the context keeps.

A result rounded to the precision lies on the same side as the exact one of every number
the precision can hold, so a number it can hold is not changed, and a mean is rounded to
hundredths as if it had not been rounded before.
-/

namespace Darasa.Decimal

/-- A number of at most so many significant digits as the context keeps. -/
def Representable (g : ℚ) : Prop :=
  ∃ (a : ℕ) (b : ℤ), a < 10 ^ precision ∧ g = a * 10 ^ b

/-- A rounding of `v`: on the same side as `v` of every number the precision can hold. -/
structure RoundingOf (v r : ℚ) : Prop where
  below : ∀ g, Representable g → v ≤ g → r ≤ g
  above : ∀ g, Representable g → g ≤ v → g ≤ r

/-- A number the precision can hold is its only rounding. -/
theorem RoundingOf.exact {v r : ℚ} (rounding : RoundingOf v r) (rep : Representable v) : r = v :=
  le_antisymm (rounding.below v rep (le_refl v)) (rounding.above v rep (le_refl v))

section

variable {c d k : ℕ} {e : ℤ}

/-! ## Ties to even -/

theorem div_half_even_le (positive : 0 < d) (le : c ≤ k * d) : divHalfEven c d ≤ k := by
  have below : c / d ≤ k := Nat.div_le_of_le_mul (by rwa [mul_comm] at le)
  unfold divHalfEven
  split
  next => exact below
  next up =>
    rcases below.lt_or_eq with less | same
    · exact less
    · -- a quotient that reaches the bound is exact, and exact ones are not rounded up
      have split := Nat.div_add_mod c d
      rw [same, mul_comm] at split
      have remainder : c % d = 0 := by omega
      exact absurd (.inl (by omega)) up

theorem le_div_half_even (positive : 0 < d) (le : k * d ≤ c) : k ≤ divHalfEven c d := by
  have below : k ≤ c / d := (Nat.le_div_iff_mul_le positive).mpr le
  unfold divHalfEven
  split <;> omega

/-! ## Rounding a coefficient -/

/-- The digits a coefficient has beyond the precision. -/
def excess (c : ℕ) : ℕ := (Nat.digits 10 c).length - precision

/-- A rounded coefficient is finite, and is the nearest multiple of the digits dropped. -/
theorem round_to_precision_is :
    ∃ c' e', roundToPrecision false c e = finite false c' e' ∧
      (c' : ℚ) * 10 ^ e' = divHalfEven c (10 ^ excess c) * 10 ^ (e + excess c) := by
  have half : divHalfEven c 1 = c := by simp [divHalfEven, Nat.mod_one]
  unfold roundToPrecision
  simp only
  by_cases none : (Nat.digits 10 c).length - precision = 0
  · rw [if_pos none]
    refine ⟨c, e, rfl, ?_⟩
    rw [excess, none, pow_zero, half, Nat.cast_zero, add_zero]
  rw [if_neg none]
  by_cases carry : divHalfEven c (10 ^ ((Nat.digits 10 c).length - precision)) = 10 ^ precision
  · rw [if_pos carry]
    refine ⟨_, _, rfl, ?_⟩
    rw [excess, carry, zpow_add₀ (by norm_num), zpow_one]
    push_cast
    rw [show precision = (precision - 1) + 1 from rfl, pow_succ]
    simp only [Nat.add_sub_cancel]
    ring
  · rw [if_neg carry]
    exact ⟨_, _, rfl, rfl⟩

/-- A coefficient with digits to drop is a large one. -/
theorem le_of_excess (drops : excess c ≠ 0) : 10 ^ (precision - 1 + excess c) ≤ c := by
  unfold excess at drops ⊢
  refine (Nat.lt_digits_length_iff (by norm_num) c).mp ?_
  have positive : 0 < precision := by decide
  omega

/-- A bound of few digits on a number of many is a multiple of the digits the number
has more. -/
theorem multiple_of_le {a : ℕ} {b f : ℤ} {m : ℕ} (few : a < 10 ^ precision)
    (large : 10 ^ (precision - 1) * 10 ^ m ≤ c) (le : (c : ℚ) * 10 ^ e ≤ a * 10 ^ b)
    (grid : f = e + m) : ∃ k : ℕ, (a : ℚ) * 10 ^ b = k * 10 ^ f := by
  have ten : (1 : ℚ) < 10 := by norm_num
  have reaches : f ≤ b := by
    by_contra below
    have fewer : (a : ℚ) ≤ 10 ^ (precision : ℤ) := by
      rw [zpow_natCast]
      exact_mod_cast few.le
    have many : (10 : ℚ) ^ ((precision : ℤ) - 1) * 10 ^ (m : ℤ) ≤ c := by
      have cast : ((10 ^ (precision - 1) * 10 ^ m : ℕ) : ℚ) ≤ c := by exact_mod_cast large
      rw [show ((precision : ℤ) - 1) = ((precision - 1 : ℕ) : ℤ) from rfl, zpow_natCast,
        zpow_natCast]
      exact_mod_cast cast
    have strict : (a : ℚ) * 10 ^ b < c * 10 ^ e := by
      calc (a : ℚ) * 10 ^ b < 10 ^ (precision : ℤ) * 10 ^ b := by
            gcongr
            rw [zpow_natCast]
            exact_mod_cast few
        _ = 10 ^ ((precision : ℤ) + b) := (zpow_add₀ (by norm_num) _ _).symm
        _ ≤ 10 ^ ((precision : ℤ) - 1 + m + e) := zpow_le_zpow_right₀ ten.le (by omega)
        _ = 10 ^ ((precision : ℤ) - 1) * 10 ^ (m : ℤ) * 10 ^ e := by
            rw [zpow_add₀ (by norm_num), zpow_add₀ (by norm_num)]
        _ ≤ c * 10 ^ e := by gcongr
    exact absurd le strict.not_ge
  obtain ⟨n, more⟩ := Int.eq_ofNat_of_zero_le (sub_nonneg.mpr reaches)
  refine ⟨a * 10 ^ n, ?_⟩
  rw [show b = n + f by omega, zpow_add₀ (by norm_num), zpow_natCast]
  push_cast
  ring

/-- Rounding a coefficient to the precision. -/
theorem round_to_precision_rounding :
    RoundingOf (c * 10 ^ e) (roundToPrecision false c e).toRat := by
  obtain ⟨c', e', is, value⟩ := @round_to_precision_is c e
  rw [is, to_rat_finite, if_neg (by simp), one_mul, value]
  have unit : 0 < 10 ^ excess c := by positivity
  have scale : (c : ℚ) * 10 ^ e = c / 10 ^ excess c * 10 ^ (e + excess c) := by
    rw [zpow_add₀ (by norm_num), zpow_natCast]
    field_simp
  by_cases drops : excess c = 0
  · have half : divHalfEven c 1 = c := by simp [divHalfEven, Nat.mod_one]
    rw [drops, pow_zero, half, Nat.cast_zero, add_zero]
    exact ⟨fun _ _ le => le, fun _ _ le => le⟩
  have large := le_of_excess drops
  rw [pow_add] at large
  constructor
  · rintro g ⟨a, b, few, rfl⟩ le
    obtain ⟨k, multiple⟩ := multiple_of_le few large le rfl
    rw [multiple] at le ⊢
    have bound : c ≤ k * 10 ^ excess c := by
      rw [scale, mul_le_mul_iff_left₀ (by positivity), div_le_iff₀ (by positivity)] at le
      exact_mod_cast le
    gcongr
    exact div_half_even_le unit bound
  · rintro g ⟨a, b, few, rfl⟩ le
    by_cases reaches : e + excess c ≤ b
    · obtain ⟨n, more⟩ := Int.eq_ofNat_of_zero_le (sub_nonneg.mpr reaches)
      have multiple : (a : ℚ) * 10 ^ b = (a * 10 ^ n : ℕ) * 10 ^ (e + excess c) := by
        rw [show b = n + (e + excess c) by omega, zpow_add₀ (by norm_num), zpow_natCast]
        push_cast
        ring
      rw [multiple] at le ⊢
      have bound : a * 10 ^ n * 10 ^ excess c ≤ c := by
        rw [scale, mul_le_mul_iff_left₀ (by positivity), le_div_iff₀ (by positivity)] at le
        exact_mod_cast le
      gcongr
      exact le_div_half_even unit bound
    · -- a bound below the digits kept is below the least number of that many
      have least : 10 ^ (precision - 1) ≤ divHalfEven c (10 ^ excess c) :=
        le_div_half_even unit large
      calc (a : ℚ) * 10 ^ b ≤ 10 ^ (precision : ℤ) * 10 ^ b := by
            gcongr
            rw [zpow_natCast]
            exact_mod_cast few.le
        _ = 10 ^ ((precision : ℤ) + b) := (zpow_add₀ (by norm_num) _ _).symm
        _ ≤ 10 ^ ((precision : ℤ) - 1 + (e + excess c)) :=
            zpow_le_zpow_right₀ (by norm_num) (by omega)
        _ = 10 ^ ((precision : ℤ) - 1) * 10 ^ (e + excess c) := zpow_add₀ (by norm_num) _ _
        _ ≤ divHalfEven c (10 ^ excess c) * 10 ^ (e + excess c) := by
            gcongr
            rw [show ((precision : ℤ) - 1) = ((precision - 1 : ℕ) : ℤ) from rfl, zpow_natCast]
            exact_mod_cast least

end

/-- A rounding of a rounding is one. -/
theorem RoundingOf.trans {v w r : ℚ} (first : RoundingOf v w) (second : RoundingOf w r) :
    RoundingOf v r where
  below g rep le := second.below g rep (first.below g rep le)
  above g rep le := second.above g rep (first.above g rep le)

/-- A sum or quotient computed: finite, not negative, and a rounding of the exact one. -/
def Computes (x : Outcome Decimal) (v : ℚ) : Prop :=
  ∃ c e, x = .ok (finite false c e) ∧ RoundingOf v (finite false c e).toRat

theorem to_rat_positive {c : ℕ} {e : ℤ} : (finite false c e).toRat = c * 10 ^ e := by
  rw [to_rat_finite, if_neg (by simp), one_mul]

theorem computes_rounded {c : ℕ} {e : ℤ} {v : ℚ} (rounding : RoundingOf v (c * 10 ^ e)) :
    Computes (.ok (roundToPrecision false c e)) v := by
  obtain ⟨c', e', is, -⟩ := @round_to_precision_is c e
  refine ⟨c', e', congrArg _ is, ?_⟩
  rw [← is]
  exact rounding.trans round_to_precision_rounding

theorem RoundingOf.refl {v : ℚ} : RoundingOf v v := ⟨fun _ _ le => le, fun _ _ le => le⟩

/-! ## Sums -/

/-- The sum of two numbers that are not negative. -/
theorem add_computes {c c' : ℕ} {e e' : ℤ} :
    Computes (add (finite false c e) (finite false c' e'))
      ((finite false c e).toRat + (finite false c' e').toRat) := by
  obtain ⟨n, first⟩ := Int.eq_ofNat_of_zero_le (sub_nonneg.mpr (min_le_left e e'))
  obtain ⟨n', second⟩ := Int.eq_ofNat_of_zero_le (sub_nonneg.mpr (min_le_right e e'))
  simp only [add]
  generalize min e e' = target at first second ⊢
  have total : scaled false c e target + scaled false c' e' target =
      ((c * 10 ^ n + c' * 10 ^ n' : ℕ) : ℤ) := by
    unfold scaled
    rw [first, second]
    simp
  have value : (finite false c e).toRat + (finite false c' e').toRat =
      ((c * 10 ^ n + c' * 10 ^ n' : ℕ) : ℚ) * 10 ^ target := by
    rw [to_rat_positive, to_rat_positive, show e = n + target by omega,
      show e' = n' + target by omega, zpow_add₀ (by norm_num), zpow_add₀ (by norm_num),
      zpow_natCast, zpow_natCast]
    push_cast
    ring
  rw [value, total, Int.natAbs_natCast]
  rw [decide_eq_false (by omega)]
  exact computes_rounded .refl

/-! ## Quotients -/

theorem drop_zeros_value {room c : ℕ} {e : ℤ} :
    ((dropZeros room c e).1 : ℚ) * 10 ^ (dropZeros room c e).2 = c * 10 ^ e := by
  induction room generalizing c e with
  | zero => rfl
  | succ room ih =>
    unfold dropZeros
    split
    next zero =>
      rw [ih]
      obtain ⟨k, rfl⟩ := Nat.dvd_of_mod_eq_zero zero
      rw [Nat.mul_div_cancel_left _ (by norm_num), zpow_add₀ (by norm_num), zpow_one]
      push_cast
      ring
    next => rfl

/-- A quotient is exact, or has more digits than the precision, the last one sticky. -/
theorem quotient_is {c n : ℕ} {ideal : ℤ} (nonzero : c ≠ 0) (positive : 0 < n) :
    ((quotient c n ideal).1 : ℚ) * 10 ^ (quotient c n ideal).2 = c / n * 10 ^ ideal ∨
      ∃ (dividend divisor : ℕ) (e : ℤ), 0 < divisor ∧
        (c : ℚ) / n * 10 ^ ideal = (dividend : ℚ) / divisor * 10 ^ e ∧
        10 ^ (precision - 1) * 10 ^ 1 ≤ dividend / divisor ∧
        dividend / divisor * divisor < dividend ∧
        quotient c n ideal =
          (if dividend / divisor % 5 = 0 then dividend / divisor + 1 else dividend / divisor,
            e) := by
  unfold quotient
  simp only
  generalize shiftIs : ((Nat.digits 10 n).length - (Nat.digits 10 c).length + precision + 1 : ℤ) =
    shift
  have balance : (shift.toNat : ℤ) - (-shift).toNat = shift := by omega
  generalize shift.toNat = s at balance ⊢
  generalize (-shift).toNat = s' at balance ⊢
  have divisor : 0 < n * 10 ^ s' := by positivity
  have value : (c : ℚ) / n * 10 ^ ideal =
      ((c * 10 ^ s : ℕ) : ℚ) / ((n * 10 ^ s' : ℕ) : ℚ) * 10 ^ (ideal - shift) := by
    rw [← balance, zpow_sub₀ (by norm_num), zpow_sub₀ (by norm_num), zpow_natCast, zpow_natCast]
    push_cast
    have cast : (n : ℚ) ≠ 0 := by positivity
    field_simp
  by_cases exact : c * 10 ^ s % (n * 10 ^ s') = 0
  · rw [if_pos exact, drop_zeros_value, value,
      Nat.cast_div (Nat.dvd_of_mod_eq_zero exact) (by positivity)]
    exact .inl rfl
  rw [if_neg exact]
  refine .inr ⟨_, _, _, divisor, value, ?_, ?_, rfl⟩
  · rw [Nat.le_div_iff_mul_le divisor]
    have some : 0 < (Nat.digits 10 c).length :=
      (Nat.lt_digits_length_iff (by norm_num) c).mpr (by omega)
    have many : 10 ^ ((Nat.digits 10 c).length - 1) ≤ c :=
      (Nat.lt_digits_length_iff (by norm_num) c).mp (by omega)
    have few : n < 10 ^ (Nat.digits 10 n).length := Nat.lt_base_pow_length_digits (by norm_num)
    calc 10 ^ (precision - 1) * 10 ^ 1 * (n * 10 ^ s')
        ≤ 10 ^ (precision - 1) * 10 ^ 1 * (10 ^ (Nat.digits 10 n).length * 10 ^ s') := by gcongr
      _ = 10 ^ ((Nat.digits 10 c).length - 1) * 10 ^ s := by
          rw [← pow_add, ← pow_add, ← pow_add, ← pow_add]
          congr 1
          have is : precision = 28 := rfl
          omega
      _ ≤ c * 10 ^ s := by gcongr
  · have split := Nat.div_add_mod (c * 10 ^ s) (n * 10 ^ s')
    rw [mul_comm] at split
    omega

/-- The quotient a division rounds is itself a rounding of the exact one. -/
theorem quotient_rounding {c n : ℕ} {ideal : ℤ} (nonzero : c ≠ 0) (positive : 0 < n) :
    RoundingOf (c / n * 10 ^ ideal)
      ((quotient c n ideal).1 * 10 ^ (quotient c n ideal).2) := by
  rcases @quotient_is c n ideal nonzero positive with
    same | ⟨dividend, divisor', e, divisor, value, large, inexact, is⟩
  · rw [same]
    exact .refl
  rw [is, value]
  simp only
  have floor : ((dividend / divisor' : ℕ) : ℚ) ≤ dividend / divisor' := Nat.cast_div_le
  have sticky : dividend / divisor' ≤
      (if dividend / divisor' % 5 = 0 then dividend / divisor' + 1 else dividend / divisor') := by
    split <;> omega
  have sticky' :
      (if dividend / divisor' % 5 = 0 then dividend / divisor' + 1 else dividend / divisor') ≤
        dividend / divisor' + 1 := by
    split <;> omega
  constructor
  · rintro g ⟨a, b, digits, rfl⟩ le
    have floorLe : ((dividend / divisor' : ℕ) : ℚ) * 10 ^ e ≤ a * 10 ^ b :=
      le_trans (by gcongr) le
    obtain ⟨k, multiple⟩ := multiple_of_le digits large floorLe rfl
    have tens : (k : ℚ) * 10 ^ (e + (1 : ℕ)) = (10 * k : ℕ) * 10 ^ e := by
      rw [zpow_add₀ (by norm_num), Nat.cast_one, zpow_one]
      push_cast
      ring
    rw [multiple, tens] at le ⊢
    rw [mul_le_mul_iff_left₀ (by positivity), div_le_iff₀ (by positivity)] at le
    have bound : dividend ≤ 10 * k * divisor' := by exact_mod_cast le
    have next : dividend / divisor' < 10 * k :=
      lt_of_mul_lt_mul_right (inexact.trans_le bound) (Nat.zero_le _)
    gcongr
    exact sticky'.trans next
  · rintro g ⟨a, b, digits, rfl⟩ le
    by_cases reaches : e ≤ b
    · obtain ⟨m, more⟩ := Int.eq_ofNat_of_zero_le (sub_nonneg.mpr reaches)
      have multiple : (a : ℚ) * 10 ^ b = (a * 10 ^ m : ℕ) * 10 ^ e := by
        rw [show b = m + e by omega, zpow_add₀ (by norm_num), zpow_natCast]
        push_cast
        ring
      rw [multiple] at le ⊢
      rw [mul_le_mul_iff_left₀ (by positivity), le_div_iff₀ (by positivity)] at le
      have bound : a * 10 ^ m ≤ dividend / divisor' :=
        (Nat.le_div_iff_mul_le divisor).mpr (by exact_mod_cast le)
      gcongr
      exact bound.trans sticky
    · calc (a : ℚ) * 10 ^ b ≤ 10 ^ (precision : ℤ) * 10 ^ b := by
            gcongr
            rw [zpow_natCast]
            exact_mod_cast digits.le
        _ = 10 ^ ((precision : ℤ) + b) := (zpow_add₀ (by norm_num) _ _).symm
        _ ≤ 10 ^ ((precision : ℤ) + e) :=
            zpow_le_zpow_right₀ (by norm_num) (by omega)
        _ = 10 ^ (precision : ℤ) * 10 ^ e := zpow_add₀ (by norm_num) _ _
        _ ≤ _ := by
            gcongr
            rw [zpow_natCast]
            rw [← pow_add] at large
            exact_mod_cast large.trans sticky

/-- The quotient of two numbers that are not negative. -/
theorem div_computes {c n : ℕ} {e e' : ℤ} (positive : 0 < n) :
    Computes (div (finite false c e) (finite false n e'))
      ((finite false c e).toRat / (finite false n e').toRat) := by
  have value : (finite false c e).toRat / (finite false n e').toRat =
      (c : ℚ) / n * 10 ^ (e - e') := by
    rw [to_rat_positive, to_rat_positive, zpow_sub₀ (by norm_num)]
    have cast : (n : ℚ) ≠ 0 := by positivity
    field_simp
  rw [value]
  simp only [div]
  rw [if_neg positive.ne']
  by_cases zero : c = 0
  · subst zero
    rw [if_pos rfl]
    refine ⟨0, e - e', rfl, ?_⟩
    rw [to_rat_positive, Nat.cast_zero, zero_mul, zero_div, zero_mul]
    exact .refl
  · rw [if_neg zero]
    exact computes_rounded (quotient_rounding zero positive)

/-! ## Hundredths -/

/-- Half up, to hundredths. -/
theorem hundredths_floor {c : ℕ} {e : ℤ} :
    (finite false c e).hundredths = ⌊(finite false c e).toRat * 100 + 1 / 2⌋₊ := by
  rw [to_rat_positive]
  unfold hundredths
  simp only
  split
  next above =>
    obtain ⟨n, more⟩ := Int.eq_ofNat_of_zero_le (show 0 ≤ e + 2 by omega)
    obtain rfl : e = (n : ℤ) - 2 := by omega
    have value : (c : ℚ) * 10 ^ ((n : ℤ) - 2) * 100 = (c * 10 ^ n : ℕ) := by
      rw [zpow_sub₀ (by norm_num), zpow_natCast]
      push_cast
      ring
    rw [value, show ((n : ℤ) - 2 + 2).toNat = n by omega]
    symm
    rw [Nat.floor_eq_iff (by positivity)]
    constructor <;> linarith
  next below =>
    obtain ⟨n, more⟩ := Int.eq_ofNat_of_zero_le (show 0 ≤ -2 - e by omega)
    obtain rfl : e = -(n : ℤ) - 2 := by omega
    have value : (c : ℚ) * 10 ^ (-(n : ℤ) - 2) * 100 + 1 / 2 =
        ((2 * c + 10 ^ n : ℕ) : ℚ) / ((2 * 10 ^ n : ℕ) : ℚ) := by
      rw [zpow_sub₀ (by norm_num), zpow_neg, zpow_natCast]
      push_cast
      field_simp
    rw [value, Nat.floor_div_eq_div, show (-2 - (-(n : ℤ) - 2)).toNat = n by omega]

theorem le_hundredths {c m : ℕ} {e : ℤ} (le : (m : ℚ) / 100 ≤ (finite false c e).toRat) :
    m ≤ (finite false c e).hundredths := by
  rw [hundredths_floor]
  refine Nat.le_floor ?_
  linarith

/-- A column value that is not negative. -/
theorem of_hundredths_nat {h : ℕ} : ofHundredths h = .finite false h (-2) := by
  simp [ofHundredths]

theorem to_rat_column {h : ℕ} : (ofHundredths h).toRat = h / 100 := by
  rw [to_rat_of_hundredths, Int.cast_natCast]

/-! ## Totals -/

/-- A running total: exact while the precision can hold it, and large after that. -/
structure Totals (sum : ℕ) (d : Decimal) : Prop where
  finite : ∃ c e, d = Decimal.finite false c e
  exact : sum < 10 ^ precision → d.toRat = sum / 100
  large : 10 ^ precision ≤ sum → 10 ^ (precision - 2) ≤ d.toRat

theorem totals_zero : Totals 0 (.finite false 0 0) :=
  ⟨⟨0, 0, rfl⟩, fun _ => by simp [to_rat_positive], fun large => absurd large (by norm_num)⟩

theorem totals_add {sum h : ℕ} {d : Decimal} (totals : Totals sum d) :
    ∃ d', add d (.ofHundredths h) = .ok d' ∧ Totals (sum + h) d' := by
  obtain ⟨⟨c, e, rfl⟩, exact, large⟩ := totals
  obtain ⟨c', e', is, rounding⟩ := @add_computes c h e (-2)
  rw [← of_hundredths_nat, to_rat_column] at rounding
  refine ⟨_, of_hundredths_nat ▸ is, ⟨_, _, rfl⟩, fun small => ?_, fun big => ?_⟩
  · rw [exact (by omega), ← add_div, ← Nat.cast_add] at rounding
    refine rounding.exact ⟨sum + h, -2, small, ?_⟩
    norm_num
    ring
  · have power : (10 : ℚ) ^ (precision - 2) = ((10 ^ precision : ℕ) : ℚ) / 100 := by
      rw [precision]
      norm_num
    refine rounding.above _ ⟨1, ((precision - 2 : ℕ) : ℤ), by norm_num [precision], by simp⟩ ?_
    by_cases small : sum < 10 ^ precision
    · rw [exact small, ← add_div, ← Nat.cast_add, power]
      gcongr
    · have nonneg : (0 : ℚ) ≤ h / 100 := by positivity
      linarith [large (by omega)]

/-- The sum of two-decimal numbers. -/
theorem sum_totals {sum : ℕ} {d : Decimal} (totals : Totals sum d) (values : List ℕ) :
    ∃ d', (values.map fun (value : ℕ) => ofHundredths value).foldlM add d = .ok d' ∧
      Totals (sum + values.sum) d' := by
  induction values generalizing sum d with
  | nil => exact ⟨d, rfl, totals⟩
  | cons h values ih =>
    obtain ⟨d', added, totals'⟩ := @totals_add _ h _ totals
    obtain ⟨d'', rest, totals''⟩ := ih totals'
    refine ⟨d'', ?_, ?_⟩
    · rw [List.map_cons, List.foldlM_cons, added]
      exact rest
    · rw [List.sum_cons, ← Nat.add_assoc]
      exact totals''

/-- A total in the range of its column is exact. -/
theorem totals_hundredths {sum : ℕ} {d : Decimal} (totals : Totals sum d)
    (small : d.hundredths < 10 ^ precision) : d.hundredths = sum := by
  obtain ⟨⟨c, e, rfl⟩, exact, large⟩ := totals
  by_cases fits : sum < 10 ^ precision
  · rw [hundredths_floor, exact fits, div_mul_cancel₀ _ (by norm_num),
      Nat.floor_eq_iff (by positivity)]
    constructor <;> linarith
  · have power : ((10 ^ precision : ℕ) : ℚ) / 100 = 10 ^ (precision - 2) := by
      rw [precision]
      norm_num
    exact absurd (le_hundredths (power ▸ large (by omega))) (by omega)

/-! ## Products -/

/-- The product of two numbers that are not negative. -/
theorem mul_computes {c c' : ℕ} {e e' : ℤ} :
    Computes (mul (finite false c e) (finite false c' e'))
      ((finite false c e).toRat * (finite false c' e').toRat) := by
  have value : (finite false c e).toRat * (finite false c' e').toRat =
      ((c * c' : ℕ) : ℚ) * 10 ^ (e + e') := by
    rw [to_rat_positive, to_rat_positive, zpow_add₀ (by norm_num)]
    push_cast
    ring
  rw [value]
  exact computes_rounded .refl

/-- Numbers a hundred times as large are rounded alike. -/
theorem RoundingOf.hundredfold {v r : ℚ} (rounding : RoundingOf v r) :
    RoundingOf (v * 100) (r * 100) := by
  have shrink : ∀ g, Representable g → Representable (g / 100) := by
    rintro g ⟨a, b, few, rfl⟩
    refine ⟨a, b - 2, few, ?_⟩
    rw [zpow_sub₀ (by norm_num)]
    norm_num
    ring
  constructor
  · intro g rep le
    have bound := rounding.below _ (shrink g rep) (by linarith)
    linarith
  · intro g rep le
    have bound := rounding.above _ (shrink g rep) (by linarith)
    linarith

/-! ## Half up after a rounding -/

/-- A number of hundredths `sum / n` is rounded half up as if it had not been rounded to
the precision first: a tie is kept, and the rest is further from one than a rounding moves. -/
theorem half_up_of_rounding {sum n c : ℕ} {e : ℤ} (positive : 0 < n) (few : n < 5 * 10 ^ 10)
    (rounding : RoundingOf ((sum : ℚ) / n / 100) (finite false c e).toRat)
    (inRange : (sum : ℚ) / n / 100 < 10 ^ 13) :
    (finite false c e).hundredths = ⌊(sum : ℚ) / n + 1 / 2⌋₊ := by
  have positive' : (0 : ℚ) < n := by exact_mod_cast positive
  have few' : (n : ℚ) ≤ 5 * 10 ^ 10 := by exact_mod_cast few.le
  generalize meanIs : ⌊(sum : ℚ) / n + 1 / 2⌋₊ = m
  rw [Nat.floor_eq_iff (by positivity)] at meanIs
  obtain ⟨atLeast, below⟩ := meanIs
  have bound : m ≤ 10 ^ 16 := by
    have cast : (m : ℚ) ≤ 10 ^ 16 := by linarith
    exact_mod_cast cast
  rw [hundredths_floor, Nat.floor_eq_iff (by rw [to_rat_positive]; positivity)]
  constructor
  · by_cases zero : m = 0
    · rw [zero, to_rat_positive, Nat.cast_zero]
      positivity
    obtain ⟨k, rfl⟩ := Nat.exists_eq_succ_of_ne_zero zero
    have reaches := rounding.above (((2 * k + 1) * 5 : ℕ) * 10 ^ (-3 : ℤ))
      ⟨_, _, by norm_num [precision]; omega, rfl⟩ (by
        push_cast at atLeast ⊢
        norm_num
        linarith)
    push_cast at reaches ⊢
    norm_num at reaches
    linarith
  · -- the mean is off the tie above it by more than what its rounding moves it
    have apart : (sum : ℚ) / n + 1 / (2 * n) ≤ m + 1 / 2 := by
      have strict : 2 * sum < (2 * m + 1) * n := by
        have cast : (2 * sum : ℚ) < (2 * m + 1) * n := by
          have scaled : (sum : ℚ) / n < m + 1 / 2 := by linarith
          rw [div_lt_iff₀ positive'] at scaled
          linarith
        exact_mod_cast cast
      have next : (2 * sum + 1 : ℚ) ≤ (2 * m + 1) * n := by exact_mod_cast strict
      rw [← sub_nonneg] at next ⊢
      have factor : (m : ℚ) + 1 / 2 - (sum / n + 1 / (2 * n)) =
          ((2 * m + 1) * n - (2 * sum + 1)) / (2 * n) := by
        field_simp
      rw [factor]
      positivity
    have gap : (10 : ℚ) ^ (-11 : ℤ) ≤ 1 / (2 * n) := by
      rw [le_div_iff₀ (by positivity), zpow_neg]
      norm_num only
      linarith
    have stays := rounding.below ((((2 * m + 1) * (5 * 10 ^ 10) - 1 : ℕ) : ℚ) * 10 ^ (-13 : ℤ))
      ⟨_, _, by norm_num [precision]; omega, rfl⟩ (by
        have half : (1 : ℚ) / (2 * n) = 1 / n / 2 := by ring
        rw [Nat.cast_sub (by omega)]
        push_cast
        rw [half, one_div] at gap apart
        norm_num at gap ⊢
        linarith)
    rw [Nat.cast_sub (by omega)] at stays
    push_cast at stays
    norm_num at stays ⊢
    linarith

/-! ## Means -/

/-- A mean in the range of its column is the exact mean rounded half up, although it was
rounded to the precision first. -/
theorem mean_hundredths {sum n : ℕ} {d r : Decimal} (totals : Totals sum d) (positive : 0 < n)
    (few : n < 5 * 10 ^ 10) (mean : div d (.finite false n 0) = .ok r)
    (small : r.hundredths < 10 ^ 15) : r.hundredths = ⌊(sum : ℚ) / n + 1 / 2⌋₊ := by
  obtain ⟨⟨c, e, rfl⟩, exact, large⟩ := totals
  obtain ⟨c', e', is, rounding⟩ := @div_computes c n e 0 positive
  cases is.symm.trans mean
  have count : (Decimal.finite false n 0).toRat = n := by simp [to_rat_positive]
  have positive' : (0 : ℚ) < n := by exact_mod_cast positive
  have few' : (n : ℚ) ≤ 5 * 10 ^ 10 := by exact_mod_cast few.le
  rw [count] at rounding
  -- a mean out of range is rounded to one out of range
  have inRange : (Decimal.finite false c e).toRat / n < 10 ^ 13 := by
    by_contra above
    have reaches := rounding.above _ ⟨1, 13, by norm_num [precision], by norm_num⟩ (not_lt.mp above)
    refine absurd (@le_hundredths c' (10 ^ 15) e' ?_) small.not_ge
    refine le_trans (le_of_eq ?_) reaches
    norm_num
  have fits : sum < 10 ^ precision := by
    by_contra above
    have big := large (not_lt.mp above)
    rw [div_lt_iff₀ positive'] at inRange
    have most : (10 : ℚ) ^ 13 * n ≤ 10 ^ 13 * (5 * 10 ^ 10) := by gcongr
    rw [precision] at big
    norm_num at big most inRange
    linarith
  rw [exact fits] at rounding inRange
  have swap : (sum : ℚ) / 100 / n = sum / n / 100 := by ring
  rw [swap] at rounding inRange
  exact half_up_of_rounding positive few rounding inRange

/-! ## Percentages -/

/-- A quotient of numbers on one scale, in percent, is the exact percentage rounded half
up. -/
theorem percent_hundredths {a n : ℕ} {e : ℤ} (positive : 0 < n) (le : a ≤ n)
    (few : n < 5 * 10 ^ 10) :
    ∃ ratio percent, div (finite false a e) (finite false n e) = .ok ratio ∧
      mul ratio (finite false 100 0) = .ok percent ∧
      percent.hundredths = ⌊(10000 * a : ℚ) / n + 1 / 2⌋₊ := by
  have positive' : (0 : ℚ) < n := by exact_mod_cast positive
  obtain ⟨c, f, divided, rounding⟩ := @div_computes a n e e positive
  obtain ⟨c', f', multiplied, rounding'⟩ := @mul_computes c 100 f 0
  refine ⟨_, _, divided, multiplied, ?_⟩
  have hundred : (finite false 100 0).toRat = 100 := by norm_num [to_rat_positive]
  have ratio : (finite false a e).toRat / (finite false n e).toRat * 100 =
      ((10000 * a : ℕ) : ℚ) / n / 100 := by
    rw [to_rat_positive, to_rat_positive]
    push_cast
    field_simp
    norm_num
  rw [hundred] at rounding'
  have composed := rounding.hundredfold.trans rounding'
  rw [ratio] at composed
  have atMost : ((10000 * a : ℕ) : ℚ) / n / 100 ≤ 100 := by
    rw [div_div, div_le_iff₀ (by positivity)]
    push_cast
    have cast : (a : ℚ) ≤ n := by exact_mod_cast le
    linarith
  rw [half_up_of_rounding positive few composed (by linarith)]
  push_cast
  rfl

end Darasa.Decimal
