import Darasa.Runtime.Exactness

/-!
Where a rounded quotient starts to reach a number.

Rounding to nearest, ties to even, takes exactly the numbers from a tie on up to an even
number above it.  What a rounded quotient reaches is therefore a threshold of the exact
one, and rounding is monotone whatever the digits and exponents of its operands.
-/

namespace Darasa.Decimal

/-! ## Quotients in the context -/

/-- `self / other` of finite numbers, rounded in the default context. -/
def divide : Decimal → Decimal → Outcome Decimal
  | finite n c e, finite n' c' e' =>
    if c' = 0 then .error .invalidOperation
    else if c = 0 then finish (n != n') 0 (e - e')
    else
      let (coefficient, exponent) := quotient c c' (e - e')
      finish (n != n') coefficient exponent
  | _, _ => .error .invalidOperation

/-- `self * other` of finite numbers, rounded in the default context. -/
def times : Decimal → Decimal → Outcome Decimal
  | finite n c e, finite n' c' e' => finish (n != n') (c * c') (e + e')
  | _, _ => .error .invalidOperation

/-- `self.quantize(Decimal("0.01"), rounding=ROUND_HALF_UP)`. -/
def quantize : Decimal → Outcome Decimal
  | finite n c e =>
    if (finite n c e).hundredths < 10 ^ precision then .ok (finite n (finite n c e).hundredths (-2))
    else .error .invalidOperation
  | nan false => .ok (nan false)
  | _ => .error .invalidOperation

/-! ## Ties to even -/

/-- An even number of as many digits as the context keeps, not the least of them. -/
structure Landing (k : ℕ) : Prop where
  many : 10 ^ (precision - 1) < k
  few : k < 10 ^ precision
  even : k % 2 = 0

/-- Rounded half even, a quotient reaches an even number from the tie below it on. -/
theorem le_half_even_iff {c d k : ℕ} (positive : 0 < d) (some : 0 < k) (even : k % 2 = 0) :
    k ≤ divHalfEven c d ↔ (2 * k - 1) * d ≤ 2 * c := by
  have split := Nat.div_add_mod c d
  have less := Nat.mod_lt c positive
  unfold divHalfEven
  generalize c / d = q at split ⊢
  generalize c % d = r at split less ⊢
  subst split
  obtain ⟨j, rfl⟩ : ∃ j, k = j + 1 := ⟨k - 1, by omega⟩
  have twice : (2 * (j + 1) - 1) * d = 2 * (d * j) + d := by
    rw [show 2 * (j + 1) - 1 = 2 * j + 1 by omega]
    ring
  rw [twice]
  rcases Nat.lt_trichotomy q j with below | rfl | above
  · have room : d * q + d ≤ d * j := by
      rw [← Nat.mul_succ]
      exact Nat.mul_le_mul_left d below
    split <;> omega
  · split <;> omega
  · have room : d * j + d ≤ d * q := by
      rw [← Nat.mul_succ]
      exact Nat.mul_le_mul_left d above
    split <;> omega

/-- The number reaches what the rounded one does: every even number from the tie below it
on. -/
def Lands (v r : ℚ) : Prop :=
  ∀ (k : ℕ) (g : ℤ), Landing k → tiny ≤ g →
    ((k : ℚ) * 10 ^ g ≤ r ↔ (2 * k - 1 : ℚ) * 10 ^ g ≤ 2 * v)

/-- How many digits a rounding drops: to the precision, or to the least exponent. -/
structure Drops (c : ℕ) (e : ℤ) (x : ℕ) : Prop where
  most : c < 10 ^ (precision + x)
  least : x = 0 ∨ e + x ≤ tiny ∨ 10 ^ (precision - 1 + x) ≤ c

theorem tie_cast {k : ℕ} (some : 0 < k) : ((2 * k - 1 : ℕ) : ℚ) = 2 * k - 1 := by
  rw [Nat.cast_sub (by omega)]
  push_cast
  rfl

/-- Dropping digits half even. -/
theorem lands_of_drops {c x : ℕ} {e : ℤ} (drops : Drops c e x) :
    Lands (c * 10 ^ e) (divHalfEven c (10 ^ x) * 10 ^ (e + x)) := by
  intro k g landing least
  have some : 0 < k := lt_of_le_of_lt (Nat.zero_le _) landing.many
  have unit : 0 < 10 ^ x := by positivity
  have shift : (c : ℚ) * 10 ^ e * 10 ^ x = c * 10 ^ (e + x) := by
    rw [zpow_add₀ (by norm_num), zpow_natCast]
    ring
  by_cases fine : e + x ≤ g
  · -- both sides on the grid the digits are dropped to
    obtain ⟨j, more⟩ := Int.eq_ofNat_of_zero_le (sub_nonneg.mpr fine)
    have scale : (10 : ℚ) ^ g = 10 ^ j * 10 ^ (e + x) := by
      rw [show g = j + (e + x) by omega, zpow_add₀ (by norm_num), zpow_natCast]
    have even : k * 10 ^ j % 2 = 0 := by
      rw [Nat.mul_mod, landing.even, Nat.zero_mul, Nat.zero_mod]
    have left : (k : ℚ) * 10 ^ g ≤ divHalfEven c (10 ^ x) * 10 ^ (e + x) ↔
        k * 10 ^ j ≤ divHalfEven c (10 ^ x) := by
      rw [scale, ← mul_assoc, mul_le_mul_iff_left₀ (by positivity)]
      exact_mod_cast Iff.rfl
    have right : (2 * k - 1 : ℚ) * 10 ^ g ≤ 2 * (c * 10 ^ e) ↔
        (2 * k - 1) * 10 ^ j * 10 ^ x ≤ 2 * c := by
      rw [← mul_le_mul_iff_left₀ (show (0 : ℚ) < 10 ^ x by positivity), mul_assoc 2, shift, scale,
        ← tie_cast some]
      rw [show ((2 * k - 1 : ℕ) : ℚ) * (10 ^ j * 10 ^ (e + x)) * 10 ^ x =
        ((2 * k - 1) * 10 ^ j * 10 ^ x : ℕ) * 10 ^ (e + x) by push_cast; ring,
        ← mul_assoc, mul_le_mul_iff_left₀ (by positivity)]
      exact_mod_cast Iff.rfl
    rw [left, right, le_half_even_iff unit (by positivity) even]
    rcases Nat.eq_zero_or_pos j with rfl | finer
    · rw [pow_zero, mul_one, mul_one]
    · -- a finer grid holds only numbers below both
      have bound := drops.most
      rw [pow_add] at bound
      have tens : 10 ≤ 10 ^ j := by
        calc 10 = 10 ^ 1 := (pow_one 10).symm
          _ ≤ 10 ^ j := Nat.pow_le_pow_right (by norm_num) finer
      have many : 10 ^ precision ≤ (2 * k - 1) * 10 ^ j / 2 ∧ 10 ^ precision < k * 10 ^ j := by
        have least := landing.many
        have grows : k * 10 ≤ k * 10 ^ j := Nat.mul_le_mul_left k tens
        have grows' : (2 * k - 1) * 10 ≤ (2 * k - 1) * 10 ^ j := Nat.mul_le_mul_left _ tens
        have power : 10 ^ precision = 10 ^ (precision - 1) * 10 := by rw [← pow_succ]; rfl
        omega
      constructor
      · intro le
        have atLeast : (2 * 10 ^ precision) * 10 ^ x ≤ (2 * (k * 10 ^ j) - 1) * 10 ^ x :=
          Nat.mul_le_mul_right _ (by omega)
        rw [mul_assoc] at atLeast
        omega
      · intro le
        have atLeast : (2 * 10 ^ precision) * 10 ^ x ≤ (2 * k - 1) * 10 ^ j * 10 ^ x :=
          Nat.mul_le_mul_right _ (by omega)
        rw [mul_assoc] at atLeast
        omega
  · obtain ⟨i, above⟩ := Int.eq_ofNat_of_zero_le (show 0 ≤ e + x - g - 1 by omega)
    have scale : (10 : ℚ) ^ (e + x) = (10 ^ (i + 1) : ℕ) * 10 ^ g := by
      rw [show e + x = (i + 1 : ℕ) + g by push_cast; omega, zpow_add₀ (by norm_num), zpow_natCast]
      push_cast
      rfl
    rcases drops.least with rfl | low | large
    · -- nothing is dropped, and the number lies on the grid of the bound
      have same : divHalfEven c (10 ^ 0) = c := by simp [divHalfEven, Nat.mod_one]
      have value : (c : ℚ) * 10 ^ e = (c * 10 ^ (i + 1) : ℕ) * 10 ^ g := by
        rw [show e = e + (0 : ℕ) by simp, scale]
        push_cast
        ring
      rw [same, Nat.cast_zero, add_zero, value, ← mul_assoc, ← tie_cast some,
        mul_le_mul_iff_left₀ (by positivity), mul_le_mul_iff_left₀ (by positivity)]
      norm_cast
      omega
    · omega
    · -- a coarser grid holds only numbers above both
      have floor : 10 ^ (precision - 1) ≤ divHalfEven c (10 ^ x) := by
        refine le_div_half_even unit ?_
        rwa [← pow_add]
      have above : (k : ℚ) * 10 ^ g ≤ (10 ^ (precision - 1) : ℕ) * 10 ^ (e + x) := by
        rw [scale, ← mul_assoc]
        gcongr
        have power : 10 ^ precision = 10 ^ (precision - 1) * 10 ^ 1 := by rw [← pow_add]; rfl
        have tens : 10 ^ (precision - 1) * 10 ^ 1 ≤ 10 ^ (precision - 1) * 10 ^ (i + 1) := by
          gcongr <;> omega
        exact_mod_cast (power ▸ landing.few).le.trans tens
      have value : ((10 ^ (precision - 1) : ℕ) : ℚ) * 10 ^ (e + x) ≤ c * 10 ^ e := by
        rw [zpow_add₀ (by norm_num), zpow_natCast, mul_comm ((10 : ℚ) ^ e), ← mul_assoc]
        gcongr
        rw [pow_add] at large
        exact_mod_cast large
      have reached : (10 ^ (precision - 1) : ℕ) * (10 : ℚ) ^ (e + x) ≤
          divHalfEven c (10 ^ x) * 10 ^ (e + x) := by
        gcongr
      have grid : (0 : ℚ) < 10 ^ g := by positivity
      constructor
      · intro _
        nlinarith
      · intro _
        exact above.trans reached

/-- A number the precision can hold lands on itself. -/
theorem lands_of_fits {c : ℕ} {e : ℤ} (fits : c < 10 ^ precision) :
    Lands (c * 10 ^ e) (c * 10 ^ e) := by
  have kept := @lands_of_drops c 0 e ⟨by rwa [Nat.add_zero], .inl rfl⟩
  have same : divHalfEven c (10 ^ 0) = c := by simp [divHalfEven, Nat.mod_one]
  rwa [same, Nat.cast_zero, add_zero] at kept

theorem Lands.trans {v w r : ℚ} (second : Lands w r)
    (first : ∀ (k : ℕ) (g : ℤ), Landing k → tiny ≤ g →
      ((2 * k - 1 : ℚ) * 10 ^ g ≤ 2 * w ↔ (2 * k - 1 : ℚ) * 10 ^ g ≤ 2 * v)) : Lands v r :=
  fun k g landing least => (second k g landing least).trans (first k g landing least)

/-! ## Results in the context -/

/-- The digits a result in the context drops. -/
theorem context_drops {c : ℕ} {e : ℤ} :
    Drops c e (max ((Nat.digits 10 c).length - precision) (tiny - e).toNat) := by
  have few : c < 10 ^ (Nat.digits 10 c).length := Nat.lt_base_pow_length_digits (by norm_num)
  constructor
  · refine few.trans_le (Nat.pow_le_pow_right (by norm_num) ?_)
    omega
  · rcases le_total ((Nat.digits 10 c).length - precision) (tiny - e).toNat with low | long
    · rw [max_eq_right low]
      rcases Nat.eq_zero_or_pos (tiny - e).toNat with none | some
      · exact .inl none
      · exact .inr (.inl (by omega))
    · rw [max_eq_left long]
      rcases Nat.eq_zero_or_pos ((Nat.digits 10 c).length - precision) with none | some
      · exact .inl none
      · refine .inr (.inr ((Nat.lt_digits_length_iff (by norm_num) c).mp ?_))
        have positive : 0 < precision := by decide
        omega

theorem half_even_one {c : ℕ} : divHalfEven c 1 = c := by
  simp [divHalfEven, Nat.mod_one]

/-- A result in the context: finite, within the precision, and landing like the exact
one. -/
theorem round_to_context_lands {c : ℕ} {e : ℤ} :
    ∃ c' e', roundToContext false c e = finite false c' e' ∧ c' < 10 ^ precision ∧
      Lands (c * 10 ^ e) (c' * 10 ^ e') := by
  have drops := @context_drops c e
  have lands := lands_of_drops drops
  unfold roundToContext
  simp only
  generalize max ((Nat.digits 10 c).length - precision) (tiny - e).toNat = x at drops lands ⊢
  have most : divHalfEven c (10 ^ x) ≤ 10 ^ precision := by
    refine div_half_even_le (by positivity) ?_
    rw [← pow_add]
    exact drops.most.le
  by_cases none : x = 0
  · subst none
    rw [pow_zero, half_even_one, Nat.cast_zero, add_zero] at lands
    exact ⟨c, e, if_pos rfl, by simpa using drops.most, lands⟩
  rw [if_neg none]
  by_cases carry : divHalfEven c (10 ^ x) = 10 ^ precision
  · rw [if_pos carry]
    refine ⟨_, _, rfl, by decide, ?_⟩
    have value : ((10 ^ (precision - 1) : ℕ) : ℚ) * 10 ^ (e + x + 1) =
        (10 ^ precision : ℕ) * 10 ^ (e + x) := by
      rw [zpow_add₀ (by norm_num) (e + x), zpow_one, show precision = precision - 1 + 1 from rfl,
        pow_succ]
      push_cast
      ring
    rw [value, ← carry]
    exact lands
  · rw [if_neg carry]
    exact ⟨_, _, rfl, lt_of_le_of_ne most carry, lands⟩

/-- A result below the range of the context does not overflow. -/
theorem finish_lands {c : ℕ} {e : ℤ} (small : (c : ℚ) * 10 ^ e < 10 ^ 27) :
    ∃ c' e', finish false c e = .ok (finite false c' e') ∧ c' < 10 ^ precision ∧
      Lands (c * 10 ^ e) (c' * 10 ^ e') := by
  obtain ⟨c', e', is, fits, lands⟩ := @round_to_context_lands c e
  refine ⟨c', e', ?_, fits, lands⟩
  unfold finish
  rw [is]
  simp only
  cases c' with
  | zero => rfl
  | succ n =>
    refine if_neg fun excess => ?_
    have digits : 10 ^ ((Nat.digits 10 (n + 1)).length - 1) ≤ n + 1 := by
      refine (Nat.lt_digits_length_iff (by norm_num) _).mp ?_
      have some : 0 < (Nat.digits 10 (n + 1)).length :=
        (Nat.lt_digits_length_iff (by norm_num) (n + 1)).mpr (by omega)
      omega
    have reaches : ((2 * 10 ^ 27 : ℕ) : ℚ) * 10 ^ (0 : ℤ) ≤ (n + 1 : ℕ) * 10 ^ e' := by
      have power : (10 : ℚ) ^ (28 : ℤ) ≤
          10 ^ (((Nat.digits 10 (n + 1)).length - 1 : ℕ) + e') := by
        refine zpow_le_zpow_right₀ (by norm_num) ?_
        omega
      calc ((2 * 10 ^ 27 : ℕ) : ℚ) * 10 ^ (0 : ℤ) ≤ 10 ^ (28 : ℤ) := by norm_num
        _ ≤ 10 ^ (((Nat.digits 10 (n + 1)).length - 1 : ℕ) + e') := power
        _ = ((10 ^ ((Nat.digits 10 (n + 1)).length - 1) : ℕ) : ℚ) * 10 ^ e' := by
            rw [zpow_add₀ (by norm_num), zpow_natCast]
            push_cast
            rfl
        _ ≤ (n + 1 : ℕ) * 10 ^ e' := by gcongr
    have tie := (lands (2 * 10 ^ 27) 0 ⟨by norm_num [precision], by norm_num [precision],
      by norm_num⟩ (by decide)).mp reaches
    norm_num at tie
    linarith

/-! ## Quotients and products -/

/-- The sticky digit keeps a quotient on its side of every tie. -/
theorem quotient_ties {c n : ℕ} {ideal : ℤ} (nonzero : c ≠ 0) (positive : 0 < n) {k : ℕ} {g : ℤ}
    (landing : Landing k) :
    (2 * k - 1 : ℚ) * 10 ^ g ≤ 2 * ((quotient c n ideal).1 * 10 ^ (quotient c n ideal).2) ↔
      (2 * k - 1 : ℚ) * 10 ^ g ≤ 2 * (c / n * 10 ^ ideal) := by
  rcases @quotient_is c n ideal nonzero positive with
    same | ⟨dividend, divisor, e, divides, value, large, -, is⟩
  · rw [same]
  have some : 0 < k := lt_of_le_of_lt (Nat.zero_le _) landing.many
  rw [is, value]
  simp only
  -- five ties are a number of one digit more than the precision
  have tie : (2 * k - 1 : ℚ) * 10 ^ g = 2 * ((5 * (2 * k - 1) : ℕ) * 10 ^ (g - 1)) := by
    rw [zpow_sub₀ (by norm_num), zpow_one, Nat.cast_mul, tie_cast some]
    push_cast
    ring
  rw [tie, mul_le_mul_iff_right₀ (by norm_num), mul_le_mul_iff_right₀ (by norm_num)]
  by_cases fine : e ≤ g - 1
  · obtain ⟨j, more⟩ := Int.eq_ofNat_of_zero_le (sub_nonneg.mpr fine)
    have grid : ((5 * (2 * k - 1) : ℕ) : ℚ) * 10 ^ (g - 1) =
        (5 * ((2 * k - 1) * 10 ^ j) : ℕ) * 10 ^ e := by
      rw [show g - 1 = j + e by omega, zpow_add₀ (by norm_num), zpow_natCast]
      push_cast
      ring
    rw [grid, mul_le_mul_iff_left₀ (by positivity), mul_le_mul_iff_left₀ (by positivity),
      le_div_iff₀ (by positivity)]
    norm_cast
    rw [← Nat.le_div_iff_mul_le divides]
    split <;> omega
  · -- a quotient on a coarser grid is above the tie
    have fewer : 5 * (2 * k - 1) ≤ 10 ^ (precision - 1) * 10 ^ 1 * 10 := by
      have few := landing.few
      have power : 10 ^ precision = 10 ^ (precision - 1) * 10 ^ 1 := by rw [← pow_add]; rfl
      omega
    have coarse : (10 : ℚ) * 10 ^ (g - 1) ≤ 10 ^ e := by
      rw [← zpow_one_add₀ (by norm_num)]
      exact zpow_le_zpow_right₀ (by norm_num) (by omega)
    have floor : ((dividend / divisor : ℕ) : ℚ) ≤ dividend / divisor := Nat.cast_div_le
    have below : ((5 * (2 * k - 1) : ℕ) : ℚ) * 10 ^ (g - 1) ≤ (dividend / divisor : ℕ) * 10 ^ e := by
      calc ((5 * (2 * k - 1) : ℕ) : ℚ) * 10 ^ (g - 1)
          ≤ (10 ^ (precision - 1) * 10 ^ 1 * 10 : ℕ) * 10 ^ (g - 1) := by gcongr
        _ = (10 ^ (precision - 1) * 10 ^ 1 : ℕ) * (10 * 10 ^ (g - 1)) := by
            push_cast
            ring
        _ ≤ (dividend / divisor : ℕ) * 10 ^ e := by gcongr
    constructor
    · intro _
      exact below.trans (by gcongr)
    · intro _
      refine below.trans ?_
      gcongr
      split <;> omega

/-- A quotient of numbers that are not negative. -/
theorem divide_lands {c n : ℕ} {e e' : ℤ} (positive : 0 < n)
    (le : (c : ℚ) * 10 ^ e ≤ n * 10 ^ e') :
    ∃ c' f, divide (finite false c e) (finite false n e') = .ok (finite false c' f) ∧
      c' < 10 ^ precision ∧ Lands (c * 10 ^ e / (n * 10 ^ e')) (c' * 10 ^ f) := by
  have value : (c : ℚ) * 10 ^ e / (n * 10 ^ e') = c / n * 10 ^ (e - e') := by
    rw [zpow_sub₀ (by norm_num)]
    field_simp
  have most : (c : ℚ) / n * 10 ^ (e - e') ≤ 1 := by
    rw [← value, div_le_one₀ (by positivity)]
    exact le
  rw [value]
  simp only [divide]
  rw [if_neg positive.ne']
  by_cases zero : c = 0
  · subst zero
    rw [if_pos rfl, Nat.cast_zero, zero_div]
    have finished := @finish_lands 0 (e - e') (by norm_num)
    rwa [Nat.cast_zero] at finished
  · rw [if_neg zero]
    have ties := fun {k : ℕ} {g : ℤ} => @quotient_ties c n (e - e') zero positive k g
    have small : ((quotient c n (e - e')).1 : ℚ) * 10 ^ (quotient c n (e - e')).2 < 10 ^ 27 := by
      by_contra above
      have landing : Landing (10 ^ 27 + 2) :=
        ⟨by norm_num [precision], by norm_num [precision], by norm_num⟩
      have reached := (@ties _ (-1) landing).mp (by
        norm_num at above ⊢
        linarith)
      norm_num at reached
      linarith
    obtain ⟨c', f, is, fits, lands⟩ := finish_lands small
    exact ⟨c', f, is, fits, lands.trans fun k g landing _ => ties landing⟩

/-! ## Percentages -/

/-- The room the digits of `m` hundredths less a half leave in the precision. -/
def tieRoom (m : ℕ) : ℕ := precision - (Nat.digits 10 ((2 * m - 1) * 5)).length

/-- The least quotient whose percentage is rounded to `m` hundredths or more. -/
def percentThreshold (m : ℕ) : ℚ :=
  (2 * ((2 * m - 1) * 5 * 10 ^ tieRoom m : ℕ) - 1) * 10 ^ (-5 - tieRoom m : ℤ) / 2

/-- The tie below `m` hundredths, to as many digits as the context keeps. -/
theorem landing_of_tie {m : ℕ} (some : 0 < m) (few : m ≤ 10001) :
    Landing ((2 * m - 1) * 5 * 10 ^ tieRoom m) ∧ tieRoom m ≤ precision := by
  unfold tieRoom
  generalize tieIs : (2 * m - 1) * 5 = tie
  have positive : tie ≠ 0 := by omega
  have above : 0 < (Nat.digits 10 tie).length :=
    (Nat.lt_digits_length_iff (by norm_num) tie).mpr (by omega)
  have least : 10 ^ ((Nat.digits 10 tie).length - 1) ≤ tie :=
    (Nat.lt_digits_length_iff (by norm_num) tie).mp (by omega)
  have less : tie < 10 ^ (Nat.digits 10 tie).length := Nat.lt_base_pow_length_digits (by norm_num)
  have short : (Nat.digits 10 tie).length ≤ 6 :=
    (Nat.digits_length_le_iff (by norm_num) tie).mpr (by omega)
  generalize (Nat.digits 10 tie).length = l at *
  refine ⟨?_, Nat.sub_le _ _⟩
  interval_cases l <;> norm_num [precision] at least less ⊢ <;>
    exact ⟨by norm_num [precision]; omega, by norm_num [precision]; omega, by omega⟩

theorem le_hundredths_iff {c m : ℕ} {e : ℤ} :
    m ≤ (finite false c e).hundredths ↔ (m : ℚ) ≤ c * 10 ^ e * 100 + 1 / 2 := by
  rw [hundredths_floor, to_rat_positive, Nat.le_floor_iff (by positivity)]

theorem threshold_above_one : 1 < percentThreshold 10001 := by
  have room : tieRoom 10001 = 22 := by simp [tieRoom, precision]
  rw [percentThreshold, room]
  norm_num

theorem threshold_pos {m : ℕ} (some : 0 < m) (few : m ≤ 10001) : 0 < percentThreshold m := by
  have large : 1 ≤ (2 * m - 1) * 5 * 10 ^ tieRoom m :=
    lt_of_le_of_lt (Nat.zero_le _) (landing_of_tie some few).1.many
  have cast : (1 : ℚ) ≤ ((2 * m - 1) * 5 * 10 ^ tieRoom m : ℕ) := by exact_mod_cast large
  have twice : (0 : ℚ) < 2 * ((2 * m - 1) * 5 * 10 ^ tieRoom m : ℕ) - 1 := by linarith
  unfold percentThreshold
  positivity

/-- A threshold lies below its tie by less than a quotient of short numbers can. -/
theorem threshold_near_tie {m : ℕ} (some : 0 < m) (few : m ≤ 10001) :
    percentThreshold m ≤ (2 * m - 1) / 20000 ∧
      (2 * m - 1) / 20000 - percentThreshold m < 10 ^ (-13 : ℤ) := by
  obtain ⟨landing, -⟩ := landing_of_tie some few
  have value : percentThreshold m = (2 * m - 1) / 20000 - 10 ^ (-5 - tieRoom m : ℤ) / 2 := by
    have scaled : (((2 * m - 1) * 5 * 10 ^ tieRoom m : ℕ) : ℚ) * 10 ^ (-5 - tieRoom m : ℤ) =
        (2 * m - 1) / 20000 := by
      rw [zpow_sub₀ (by norm_num), zpow_natCast, Nat.cast_mul, Nat.cast_mul, tie_cast some]
      push_cast
      field_simp
      ring
    rw [percentThreshold, ← scaled]
    ring
  have room : 21 ≤ tieRoom m := by
    by_contra short
    have many := landing.many
    have power : 10 ^ tieRoom m ≤ 10 ^ 20 := Nat.pow_le_pow_right (by norm_num) (by omega)
    have most : (2 * m - 1) * 5 * 10 ^ tieRoom m ≤ 100005 * 10 ^ 20 := by
      gcongr
      omega
    norm_num [precision] at many most
    omega
  have small : (10 : ℚ) ^ (-5 - tieRoom m : ℤ) ≤ 10 ^ (-13 : ℤ) :=
    zpow_le_zpow_right₀ (by norm_num) (by omega)
  have positive : (0 : ℚ) < 10 ^ (-5 - tieRoom m : ℤ) := by positivity
  generalize (10 : ℚ) ^ (-13 : ℤ) = bound at small ⊢
  rw [value]
  constructor <;> linarith

/-- A zero of either sign stays one. -/
theorem finish_zero {negative : Bool} {e : ℤ} :
    ∃ e', finish negative 0 e = .ok (finite negative 0 e') := by
  have none : ∀ x : ℕ, divHalfEven 0 (10 ^ x) = 0 := fun x => by simp [divHalfEven]
  have apart : (0 : ℕ) ≠ 10 ^ precision := by norm_num [precision]
  unfold finish roundToContext
  simp only [none, if_neg apart]
  split_ifs
  · exact ⟨_, rfl⟩
  · exact ⟨_, rfl⟩

/-- A part of a whole, in percent: its hundredths reach `m` where the exact quotient
reaches the threshold of `m`. -/
theorem percent_reaches_iff {c n : ℕ} {e e' : ℤ} (positive : 0 < n)
    (le : (c : ℚ) * 10 ^ e ≤ n * 10 ^ e') :
    ∃ ratio percent h, divide (finite false c e) (finite false n e') = .ok ratio ∧
      times ratio (finite false 100 0) = .ok percent ∧
      quantize percent = .ok (finite false h (-2)) ∧ h ≤ 10000 ∧
      ∀ m, 0 < m → m ≤ 10001 →
        (m ≤ h ↔ percentThreshold m ≤ c * 10 ^ e / (n * 10 ^ e')) := by
  have most : (c : ℚ) * 10 ^ e / (n * 10 ^ e') ≤ 1 := by
    rw [div_le_one₀ (by positivity)]
    exact le
  obtain ⟨c', f, divided, fits, lands⟩ := divide_lands positive le
  have small : ((c' * 100 : ℕ) : ℚ) * 10 ^ (f + 0) < 10 ^ 27 := by
    by_contra above
    have reached := (lands (10 ^ 27 + 2) (-3)
      ⟨by norm_num [precision], by norm_num [precision], by norm_num⟩ (by decide)).mp (by
        push_cast at above
        rw [add_zero] at above
        norm_num at above ⊢
        linarith)
    norm_num at reached
    linarith
  obtain ⟨c'', f', multiplied, -, lands'⟩ := finish_lands small
  have reaches : ∀ m, 0 < m → m ≤ 10001 → (m ≤ (finite false c'' f').hundredths ↔
      percentThreshold m ≤ c * 10 ^ e / (n * 10 ^ e')) := by
    intro m some few
    obtain ⟨landing, room⟩ := landing_of_tie some few
    have low : (28 : ℤ) = precision := rfl
    have least : tiny = -1000026 := rfl
    have first := lands _ (-5 - tieRoom m) landing (by omega)
    have kept := @lands_of_fits c' f fits _ (-5 - tieRoom m) landing (by omega)
    have second := lands' _ (-3 - tieRoom m) landing (by omega)
    have hundred : (10 : ℚ) ^ (-3 - tieRoom m : ℤ) = 100 * 10 ^ (-5 - tieRoom m : ℤ) := by
      rw [show (-3 - tieRoom m : ℤ) = 2 + (-5 - tieRoom m) by ring, zpow_add₀ (by norm_num)]
      norm_num
    have scaled : (((2 * m - 1) * 5 * 10 ^ tieRoom m : ℕ) : ℚ) * 10 ^ (-3 - tieRoom m : ℤ) =
        (2 * m - 1) / 200 := by
      rw [zpow_sub₀ (by norm_num), zpow_natCast, Nat.cast_mul, Nat.cast_mul, tie_cast some]
      push_cast
      field_simp
      ring
    rw [le_hundredths_iff]
    calc (m : ℚ) ≤ c'' * 10 ^ f' * 100 + 1 / 2 ↔
          (((2 * m - 1) * 5 * 10 ^ tieRoom m : ℕ) : ℚ) * 10 ^ (-3 - tieRoom m : ℤ) ≤
            c'' * 10 ^ f' := by
          rw [scaled]
          constructor <;> intro <;> linarith
      _ ↔ (2 * ((2 * m - 1) * 5 * 10 ^ tieRoom m : ℕ) - 1 : ℚ) * 10 ^ (-3 - tieRoom m : ℤ) ≤
            2 * ((c' * 100 : ℕ) * 10 ^ (f + 0)) := second
      _ ↔ (2 * ((2 * m - 1) * 5 * 10 ^ tieRoom m : ℕ) - 1 : ℚ) * 10 ^ (-5 - tieRoom m : ℤ) ≤
            2 * (c' * 10 ^ f) := by
          rw [hundred, add_zero, Nat.cast_mul c' 100]
          constructor <;> intro <;> push_cast at * <;> linarith
      _ ↔ (2 * ((2 * m - 1) * 5 * 10 ^ tieRoom m : ℕ) - 1 : ℚ) * 10 ^ (-5 - tieRoom m : ℤ) ≤
            2 * (c * 10 ^ e / (n * 10 ^ e')) := kept.symm.trans first
      _ ↔ percentThreshold m ≤ c * 10 ^ e / (n * 10 ^ e') := by
          unfold percentThreshold
          constructor <;> intro <;> linarith
  have bounded : (finite false c'' f').hundredths ≤ 10000 := by
    by_contra above
    have reached := (reaches 10001 (by norm_num) (by norm_num)).mp (by omega)
    linarith [threshold_above_one]
  refine ⟨_, _, _, divided, multiplied, if_pos ?_, bounded, reaches⟩
  exact bounded.trans_lt (by norm_num [precision])

end Darasa.Decimal
