import Mathlib.Algebra.Order.Field.Rat
import Mathlib.Data.Int.Log
import Mathlib.Data.Rat.Floor
import Mathlib.Data.Rat.Cast.Order
import Mathlib.Tactic.FieldSimp
import Mathlib.Tactic.Positivity
import Darasa.Runtime.Json

/-!
What Django and PostgreSQL make of the values columns are given.

A text column takes no NUL, a `jsonb` column takes no NUL and no number that is not
finite, and keeps numbers as `numeric`; a `numeric(7, 2)` column rounds halves away
from zero.
-/

namespace Darasa

namespace Text

/-- Text a column can hold. -/
def storable (s : String) : Bool := !s.toList.contains (Char.ofNat 0)

theorem storable_iff {s : String} : storable s = true ↔ Char.ofNat 0 ∉ s.toList := by
  rw [storable, Bool.not_eq_true', Bool.eq_false_iff, ne_eq, List.contains_iff_mem]

end Text

/-- What the database raises of a value no column can hold. -/
def refuseUnstorable (storable : Bool) : Outcome Unit :=
  if storable then .ok ()
  else .error (.other "DataError" "PostgreSQL text fields cannot contain NUL (0x00) bytes")

@[simp] theorem refuse_unstorable_ok {storable : Bool} :
    refuseUnstorable storable = .ok () ↔ storable = true := by
  cases storable <;> simp [refuseUnstorable]

theorem refuse_unstorable_error {storable : Bool} (unstorable : storable = false) :
    ∃ e, refuseUnstorable storable = .error e := by
  subst unstorable
  exact ⟨_, rfl⟩

namespace Json

mutual

/-- A value a `jsonb` column can hold. -/
def storable : Json → Bool
  | float (.finite ..) => true
  | float _ => false
  | str s => Text.storable s
  | arr items => storableItems items
  | obj fields => storableFields fields
  | _ => true

def storableItems : List Json → Bool
  | [] => true
  | item :: items => item.storable && storableItems items

def storableFields : List (String × Json) → Bool
  | [] => true
  | (key, value) :: fields => Text.storable key && value.storable && storableFields fields

end

/-- A float read back from `numeric`: one that `repr` writes with a positive exponent
comes back as the integer, and zero has no sign. -/
def numericFloat : Decimal → Json
  | .finite negative coefficient exponent =>
    if 16 ≤ exponent + (Nat.toDigits 10 coefficient).length - 1 ∧ 0 ≤ exponent then
      int ((if negative then -1 else 1) * coefficient * 10 ^ exponent.toNat)
    else float (.finite (negative && coefficient != 0) coefficient exponent)
  | other => float other

/-- The order a `jsonb` object keeps its keys in: by length, and then by their bytes. -/
def keyBefore (a b : String) : Bool :=
  decide (a.utf8ByteSize < b.utf8ByteSize) ||
    a.utf8ByteSize == b.utf8ByteSize && decide (a ≤ b)

/-- Insert a field at its place in that order. -/
def insertKey (field : String × Json) : List (String × Json) → List (String × Json)
  | [] => [field]
  | other :: rest =>
    if keyBefore field.1 other.1 then field :: other :: rest else other :: insertKey field rest

mutual

/-- The value read back from a `jsonb` column. -/
def jsonb : Json → Json
  | float value => numericFloat value
  | arr items => arr (jsonbItems items)
  | obj fields => obj (jsonbFields fields)
  | scalar => scalar

def jsonbItems : List Json → List Json
  | [] => []
  | item :: items => item.jsonb :: jsonbItems items

def jsonbFields : List (String × Json) → List (String × Json)
  | [] => []
  | (key, value) :: fields => insertKey (key, value.jsonb) (jsonbFields fields)

end

/-! ### Equality -/

/-- The number a scalar compares as. -/
def number? : Json → Option ℚ
  | bool b => some (if b then 1 else 0)
  | int n => some n
  | float (.finite negative coefficient exponent) =>
    some (Decimal.finite negative coefficient exponent).toRat
  | _ => none

mutual

/-- `==`: numbers by value, dicts without regard to order. -/
def same : Json → Json → Bool
  | null, null => true
  | str s, str t => s == t
  | arr items, arr others => sameItems items others
  | obj fields, obj others => fields.length == others.length && sameFields fields others
  | float (.infinity negative), float (.infinity negative') => negative == negative'
  | x, y => match x.number?, y.number? with
    | some p, some q => p == q
    | _, _ => false

def sameItems : List Json → List Json → Bool
  | [], [] => true
  | item :: items, other :: others => item.same other && sameItems items others
  | _, _ => false

def sameFields : List (String × Json) → List (String × Json) → Bool
  | [], _ => true
  | (key, value) :: fields, others =>
    (match lookup key others with
      | some other => value.same other
      | none => false) && sameFields fields others

end

end Json

namespace Decimal

/-- A non-negative number in a two-decimal column, in hundredths. -/
def hundredths : Decimal → ℕ
  | finite _ coefficient exponent =>
    if -2 ≤ exponent then coefficient * 10 ^ (exponent + 2).toNat
    else
      let unit := 10 ^ (-2 - exponent).toNat
      (2 * coefficient + unit) / (2 * unit)
  | _ => 0

theorem to_rat_finite {negative : Bool} {coefficient : ℕ} {exponent : ℤ} :
    (finite negative coefficient exponent).toRat =
      (if negative then -1 else 1) * coefficient * (10 : ℚ) ^ exponent := by
  simp only [toRat]
  congr 1
  by_cases nonneg : 0 ≤ exponent
  · obtain ⟨n, rfl⟩ := Int.eq_ofNat_of_zero_le nonneg
    simp
  · obtain ⟨n, hn⟩ := Int.eq_ofNat_of_zero_le (show 0 ≤ -exponent by omega)
    obtain rfl : exponent = -(n : ℤ) := by omega
    rw [if_neg nonneg, neg_neg, Int.toNat_natCast, zpow_neg, zpow_natCast, one_div]

theorem signed_nat_abs {n : ℤ} :
    ((if decide (n < 0) = true then -1 else 1 : ℚ) * (n.natAbs : ℚ)) = n := by
  by_cases negative : n < 0
  · rw [decide_eq_true negative, if_pos rfl, Nat.cast_natAbs, abs_of_neg negative]
    push_cast
    ring
  · rw [decide_eq_false negative, if_neg (by simp), Nat.cast_natAbs,
      abs_of_nonneg (by omega), one_mul]

theorem to_rat_of_hundredths {h : ℤ} : (ofHundredths h).toRat = h / 100 := by
  unfold ofHundredths
  rw [to_rat_finite, signed_nat_abs]
  norm_num
  ring

/-- Rounding to the column does not pass a bound the column can hold. -/
theorem hundredths_le {d : Decimal} {m : ℕ} (nonneg : 0 ≤ d.toRat) (le : d.toRat ≤ m / 100) :
    d.hundredths ≤ m := by
  cases d with
  | infinity negative => exact Nat.zero_le m
  | nan signaling => exact Nat.zero_le m
  | finite negative coefficient exponent =>
    rw [to_rat_finite] at nonneg le
    -- a negative number that is not below zero is zero
    have bound : (coefficient : ℚ) * 10 ^ exponent ≤ m / 100 := by
      cases negative with
      | false => simpa using le
      | true =>
        have zero : (coefficient : ℚ) * 10 ^ exponent ≤ 0 := by
          simp only [if_true] at nonneg
          linarith
        exact zero.trans (div_nonneg (Nat.cast_nonneg m) (by norm_num))
    unfold hundredths
    simp only
    split
    next above =>
      obtain ⟨n, hn⟩ := Int.eq_ofNat_of_zero_le (show 0 ≤ exponent + 2 by omega)
      obtain rfl : exponent = (n : ℤ) - 2 := by omega
      have cast : ((coefficient * 10 ^ n : ℕ) : ℚ) ≤ (m : ℕ) := by
        rw [zpow_sub₀ (by norm_num), zpow_natCast] at bound
        push_cast
        norm_num at bound
        linarith
      simpa using Nat.cast_le.mp cast
    next below =>
      obtain ⟨n, hn⟩ := Int.eq_ofNat_of_zero_le (show 0 ≤ -2 - exponent by omega)
      obtain rfl : exponent = -(n : ℤ) - 2 := by omega
      have toNat : (-2 - (-(n : ℤ) - 2)).toNat = n := by omega
      have cast : (coefficient : ℚ) ≤ ((m * 10 ^ n : ℕ) : ℚ) := by
        rw [zpow_sub₀ (by norm_num), zpow_neg, zpow_natCast] at bound
        have unit : (0 : ℚ) < 10 ^ n := by positivity
        push_cast
        field_simp at bound
        norm_num at bound
        linarith
      have small := Nat.cast_le.mp cast
      rw [toNat]
      have unit : 0 < 10 ^ n := by positivity
      refine Nat.lt_succ_iff.mp ((Nat.div_lt_iff_lt_mul (by omega)).mpr ?_)
      have expand : m.succ * (2 * 10 ^ n) = 2 * (m * 10 ^ n) + 2 * 10 ^ n := by
        rw [Nat.succ_eq_add_one]
        ring
      omega

/-! ### `DecimalField` -/

/-- The double a float's `repr` stands for. -/
def binary (q : ℚ) : ℚ :=
  if q = 0 then 0
  else
    let unit : ℚ := (2 : ℚ) ^ max (Int.log 2 |q| - 52) (-1074)
    let scaled := |q| / unit
    let rounded := divHalfEven scaled.num.natAbs scaled.den
    (if q < 0 then -1 else 1) * rounded * unit

/-- `create_decimal_from_float` in a context of so many digits. -/
def ofFloat (digits : ℕ) (q : ℚ) : Decimal :=
  let value := binary q
  let places := Nat.log 2 value.den
  let coefficient := value.num.natAbs * 5 ^ places
  let excess := (Nat.digits 10 coefficient).length - digits
  let rounded := divHalfEven coefficient (10 ^ excess)
  if excess = 0 then finite (decide (value < 0)) coefficient (-places)
  -- rounding 99..9 up carries into one digit more
  else if rounded = 10 ^ digits then
    finite (decide (value < 0)) (10 ^ (digits - 1)) (excess + 1 - places)
  else finite (decide (value < 0)) rounded (excess - places)

/-- `DecimalValidator`: at most so many digits, so many of them decimals. -/
def fitsColumn (maxDigits decimalPlaces : ℕ) : Decimal → Bool
  | finite _ coefficient exponent =>
    let length := max 1 (Nat.digits 10 coefficient).length
    let decimals := (-exponent).toNat
    let digits :=
      if 0 ≤ exponent then (if coefficient = 0 then length else length + exponent.toNat)
      else max length decimals
    digits ≤ maxDigits && decimals ≤ decimalPlaces &&
      digits - decimals ≤ maxDigits - decimalPlaces
  | _ => false

/-- `DecimalField(max_digits=7, decimal_places=2).clean`. -/
def cleanScore [Unicode] (field : String) (value : Json) : Outcome (Option Decimal) :=
  let converted := match value with
    | .bool b => some (finite false (if b then 1 else 0) 0)
    | .float (.finite negative coefficient exponent) =>
      some (ofFloat 7 (finite negative coefficient exponent).toRat)
    | other => other.toDecimal?
  match value, converted.filter (fitsColumn 7 2) with
  | .null, _ => .ok none
  | _, some score => .ok (some score)
  | _, none => .error (.validationError field "“%(value)s” value must be a decimal number.")

end Decimal

namespace Json

/-! ### What a column keeps of a value -/

theorem lookup_insert_key {key key' : String} {value : Json} {fields : List (String × Json)} :
    lookup key (insertKey (key', value) fields) =
      if key' = key then some value else lookup key fields := by
  induction fields with
  | nil => by_cases same : key' = key <;> simp [insertKey, lookup, same]
  | cons field fields ih =>
    unfold insertKey
    split
    · by_cases same : key' = key <;> simp [lookup, same]
    · next later =>
      have other : field.1 = key → ¬ key' = key := by
        rintro rfl rfl
        exact later (by simp [keyBefore])
      unfold lookup at ih ⊢
      by_cases here : field.1 = key
      · simp [here, other here]
      · simpa [here] using ih

/-- The value a column keeps under a key. -/
theorem lookup_jsonb {key : String} {fields : List (String × Json)} :
    lookup key (jsonbFields fields) = (lookup key fields).map jsonb := by
  induction fields with
  | nil => rfl
  | cons field fields ih =>
    obtain ⟨key', value⟩ := field
    unfold jsonbFields
    rw [lookup_insert_key, ih]
    by_cases same : key' = key <;> simp [lookup, same]

theorem blank_jsonb {value : Json} : value.jsonb.isBlank = value.isBlank := by
  cases value with
  | float number =>
    cases number with
    | finite negative coefficient exponent =>
      simp only [jsonb, numericFloat]
      split <;> rfl
    | _ => rfl
  | arr items => simp [jsonb, isBlank]
  | obj fields => simp [jsonb, isBlank]
  | _ => rfl

theorem insert_key_ne_nil {field : String × Json} {fields : List (String × Json)} :
    insertKey field fields ≠ [] := by
  cases fields with
  | nil => exact List.cons_ne_nil _ _
  | cons other rest =>
    unfold insertKey
    split <;> exact List.cons_ne_nil _ _

/-- A column keeps whether a value counts as true. -/
theorem truthy_jsonb {value : Json} : value.jsonb.truthy = value.truthy := by
  cases value with
  | float number =>
    cases number with
    | finite negative coefficient exponent =>
      simp only [jsonb, numericFloat]
      split
      next =>
        rw [Bool.eq_iff_iff]
        cases negative <;> simp [truthy]
      next => rfl
    | _ => rfl
  | arr items => cases items <;> rfl
  | obj fields =>
    cases fields with
    | nil => rfl
    | cons field fields =>
      obtain ⟨key, value⟩ := field
      simp only [jsonb, jsonbFields, truthy, List.isEmpty_cons, List.isEmpty_eq_false_iff.mpr
        insert_key_ne_nil]
  | _ => rfl

theorem object_of_jsonb {value : Json} {fields : List (String × Json)}
    (is : value.jsonb = .obj fields) : ∃ scores, value = .obj scores := by
  cases value with
  | float number =>
    cases number with
    | finite negative coefficient exponent =>
      simp only [jsonb, numericFloat] at is
      split at is <;> cases is
    | _ => cases is
  | arr items => simp [jsonb] at is
  | obj scores => exact ⟨scores, rfl⟩
  | _ => cases is

/-- A column keeps the number of a value. -/
theorem to_decimal_jsonb [Unicode] {value : Json} {score : Decimal}
    (numeric : value.toDecimal? = some score) (finite : score.isFinite = true) :
    ∃ score', value.jsonb.toDecimal? = some score' ∧ score'.isFinite = true ∧
      score'.toRat = score.toRat := by
  cases value with
  | float number =>
    obtain rfl := Option.some.inj numeric
    cases number with
    | finite negative coefficient exponent =>
      simp only [jsonb, numericFloat]
      split
      next integral =>
        refine ⟨_, rfl, rfl, ?_⟩
        obtain ⟨n, is⟩ := Int.eq_ofNat_of_zero_le integral.2
        rw [Decimal.to_rat_finite, Decimal.to_rat_finite, Decimal.signed_nat_abs, is]
        cases negative <;> simp
      next =>
        refine ⟨_, rfl, rfl, ?_⟩
        rw [Decimal.to_rat_finite, Decimal.to_rat_finite]
        by_cases zero : coefficient = 0 <;> simp [zero]
    | infinity negative => cases finite
    | nan signaling => cases finite
  | int n => exact ⟨score, numeric, finite, rfl⟩
  | str s => exact ⟨score, numeric, finite, rfl⟩
  | _ => cases numeric

end Json

end Darasa
