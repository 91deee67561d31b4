import Darasa.Runtime.Errors
import Darasa.Runtime.Text
import Mathlib.Data.Rat.Defs
import Mathlib.Data.Nat.Digits.Defs

/-!
Python's `decimal.Decimal`: the numbers it holds, the strings it accepts, its
signalling comparisons and its sums in the default context (28 significant
digits, ties to even).

A `Decimal` keeps its coefficient and exponent, so `1.0` and `1.00` are
different values with one `toRat`, as in Python.
-/

namespace Darasa

/-- A `decimal.Decimal`. -/
inductive Decimal where
  /-- `(-1)^negative * coefficient * 10^exponent`. -/
  | finite (negative : Bool) (coefficient : ℕ) (exponent : ℤ)
  | infinity (negative : Bool)
  | nan (signaling : Bool)
  deriving DecidableEq, Repr

namespace Decimal

/-! ### The strings `Decimal(str)` accepts -/

section Parsing

variable [Unicode]

/-- The value of a run of digits, and what follows it. -/
def spanDigits : List Char → List ℕ × List Char
  | [] => ([], [])
  | c :: rest =>
    match Unicode.digit? c with
    | some d => ((spanDigits rest).map (d :: ·) id)
    | none => ([], c :: rest)

/-- The number a run of digits writes. -/
def valueOf (digits : List ℕ) : ℕ := digits.foldl (fun n d => 10 * n + d) 0

/-- The optional sign in front. -/
def splitSign : List Char → Bool × List Char
  | '-' :: rest => (true, rest)
  | '+' :: rest => (false, rest)
  | rest => (false, rest)

/-- The optional exponent at the end; `none` when there is something else. -/
def parseExponent : List Char → Option ℤ
  | [] => some 0
  | c :: rest =>
    if c = 'e' ∨ c = 'E' then
      let (negative, rest) := splitSign rest
      match spanDigits rest with
      | (d :: ds, []) => some (if negative then -(valueOf (d :: ds) : ℤ) else valueOf (d :: ds))
      | _ => none
    else none

/-- A number that is converted exactly: its exponent is one the implementation can hold. -/
def convertible : Decimal → Bool
  | finite _ coefficient exponent =>
    decide (-1999999999999999997 ≤ exponent) &&
      decide (exponent + ((Nat.digits 10 coefficient).length - 1 : ℕ) ≤ 999999999999999999)
  | _ => true

/-- Digits with an optional point and an optional exponent. -/
def parseNumber (negative : Bool) (chars : List Char) : Option Decimal :=
  let (whole, rest) := spanDigits chars
  let (frac, rest) := match rest with
    | '.' :: rest => spanDigits rest
    | rest => ([], rest)
  if whole = [] ∧ frac = [] then none
  else ((parseExponent rest).map fun exponent =>
    finite negative (valueOf (whole ++ frac)) (exponent - frac.length)).filter convertible

/-- `nan`, with diagnostic digits. -/
def parseNaN (signaling : Bool) (diagnostic : List Char) : Option Decimal :=
  if (spanDigits diagnostic).2 = [] then some (nan signaling) else none

/-- `Decimal(s)`: `none` is `decimal.InvalidOperation`. -/
def ofString? (s : String) : Option Decimal :=
  let (negative, rest) := splitSign ((Text.stripChars s.toList).filter (· ≠ '_'))
  match rest.map Char.toLower with
  | ['i', 'n', 'f'] => some (infinity negative)
  | ['i', 'n', 'f', 'i', 'n', 'i', 't', 'y'] => some (infinity negative)
  | 'n' :: 'a' :: 'n' :: diagnostic => parseNaN false diagnostic
  | 's' :: 'n' :: 'a' :: 'n' :: diagnostic => parseNaN true diagnostic
  | _ => parseNumber negative rest

end Parsing

/-! ### Values and comparisons -/

/-- `self.is_nan()`. -/
def isNaN : Decimal → Bool
  | nan _ => true
  | _ => false

/-- `self.is_finite()`. -/
def isFinite : Decimal → Bool
  | finite .. => true
  | _ => false

/-- The number a finite decimal stands for (`0` for the others). -/
def toRat : Decimal → ℚ
  | finite negative coefficient exponent =>
    (if negative then -1 else 1) * coefficient *
      (if 0 ≤ exponent then (10 ^ exponent.toNat : ℚ) else 1 / (10 ^ (-exponent).toNat : ℚ))
  | _ => 0

/-- `self < other`, which signals on any NaN. -/
def lt : Decimal → Decimal → Outcome Bool
  | nan _, _ => .error .invalidOperation
  | _, nan _ => .error .invalidOperation
  | infinity n, infinity n' => .ok (n && !n')
  | infinity n, finite .. => .ok n
  | finite .., infinity n => .ok (!n)
  | x@(finite ..), y@(finite ..) => .ok (decide (x.toRat < y.toRat))

/-- `self > other`. -/
def gt (x y : Decimal) : Outcome Bool := lt y x

/-- `self <= other`, which signals on any NaN. -/
def le : Decimal → Decimal → Outcome Bool
  | nan _, _ => .error .invalidOperation
  | _, nan _ => .error .invalidOperation
  | x, y => (lt y x).map (!·)

/-- `self == other`, of finite numbers. -/
def SameNumber (x y : Decimal) : Prop :=
  x.isFinite = true ∧ y.isFinite = true ∧ x.toRat = y.toRat

instance (x y : Decimal) : Decidable (SameNumber x y) :=
  inferInstanceAs (Decidable (_ ∧ _))

/-! ### Sums in the default context -/

/-- Significant digits of the default context. -/
def precision : ℕ := 28

/-- `n / d` rounded to the nearest, ties to even. -/
def divHalfEven (n d : ℕ) : ℕ :=
  if 2 * (n % d) < d ∨ (2 * (n % d) = d ∧ n / d % 2 = 0) then n / d else n / d + 1

/-- Round a coefficient to the context's precision. -/
def roundToPrecision (negative : Bool) (coefficient : ℕ) (exponent : ℤ) : Decimal :=
  let excess := (Nat.digits 10 coefficient).length - precision
  if excess = 0 then finite negative coefficient exponent
  else
    let rounded := divHalfEven coefficient (10 ^ excess)
    -- rounding 99..9 up carries into one digit more
    if rounded = 10 ^ precision then finite negative (10 ^ (precision - 1)) (exponent + excess + 1)
    else finite negative rounded (exponent + excess)

/-- A finite decimal's signed coefficient, rescaled to a smaller exponent. -/
def scaled (negative : Bool) (coefficient : ℕ) (exponent target : ℤ) : ℤ :=
  (if negative then -1 else 1) * coefficient * 10 ^ (exponent - target).toNat

/-- `self + other`, of numbers whose sum stays in the exponent range of the context. -/
def add : Decimal → Decimal → Outcome Decimal
  | nan true, _ => .error .invalidOperation
  | _, nan true => .error .invalidOperation
  | nan false, _ => .ok (nan false)
  | _, nan false => .ok (nan false)
  | infinity n, infinity n' => if n = n' then .ok (infinity n) else .error .invalidOperation
  | infinity n, finite .. => .ok (infinity n)
  | finite .., infinity n => .ok (infinity n)
  | finite n c e, finite n' c' e' =>
    let target := min e e'
    let total := scaled n c e target + scaled n' c' e' target
    .ok (roundToPrecision (decide (total < 0)) total.natAbs target)

/-- The least exponent of a result in the default context. -/
def tiny : ℤ := -1000026

/-- A result rounded to the precision and to the least exponent of the default context. -/
def roundToContext (negative : Bool) (coefficient : ℕ) (exponent : ℤ) : Decimal :=
  let digits := (Nat.digits 10 coefficient).length
  let excess := max (digits - precision) (tiny - exponent).toNat
  if excess = 0 then finite negative coefficient exponent
  else
    let rounded := divHalfEven coefficient (10 ^ excess)
    if rounded = 10 ^ precision then finite negative (10 ^ (precision - 1)) (exponent + excess + 1)
    else finite negative rounded (exponent + excess)

/-- A result in the default context, which traps an overflow. -/
def finish (negative : Bool) (coefficient : ℕ) (exponent : ℤ) : Outcome Decimal :=
  let result := roundToContext negative coefficient exponent
  match result with
  | finite _ (c + 1) e =>
    if 999999 < e + (Nat.digits 10 (c + 1)).length - 1 then
      .error (.other "Overflow" "[<class 'decimal.Overflow'>]")
    else .ok result
  | _ => .ok result

/-- `self + other`, of numbers from outside. -/
def plus : Decimal → Decimal → Outcome Decimal
  | finite n c e, finite n' c' e' =>
    let target := min e e'
    let total := scaled n c e target + scaled n' c' e' target
    finish (decide (total < 0)) total.natAbs target
  | x, y => x.add y

theorem finish_ok {negative : Bool} {coefficient : ℕ} {exponent : ℤ} {total : Decimal}
    (finished : finish negative coefficient exponent = .ok total) :
    total = roundToContext negative coefficient exponent := by
  unfold finish at finished
  generalize roundToContext negative coefficient exponent = result at finished ⊢
  simp only at finished
  split at finished
  next =>
    split at finished
    · cases finished
    · exact (Except.ok.inj finished).symm
  next => exact (Except.ok.inj finished).symm

theorem round_to_context_finite {negative : Bool} {coefficient : ℕ} {exponent : ℤ} :
    ∃ coefficient' exponent', roundToContext negative coefficient exponent =
      finite negative coefficient' exponent' := by
  unfold roundToContext
  simp only
  split
  · exact ⟨_, _, rfl⟩
  · split <;> exact ⟨_, _, rfl⟩

/-- The sum of finite numbers, when it stays in range. -/
theorem plus_finite {x y total : Decimal} (left : x.isFinite = true) (right : y.isFinite = true)
    (added : x.plus y = .ok total) : total.isFinite = true := by
  cases x with
  | finite negative coefficient exponent =>
    cases y with
    | finite negative' coefficient' exponent' =>
      obtain ⟨coefficient'', exponent'', is⟩ := round_to_context_finite
      rw [finish_ok added, is]
      rfl
    | infinity negative' => cases right
    | nan signaling => cases right
  | infinity negative => cases left
  | nan signaling => cases left

theorem finish_raises {negative : Bool} {coefficient : ℕ} {exponent : ℤ} {e : Exn}
    (raised : finish negative coefficient exponent = .error e) : e.isValidationError = false := by
  unfold finish at raised
  generalize roundToContext negative coefficient exponent = result at raised
  simp only at raised
  split at raised
  next =>
    split at raised
    · exact Except.error.inj raised ▸ rfl
    · cases raised
  next => cases raised

theorem add_raises {x y : Decimal} {e : Exn} (raised : x.add y = .error e) :
    e.isValidationError = false := by
  unfold add at raised
  split at raised
  case h_5 =>
    split at raised
    · cases raised
    · exact Except.error.inj raised ▸ rfl
  all_goals first
    | exact Except.error.inj raised ▸ rfl
    | cases raised

/-- A sum raises a decimal signal, and nothing else. -/
theorem plus_raises {x y : Decimal} {e : Exn} (raised : x.plus y = .error e) :
    e.isValidationError = false := by
  unfold plus at raised
  split at raised
  next => exact finish_raises raised
  next => exact add_raises raised

/-- A two-decimal column value, counted in hundredths, as the `Decimal` Django
loads. -/
def ofHundredths (h : ℤ) : Decimal := finite (decide (h < 0)) h.natAbs (-2)

end Decimal

end Darasa
