import Darasa.Runtime.Columns

/-!
Products and quotients of `decimal.Decimal` in the default context, and its text.
-/

namespace Darasa.Decimal

/-- `self * other`. -/
def mul : Decimal → Decimal → Outcome Decimal
  | nan true, _ => .error .invalidOperation
  | _, nan true => .error .invalidOperation
  | nan false, _ => .ok (nan false)
  | _, nan false => .ok (nan false)
  | infinity n, infinity n' => .ok (infinity (n != n'))
  | infinity n, finite n' c _ => if c = 0 then .error .invalidOperation else .ok (infinity (n != n'))
  | finite n c _, infinity n' => if c = 0 then .error .invalidOperation else .ok (infinity (n != n'))
  | finite n c e, finite n' c' e' => .ok (roundToPrecision (n != n') (c * c') (e + e'))

/-- Drop the zeros that stand between an exact quotient and its ideal exponent. -/
def dropZeros : ℕ → ℕ → ℤ → ℕ × ℤ
  | 0, coefficient, exponent => (coefficient, exponent)
  | room + 1, coefficient, exponent =>
    if coefficient % 10 = 0 then dropZeros room (coefficient / 10) (exponent + 1)
    else (coefficient, exponent)

/-- The quotient of two coefficients, to one digit more than the precision. -/
def quotient (c c' : ℕ) (ideal : ℤ) : ℕ × ℤ :=
  let shift : ℤ := (Nat.digits 10 c').length - (Nat.digits 10 c).length + precision + 1
  let dividend := c * 10 ^ shift.toNat
  let divisor := c' * 10 ^ (-shift).toNat
  let coefficient := dividend / divisor
  if dividend % divisor = 0 then dropZeros shift.toNat coefficient (ideal - shift)
  else
    -- a sticky digit keeps an inexact quotient off the tie
    (if coefficient % 5 = 0 then coefficient + 1 else coefficient, ideal - shift)

/-- `self / other` of finite numbers. -/
def div : Decimal → Decimal → Outcome Decimal
  | finite n c e, finite n' c' e' =>
    if c' = 0 then .error .invalidOperation
    else if c = 0 then .ok (finite (n != n') 0 (e - e'))
    else
      let (coefficient, exponent) := quotient c c' (e - e')
      .ok (roundToPrecision (n != n') coefficient exponent)
  | _, _ => .error .invalidOperation

/-- `str(self)`. -/
def text : Decimal → String
  | finite negative coefficient exponent =>
    let digits := (Nat.repr coefficient).toList
    let left := exponent + digits.length
    let point := if exponent ≤ 0 ∧ -6 < left then left else 1
    let number :=
      if point ≤ 0 then '0' :: '.' :: (List.replicate (-point).toNat '0' ++ digits)
      else if digits.length ≤ point then digits ++ List.replicate (point - digits.length).toNat '0'
      else digits.take point.toNat ++ '.' :: digits.drop point.toNat
    let power := Nat.repr (left - point).natAbs
    (if negative then "-" else "") ++ .ofList number ++
      if left = point then "" else (if left < point then "E-" else "E+") ++ power
  | infinity negative => if negative then "-Infinity" else "Infinity"
  | nan signaling => if signaling then "sNaN" else "NaN"

end Darasa.Decimal
