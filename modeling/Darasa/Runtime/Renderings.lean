import Mathlib.Data.Nat.Init
import Mathlib.Tactic.NormNum

/-!
How identifiers and moments are written: `str` of a UUID, and `datetime.isoformat` of a number
of microseconds since 1970 in UTC.
-/

namespace Darasa

/-- Hexadecimal digits, at least so many. -/
def hexDigits (width n : ℕ) : List Char :=
  let digits := Nat.toDigits 16 n
  List.replicate (width - digits.length) '0' ++ digits

/-- `str` of an identifier: a UUID is the number its hexadecimal digits write. -/
def uuidText (id : ℕ) : String :=
  let digits := hexDigits 32 id
  .ofList (digits.take 8 ++ '-' :: (digits.drop 8).take 4 ++ '-' :: (digits.drop 12).take 4 ++
    '-' :: (digits.drop 16).take 4 ++ '-' :: digits.drop 20)

/-- The digits of a number, read back. -/
def hexValue (s : List Char) : ℕ :=
  s.foldl (fun value c => 16 * value + if c.isDigit then c.toNat - 48 else c.toNat - 87) 0

private theorem digit_value : ∀ d < 16,
    (if d.digitChar.isDigit then d.digitChar.toNat - 48 else d.digitChar.toNat - 87) = d := by
  decide

/-- A number is its last digit after the digits of the rest. -/
theorem toDigits_cases (n : ℕ) :
    (n < 16 ∧ Nat.toDigits 16 n = [n.digitChar]) ∨
      (16 ≤ n ∧ Nat.toDigits 16 n = Nat.toDigits 16 (n / 16) ++ [(n % 16).digitChar]) := by
  by_cases small : n < 16
  · exact .inl ⟨small, Nat.toDigits_of_lt_base small⟩
  · exact .inr ⟨by omega, Nat.toDigits_of_base_le (by norm_num) (by omega)⟩

theorem hexValue_toDigits (n : ℕ) : hexValue (Nat.toDigits 16 n) = n := by
  induction n using Nat.strong_induction_on with
  | _ n ih =>
    rcases toDigits_cases n with ⟨small, is⟩ | ⟨large, is⟩
    · rw [is]
      simpa [hexValue] using digit_value n small
    · have front := ih (n / 16) (by omega)
      rw [is]
      unfold hexValue at front ⊢
      rw [List.foldl_append, front, List.foldl_cons, List.foldl_nil,
        digit_value (n % 16) (Nat.mod_lt n (by norm_num))]
      omega

theorem hexValue_hexDigits (width n : ℕ) : hexValue (hexDigits width n) = n := by
  have zeros : ∀ k, (List.replicate k '0').foldl
      (fun value c => 16 * value + if c.isDigit then c.toNat - 48 else c.toNat - 87) 0 = 0 := by
    intro k
    induction k with
    | zero => rfl
    | succ k ih =>
      rw [List.replicate_succ, List.foldl_cons]
      exact ih
  have digits := hexValue_toDigits n
  unfold hexValue hexDigits at *
  rw [List.foldl_append, zeros, digits]

theorem mem_hexDigits {width n : ℕ} {c : Char} (member : c ∈ hexDigits width n) :
    ∃ d < 16, c = d.digitChar := by
  rcases List.mem_append.mp member with zero | digit
  · exact ⟨0, by norm_num, List.eq_of_mem_replicate zero⟩
  · induction n using Nat.strong_induction_on with
    | _ n ih =>
      rcases toDigits_cases n with ⟨small, is⟩ | ⟨large, is⟩
      · rw [is] at digit
        exact ⟨n, small, List.mem_singleton.mp digit⟩
      · rw [is] at digit
        rcases List.mem_append.mp digit with front | last
        · exact ih (n / 16) (by omega) (List.mem_append_right _ front) front
        · exact ⟨n % 16, Nat.mod_lt n (by norm_num), List.mem_singleton.mp last⟩

theorem length_hexDigits (n : ℕ) :
    32 ≤ (hexDigits 32 n).length ∧ (n < 2 ^ 128 → (hexDigits 32 n).length = 32) := by
  have length : (hexDigits 32 n).length =
      32 - (Nat.toDigits 16 n).length + (Nat.toDigits 16 n).length := by
    simp [hexDigits]
  refine ⟨by omega, fun fits => ?_⟩
  have short : (Nat.toDigits 16 n).length ≤ 32 := by
    rw [Nat.length_toDigits_le_iff (by norm_num) (by norm_num)]
    exact fits.trans_eq (by norm_num)
  omega

/-- The text of an identifier tells it. -/
theorem uuidText_injective {n m : ℕ} (same : uuidText n = uuidText m) : n = m := by
  have long := (length_hexDigits n).1
  have long' := (length_hexDigits m).1
  have chars := String.ofList_injective same
  simp only [List.append_assoc, List.cons_append] at chars
  obtain ⟨first, chars⟩ := List.append_inj chars (by simp only [List.length_take]; omega)
  obtain ⟨second, chars⟩ := List.append_inj (List.cons.inj chars).2
    (by simp only [List.length_take, List.length_drop]; omega)
  obtain ⟨third, chars⟩ := List.append_inj (List.cons.inj chars).2
    (by simp only [List.length_take, List.length_drop]; omega)
  obtain ⟨fourth, chars⟩ := List.append_inj (List.cons.inj chars).2
    (by simp only [List.length_take, List.length_drop]; omega)
  have whole (digits : List Char) : digits = digits.take 8 ++ ((digits.drop 8).take 4 ++
      ((digits.drop 12).take 4 ++ ((digits.drop 16).take 4 ++ digits.drop 20))) := by
    have step (k n : ℕ) : (digits.drop k).take n ++ digits.drop (k + n) = digits.drop k := by
      rw [← List.drop_drop, List.take_append_drop]
    rw [step 16 4, step 12 4, step 8 4, List.take_append_drop]
  rw [← hexValue_hexDigits 32 n, ← hexValue_hexDigits 32 m, whole (hexDigits 32 n),
    whole (hexDigits 32 m), first, second, third, fourth, (List.cons.inj chars).2]

theorem mem_uuidText {n : ℕ} {c : Char} (member : c ∈ (uuidText n).toList) :
    c = '-' ∨ ∃ d < 16, c = d.digitChar := by
  have taken {k : ℕ} {l : List Char} (h : c ∈ l.take k) : c ∈ l := List.mem_of_mem_take h
  have dropped {k : ℕ} {l : List Char} (h : c ∈ l.drop k) : c ∈ l := List.mem_of_mem_drop h
  have chars : c = '-' ∨ c ∈ hexDigits 32 n := by
    unfold uuidText at member
    rw [String.toList_ofList] at member
    simp only [List.mem_append, List.mem_cons] at member
    rcases member with (((h | h | h) | h | h) | h | h) | h | h
    · exact .inr (taken h)
    · exact .inl h
    · exact .inr (dropped (taken h))
    · exact .inl h
    · exact .inr (dropped (taken h))
    · exact .inl h
    · exact .inr (dropped (taken h))
    · exact .inl h
    · exact .inr (dropped h)
  exact chars.imp_right mem_hexDigits

theorem length_uuidText {n : ℕ} (fits : n < 2 ^ 128) : (uuidText n).toList.length = 36 := by
  have length := (length_hexDigits n).2 fits
  unfold uuidText
  rw [String.toList_ofList]
  simp only [List.length_append, List.length_cons, List.length_take, List.length_drop, length]
  norm_num

end Darasa

namespace Darasa.Rendering

/-- The last digits of a number, as many as the width. -/
def digits (base : ℕ) : ℕ → ℕ → List Char
  | 0, _ => []
  | width + 1, n => digits base width (n / base) ++ [(n % base).digitChar]

/-- A day of the calendar. -/
structure CivilDate where
  year : ℕ
  month : ℕ
  day : ℕ
  deriving DecidableEq, Repr

/-- The calendar day a number of days after 1 January 1970; the years run from March inside
an era of 400 years. -/
def civilDate (days : ℕ) : CivilDate :=
  let days := days + 719468
  let dayOfEra := days % 146097
  let yearOfEra := (dayOfEra - dayOfEra / 1460 + dayOfEra / 36524 - dayOfEra / 146096) / 365
  let dayOfYear := dayOfEra - (365 * yearOfEra + yearOfEra / 4 - yearOfEra / 100)
  let monthIndex := (5 * dayOfYear + 2) / 153
  let month := if monthIndex < 10 then monthIndex + 3 else monthIndex - 9
  { year := yearOfEra + days / 146097 * 400 + if month ≤ 2 then 1 else 0
    month := month
    day := dayOfYear - (153 * monthIndex + 2) / 5 + 1 }

/-- The characters of the date. -/
def dateChars (date : CivilDate) : List Char :=
  digits 10 4 date.year ++ '-' :: (digits 10 2 date.month ++ '-' :: digits 10 2 date.day)

/-- The characters of the time of day; microseconds only where there are some. -/
def timeChars (moment : ℕ) : List Char :=
  let seconds := moment / 1000000
  let microseconds := moment % 1000000
  digits 10 2 (seconds / 3600 % 24) ++ ':' :: (digits 10 2 (seconds / 60 % 60) ++ ':' ::
    (digits 10 2 (seconds % 60) ++
      ((if microseconds = 0 then [] else '.' :: digits 10 6 microseconds) ++
        ['+', '0', '0', ':', '0', '0'])))

/-- `moment.isoformat()`. -/
def isoformat (moment : ℕ) : String :=
  .ofList (dateChars (civilDate (moment / 1000000 / 86400)) ++ 'T' :: timeChars moment)

example : isoformat 1732024800000250 = "2024-11-19T14:00:00.000250+00:00" := by decide +kernel

/-! ## Digits -/

variable {base width n : ℕ} {c : Char}

@[simp] theorem length_digits : (digits base width n).length = width := by
  induction width generalizing n with
  | zero => rfl
  | succ width ih => simp [digits, ih]

/-- Every digit is one of the base. -/
theorem mem_digits (positive : 0 < base) (member : c ∈ digits base width n) :
    ∃ d < base, c = d.digitChar := by
  induction width generalizing n with
  | zero => cases member
  | succ width ih =>
    rcases List.mem_append.mp member with earlier | last
    · exact ih earlier
    · exact ⟨n % base, Nat.mod_lt n positive, List.mem_singleton.mp last⟩

end Darasa.Rendering
