import Darasa.Runtime.Errors
import Darasa.Runtime.Json

/-!
Django model validation: `full_clean` and the field checks it runs.
-/

namespace Darasa

/-- `full_clean`: the fields, then `clean`.  What `clean` raises besides a
validation error is not collected with the field errors. -/
def fullClean (fields clean : Outcome Unit) : Outcome Unit :=
  match clean with
  | .ok () => fields
  | .error e => if e.isValidationError then fields *> .error e else .error e

theorem full_clean_ok {fields clean : Outcome Unit} :
    fullClean fields clean = .ok () ↔ fields = .ok () ∧ clean = .ok () := by
  rcases clean with e | _
  · rcases fields with e' | _ <;> simp only [fullClean] <;> split <;>
      simp [SeqRight.seqRight, Except.bind]
  · simp [fullClean]

/-- The length a `CharField` allows. -/
def cleanLength (field : String) (maxLength : ℕ) (value : String) : Outcome Unit :=
  refuseIf (decide (maxLength < value.length)) field
    s!"Ensure this value has at most {maxLength} characters (it has {value.length})."

/-- `CharField.clean`. -/
def cleanText (field : String) (maxLength : ℕ) (value : String) : Outcome Unit := do
  refuseIf value.isEmpty field "This field cannot be blank."
  cleanLength field maxLength value

theorem clean_text_error {field value : String} {maxLength : ℕ} {e : Exn}
    (refused : cleanText field maxLength value = .error e) :
    ∃ message, e = .validationError field message := by
  revert refused
  rw [cleanText, cleanLength]
  cases value.isEmpty with
  | true => exact fun refused => ⟨_, (Except.error.inj refused).symm⟩
  | false =>
    cases decide (maxLength < value.length) with
    | true => exact fun refused => ⟨_, (Except.error.inj refused).symm⟩
    | false => exact fun refused => nomatch refused

/-- `JSONField.clean` of a column that may be neither null nor blank. -/
def cleanJson (field : String) : Json → Outcome Unit
  | .null => .error (.validationError field "This field cannot be null.")
  | .str "" | .arr [] | .obj [] => .error (.validationError field "This field cannot be blank.")
  | _ => .ok ()

/-- `ForeignKey.validate`: the row must be there. -/
def cleanForeignKey (field model : String) (found : Bool) : Outcome Unit :=
  refuseIf (!found) field (model ++ " instance with %(field)s %(value)r does not exist.")

@[simp] theorem clean_foreign_key_ok {field model : String} {found : Bool} :
    cleanForeignKey field model found = .ok () ↔ found = true := by
  simp [cleanForeignKey]

/-- `DecimalField` of two decimals: digits before the point, of a number counted in
hundredths. -/
def cleanDigits (field : String) (maxDigits hundredths : ℕ) : Outcome Unit :=
  refuseIf (decide (10 ^ maxDigits ≤ hundredths)) field
    s!"Ensure that there are no more than {maxDigits} digits in total."

end Darasa
