import Mathlib.Data.List.Forall2
import Mathlib.Data.Nat.Notation

/-!
The exceptions Python and Django raise, as far as code under verification
tells them apart: an `except` clause names classes, so a model of one needs
the class of what was raised, and a Django validation error also carries the
field it is filed under and its message.
-/

namespace Darasa

/-- What a Python call can raise. -/
inductive Exn where
  /-- `django.core.exceptions.ValidationError({field: message})`. -/
  | validationError (field message : String)
  /-- `Model.DoesNotExist`. -/
  | doesNotExist (model : String)
  /-- `django.db.IntegrityError`, naming the constraint. -/
  | integrityError (constraint : String)
  /-- `decimal.InvalidOperation`. -/
  | invalidOperation
  | typeError (message : String)
  | attributeError (message : String)
  | valueError (message : String)
  /-- Any other class, by its name and text. -/
  | other (name message : String)
  deriving DecidableEq, Repr

namespace Exn

/-- `except ValidationError` catches it. -/
def isValidationError : Exn → Bool
  | validationError _ _ => true
  | _ => false

/-- A character between quotes in `repr`; past ASCII all are taken as printable. -/
def reprChar (quote c : Char) : List Char :=
  if c = quote ∨ c = Char.ofNat 92 then [Char.ofNat 92, c]
  else if c.toNat = 9 then [Char.ofNat 92, 't']
  else if c.toNat = 10 then [Char.ofNat 92, 'n']
  else if c.toNat = 13 then [Char.ofNat 92, 'r']
  else if c.toNat < 32 ∨ c.toNat = 127 then
    [Char.ofNat 92, 'x', (c.toNat / 16).digitChar, (c.toNat % 16).digitChar]
  else [c]

/-- `repr` of a text: in single quotes, unless it holds one and no double quote. -/
def reprText (s : String) : String :=
  let single := Char.ofNat 39
  let double := Char.ofNat 34
  let quote := if s.toList.contains single && !s.toList.contains double then double else single
  .ofList (quote :: (s.toList.flatMap (reprChar quote) ++ [quote]))

/-- `str(exc)`: the text a caught exception is recorded with. -/
def text : Exn → String
  | validationError field message =>
    "\x7b" ++ reprText field ++ ": [" ++ reprText message ++ "]\x7d"
  | doesNotExist model => model ++ " matching query does not exist."
  | integrityError constraint => constraint
  | invalidOperation => "[<class 'decimal.InvalidOperation'>]"
  | typeError message => message
  | attributeError message => message
  | valueError message => message
  | other _ message => message

end Exn

/-- What a call computes: a value, or what it raises. -/
abbrev Outcome (α : Type) := Except Exn α

/-- `raise ValidationError({field: message})` when the guard holds. -/
def refuseIf (guard : Bool) (field message : String) : Outcome Unit :=
  if guard then .error (.validationError field message) else .ok ()

@[simp] theorem refuseIf_ok {guard : Bool} {field message : String} {u : Unit} :
    refuseIf guard field message = .ok u ↔ guard = false := by
  cases guard <;> simp [refuseIf]

/-- The value, or `raise ValidationError({field: message})` when there is none. -/
def requireSome {α : Type} (found : Option α) (field message : String) : Outcome α :=
  match found with
  | some a => .ok a
  | none => .error (.validationError field message)

@[simp] theorem requireSome_ok {α : Type} {found : Option α} {field message : String} {a : α} :
    requireSome found field message = .ok a ↔ found = some a := by
  cases found <;> simp [requireSome]

namespace Outcome

variable {α β : Type} {x : Outcome α} {f : α → Outcome β} {b : β}

/-- A call chained after another returns exactly when both do. -/
theorem bind_ok : (x >>= f) = .ok b ↔ ∃ a, x = .ok a ∧ f a = .ok b := by
  cases x <;> simp [bind, Except.bind]

/-- A check chained before a call. -/
theorem check_ok {x : Outcome Unit} {f : Unit → Outcome β} :
    (x >>= f) = .ok b ↔ x = .ok () ∧ f () = .ok b := by
  cases x <;> simp [bind, Except.bind]

/-- A call chained after one whose result is known returns when it does. -/
theorem bind_returns {a : α} (here : x = .ok a) (later : ∃ b, f a = .ok b) :
    ∃ b, (x >>= f) = .ok b := by
  obtain ⟨b, later⟩ := later
  exact ⟨b, bind_ok.mpr ⟨a, here, later⟩⟩

/-- A call chained after one of whose result something is known. -/
theorem bind_returns_of {p : α → Prop} (here : ∃ a, x = .ok a ∧ p a)
    (later : ∀ a, p a → ∃ b, f a = .ok b) : ∃ b, (x >>= f) = .ok b := by
  obtain ⟨a, here, known⟩ := here
  exact bind_returns here (later a known)

/-- What a call returns, read off its result. -/
theorem map_ok {f : α → β} (mapped : x.map f = .ok b) : ∃ a, x = .ok a ∧ f a = b := by
  cases x with
  | error e => cases mapped
  | ok a => exact ⟨a, rfl, Except.ok.inj mapped⟩

/-- Calls mapped over a list return exactly when each does. -/
theorem mapM_ok {f : α → Outcome β} {as : List α} {bs : List β} (mapped : as.mapM f = .ok bs) :
    List.Forall₂ (fun a b => f a = .ok b) as bs := by
  induction as generalizing bs with
  | nil =>
    cases mapped
    exact .nil
  | cons a as ih =>
    rw [List.mapM_cons] at mapped
    obtain ⟨b, here, mapped⟩ := bind_ok.mp mapped
    obtain ⟨rest, later, mapped⟩ := bind_ok.mp mapped
    cases mapped
    exact .cons here (ih later)

/-- The call returns normally. -/
def returns (x : Outcome α) : Bool := x.isOk

theorem returns_iff : x.returns = true ↔ ∃ a, x = .ok a := by
  cases x <;> simp [returns, Except.isOk, Except.toBool]

/-- Mapped over a list, calls that return on every item return. -/
theorem mapM_returns {f : α → Outcome β} {as : List α} :
    (∃ bs, as.mapM f = .ok bs) ↔ ∀ a ∈ as, ∃ b, f a = .ok b := by
  constructor
  · rintro ⟨bs, mapped⟩
    induction as generalizing bs with
    | nil => simp
    | cons a as ih =>
      rw [List.mapM_cons] at mapped
      obtain ⟨b, here, mapped⟩ := bind_ok.mp mapped
      obtain ⟨rest, later, -⟩ := bind_ok.mp mapped
      exact List.forall_mem_cons.mpr ⟨⟨b, here⟩, ih rest later⟩
  · intro each
    induction as with
    | nil => exact ⟨[], rfl⟩
    | cons a as ih =>
      obtain ⟨⟨b, here⟩, later⟩ := List.forall_mem_cons.mp each
      obtain ⟨rest, mapped⟩ := ih later
      exact ⟨b :: rest, by rw [List.mapM_cons, here, mapped]; rfl⟩

/-- Mapped over a list, calls whose results are known. -/
theorem mapM_of_ok {f : α → Outcome β} {g : α → β} {as : List α}
    (each : ∀ a ∈ as, f a = .ok (g a)) : as.mapM f = .ok (as.map g) := by
  induction as with
  | nil => rfl
  | cons a as ih =>
    obtain ⟨here, later⟩ := List.forall_mem_cons.mp each
    rw [List.mapM_cons, here, ih later]
    rfl

/-- Checks made of the items of a list in turn all pass. -/
theorem forM_ok {f : α → Outcome Unit} {as : List α} :
    as.forM f = .ok () ↔ ∀ a ∈ as, f a = .ok () := by
  induction as with
  | nil => exact iff_of_true rfl (by simp)
  | cons a as ih =>
    rw [List.forall_mem_cons, ← ih]
    exact check_ok

/-- What was checked of a call's result. -/
theorem ok_of_any {p : α → Bool} (seen : x.toOption.any p = true) :
    ∃ a, x = .ok a ∧ p a = true := by
  cases x with
  | error e => cases seen
  | ok a => exact ⟨a, rfl, seen⟩

/-! ### Calls that raise nothing but validation errors -/

/-- The call returns or raises a `ValidationError`. -/
def Controlled (x : Outcome α) : Prop :=
  ∀ e, x = .error e → e.isValidationError = true

instance : Decidable (Controlled x) :=
  match x with
  | .ok _ => .isTrue nofun
  | .error e => decidable_of_iff (e.isValidationError = true) (by simp [Controlled])

@[simp] theorem controlled_ok {a : α} : Controlled (.ok a : Outcome α) := nofun

@[simp] theorem controlled_error {e : Exn} :
    Controlled (.error e : Outcome α) ↔ e.isValidationError = true := by
  simp [Controlled]

@[simp] theorem controlled_refuse {guard : Bool} {field message : String} :
    Controlled (refuseIf guard field message) := by
  unfold refuseIf
  cases guard
  · exact controlled_ok
  · exact controlled_error.mpr rfl

@[simp] theorem controlled_require {found : Option α} {field message : String} :
    Controlled (requireSome found field message) := by
  unfold requireSome
  cases found
  · exact controlled_error.mpr rfl
  · exact controlled_ok

/-- A call chained after another. -/
theorem controlled_bind :
    Controlled (x >>= f) ↔ Controlled x ∧ ∀ a, x = .ok a → Controlled (f a) := by
  cases x with
  | error e => simp [bind, Except.bind, Controlled]
  | ok a => simp [bind, Except.bind]

/-- A call chained after a check. -/
theorem controlled_check {x : Outcome Unit} {f : Unit → Outcome β} :
    Controlled (x >>= f) ↔ Controlled x ∧ (x = .ok () → Controlled (f ())) := by
  rw [controlled_bind]
  exact and_congr_right fun _ => ⟨fun next => next (), fun next _ => next⟩

theorem controlled_mapM {f : α → Outcome β} {as : List α}
    (each : ∀ a ∈ as, Controlled (f a)) : Controlled (as.mapM f) := by
  induction as with
  | nil => exact controlled_ok
  | cons a as ih =>
    obtain ⟨here, later⟩ := List.forall_mem_cons.mp each
    rw [List.mapM_cons]
    refine controlled_bind.mpr ⟨here, fun _ _ => ?_⟩
    exact controlled_bind.mpr ⟨ih later, fun _ _ => controlled_ok⟩

/-- Checks made of the items of a list: each is reached when those before it pass. -/
theorem controlled_forM {check : α → Outcome Unit} {as : List α} :
    Controlled (as.forM check) ↔
      ∀ before a after, as = before ++ a :: after → (∀ b ∈ before, check b = .ok ()) →
        Controlled (check a) := by
  induction as with
  | nil => exact iff_of_true controlled_ok (by simp)
  | cons a as ih =>
    change Controlled (check a >>= fun _ => as.forM check) ↔ _
    rw [controlled_bind, ih]
    constructor
    · rintro ⟨here, later⟩ before a' after split passed
      cases before with
      | nil =>
        cases split
        exact here
      | cons b before =>
        cases split
        obtain ⟨first, rest⟩ := List.forall_mem_cons.mp passed
        exact later () first before a' after rfl rest
    · intro reached
      refine ⟨reached [] a as rfl (by simp), fun _ first before a' after split passed => ?_⟩
      exact reached (a :: before) a' after (by rw [split]; rfl)
        (List.forall_mem_cons.mpr ⟨first, passed⟩)

end Outcome

end Darasa
