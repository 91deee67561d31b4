import Darasa.Foundation.Machine
import Darasa.Grading.Assessments

/-!
Whether the context of an operational assessment was ever approved.

The first operational save locks the binding; from then on a save that leaves the
context alone is not checked again.  A save back to draft may change the context
without a check, and the lock stays set, so the reopening save takes the new
context for the old one.  `Tracked` carries the history the question is about
(nothing computes with it), and `contexts_are_approved_iff` says which runs keep
every operational context approved.
-/

namespace Darasa.Grading

open Darasa (Machine Outcome Unicode)
open Darasa.Curriculum

/-! ## Saves of one assessment -/

/-- A save of the assessment, or a change to the curriculum. -/
inductive BindingStep where
  | create (assessment : Assessment)
  | edit (status : AssessmentStatus) (context : CurriculumContext)
  | curriculum (t : CurriculumTables)

/-- The instance a step saves: a new one, or the stored row with its status and
context changed. -/
def BindingStep.saves (id : ℕ) (db : Database) : BindingStep → Option Assessment
  | create assessment =>
    match db.assessment? id with
    | none => some { assessment with id := id, curriculumBindingLockedAt := none }
    | some _ => none
  | edit status context =>
    (db.assessment? id).map fun row =>
      { row with
        status := status
        curriculumVersion := context.curriculumVersion
        learningArea := context.learningArea
        rubricFoundation := context.rubricFoundation }
  | curriculum _ => none

/-- The save asks `validate_curriculum_context_for_grading_binding`. -/
def Assessment.asks (self : Assessment) (db : Database) : Bool :=
  assessmentStatusRequiresBinding self.status && !self.preservesHistoricalContext db

/-- The instance has the stored context. -/
def Assessment.keeps (self : Assessment) (db : Database) : Bool :=
  (db.assessment? self.id).any fun row => row.context == self.context

/-- The tables, with the history of the assessment's context since it last changed:
`approved` when a save asked about it and it passed, `drifted` when it was a draft
save of the locked row that changed it. -/
structure Tracked where
  db : Database
  approved : Bool
  drifted : Bool

section

variable [Unicode]

/-- The history after an accepted save. -/
def Tracked.saved (s : Tracked) (self : Assessment) (db : Database) : Tracked where
  db := db
  approved := (self.asks s.db && self.hasActiveCurriculumPublication s.db) ||
    (self.keeps s.db && s.approved)
  drifted := !self.asks s.db &&
    (if self.keeps s.db then s.drifted else self.curriculumBindingLockedAt.isSome)

/-- The tables after a step; a save that raises changes nothing. -/
def Tracked.next (id : ℕ) (s : Tracked) (label : BindingStep) : Tracked :=
  match label.saves id s.db with
  | some self =>
    match self.save s.db with
    | .ok db => s.saved self db
    | .error _ => s
  | none =>
    match label with
    | .curriculum t => { s with db := { s.db with curriculum := t } }
    | _ => s

/-- Saves of the assessment, among changes to the curriculum. -/
def bindingMachine (id : ℕ) : Machine Tracked BindingStep where
  step s label := some (s.next id label)

/-- A save that leaves the assessment operational leaves it approved. -/
def KeepsApproved (id : ℕ) (s : Tracked) (label : BindingStep) (s' : Tracked) : Prop :=
  ∀ self ∈ label.saves id s.db, (self.save s.db).isOk = true → self.status ≠ .draft →
    s'.approved = true

instance {id : ℕ} {s s' : Tracked} {label : BindingStep} :
    Decidable (KeepsApproved id s label s') :=
  inferInstanceAs (Decidable (∀ self ∈ label.saves id s.db, _ → _ → _))

/-- No save takes a drifted context for a preserved one. -/
def TakesNoDrift (id : ℕ) (s : Tracked) (label : BindingStep) : Prop :=
  ∀ self ∈ label.saves id s.db, (self.save s.db).isOk = true → self.status ≠ .draft →
    self.preservesHistoricalContext s.db = true → s.drifted = false

instance {id : ℕ} {s : Tracked} {label : BindingStep} : Decidable (TakesNoDrift id s label) :=
  inferInstanceAs (Decidable (∀ self ∈ label.saves id s.db, _ → _ → _ → _))

/-! ## The invariant -/

/-- A locked context that has not drifted was approved; a drifted one was not. -/
structure History (id : ℕ) (s : Tracked) : Prop where
  approved : ∀ row, s.db.assessment? id = some row → row.curriculumBindingLockedAt.isSome = true →
    s.drifted = false → s.approved = true
  drifted : s.drifted = true → s.approved = false

variable {id : ℕ} {s s' : Tracked} {label : BindingStep} {self : Assessment} {db' : Database}

omit [Unicode] in
/-- A save that asks and is accepted was answered. -/
theorem asks_passes (asks : self.asks s.db = true) (valid : self.validate s.db = .ok ()) :
    self.hasActiveCurriculumPublication s.db = true := by
  have binding := (clean_ok.mp (validate_ok.mp valid).2.1).2.2.1
  unfold Assessment.asks assessmentStatusRequiresBinding at asks
  rw [Bool.and_eq_true, bne_iff_ne, Bool.not_eq_true'] at asks
  unfold Assessment.validateCurriculumBindingForStatus at binding
  rw [refuseIf_ok, Option.isSome_eq_false_iff, Option.isNone_iff_eq_none, binding_ok asks.1,
    asks.2] at binding
  exact binding.2.2.2.1

omit [Unicode] in
/-- What a step saves: the assessment, with the lock of the stored row. -/
theorem saves_cases (saves : label.saves id s.db = some self) :
    self.id = id ∧
      (s.db.assessment? id = none ∧ self.curriculumBindingLockedAt = none ∨
        ∃ row, s.db.assessment? id = some row ∧
          self.curriculumBindingLockedAt = row.curriculumBindingLockedAt) := by
  cases label with
  | create assessment =>
    unfold BindingStep.saves at saves
    cases found : s.db.assessment? id with
    | none =>
      rw [found] at saves
      cases saves
      exact ⟨rfl, .inl ⟨rfl, rfl⟩⟩
    | some row =>
      rw [found] at saves
      cases saves
  | edit status context =>
    obtain ⟨row, found, rfl⟩ := Option.map_eq_some_iff.mp saves
    have here : row.id = id := by simpa using List.find?_some found
    exact ⟨here, .inr ⟨row, found, rfl⟩⟩
  | curriculum t => cases saves

omit [Unicode] in
/-- A save that asks nothing and is operational keeps the context of a locked row. -/
theorem kept_of_preserved (saves : label.saves id s.db = some self)
    (preserves : self.preservesHistoricalContext s.db = true) :
    self.keeps s.db = true ∧ ∃ row, s.db.assessment? id = some row ∧
      row.curriculumBindingLockedAt.isSome = true := by
  obtain ⟨rfl, ⟨-, unlocked⟩ | ⟨row, found, lock⟩⟩ := saves_cases saves
  · simp [Assessment.preservesHistoricalContext, unlocked] at preserves
  · unfold Assessment.preservesHistoricalContext Assessment.curriculumContextChangedFields
      at preserves
    rw [found, lock, Bool.and_eq_true, changed_fields_empty] at preserves
    refine ⟨?_, row, found, preserves.1⟩
    simp [Assessment.keeps, found, preserves.2]

/-- A save that asks nothing does not set the lock. -/
theorem locked_of_silent {clock : ℕ} (asks : self.asks s.db = false)
    (locked : (self.stored clock).curriculumBindingLockedAt.isSome = true) :
    self.curriculumBindingLockedAt.isSome = true := by
  cases lock : self.curriculumBindingLockedAt with
  | some at_ => rfl
  | none =>
    unfold Assessment.asks Assessment.preservesHistoricalContext at asks
    unfold Assessment.stored at locked
    cases operational : assessmentStatusRequiresBinding self.status <;> simp_all

/-- What an accepted save does to the history. -/
theorem saved_history (history : History id s) (saves : label.saves id s.db = some self)
    (valid : self.validate s.db = .ok ()) : History id (s.saved self (s.db.store self)) := by
  obtain ⟨rfl, place⟩ := saves_cases saves
  unfold Tracked.saved
  cases asks : self.asks s.db with
  | true =>
    rw [asks_passes asks valid]
    exact ⟨fun _ _ _ _ => rfl, fun drifts => by simp at drifts⟩
  | false =>
    cases keeps : self.keeps s.db with
    | true =>
      obtain ⟨row, found⟩ : ∃ row, s.db.assessment? self.id = some row := by
        unfold Assessment.keeps at keeps
        cases found : s.db.assessment? self.id with
        | none => simp [found] at keeps
        | some row => exact ⟨row, rfl⟩
      refine ⟨fun row' found' locked drifts => ?_, fun drifts => ?_⟩
      · simp only [Bool.not_false, Bool.true_and, if_true] at drifts
        simp only [Bool.false_and, Bool.true_and, Bool.false_or]
        refine history.approved row found ?_ drifts
        -- a save that asks nothing does not set the lock
        rw [assessment_of_store, if_pos rfl] at found'
        cases found'
        rcases place with ⟨absent, -⟩ | ⟨_, found'', lock⟩
        · cases absent.symm.trans found
        cases found.symm.trans found''
        exact lock ▸ locked_of_silent asks locked
      · simp only [Bool.not_false, Bool.true_and, if_true] at drifts
        simp [history.drifted drifts]
    | false =>
      refine ⟨fun row' found' locked drifts => ?_, fun _ => by simp⟩
      simp only [Bool.not_false, Bool.true_and, if_false, Bool.false_eq_true] at drifts
      rw [assessment_of_store, if_pos rfl] at found'
      cases found'
      rw [locked_of_silent asks locked] at drifts
      cases drifts

theorem next_history (history : History id s) : History id (s.next id label) := by
  unfold Tracked.next
  cases saves : label.saves id s.db with
  | none =>
    cases label with
    | curriculum t => exact ⟨history.approved, history.drifted⟩
    | create assessment => exact history
    | edit status context => exact history
  | some self =>
    cases saved : self.save s.db with
    | error e => simpa only [saved] using history
    | ok db' =>
      obtain ⟨valid, rfl⟩ := save_ok.mp saved
      simpa only [saved] using saved_history history saves valid

/-! ## Runs -/

/-- An accepted save leads to its history. -/
theorem next_of_saves (saves : label.saves id s.db = some self) (saved : self.save s.db = .ok db') :
    s.next id label = s.saved self db' := by
  unfold Tracked.next
  simp only [saves, saved]

/-- Where a save takes no drift, what it leaves operational is approved. -/
theorem approved_of_next (history : History id s) (noDrift : TakesNoDrift id s label) :
    KeepsApproved id s label (s.next id label) := by
  intro self saves accepted operational
  obtain ⟨db', saved⟩ : ∃ db', self.save s.db = .ok db' := Outcome.returns_iff.mp accepted
  rw [next_of_saves saves saved]
  obtain ⟨valid, rfl⟩ := save_ok.mp saved
  unfold Tracked.saved
  cases preserves : self.preservesHistoricalContext s.db with
  | false =>
    have asks : self.asks s.db = true := by
      simp [Assessment.asks, assessmentStatusRequiresBinding, operational, preserves]
    simp [asks, asks_passes asks valid]
  | true =>
    obtain ⟨keeps, row, found, locked⟩ := kept_of_preserved saves preserves
    have approved := history.approved row found locked
      (noDrift self saves accepted operational preserves)
    simp [keeps, approved]

/-- A save that takes a drift leaves it unapproved. -/
theorem noDrift_of_approved (history : History id s)
    (safe : KeepsApproved id s label (s.next id label)) : TakesNoDrift id s label := by
  intro self saves accepted operational preserves
  obtain ⟨db', saved⟩ : ∃ db', self.save s.db = .ok db' := Outcome.returns_iff.mp accepted
  have approved := safe self saves accepted operational
  rw [next_of_saves saves saved] at approved
  have asks : self.asks s.db = false := by simp [Assessment.asks, preserves]
  simp only [Tracked.saved, asks, Bool.false_and, Bool.false_or, Bool.and_eq_true] at approved
  cases drifted : s.drifted with
  | false => rfl
  | true => exact absurd approved.2 (by simp [history.drifted drifted])

/-- **When operational contexts are approved.**  In a run from before the
assessment exists, every save that leaves it operational leaves a context that
passed its check since it last changed, exactly when no save takes a drifted
context for a preserved one. -/
theorem contexts_are_approved_iff {db : Database} (absent : db.assessment? id = none)
    (steps : List BindingStep) :
    (bindingMachine id).Always (KeepsApproved id) ⟨db, false, false⟩ steps ↔
      (bindingMachine id).Meets (TakesNoDrift id) ⟨db, false, false⟩ steps := by
  have start : History id ⟨db, false, false⟩ := by
    constructor
    · intro row found
      cases absent.symm.trans found
    · intro drifts
      cases drifts
  refine Machine.always_iff_meets ?keeps ?gives ?needs (fun _ _ => ⟨_, rfl⟩) start
  case keeps =>
    intro s label s' history _ stepped
    cases stepped
    exact next_history history
  case gives =>
    intro s label s' history noDrift stepped
    cases stepped
    exact approved_of_next history noDrift
  case needs =>
    intro s label s' history stepped safe
    cases stepped
    exact noDrift_of_approved history safe

end

section Sample

attribute [local instance] Unicode.ascii

private def start : Tracked := ⟨Sample.database, false, false⟩

private def nears : CurriculumContext := ⟨some 1, 1, some 2⟩

private def meets : CurriculumContext := ⟨some 1, 1, some 1⟩

/-- Nothing is published any more. -/
private def unpublished : BindingStep := .curriculum { Sample.curriculum with publications := [] }

/-- The exam is opened, and marked when its version is no longer published. -/
private def submittedExam : List BindingStep :=
  [.create Sample.exam, unpublished, .edit .submitted meets]

/-- The exam is marked under the context it was opened with, and another rubric is only
drafted. -/
theorem redrafted_context_is_approved :
    ((bindingMachine 1).run start submittedExam).map
        (fun s => ((s.db.assessment? 1).map (·.status), s.approved)) =
      some (some .submitted, true) ∧
    (bindingMachine 1).Always (KeepsApproved 1) start (submittedExam ++ [.edit .draft nears]) :=
  ⟨by decide +kernel, (contexts_are_approved_iff rfl (submittedExam ++ [.edit .draft nears])).mpr
    (by decide +kernel)⟩

/-- Opening, then returning to draft for another rubric. -/
private def redrafted : List BindingStep := [.create Sample.exam, .edit .draft nears]

/-- The exam reopens on a rubric nothing ever asked about, by then unpublished. -/
theorem reopened_context_is_unapproved :
    ¬ (bindingMachine 1).Always (KeepsApproved 1) start
      (redrafted ++ [unpublished] ++ [.edit .open nears]) := by
  intro always
  have last := Machine.Always.at_step always rfl rfl
  revert last
  decide +kernel

end Sample

end Darasa.Grading
