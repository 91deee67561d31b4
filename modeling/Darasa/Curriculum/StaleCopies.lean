import Darasa.Curriculum.ChangeSets

/-!
What stale copies do to the workflow.

A call checks the caller's copy and writes it over the row, whatever the row has
become meanwhile.  `UpToDate` says of a call that would be accepted that the
committed status is one its new status may follow; a run keeps the state machine
exactly when every call of it is up to date (`workflow_is_kept_iff`).
-/

namespace Darasa.Curriculum

open Darasa (Outcome Exn Unicode refuseIf Machine)
open Darasa.Core (CustomUser Staff)

/-! ## What is asked of a run -/

/-- A change of the committed status: along an edge, or up to `approved` along
the review path. -/
def Moves (old new : ChangeSetStatus) : Prop :=
  new ∈ allowedTransitions old ∨
    (new = .approved ∧ old ∈ [ChangeSetStatus.detected, .quarantined, .underReview])

variable {H : Type} [DecidableEq H]

/-- A step that keeps the state machine. -/
structure WorkflowKept (w : Workflow H) (step : WorkflowStep H) (w' : Workflow H) : Prop where
  statuses : ∀ id old, w.tables.statusOf id = some old →
    ∃ new, w'.tables.statusOf id = some new ∧ (new = old ∨ Moves old new)
  rejected : ∀ id, w.tables.statusOf id = some .rejected →
    w'.tables.statusOf id = some .rejected
  published : ∀ publication ∈ w'.tables.publications, publication ∉ w.tables.publications →
    ∃ caller request copy, step = .call caller request ∧ w.copies caller = some copy ∧
      w.tables.statusOf copy.id = some .approved

section

variable [Unicode]

/-- The status a call sets. -/
def WorkflowCall.target : WorkflowCall → ChangeSetStatus
  | approve _ => .approved
  | reject _ => .rejected
  | publish .. => .published

/-- The statuses of the row that its new status may follow. -/
def WorkflowCall.followsFrom : WorkflowCall → List ChangeSetStatus
  | approve _ => [.detected, .quarantined, .underReview, .approved]
  | reject _ => [.detected, .quarantined, .underReview, .approved, .rejected]
  | publish .. => [.approved]

/-- The checks a call makes, all on its copy, pass. -/
def WorkflowCall.admissible (copy : CurriculumChangeSet) (t : Governance) : WorkflowCall → Bool
  | approve reviewedBy =>
    (t.staff.requireCurriculumTruthManager "reviewed_by" reviewedBy).isOk &&
      [.detected, .quarantined, .underReview].contains copy.status &&
      (validateGovernanceText copy.summary).isOk
  | reject reviewedBy =>
    (t.staff.requireCurriculumTruthManager "reviewed_by" reviewedBy).isOk &&
      [.detected, .quarantined, .underReview, .approved].contains copy.status &&
      (validateGovernanceText copy.summary).isOk
  | publish version approvedBy effectiveFrom notes =>
    (t.staff.requireCurriculumTruthManager "approved_by" approvedBy).isOk &&
      version.any (fun version => copy.proposedCurriculumVersion == some version &&
        !t.hasActivePublication version) &&
      copy.status == .approved && effectiveFrom.isSome && (validateGovernanceText notes).isOk &&
      (validateGovernanceText copy.summary).isOk

/-- A call whose copy passes its checks finds the committed status one its new
status may follow. -/
def UpToDate (w : Workflow H) : WorkflowStep H → Prop
  | .call caller request => ∀ copy ∈ w.copies caller, request.admissible copy w.tables = true →
    ∃ status ∈ request.followsFrom, w.tables.statusOf copy.id = some status
  | _ => True

instance (w : Workflow H) : (step : WorkflowStep H) → Decidable (UpToDate w step)
  | .call caller request => inferInstanceAs (Decidable (∀ copy ∈ w.copies caller,
      request.admissible copy w.tables = true →
        ∃ status ∈ request.followsFrom, w.tables.statusOf copy.id = some status))
  | .load .. | .staff .. => inferInstanceAs (Decidable True)

/-! ## One call -/

section

attribute [local irreducible] validateGovernanceText

variable {t t' : Governance} {copy : CurriculumChangeSet}

private theorem save_cases {status : ChangeSetStatus} {reviewer : CustomUser} :
    (validateGovernanceText copy.summary).isOk = true ∧ (∃ saved : CurriculumChangeSet,
      saved.id = copy.id ∧ saved.status = status ∧
      (reviewAndSave copy status reviewer t).outcome =
        .ok { t.overwrite saved with clock := t.clock + 1 }) ∨
    (validateGovernanceText copy.summary).isOk = false ∧
      ∃ e, (reviewAndSave copy status reviewer t).outcome = .error e := by
  cases text : validateGovernanceText copy.summary with
  | ok _ =>
    refine .inl ⟨rfl, { copy with
      status := status, reviewedBy := some reviewer.id, reviewedAt := some t.clock,
      summary := Text.strip copy.summary }, rfl, rfl, ?_⟩
    simp [reviewAndSave, saveClean, text, bind, Except.bind, pure, Except.pure, Governance.overwrite]
  | error e =>
    refine .inr ⟨rfl, e, ?_⟩
    simp [reviewAndSave, saveClean, text, bind, Except.bind]

private theorem review_outcome {copy' : CurriculumChangeSet} {status : ChangeSetStatus}
    {reviewer : CustomUser} (id : copy'.id = copy.id) (summary : copy'.summary = copy.summary)
    {P : Bool} (admissible : P = (validateGovernanceText copy.summary).isOk) :
    P = false ∧ (∃ e, (reviewAndSave copy' status reviewer t).outcome = .error e) ∨
    P = true ∧ ∃ saved : CurriculumChangeSet,
      (reviewAndSave copy' status reviewer t).outcome =
        .ok { t.overwrite saved with clock := t.clock + 1 } ∧
      saved.id = copy.id ∧ saved.status = status := by
  have cases := @save_cases _ t copy' status reviewer
  rw [summary] at cases
  rcases cases with ⟨text, saved, id', status', ran⟩ | ⟨text, e, ran⟩
  · exact .inr ⟨admissible.trans text, saved, ran, id'.trans id, status'⟩
  · exact .inl ⟨admissible.trans text, e, ran⟩

/-- An active publication with an approved workflow. -/
private theorem create_active {version : ℕ} {approvedBy : Option CustomUser}
    {effectiveFrom : Option ℕ} {notes : String} {approver : CustomUser}
    (manager : t.staff.requireCurriculumTruthManager "approved_by" approvedBy = .ok approver) :
    ((effectiveFrom.isSome && (validateGovernanceText notes).isOk &&
        !t.hasActivePublication version) = false ∧
      ∃ e, createCurriculumPublication
        ⟨version, effectiveFrom, none, notes, approvedBy, true, true⟩ t = .error e) ∨
    ((effectiveFrom.isSome && (validateGovernanceText notes).isOk &&
        !t.hasActivePublication version) = true ∧
      ∃ publication : CurriculumPublication, publication.id = t.nextId ∧
        createCurriculumPublication
          ⟨version, effectiveFrom, none, notes, approvedBy, true, true⟩ t =
          .ok (publication, { t with
            publications := t.publications ++ [publication]
            nextId := t.nextId + 1
            clock := t.clock + 1 })) := by
  cases effectiveFrom with
  | none =>
    refine .inl ⟨rfl, .validationError "effective_from"
      "“%(value)s” value has an invalid date format. It must be in YYYY-MM-DD format.", ?_⟩
    simp only [createCurriculumPublication, manager, refuseIf]
    rfl
  | some date =>
    cases text : validateGovernanceText notes with
    | error e =>
      refine .inl ⟨rfl, e, ?_⟩
      simp only [createCurriculumPublication, manager, refuseIf, text]
      rfl
    | ok _ =>
      cases taken : t.hasActivePublication version with
      | true =>
        refine .inl ⟨rfl, .validationError "__all__"
          "Constraint “curriculum_one_active_publication_per_version” is violated.", ?_⟩
        simp only [createCurriculumPublication, manager, refuseIf, text, taken]
        rfl
      | false =>
        refine .inr ⟨rfl, ⟨t.nextId, version, date, none, true, Text.strip notes,
          approvedBy.map CustomUser.id, t.clock, none, t.clock⟩, rfl, ?_⟩
        simp only [createCurriculumPublication, manager, refuseIf, text, taken]
        rfl

/-- **What a call does.**  It raises, or it sets its target on the row of its
copy; publishing also adds one publication. -/
theorem call_cases (request : WorkflowCall) :
    request.admissible copy t = false ∧ (∃ e, (request.run copy t).outcome = .error e) ∨
    request.admissible copy t = true ∧ ∃ (t' : Governance) (saved : CurriculumChangeSet),
      (request.run copy t).outcome = .ok t' ∧
      saved.id = copy.id ∧ saved.status = request.target ∧
      t'.changeSets = (t.overwrite saved).changeSets ∧
      ((request.target ≠ .published ∧ t'.publications = t.publications ∧ t'.nextId = t.nextId) ∨
        (request.target = .published ∧ t'.nextId = t.nextId + 1 ∧
          ∃ publication, publication.id = t.nextId ∧
            t'.publications = t.publications ++ [publication])) := by
  cases request with
  | approve reviewedBy =>
    cases found : t.staff.requireCurriculumTruthManager "reviewed_by" reviewedBy with
    | error e =>
      exact .inl ⟨by simp [WorkflowCall.admissible, found, Except.isOk, Except.toBool],
        e, by simp [WorkflowCall.run, approveChangeSet, found]⟩
    | ok reviewer =>
      by_cases open_ : [.detected, .quarantined, .underReview].contains copy.status = true
      · have moved : validateTransition (moveChangeSetToReview copy).status .approved = .ok () ∧
            (moveChangeSetToReview copy).id = copy.id ∧
            (moveChangeSetToReview copy).summary = copy.summary := by
          cases status : copy.status <;> simp [status] at open_ <;>
            simp [moveChangeSetToReview, status, validateTransition, allowedTransitions, refuseIf]
        have ran : (WorkflowCall.approve reviewedBy).run copy t =
            reviewAndSave (moveChangeSetToReview copy) .approved reviewer t := by
          simp [WorkflowCall.run, approveChangeSet, found, moved.1]
        have admissible : (WorkflowCall.approve reviewedBy).admissible copy t =
            (validateGovernanceText copy.summary).isOk := by
          rw [WorkflowCall.admissible, found, open_]
          rfl
        rw [ran]
        rcases @review_outcome _ t copy _ .approved reviewer moved.2.1 moved.2.2 _ admissible with
          left | ⟨yes, saved, done, id, status⟩
        · exact .inl left
        · exact .inr ⟨yes, _, saved, done, id, status, rfl, .inl ⟨by simp [WorkflowCall.target],
            rfl, rfl⟩⟩
      · refine .inl ⟨?_, ?_⟩
        · rw [WorkflowCall.admissible, Bool.eq_false_iff.mpr open_, Bool.and_false, Bool.false_and]
        · refine ⟨.validationError "status" "Curriculum workflow transition is not allowed.", ?_⟩
          cases status : copy.status <;> simp [status] at open_ <;>
            simp [WorkflowCall.run, approveChangeSet, found, moveChangeSetToReview, status,
              validateTransition, allowedTransitions, refuseIf]
  | reject reviewedBy =>
    cases found : t.staff.requireCurriculumTruthManager "reviewed_by" reviewedBy with
    | error e =>
      exact .inl ⟨by simp [WorkflowCall.admissible, found, Except.isOk, Except.toBool],
        e, by simp [WorkflowCall.run, rejectChangeSet, found]⟩
    | ok reviewer =>
      by_cases open_ :
        [.detected, .quarantined, .underReview, .approved].contains copy.status = true
      · have ran : (WorkflowCall.reject reviewedBy).run copy t =
            reviewAndSave copy .rejected reviewer t := by
          simp only [WorkflowCall.run, rejectChangeSet, found, open_, if_true]
        have admissible : (WorkflowCall.reject reviewedBy).admissible copy t =
            (validateGovernanceText copy.summary).isOk := by
          rw [WorkflowCall.admissible, found, open_]
          rfl
        rw [ran]
        rcases @review_outcome _ t copy _ .rejected reviewer rfl rfl _ admissible with
          left | ⟨yes, saved, done, id, status⟩
        · exact .inl left
        · exact .inr ⟨yes, _, saved, done, id, status, rfl, .inl ⟨by simp [WorkflowCall.target],
            rfl, rfl⟩⟩
      · refine .inl ⟨?_, ?_⟩
        · rw [WorkflowCall.admissible, Bool.eq_false_iff.mpr open_, Bool.and_false, Bool.false_and]
        · refine ⟨.validationError "status" "Curriculum workflow transition is not allowed.", ?_⟩
          cases status : copy.status <;> simp [status] at open_ <;>
            simp [WorkflowCall.run, rejectChangeSet, found, status,
              validateTransition, allowedTransitions, refuseIf]
  | publish version approvedBy effectiveFrom notes =>
    -- the checks in the order the service makes them; the first to fail raises
    have raises {e : Exn} (refused : ((WorkflowCall.publish version approvedBy effectiveFrom
        notes).run copy t).outcome = .error e) (no : (WorkflowCall.publish version approvedBy
        effectiveFrom notes).admissible copy t = false) :
        (WorkflowCall.publish version approvedBy effectiveFrom notes).admissible copy t = false ∧
          ∃ e, ((WorkflowCall.publish version approvedBy effectiveFrom notes).run copy t).outcome =
            .error e := ⟨no, e, refused⟩
    cases version with
    | none => exact .inl (raises rfl (by simp [WorkflowCall.admissible]))
    | some version =>
    cases manager : t.staff.requireCurriculumTruthManager "approved_by" approvedBy with
    | error e =>
      refine .inl (@raises e ?_ (by simp [WorkflowCall.admissible, manager, Except.isOk,
        Except.toBool]))
      simp only [WorkflowCall.run, publishCurriculumVersion, manager]
      rfl
    | ok approver =>
    by_cases proposed : copy.proposedCurriculumVersion = some version
    swap
    · refine .inl (@raises (.validationError "curriculum_version"
        "Published version must match the change set.") ?_
        (by simp [WorkflowCall.admissible, proposed]))
      simp only [WorkflowCall.run, publishCurriculumVersion, manager, refuseIf,
        show (copy.proposedCurriculumVersion != some version) = true by simpa using proposed]
      rfl
    have proposed' : (copy.proposedCurriculumVersion != some version) = false := by
      simpa using proposed
    by_cases approved : copy.status = .approved
    swap
    · have refused : validateTransition copy.status .published =
          .error (.validationError "status" "Curriculum workflow transition is not allowed.") := by
        cases status : copy.status <;> simp_all [validateTransition, allowedTransitions, refuseIf]
      refine .inl (@raises (.validationError "status"
        "Curriculum workflow transition is not allowed.") ?_
        (by simp [WorkflowCall.admissible, approved]))
      simp only [WorkflowCall.run, publishCurriculumVersion, manager, refuseIf, proposed',
        refused]
      rfl
    have allowed : validateTransition copy.status .published = .ok () := by
      rw [approved]
      rfl
    have admissible : (WorkflowCall.publish (some version) approvedBy effectiveFrom
        notes).admissible copy t = ((effectiveFrom.isSome && (validateGovernanceText notes).isOk &&
          !t.hasActivePublication version) && (validateGovernanceText copy.summary).isOk) := by
      simp only [WorkflowCall.admissible, manager, proposed, approved, Option.any_some,
        beq_self_eq_true, Bool.true_and, Bool.and_true, Except.isOk, Except.toBool]
      cases t.hasActivePublication version <;> simp
    rcases @create_active _ t version approvedBy effectiveFrom notes approver manager with
      ⟨no, e, refused⟩ | ⟨yes, publication, id, created⟩
    · refine .inl (@raises e ?_ (by rw [admissible, no, Bool.false_and]))
      simp only [WorkflowCall.run, publishCurriculumVersion, manager, refuseIf, proposed', allowed]
      rw [show (createCurriculumPublication _ t) = _ from refused]
      rfl
    · let t₁ : Governance := { t with
        publications := t.publications ++ [publication]
        nextId := t.nextId + 1
        clock := t.clock + 1 }
      have ran : (WorkflowCall.publish (some version) approvedBy effectiveFrom notes).run copy t =
          reviewAndSave copy .published approver t₁ := by
        simp only [WorkflowCall.run, publishCurriculumVersion, manager, refuseIf, proposed',
          allowed]
        rw [show (createCurriculumPublication _ t) = _ from created]
        rfl
      rw [ran]
      rcases @review_outcome _ t₁ copy copy .published approver rfl rfl _
        (admissible.trans (by rw [yes, Bool.true_and])) with left | ⟨yes', saved, done, id', status⟩
      · exact .inl left
      · exact .inr ⟨yes', _, saved, done, id', status, rfl, .inr ⟨rfl, rfl, publication, id, rfl⟩⟩

end

omit [Unicode] in
theorem statusOf_overwrite {t t' : Governance} {saved : CurriculumChangeSet} {id : ℕ}
    (written : t'.changeSets = (t.overwrite saved).changeSets) :
    t'.statusOf id =
      if id = saved.id then (t.statusOf id).map fun _ => saved.status else t.statusOf id := by
  rw [Governance.statusOf, written, Governance.overwrite, List.find?_map]
  have keeps : (fun row : CurriculumChangeSet => row.id == id) ∘
      (fun row => if row.id = saved.id then saved else row) = fun row => row.id == id := by
    funext row
    simp only [Function.comp_apply]
    split
    next same => rw [same]
    next => rfl
  rw [keeps]
  cases found : t.changeSets.find? fun row => row.id == id with
  | none => simp [Governance.statusOf, found]
  | some row =>
    have here : row.id = id := by simpa using List.find?_some found
    simp only [Governance.statusOf, found, Option.map_some, here]
    split <;> rfl

/-! ## Runs -/

/-- Copies are of stored rows, and identifiers are drawn from the counter. -/
structure Held (w : Workflow H) : Prop where
  copies : ∀ caller copy, w.copies caller = some copy → (w.tables.statusOf copy.id).isSome
  fresh : ∀ publication ∈ w.tables.publications, publication.id < w.tables.nextId

variable {w w' : Workflow H} {step : WorkflowStep H}

/-- A copy stays a copy of its row. -/
private theorem review_copy_id {copy : CurriculumChangeSet} {status : ChangeSetStatus}
    {reviewer : CustomUser} {t : Governance} :
    (reviewAndSave copy status reviewer t).copy.id = copy.id := by
  rw [reviewAndSave, saveClean]
  cases validateGovernanceText copy.summary <;> rfl

theorem run_copy_id {request : WorkflowCall} {copy : CurriculumChangeSet} {t : Governance} :
    (request.run copy t).copy.id = copy.id := by
  have moved : (moveChangeSetToReview copy).id = copy.id := by
    rw [moveChangeSetToReview]
    split <;> rfl
  cases request with
  | approve reviewedBy =>
    simp only [WorkflowCall.run, approveChangeSet]
    split
    · rfl
    · split
      · exact moved
      · exact review_copy_id.trans moved
  | reject reviewedBy =>
    simp only [WorkflowCall.run, rejectChangeSet]
    split
    · rfl
    · split
      · rfl
      · exact review_copy_id
  | publish version approvedBy effectiveFrom notes =>
    simp only [WorkflowCall.run, publishCurriculumVersion]
    split
    · rfl
    · exact review_copy_id

/-- A call in the workflow: refused, nothing is committed; admitted, the row of
its copy gets the call's target. -/
theorem called_cases {caller : H} {request : WorkflowCall} {copy : CurriculumChangeSet} :
    request.admissible copy w.tables = false ∧
      (w.called caller (request.run copy w.tables)).tables = w.tables ∨
    request.admissible copy w.tables = true ∧ ∃ t' : Governance,
      (w.called caller (request.run copy w.tables)).tables = t' ∧
      (∀ id, t'.statusOf id = if id = copy.id then
        (w.tables.statusOf id).map fun _ => request.target else w.tables.statusOf id) ∧
      ((t'.publications = w.tables.publications ∧ t'.nextId = w.tables.nextId) ∨
        (request.target = .published ∧ t'.nextId = w.tables.nextId + 1 ∧
          ∃ publication, publication.id = w.tables.nextId ∧
            t'.publications = w.tables.publications ++ [publication])) ∧
      (request.target = .published → t'.publications ≠ w.tables.publications) := by
  rcases @call_cases _ w.tables copy request with
    ⟨no, e, raised⟩ | ⟨yes, t', saved, ran, id, status, written, publications⟩
  · exact .inl ⟨no, by rw [Workflow.called, raised]; rfl⟩
  · refine .inr ⟨yes, t', by rw [Workflow.called, ran]; rfl, fun other => ?_, ?_, ?_⟩
    · rw [statusOf_overwrite written, id, status]
    · exact publications.imp_left And.right
    · intro publishes same
      rcases publications with ⟨not, -, -⟩ | ⟨-, -, publication, -, added⟩
      · exact not publishes
      · rw [added] at same
        exact absurd (congrArg List.length same) (by simp)

/-- Every step keeps the invariant, up to date or not. -/
theorem held_step (held : Held w) (stepped : workflowMachine.step w step = some w') : Held w' := by
  cases step with
  | load caller id =>
    cases stepped
    refine ⟨fun other copy holds => ?_, held.fresh⟩
    by_cases same : other = caller
    · subst same
      simp only [Function.update_self] at holds
      have here : copy.id = id := by simpa using List.find?_some holds
      rw [Governance.statusOf, here, holds]
      rfl
    · simp only [Function.update_of_ne same] at holds
      exact held.copies other copy holds
  | staff staff =>
    cases stepped
    exact ⟨held.copies, held.fresh⟩
  | call caller request =>
    cases holds : w.copies caller with
    | none =>
      simp only [workflowMachine, holds] at stepped
      cases stepped
      exact held
    | some copy =>
      simp only [workflowMachine, holds] at stepped
      cases stepped
      have kept (id : ℕ) (there : (w.tables.statusOf id).isSome) :
          ((w.called caller (request.run copy w.tables)).tables.statusOf id).isSome := by
        rcases @called_cases H _ _ w caller request copy with
          ⟨-, same⟩ | ⟨-, t', same, statuses, -⟩
        · rwa [same]
        · rw [same, statuses]
          split <;> simpa using there
      refine ⟨fun other copy' holds' => kept _ ?_, ?_⟩
      · by_cases same : other = caller
        · subst same
          simp only [Workflow.called, Function.update_self, Option.some.injEq] at holds'
          rw [← holds', run_copy_id]
          exact held.copies other copy holds
        · simp only [Workflow.called, Function.update_of_ne same] at holds'
          exact held.copies other copy' holds'
      · rcases @called_cases H _ _ w caller request copy with
          ⟨-, same⟩ | ⟨-, t', same, -, publications, -⟩
        · rw [same]
          exact held.fresh
        · rw [same]
          rcases publications with ⟨same', next⟩ | ⟨-, next, publication, id, added⟩
          · rw [same', next]
            exact held.fresh
          · rw [added, next]
            intro other member
            rcases List.mem_append.mp member with old | new
            · exact Nat.lt_succ_of_lt (held.fresh other old)
            · rw [List.mem_singleton.mp new, id]
              exact Nat.lt_succ_self _

omit [Unicode] in
/-- A call's target follows from each status it may follow. -/
private theorem moves_target {request : WorkflowCall} {status : ChangeSetStatus}
    (from_ : status ∈ request.followsFrom) :
    request.target = status ∨ Moves status request.target := by
  cases request <;> simp only [WorkflowCall.followsFrom, List.mem_cons, List.not_mem_nil,
    or_false] at from_ <;> rcases from_ with rfl | rfl | rfl | rfl | rfl <;>
    simp [WorkflowCall.target, Moves, allowedTransitions]

omit [Unicode] in
/-- Of a call's possible statuses, only rejecting takes `rejected`. -/
private theorem target_of_rejected {request : WorkflowCall}
    (from_ : ChangeSetStatus.rejected ∈ request.followsFrom) : request.target = .rejected := by
  cases request <;> simp [WorkflowCall.followsFrom] at from_ ⊢
  rfl

omit [DecidableEq H] [Unicode] in
/-- A step that changes no row and adds no publication. -/
private theorem kept_of_same (statuses : ∀ id, w'.tables.statusOf id = w.tables.statusOf id)
    (publications : w'.tables.publications = w.tables.publications) :
    WorkflowKept w step w' where
  statuses id old here := ⟨old, (statuses id).trans here, .inl rfl⟩
  rejected id here := (statuses id).trans here
  published _ member new := absurd (publications ▸ member) new

/-- An up-to-date step keeps the state machine. -/
theorem kept_of_upToDate (fresh : UpToDate w step)
    (stepped : workflowMachine.step w step = some w') : WorkflowKept w step w' := by
  cases step with
  | load caller id =>
    cases stepped
    exact kept_of_same (fun _ => rfl) rfl
  | staff staff =>
    cases stepped
    exact kept_of_same (fun _ => rfl) rfl
  | call caller request =>
    cases holds : w.copies caller with
    | none =>
      simp only [workflowMachine, holds] at stepped
      cases stepped
      exact kept_of_same (fun _ => rfl) rfl
    | some copy =>
      simp only [workflowMachine, holds] at stepped
      cases stepped
      rcases @called_cases H _ _ w caller request copy with
        ⟨-, same⟩ | ⟨yes, t', same, statuses, publications, -⟩
      · exact kept_of_same (fun id => by rw [same]) (by rw [same])
      obtain ⟨status, from_, committed⟩ := fresh copy holds yes
      refine ⟨fun id old here => ?_, fun id here => ?_, fun publication member new => ?_⟩
      · rw [same, statuses]
        by_cases mine : id = copy.id
        · subst mine
          cases committed.symm.trans here
          exact ⟨request.target, by rw [if_pos rfl, here]; rfl, moves_target from_⟩
        · exact ⟨old, by rw [if_neg mine, here], .inl rfl⟩
      · rw [same, statuses]
        by_cases mine : id = copy.id
        · subst mine
          cases committed.symm.trans here
          rw [if_pos rfl, here, target_of_rejected from_]
          rfl
        · rw [if_neg mine, here]
      · rw [same] at member
        rcases publications with ⟨kept, -⟩ | ⟨publishes, -⟩
        · exact absurd (kept ▸ member) new
        · refine ⟨caller, request, copy, rfl, holds, ?_⟩
          cases request <;> simp [WorkflowCall.target] at publishes
          simpa [WorkflowCall.followsFrom] using (List.mem_singleton.mp from_) ▸ committed

omit [Unicode] in
/-- A status that the call's target keeps or follows is one the call may follow. -/
private theorem followsFrom_of_moves {request : WorkflowCall} {status : ChangeSetStatus}
    (moves : request.target = status ∨ Moves status request.target)
    (final : status = .rejected → request.target = .rejected)
    (publishes : request.target = .published → status = .approved) :
    status ∈ request.followsFrom := by
  cases request <;> cases status <;>
    simp_all [WorkflowCall.followsFrom, WorkflowCall.target, Moves, allowedTransitions]

/-- A step that keeps the state machine is up to date. -/
theorem upToDate_of_kept (held : Held w) (stepped : workflowMachine.step w step = some w')
    (kept : WorkflowKept w step w') : UpToDate w step := by
  cases step with
  | load caller id => trivial
  | staff staff => trivial
  | call caller request =>
    intro copy holds admissible
    obtain ⟨status, committed⟩ := Option.isSome_iff_exists.mp (held.copies caller copy holds)
    refine ⟨status, ?_, committed⟩
    simp only [workflowMachine, show w.copies caller = some copy from holds] at stepped
    cases stepped
    rcases @called_cases H _ _ w caller request copy with
      ⟨no, -⟩ | ⟨-, t', same, statuses, publications, publishes⟩
    · rw [no] at admissible
      cases admissible
    have target : t'.statusOf copy.id = some request.target := by
      rw [statuses, if_pos rfl, committed]
      rfl
    refine followsFrom_of_moves ?_ ?_ ?_
    · obtain ⟨new, here, moves⟩ := kept.statuses copy.id status committed
      rw [same, target] at here
      cases here
      exact moves
    · rintro rfl
      have still := kept.rejected copy.id committed
      rw [same, target] at still
      exact Option.some.inj still
    · intro publishing
      rcases publications with ⟨unchanged, -⟩ | ⟨-, -, publication, id, added⟩
      · exact absurd unchanged (publishes publishing)
      · obtain ⟨caller', request', copy', call, holds', approved⟩ :=
          kept.published publication (by rw [same, added]; simp) fun old =>
            absurd (held.fresh publication old) (by rw [id]; exact Nat.lt_irrefl _)
        cases call
        cases (show w.copies caller = some copy from holds).symm.trans holds'
        exact Option.some.inj (committed.symm.trans approved)

/-- **A run keeps the workflow exactly when its calls are up to date.** -/
theorem workflow_is_kept_iff {t : Governance}
    (fresh : ∀ publication ∈ t.publications, publication.id < t.nextId)
    (steps : List (WorkflowStep H)) :
    workflowMachine.Always WorkflowKept ⟨t, fun _ => none⟩ steps ↔
      workflowMachine.Meets UpToDate ⟨t, fun _ => none⟩ steps :=
  Machine.always_iff_meets (fun _ _ _ held _ => held_step held)
    (fun _ _ _ _ => kept_of_upToDate) (fun _ _ _ => upToDate_of_kept)
    (fun w step => by
      cases step with
      | call caller request => cases held : w.copies caller <;> simp [workflowMachine, held]
      | _ => exact ⟨_, rfl⟩)
    ⟨by simp, fresh⟩

end

section Sample

attribute [local instance] Unicode.ascii

/-- A change set on its way, and a curriculum manager. -/
private def onFile (status : ChangeSetStatus) : Governance where
  staff :=
    { schools := [⟨1, true⟩]
      users := [⟨7, true⟩]
      roles := [⟨3, .schoolAdmin, true⟩]
      tenantRoles := [⟨1, 7, 3, true, 0⟩] }
  changeSets := [⟨5, some 2, "Grade 4 strands renamed.", status, none, none⟩]
  publications := []
  clock := 10
  nextId := 6

private def manager : Option CustomUser := some ⟨7, true⟩

/-- Loaded, approved and published by one caller. -/
private def inOneHand : List (WorkflowStep ℕ) :=
  [.load 0 5, .call 0 (.approve manager), .call 0 (.publish (some 2) manager (some 20) "Term 2.")]

/-- The change set is published once approved. -/
theorem one_hand_keeps_workflow :
    (workflowMachine.run ⟨onFile .detected, fun _ => none⟩ inOneHand).map
      (fun w => w.tables.statusOf 5) = some (some .published) ∧
    workflowMachine.Always WorkflowKept ⟨onFile .detected, fun _ => none⟩ inOneHand :=
  ⟨by decide +kernel, (workflow_is_kept_iff (by simp [onFile]) inOneHand).mpr
    (by decide +kernel)⟩

/-- Two callers load the change set; the first rejects it. -/
private def rejectedMeanwhile : List (WorkflowStep ℕ) :=
  [.load 0 5, .load 1 5, .call 0 (.reject manager)]

/-- The second approves its stale copy: the rejected change set is approved. -/
theorem rejected_change_set_is_approved :
    ¬ workflowMachine.Always WorkflowKept ⟨onFile .detected, fun _ => none⟩
      (rejectedMeanwhile ++ [.call 1 (.approve manager)]) := by
  intro always
  have rejects : (workflowMachine.run ⟨onFile .detected, fun _ => none⟩ rejectedMeanwhile).map
      (fun w => w.tables.statusOf 5) = some (some .rejected) := by
    decide +kernel
  have approves : (workflowMachine.run ⟨onFile .detected, fun _ => none⟩
      (rejectedMeanwhile ++ [.call 1 (.approve manager)])).map
      (fun w => w.tables.statusOf 5) = some (some .approved) := by
    decide +kernel
  obtain ⟨w, ran, rejected⟩ := Option.map_eq_some_iff.mp rejects
  obtain ⟨w', ran', approved⟩ := Option.map_eq_some_iff.mp approves
  obtain ⟨_, ran'', stepped⟩ := Machine.run_concat_some.mp ran'
  cases ran.symm.trans ran''
  rw [(always.at_step ran stepped).rejected 5 rejected] at approved
  cases approved

end Sample

end Darasa.Curriculum
