import Darasa.Core.Staff
import Darasa.Foundation.Machine
import Darasa.Runtime.Regex

/-!
The workflow of curriculum change sets and publications.

Every service works on the instance its caller holds: it checks and moves that
copy, then writes the whole copy over the stored row.  A call that raises leaves
the tables as they were, but not the caller's copy.
-/

namespace Darasa.Curriculum

open Darasa (Outcome Exn Unicode refuseIf Regex Machine)
open Darasa.Core (CustomUser Staff)

/-! ## Governance text -/

section

open Regex

variable [Unicode]

/-- `[a-z]` under `re.IGNORECASE`. -/
def letterIgnoringCase (c : Char) : Bool :=
  upper c || lowercase c || ['İ', 'ı', 'ſ', 'K'].contains c

/-- A literal character under `re.IGNORECASE`. -/
def charIgnoringCase (c : Char) : Regex := one (Unicode.sameLetter c)

/-- `PII_PATTERNS`. -/
def piiPatterns : List Regex :=
  [
    -- `\b(admission|adm)[-_\s]?(number|no\.?)?[-_\s]?[a-z0-9-]{3,}\b`
    seq boundary (seq (alt (litIgnoringCase "admission".toList) (litIgnoringCase "adm".toList))
      (seq (opt separator) (seq
        (opt (alt (litIgnoringCase "number".toList)
          (seq (litIgnoringCase "no".toList) (opt (lit '.')))))
        (seq (opt separator) (seq
          (atLeast 3 fun c => letterIgnoringCase c || asciiDigit c || c == '-') boundary))))),
    -- `\bguardian\b`
    seq boundary (seq (litIgnoringCase "guardian".toList) boundary),
    -- `\bpupil\s+[A-Z][a-z]+\s+[A-Z][a-z]+\b`
    named "pupil",
    -- `\blearner\s+[A-Z][a-z]+\s+[A-Z][a-z]+\b`
    named "learner"]
where
  separator : Regex := one fun c => c == '-' || c == '_' || Unicode.isSpace c
  spaces : Regex := plus (one Unicode.isSpace)
  name : Regex := seq (one letterIgnoringCase) (plus (one letterIgnoringCase))
  named (word : String) : Regex :=
    seq boundary (seq (litIgnoringCase word.toList)
      (seq spaces (seq name (seq spaces (seq name boundary)))))

/-- `HTML_INJECTION_PATTERNS`. -/
def htmlInjectionPatterns : List Regex :=
  [
    -- `<\s*(script|img|svg|iframe|object|embed|a)\b`
    seq (lit '<') (seq (star (one Unicode.isSpace)) (seq
      (["script", "img", "svg", "iframe", "object", "embed"].foldr
        (fun tag rest => alt (litIgnoringCase tag.toList) rest) (charIgnoringCase 'a')) boundary)),
    -- `\bon[a-z]+\s*=`
    seq boundary (seq (litIgnoringCase "on".toList) (seq (plus (one letterIgnoringCase))
      (seq (star (one Unicode.isSpace)) (lit '=')))),
    -- `javascript\s*:`
    seq (litIgnoringCase "javascript".toList) (seq (star (one Unicode.isSpace)) (lit ':'))]

/-- `validate_governance_text`. -/
def validateGovernanceText (value : String) : Outcome Unit := do
  refuseIf (Text.isBlank value) "summary" "Governance text is required."
  refuseIf (piiPatterns.any (·.search value.toList)) "summary"
    "Governance text must not contain learner PII."
  refuseIf (htmlInjectionPatterns.any (·.search value.toList)) "summary"
    "Governance text must not contain executable HTML."

end

/-! ## Rows -/

/-- `CurriculumChangeSet.Status`. -/
inductive ChangeSetStatus where
  | detected | quarantined | underReview | approved | rejected | published | superseded
  deriving DecidableEq, Repr

/-- A `CurriculumChangeSet`: a row, or the copy a caller holds. -/
structure CurriculumChangeSet where
  id : ℕ
  proposedCurriculumVersion : Option ℕ
  summary : String
  status : ChangeSetStatus
  reviewedAt : Option ℕ
  reviewedBy : Option ℕ
  deriving DecidableEq, Repr

/-- A `CurriculumPublication` row; a date is the number of its day. -/
structure CurriculumPublication where
  id : ℕ
  curriculumVersion : ℕ
  effectiveFrom : ℕ
  effectiveTo : Option ℕ
  isActive : Bool
  publicationNotes : String
  approvedBy : Option ℕ
  publishedAt : ℕ
  supersededBy : Option ℕ
  updatedAt : ℕ
  deriving DecidableEq, Repr

/-- The tables the workflow reads and writes. -/
structure Governance where
  staff : Staff
  changeSets : List CurriculumChangeSet
  publications : List CurriculumPublication
  clock : ℕ
  nextId : ℕ

namespace Governance

/-- The committed status of a change set. -/
def statusOf (t : Governance) (id : ℕ) : Option ChangeSetStatus :=
  (t.changeSets.find? (·.id == id)).map CurriculumChangeSet.status

/-- The stored row overwritten by a copy. -/
def overwrite (t : Governance) (copy : CurriculumChangeSet) : Governance :=
  { t with changeSets := t.changeSets.map fun row => if row.id = copy.id then copy else row }

/-- The version has an active publication. -/
def hasActivePublication (t : Governance) (version : ℕ) : Bool :=
  t.publications.any fun row => row.curriculumVersion == version && row.isActive

end Governance

/-! ## The state machine -/

/-- `ALLOWED_TRANSITIONS`. -/
def allowedTransitions : ChangeSetStatus → List ChangeSetStatus
  | .detected => [.quarantined, .underReview, .rejected]
  | .quarantined => [.underReview, .rejected]
  | .underReview => [.approved, .rejected]
  | .approved => [.published, .rejected]
  | .published => [.superseded]
  | .rejected => []
  | .superseded => []

/-- `validate_transition`. -/
def validateTransition (old new : ChangeSetStatus) : Outcome Unit :=
  refuseIf (!(allowedTransitions old).contains new) "status"
    "Curriculum workflow transition is not allowed."

/-- `_move_change_set_to_review`.  The transitions it validates are allowed. -/
def moveChangeSetToReview (changeSet : CurriculumChangeSet) : CurriculumChangeSet :=
  match changeSet.status with
  | .detected | .quarantined => { changeSet with status := .underReview }
  | _ => changeSet

/-! ## Services -/

section

variable [Unicode]

/-- `_save_clean` of a copy: the copy as `clean` leaves it, written over its row. -/
def saveClean (changeSet : CurriculumChangeSet) (t : Governance) :
    Outcome (CurriculumChangeSet × Governance) := do
  validateGovernanceText changeSet.summary
  let changeSet := { changeSet with summary := Text.strip changeSet.summary }
  return (changeSet, t.overwrite changeSet)

/-- What a call leaves: the caller's copy, and the tables it commits or what it
raises. -/
structure Called where
  copy : CurriculumChangeSet
  outcome : Outcome Governance

/-- Review a copy that has reached its new status, and save it. -/
def reviewAndSave (changeSet : CurriculumChangeSet) (status : ChangeSetStatus)
    (reviewer : CustomUser) (t : Governance) : Called :=
  let reviewed : CurriculumChangeSet :=
    { changeSet with
      status := status
      reviewedBy := some reviewer.id
      reviewedAt := some t.clock }
  match saveClean reviewed { t with clock := t.clock + 1 } with
  | .ok (saved, t) => ⟨saved, .ok t⟩
  | .error e => ⟨reviewed, .error e⟩

/-- `approve_change_set`. -/
def approveChangeSet (changeSet : CurriculumChangeSet) (reviewedBy : Option CustomUser)
    (t : Governance) : Called :=
  match t.staff.requireCurriculumTruthManager "reviewed_by" reviewedBy with
  | .error e => ⟨changeSet, .error e⟩
  | .ok reviewer =>
    let changeSet := moveChangeSetToReview changeSet
    match validateTransition changeSet.status .approved with
    | .error e => ⟨changeSet, .error e⟩
    | .ok _ => reviewAndSave changeSet .approved reviewer t

/-- `reject_change_set`. -/
def rejectChangeSet (changeSet : CurriculumChangeSet) (reviewedBy : Option CustomUser)
    (t : Governance) : Called :=
  match t.staff.requireCurriculumTruthManager "reviewed_by" reviewedBy with
  | .error e => ⟨changeSet, .error e⟩
  | .ok reviewer =>
    let checked : Outcome Unit :=
      if [.detected, .quarantined, .underReview, .approved].contains changeSet.status then .ok ()
      else validateTransition changeSet.status .rejected
    match checked with
    | .error e => ⟨changeSet, .error e⟩
    | .ok _ => reviewAndSave changeSet .rejected reviewer t

/-- The arguments of `create_curriculum_publication`.  `effectiveFrom` is `none`
for a text that is no date. -/
structure PublicationRequest where
  curriculumVersion : ℕ
  effectiveFrom : Option ℕ
  effectiveTo : Option ℕ
  publicationNotes : String
  approvedBy : Option CustomUser
  isActive : Bool
  workflowApproved : Bool
  deriving DecidableEq, Repr

/-- `create_curriculum_publication`. -/
def createCurriculumPublication (request : PublicationRequest) (t : Governance) :
    Outcome (CurriculumPublication × Governance) := do
  refuseIf (request.isActive && !request.workflowApproved) "is_active"
    "Active publication requires approved workflow."
  let _ ← if request.isActive then
      (t.staff.requireCurriculumTruthManager "approved_by" request.approvedBy).map some
    else .ok none
  match request.effectiveFrom with
  | none => throw (.validationError "effective_from"
      "“%(value)s” value has an invalid date format. It must be in YYYY-MM-DD format.")
  | some effectiveFrom =>
    validateGovernanceText request.publicationNotes
    refuseIf (request.effectiveTo.any (· < effectiveFrom)) "effective_to"
      "Publication end date must follow start date."
    refuseIf (request.isActive && t.hasActivePublication request.curriculumVersion) "__all__"
      "Constraint “curriculum_one_active_publication_per_version” is violated."
    let publication : CurriculumPublication :=
      { id := t.nextId
        curriculumVersion := request.curriculumVersion
        effectiveFrom := effectiveFrom
        effectiveTo := request.effectiveTo
        isActive := request.isActive
        publicationNotes := Text.strip request.publicationNotes
        approvedBy := request.approvedBy.map CustomUser.id
        publishedAt := t.clock
        supersededBy := none
        updatedAt := t.clock }
    return (publication,
      { t with
        publications := t.publications ++ [publication]
        nextId := t.nextId + 1
        clock := t.clock + 1 })

/-- `publish_curriculum_version`. -/
def publishCurriculumVersion (changeSet : CurriculumChangeSet) (curriculumVersion : Option ℕ)
    (approvedBy : Option CustomUser) (effectiveFrom : Option ℕ) (publicationNotes : String)
    (t : Governance) : Called :=
  let published : Outcome (CustomUser × Governance) := do
    match curriculumVersion with
    | none => throw (.validationError "curriculum_version"
        "Approved curriculum version is required.")
    | some version =>
      let approver ← t.staff.requireCurriculumTruthManager "approved_by" approvedBy
      refuseIf (changeSet.proposedCurriculumVersion != some version) "curriculum_version"
        "Published version must match the change set."
      validateTransition changeSet.status .published
      let (_, t) ← createCurriculumPublication
        { curriculumVersion := version
          effectiveFrom := effectiveFrom
          effectiveTo := none
          publicationNotes := publicationNotes
          approvedBy := approvedBy
          isActive := true
          workflowApproved := true } t
      return (approver, t)
  match published with
  | .error e => ⟨changeSet, .error e⟩
  | .ok (approver, t) => reviewAndSave changeSet .published approver t

end

/-! ## Callers with copies of their own -/

/-- The tables, and the copy each caller holds. -/
structure Workflow (H : Type) where
  tables : Governance
  copies : H → Option CurriculumChangeSet

/-- What a caller does. -/
inductive WorkflowCall where
  | approve (reviewedBy : Option CustomUser)
  | reject (reviewedBy : Option CustomUser)
  | publish (curriculumVersion : Option ℕ) (approvedBy : Option CustomUser)
      (effectiveFrom : Option ℕ) (publicationNotes : String)
  deriving DecidableEq, Repr

/-- One step: a caller loads a change set, or calls a service on its copy; or the
staff tables change. -/
inductive WorkflowStep (H : Type) where
  | load (caller : H) (id : ℕ)
  | call (caller : H) (request : WorkflowCall)
  | staff (staff : Staff)

section

variable [Unicode]

/-- A service called on a copy. -/
def WorkflowCall.run (request : WorkflowCall) (copy : CurriculumChangeSet) (t : Governance) :
    Called :=
  match request with
  | approve reviewedBy => approveChangeSet copy reviewedBy t
  | reject reviewedBy => rejectChangeSet copy reviewedBy t
  | publish version approvedBy effectiveFrom notes =>
    publishCurriculumVersion copy version approvedBy effectiveFrom notes t

variable {H : Type} [DecidableEq H]

/-- The workflow after a call: what it commits, and the copy it leaves. -/
def Workflow.called (w : Workflow H) (caller : H) (called : Called) : Workflow H where
  tables := called.outcome.toOption.getD w.tables
  copies := Function.update w.copies caller (some called.copy)

/-- Callers interleaved in any order, each call one transaction on its copy. -/
def workflowMachine : Machine (Workflow H) (WorkflowStep H) where
  step w
    | .load caller id =>
      some { w with
        copies := Function.update w.copies caller (w.tables.changeSets.find? (·.id == id)) }
    | .call caller request =>
      match w.copies caller with
      | none => some w
      | some copy => some (w.called caller (request.run copy w.tables))
    | .staff staff => some { w with tables := { w.tables with staff := staff } }

end

end Darasa.Curriculum
