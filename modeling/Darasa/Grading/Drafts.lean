import Darasa.Grading.Marks

/-!
Drafts of a marksheet: saving one, and what its version and its key protect.

A teacher has at most one open draft of an assessment.  A save replaces its rows and moves
its version on; it may name the version it is based on, and it carries a key of its own.
-/

namespace Darasa.Grading

open Darasa (Decimal Exn Json Machine Outcome Unicode cleanForeignKey cleanLength fullClean refuseIf
  refuseUnstorable requireSome)
open Darasa.Academics (TeacherAssignment)
open Darasa.Core (CustomUser)

/-! ## The version a request names -/

section

variable [Unicode]

/-- The blanks `int(str)` skips, once other blanks have become spaces. -/
def isAsciiBlank (c : Char) : Bool := [' ', '\t', '\n', '\r', '\x0b', '\x0c'].contains c

/-- The text `int(str)` reads: a text beyond ASCII has its blanks replaced first. -/
def intText (s : List Char) : List Char :=
  let spaced := if s.all Unicode.isAscii then s
    else s.map fun c => if Unicode.isSpace c then ' ' else c
  ((spaced.dropWhile isAsciiBlank).reverse.dropWhile isAsciiBlank).reverse

/-- Digits, with single underscores between them. -/
def groupedDigits : List Char → Option (List ℕ)
  | [] => none
  | [c] => (Unicode.digit? c).map ([·])
  | c :: '_' :: rest => do return (← Unicode.digit? c) :: (← groupedDigits rest)
  | c :: c' :: rest => do return (← Unicode.digit? c) :: (← groupedDigits (c' :: rest))

/-- `int(value)`. -/
def intOf : Json → Outcome ℤ
  | .bool b => .ok (if b then 1 else 0)
  | .int n => .ok n
  | .float (.finite negative coefficient exponent) =>
    let value := Decimal.binary (Decimal.finite negative coefficient exponent).toRat
    .ok (value.num.tdiv value.den)
  | .float (.infinity _) =>
    .error (.other "OverflowError" "cannot convert float infinity to integer")
  | .float (.nan _) => .error (.valueError "cannot convert float NaN to integer")
  | .str s =>
    let (negative, rest) := Decimal.splitSign (intText s.toList)
    match groupedDigits rest with
    | some digits =>
      .ok (if negative then -(Decimal.valueOf digits : ℤ) else Decimal.valueOf digits)
    | none =>
      .error (.valueError ("invalid literal for int() with base 10: " ++ (Json.str s).repr))
  | other =>
    .error (.typeError ("int() argument must be a string, a bytes-like object or a real number, " ++
      s!"not '{other.typeName}'"))

/-- `validate_draft_version`. -/
def validateDraftVersion (currentVersion : Option ℕ) (expectedVersion : Json) : Outcome Unit :=
  match currentVersion, expectedVersion with
  | none, _ => .ok ()
  | _, .null => .ok ()
  | some current, expected => do
    let expected ← intOf expected
    refuseIf (expected != current) "draft_version" "Draft version is stale."

end

/-! ## The rows -/

/-- The columns of a `GradeDraftBatch` that only its own checks read. -/
structure DraftPlace where
  cohort : ℕ
  learningArea : ℕ
  deriving DecidableEq, Repr

/-- The grading tables, with those columns of each draft by its key. -/
structure Desk where
  db : Database
  places : ℕ → DraftPlace

namespace Database

variable (db : Database)

/-- The draft of the tenant with the key, whatever its status. -/
def draftWithKey (tenant : ℕ) (key : String) : Option GradeDraftBatch :=
  db.drafts.find? fun row => row.tenant == tenant && row.idempotencyKey == key

/-- The open draft of a teacher, as `get_existing_draft_for_teacher` finds it. -/
def openDraft (tenant assessment teacher : ℕ) : Option GradeDraftBatch :=
  db.drafts.find? fun row =>
    row.tenant == tenant && row.assessment == assessment && row.teacher == teacher &&
      row.status == .draft

end Database

namespace GradeDraftBatch

/-- The fields of a `GradeDraftBatch`. -/
def cleanFields (self : GradeDraftBatch) (place : DraftPlace) (db : Database) : Outcome Unit := do
  cleanForeignKey "tenant" "school" (db.staff.schools.any (·.id == self.tenant))
  cleanForeignKey "assessment" "assessment" (db.assessment? self.assessment).isSome
  cleanForeignKey "teacher" "User" (db.staff.users.any (·.id == self.teacher))
  cleanForeignKey "teacher_assignment" "teacher assignment"
    (db.school.assignments.any (·.id == self.teacherAssignment))
  cleanForeignKey "cohort" "cohort" (db.school.cohort? place.cohort).isSome
  cleanForeignKey "learning_area" "learning area"
    (db.school.learningArea? place.learningArea).isSome
  cleanLength "idempotency_key" 180 self.idempotencyKey
  refuseIf (decide (2147483647 < self.version)) "version"
    "Ensure this value is less than or equal to 2147483647."

/-- `GradeDraftBatch.clean`, on its assessment and its assignment. -/
def clean (self : GradeDraftBatch) (place : DraftPlace) (db : Database) (assessment : Assessment)
    (assignment : TeacherAssignment) : Outcome Unit := do
  let relatedTenants :=
    [some assessment.tenant, some assignment.tenant,
      (db.school.cohort? place.cohort).map (·.tenant),
      (db.school.learningArea? place.learningArea).map (·.tenant)]
  refuseIf (relatedTenants.any (· != some self.tenant)) "tenant" "Grade draft tenant is invalid."
  refuseIf (assessment.cohort != place.cohort) "cohort" "Grade draft cohort is invalid."
  refuseIf (assessment.learningArea != place.learningArea) "learning_area"
    "Grade draft area is invalid."
  refuseIf (assignment.teacher != self.teacher) "teacher" "Grade draft teacher is invalid."
  refuseIf (assignment.cohort != place.cohort) "cohort" "Teacher assignment is invalid."
  refuseIf (assignment.learningArea != place.learningArea) "learning_area"
    "Teacher assignment is invalid."
  refuseIf (!assignment.isActive) "teacher_assignment" "Teacher assignment is inactive."
  refuseIf (decide (self.version < 1)) "version" "Draft version is invalid."

/-- The unique constraints, of a draft beside the other rows. -/
def validateConstraints (self : GradeDraftBatch) (db : Database) : Outcome Unit := do
  let others := db.drafts.filter (·.id != self.id)
  refuseIf (self.status == .draft && others.any fun row =>
      row.tenant == self.tenant && row.assessment == self.assessment &&
        row.teacher == self.teacher && row.status == .draft)
    "__all__" "Constraint “grading_one_active_draft_unique” is violated."
  refuseIf (!self.idempotencyKey.isEmpty && others.any fun row =>
      row.tenant == self.tenant && row.idempotencyKey == self.idempotencyKey)
    "__all__" "Constraint “grading_draft_idempotency_unique” is violated."

/-- `full_clean`. -/
def validate (self : GradeDraftBatch) (place : DraftPlace) (db : Database) (assessment : Assessment)
    (assignment : TeacherAssignment) : Outcome Unit := do
  fullClean (self.cleanFields place db) (self.clean place db assessment assignment)
  self.validateConstraints db

end GradeDraftBatch

/-- The draft row of a row that passed. -/
def NormalizedRow.draftRow (row : NormalizedRow) : Outcome GradeDraftRow := do
  refuseUnstorable (row.componentScores.storable && Text.storable row.remarks)
  return ⟨row.student, row.rawScore.map (·.hundredths), row.componentScores.jsonb, row.remarks⟩

/-! ## The service -/

section

variable [Unicode]

/-- A request to save a draft. -/
structure DraftRequest where
  actor : CustomUser
  tenant : ℕ
  assessment : ℕ
  payload : List (String × Json)
  idempotencyKey : String

/-- `payload.get("draft_version")`. -/
def DraftRequest.expectedVersion (request : DraftRequest) : Json :=
  (Json.lookup "draft_version" request.payload).getD .null

/-- The branch of `save_grade_draft` for a key already in use.  The hash a row stores is
never blank. -/
def replayDraft (existing : GradeDraftBatch) (actor : CustomUser) (assessment : Assessment)
    (rows : List Json) : Outcome GradeDraftBatch := do
  refuseIf (existing.assessment != assessment.id || existing.teacher != actor.id)
    "idempotency_key" "Idempotency key belongs to another context."
  refuseIf (existing.payloadHash != canonicalPayloadHash rows) "idempotency_key"
    "Idempotency key was used with a different payload."
  return existing

/-- The branch of `save_grade_draft` that creates a draft. -/
def createDraft (desk : Desk) (actor : CustomUser) (tenant : ℕ) (assessment : Assessment)
    (assignment : TeacherAssignment) (key : String) (rows : List Json)
    (normalized : List NormalizedRow) : Outcome (GradeDraftBatch × Desk) := do
  let place : DraftPlace := ⟨assessment.cohort, assessment.learningArea⟩
  let draft : GradeDraftBatch :=
    { id := desk.db.nextId
      tenant := tenant
      assessment := assessment.id
      teacher := actor.id
      teacherAssignment := assignment.id
      idempotencyKey := key
      payloadHash := canonicalPayloadHash rows
      version := 1
      status := .draft
      rows := [] }
  draft.validate place desk.db assessment assignment
  let draftRows ← normalized.mapM NormalizedRow.draftRow
  let draft := { draft with rows := draftRows }
  return (draft,
    { db := { desk.db with
        drafts := desk.db.drafts ++ [draft]
        nextId := desk.db.nextId + 1 }
      places := Function.update desk.places draft.id place })

/-- The branch of `save_grade_draft` that replaces the rows of the open draft. -/
def replaceDraft (desk : Desk) (draft : GradeDraftBatch) (assessment : Assessment) (key : String)
    (rows : List Json) (normalized : List NormalizedRow) :
    Outcome (GradeDraftBatch × Desk) :=
  match desk.db.school.assignments.find? (·.id == draft.teacherAssignment) with
  | none => .error (.doesNotExist "TeacherAssignment")
  | some assignment => do
    let draft :=
      { draft with
        version := draft.version + 1
        idempotencyKey := key
        payloadHash := canonicalPayloadHash rows }
    draft.validate (desk.places draft.id) desk.db assessment assignment
    let draftRows ← normalized.mapM NormalizedRow.draftRow
    let draft := { draft with rows := draftRows }
    return (draft,
      { desk with db := { desk.db with drafts := Table.replace (·.id) draft desk.db.drafts } })

/-- `save_grade_draft`. -/
def saveGradeDraft (desk : Desk) (request : DraftRequest) : Outcome (GradeDraftBatch × Desk) := do
  let db := desk.db
  let { actor, tenant, .. } := request
  refuseIf (!hasGradingRole db.staff actor tenant) "assessment" "Assessment is not available."
  rejectClientControlledFields request.payload
  let key ← requireIdempotencyKey request.idempotencyKey
  let assessment ← requireSome (db.assessmentForTeacher actor.id tenant request.assessment)
    "assessment" "Assessment is not available."
  let assignment ← db.teacherAssignmentFor actor.id tenant assessment
  let rows ← gradeRowsPayload request.payload
  refuseUnstorable (Text.storable key)
  match db.draftWithKey tenant key with
  | some existing => do
    let draft ← replayDraft existing actor assessment rows
    return (draft, desk)
  | none => do
    let draft := db.openDraft tenant assessment.id actor.id
    validateDraftVersion (draft.map (·.version)) request.expectedVersion
    let normalized ← validateGradeRows (db.rosterForAssessment tenant assessment)
      assessment.maxScore (db.assessmentComponents assessment) false rows
    match draft with
    | none => createDraft desk actor tenant assessment assignment key rows normalized
    | some draft => replaceDraft desk draft assessment key rows normalized

/-- What a browser or another service does. -/
inductive DeskStep where
  | saveDraft (request : DraftRequest)
  | marks (call : MarksCall)

/-- The tables after a step; one that raises is rolled back. -/
def DeskStep.next (desk : Desk) : DeskStep → Desk
  | saveDraft request =>
    match saveGradeDraft desk request with
    | .ok (_, desk') => desk'
    | .error _ => desk
  | marks call => { desk with db := call.next desk.db }

/-- Requests and other calls, in any order, each atomic. -/
def deskMachine : Machine Desk DeskStep where
  step desk label := some (label.next desk)

/-- The step is a submission of the teacher, accepted. -/
def DeskStep.Submits (tenant assessment teacher : ℕ) (desk : Desk) : DeskStep → Prop
  | marks (.submit request) =>
    request.tenant = tenant ∧ request.assessment = assessment ∧ request.actor.id = teacher ∧
      ∃ batch db', request.call desk.db = .ok (⟨batch, true⟩, db')
  | _ => False

/-! ## What a save does -/

variable {desk desk' : Desk} {request : DraftRequest} {draft old : GradeDraftBatch} {key : String}

/-- A draft is created. -/
structure Created (desk : Desk) (request : DraftRequest) (key : String) (draft : GradeDraftBatch)
    (desk' : Desk) : Prop where
  unused : desk.db.draftWithKey request.tenant key = none
  first : desk.db.openDraft request.tenant request.assessment request.actor.id = none
  id : draft.id = desk.db.nextId
  tenant : draft.tenant = request.tenant
  assessment : draft.assessment = request.assessment
  teacher : draft.teacher = request.actor.id
  idempotencyKey : draft.idempotencyKey = key
  version : draft.version = 1
  result : desk'.db = { desk.db with
    drafts := desk.db.drafts ++ [draft]
    nextId := desk.db.nextId + 1 }

/-- The rows of the open draft are replaced. -/
structure Replaced (desk : Desk) (request : DraftRequest) (key : String)
    (old draft : GradeDraftBatch) (desk' : Desk) : Prop where
  unused : desk.db.draftWithKey request.tenant key = none
  found : desk.db.openDraft request.tenant request.assessment request.actor.id = some old
  named : validateDraftVersion (some old.version) request.expectedVersion = .ok ()
  is : draft = { old with
    version := old.version + 1
    idempotencyKey := key
    payloadHash := draft.payloadHash
    rows := draft.rows }
  result : desk'.db = { desk.db with drafts := Table.replace (·.id) draft desk.db.drafts }

omit [Unicode] in
theorem replay_draft_ok {existing reply : GradeDraftBatch} {actor : CustomUser}
    {assessment : Assessment} {rows : List Json} :
    replayDraft existing actor assessment rows = .ok reply ↔
      existing.assessment = assessment.id ∧ existing.teacher = actor.id ∧
      existing.payloadHash = canonicalPayloadHash rows ∧ reply = existing := by
  unfold replayDraft
  simp only [Outcome.check_ok, refuseIf_ok, Bool.or_eq_false_iff, bne_eq_false_iff_eq, and_assoc]
  refine and_congr_right fun _ => and_congr_right fun _ => and_congr_right fun _ => ?_
  exact ⟨fun returned => (Except.ok.inj returned).symm, fun same => congrArg _ same.symm⟩

/-- A save returns a stored draft, creates one or replaces the rows of the open one. -/
theorem save_draft_ok (saved : saveGradeDraft desk request = .ok (draft, desk')) :
    Text.isBlank request.idempotencyKey = false ∧
    (desk.db.draftWithKey request.tenant (Text.strip request.idempotencyKey) = some draft ∧
        desk' = desk ∨
      Created desk request (Text.strip request.idempotencyKey) draft desk' ∨
      ∃ old, Replaced desk request (Text.strip request.idempotencyKey) old draft desk') := by
  unfold saveGradeDraft at saved
  obtain ⟨-, saved⟩ := Outcome.check_ok.mp saved
  obtain ⟨-, saved⟩ := Outcome.check_ok.mp saved
  obtain ⟨key, isKey, saved⟩ := Outcome.bind_ok.mp saved
  obtain ⟨filled, rfl⟩ := require_key_ok.mp isKey
  obtain ⟨assessment, found, saved⟩ := Outcome.bind_ok.mp saved
  obtain ⟨-, same, -⟩ := assessment_for_teacher (requireSome_ok.mp found)
  obtain ⟨assignment, -, saved⟩ := Outcome.bind_ok.mp saved
  obtain ⟨rows, -, saved⟩ := Outcome.bind_ok.mp saved
  obtain ⟨-, saved⟩ := Outcome.check_ok.mp saved
  refine ⟨filled, ?_⟩
  cases used : desk.db.draftWithKey request.tenant (Text.strip request.idempotencyKey) with
  | some existing =>
    rw [used] at saved
    obtain ⟨reply, replayed, saved⟩ := Outcome.bind_ok.mp saved
    cases saved
    obtain ⟨-, -, -, rfl⟩ := replay_draft_ok.mp replayed
    exact .inl ⟨rfl, rfl⟩
  | none =>
    rw [used] at saved
    obtain ⟨named, saved⟩ := Outcome.check_ok.mp saved
    obtain ⟨normalized, -, saved⟩ := Outcome.bind_ok.mp saved
    rw [same] at named saved
    refine .inr ?_
    cases there : desk.db.openDraft request.tenant request.assessment request.actor.id with
    | none =>
      simp only [there] at saved
      unfold createDraft at saved
      obtain ⟨-, saved⟩ := Outcome.check_ok.mp saved
      obtain ⟨draftRows, -, saved⟩ := Outcome.bind_ok.mp saved
      cases saved
      exact .inl ⟨used, there, rfl, rfl, same, rfl, rfl, rfl, rfl⟩
    | some old =>
      rw [there] at named
      simp only [there] at saved
      unfold replaceDraft at saved
      split at saved
      next => cases saved
      next =>
        obtain ⟨-, saved⟩ := Outcome.check_ok.mp saved
        obtain ⟨draftRows, -, saved⟩ := Outcome.bind_ok.mp saved
        cases saved
        exact .inr ⟨old, used, there, named, rfl, rfl⟩

/-- An accepted submission closes the open draft of its teacher. -/
theorem submit_closes {db db' : Database} {request : SubmitRequest} {batch : GradeSubmissionBatch}
    (submitted : request.call db = .ok (⟨batch, true⟩, db')) :
    db.nextId ≤ db'.nextId ∧
      db'.drafts = db.draftsSubmitted request.tenant request.assessment request.actor.id := by
  obtain ⟨key, assessment, assignment, rows, admitted,
    ⟨existing, -, replayed, -⟩ | ⟨-, accepted⟩⟩ := submit_ok.mp submitted
  · cases (replay_ok.mp replayed).2.2.2
  · obtain ⟨-, same, -⟩ := assessment_for_teacher admitted.found
    obtain ⟨filled, rfl⟩ := admitted.isKey
    have keyed : (Text.strip request.idempotencyKey).isEmpty = false := by
      rw [← blank_iff_strip, filled]
    obtain ⟨records, -, effect, tenant, ofAssessment, teacher, -⟩ := accept_ok keyed accepted
    have drafts := congrArg Database.drafts effect.result
    have later := congrArg Database.nextId effect.result
    rw [tenant, ofAssessment, teacher, same] at drafts
    simp only at drafts later
    exact ⟨by omega, drafts⟩

/-- Every other call leaves the drafts alone. -/
theorem call_keeps_drafts {db db' : Database} {call : MarksCall} (called : call.call db = .ok db')
    (quiet : ∀ request batch, call = .submit request → request.call db ≠ .ok (⟨batch, true⟩, db')) :
    db.nextId ≤ db'.nextId ∧ db'.drafts = db.drafts := by
  cases call with
  | save assessment =>
    obtain ⟨-, result⟩ := save_ok.mp called
    rw [result]
    exact ⟨le_refl _, rfl⟩
  | submit request =>
    obtain ⟨⟨⟨batch, emits⟩, db''⟩, submitted, rfl⟩ := Outcome.map_ok called
    obtain ⟨key, assessment, assignment, rows, admitted, ⟨_, -, -, rfl⟩ | ⟨-, accepted⟩⟩ :=
      submit_ok.mp submitted
    · exact ⟨le_refl _, rfl⟩
    · obtain ⟨filled, rfl⟩ := admitted.isKey
      have keyed : (Text.strip request.idempotencyKey).isEmpty = false := by
        rw [← blank_iff_strip, filled]
      obtain ⟨records, rfl, -⟩ := accept_ok keyed accepted
      exact absurd submitted (quiet request batch rfl)
  | createCorrection actor tenant record payload =>
    obtain ⟨reply, created, rfl⟩ := Outcome.map_ok called
    obtain ⟨record, entry, requested⟩ := create_correction_ok created
    rw [requested.result]
    exact ⟨by simp only; omega, rfl⟩
  | reviewAsHod actor tenant correction decision reason =>
    obtain ⟨reply, reviewed, rfl⟩ := Outcome.map_ok called
    obtain ⟨before, entry, moved⟩ := review_as_hod_ok reviewed
    rw [moved.result]
    exact ⟨Nat.le_succ _, rfl⟩
  | escalate actor tenant correction reason =>
    obtain ⟨reply, escalated, rfl⟩ := Outcome.map_ok called
    obtain ⟨before, entry, moved⟩ := escalate_ok escalated
    rw [moved.result]
    exact ⟨Nat.le_succ _, rfl⟩
  | reviewAsAcademicHead actor tenant correction decision reason =>
    obtain ⟨reply, reviewed, rfl⟩ := Outcome.map_ok called
    obtain ⟨before, entry, moved⟩ := review_as_academic_head_ok reviewed
    rw [moved.result]
    exact ⟨Nat.le_succ _, rfl⟩
  | applyCorrection actor tenant correction =>
    obtain ⟨reply, applied, rfl⟩ := Outcome.map_ok called
    obtain ⟨before, record, assessment, corrected, entry, rfl, effect⟩ := apply_ok applied
    rw [effect.result]
    exact ⟨Nat.le_succ _, rfl⟩
  | createSchema actor tenant payload =>
    obtain ⟨reply, created, rfl⟩ := Outcome.map_ok called
    obtain ⟨rows, result⟩ := create_schema_ok created
    rw [result]
    exact ⟨Nat.le_succ _, rfl⟩
  | activateSchema actor tenant schema =>
    obtain ⟨reply, activated, rfl⟩ := Outcome.map_ok called
    rw [activate_schema_ok activated]
    exact ⟨le_refl _, rfl⟩
  | deprecateSchema actor tenant schema =>
    obtain ⟨reply, deprecated, rfl⟩ := Outcome.map_ok called
    rw [deprecate_schema_ok deprecated]
    exact ⟨le_refl _, rfl⟩
  | bindSchema actor tenant assessment schema =>
    obtain ⟨row, target, -, -, saved⟩ := bind_schema_ok called
    obtain ⟨-, result⟩ := save_ok.mp saved
    rw [result]
    exact ⟨le_refl _, rfl⟩
  | outside staff school curriculum ticks =>
    cases called
    exact ⟨le_refl _, rfl⟩

/-! ## The invariant -/

/-- Drafts stand under keys of their own, all drawn already, with at most one open for each
teacher and assessment. -/
structure Drafted (db : Database) : Prop where
  ids : (db.drafts.map (·.id)).Nodup
  drawn : ∀ draft ∈ db.drafts, draft.id < db.nextId
  single : ∀ a ∈ db.drafts, ∀ b ∈ db.drafts, a.tenant = b.tenant → a.assessment = b.assessment →
    a.teacher = b.teacher → a.status = .draft → b.status = .draft → a = b

/-- A draft found later: the same row, whose rows are others only under a higher version, and
which stays as it is once it is closed. -/
structure GradeDraftBatch.Later (before after : GradeDraftBatch) : Prop where
  id : after.id = before.id
  tenant : after.tenant = before.tenant
  assessment : after.assessment = before.assessment
  teacher : after.teacher = before.teacher
  version : before.version ≤ after.version
  same : after.version = before.version → after = { before with status := after.status }
  closed : before.status ≠ .draft → after = before

omit [Unicode] in
theorem GradeDraftBatch.Later.refl (draft : GradeDraftBatch) : draft.Later draft :=
  ⟨rfl, rfl, rfl, rfl, le_refl _, fun _ => rfl, fun _ => rfl⟩

omit [Unicode] in
theorem GradeDraftBatch.Later.trans {a b c : GradeDraftBatch} (first : a.Later b)
    (second : b.Later c) : a.Later c := by
  refine ⟨second.id.trans first.id, second.tenant.trans first.tenant,
    second.assessment.trans first.assessment, second.teacher.trans first.teacher,
    first.version.trans second.version, fun same => ?_, fun isClosed => ?_⟩
  · have kept := first.version
    have kept' := second.version
    have here := first.same (by omega)
    have there := second.same (by omega)
    rw [there, here]
  · have here := first.closed isClosed
    rw [second.closed (here ▸ isClosed), here]

/-- Every draft is found later. -/
def Keeps (db db' : Database) : Prop := ∀ draft ∈ db.drafts, ∃ after ∈ db'.drafts, draft.Later after

omit [Unicode] in
theorem Keeps.trans {a b c : Database} (first : Keeps a b) (second : Keeps b c) : Keeps a c := by
  intro draft member
  obtain ⟨mid, member', later⟩ := first draft member
  obtain ⟨after, member'', later'⟩ := second mid member'
  exact ⟨after, member'', later.trans later'⟩

omit [Unicode] in
/-- The open draft is the one row that is open. -/
theorem open_draft_iff {db : Database} (drafted : Drafted db) {tenant assessment teacher : ℕ} :
    db.openDraft tenant assessment teacher = some draft ↔
      draft ∈ db.drafts ∧ draft.tenant = tenant ∧ draft.assessment = assessment ∧
        draft.teacher = teacher ∧ draft.status = .draft := by
  have isOpen : ∀ row : GradeDraftBatch, ((row.tenant == tenant && row.assessment == assessment &&
      row.teacher == teacher && row.status == .draft) = true) ↔
      row.tenant = tenant ∧ row.assessment = assessment ∧ row.teacher = teacher ∧
        row.status = .draft := by
    intro row
    simp only [Bool.and_eq_true, beq_iff_eq, and_assoc]
  constructor
  · intro found
    have passes := List.find?_some found
    exact ⟨List.mem_of_find?_eq_some found, (isOpen draft).mp passes⟩
  · rintro ⟨member, open_⟩
    unfold Database.openDraft
    cases found : db.drafts.find? _ with
    | none => exact absurd ((isOpen draft).mpr open_) (List.find?_eq_none.mp found draft member)
    | some row =>
      have passes := List.find?_some found
      obtain ⟨tenant', assessment', teacher', status'⟩ := (isOpen row).mp passes
      obtain ⟨rfl, rfl, rfl, status⟩ := open_
      exact congrArg some (drafted.single row (List.mem_of_find?_eq_some found) draft member
        tenant' assessment' teacher' status' status)

/-! ## What a step does -/

/-- What a step does to the drafts. -/
inductive DraftEffect (desk : Desk) (label : DeskStep) (desk' : Desk) : Prop where
  | untouched (quiet : ∀ tenant assessment teacher, ¬ label.Submits tenant assessment teacher desk)
      (later : desk.db.nextId ≤ desk'.db.nextId) (drafts : desk'.db.drafts = desk.db.drafts)
  | created (request : DraftRequest) (key : String) (draft : GradeDraftBatch)
      (isSave : label = .saveDraft request) (created : Created desk request key draft desk')
  | replaced (request : DraftRequest) (key : String) (old draft : GradeDraftBatch)
      (isSave : label = .saveDraft request) (replaced : Replaced desk request key old draft desk')
  | submitted (request : SubmitRequest)
      (isSubmit : ∀ tenant assessment teacher, label.Submits tenant assessment teacher desk ↔
        request.tenant = tenant ∧ request.assessment = assessment ∧ request.actor.id = teacher)
      (later : desk.db.nextId ≤ desk'.db.nextId)
      (drafts : desk'.db.drafts =
        desk.db.draftsSubmitted request.tenant request.assessment request.actor.id)

theorem next_saved (saved : saveGradeDraft desk request = .ok (draft, desk')) :
    (DeskStep.saveDraft request).next desk = desk' := by
  simp only [DeskStep.next, saved]

theorem next_refused {e : Exn} (refused : saveGradeDraft desk request = .error e) :
    (DeskStep.saveDraft request).next desk = desk := by
  simp only [DeskStep.next, refused]

theorem step_effect (desk : Desk) (label : DeskStep) :
    DraftEffect desk label (label.next desk) := by
  cases label with
  | saveDraft request =>
    cases saved : saveGradeDraft desk request with
    | error e =>
      rw [next_refused saved]
      exact .untouched (fun _ _ _ => id) (le_refl _) rfl
    | ok result =>
      obtain ⟨draft, desk'⟩ := result
      rw [next_saved saved]
      obtain ⟨-, ⟨-, rfl⟩ | created | ⟨old, replaced⟩⟩ := save_draft_ok saved
      · exact .untouched (fun _ _ _ => id) (le_refl _) rfl
      · exact .created request _ draft rfl created
      · exact .replaced request _ old draft rfl replaced
  | marks call =>
    by_cases submits : ∃ tenant assessment teacher,
      (DeskStep.marks call).Submits tenant assessment teacher desk
    · obtain ⟨tenant, assessment, teacher, submits⟩ := submits
      cases call with
      | submit request =>
        obtain ⟨-, -, -, batch, db', submitted⟩ := submits
        obtain ⟨later, drafts⟩ := submit_closes submitted
        have next : (DeskStep.marks (.submit request)).next desk = { desk with db := db' } := by
          simp only [DeskStep.next, MarksCall.next, MarksCall.call, submitted]
          rfl
        rw [next]
        refine .submitted request (fun _ _ _ => ?_) later drafts
        exact ⟨fun is => ⟨is.1, is.2.1, is.2.2.1⟩,
          fun is => ⟨is.1, is.2.1, is.2.2, batch, db', submitted⟩⟩
      | _ => exact submits.elim
    · have quiet : ∀ tenant assessment teacher,
          ¬ (DeskStep.marks call).Submits tenant assessment teacher desk :=
        fun tenant assessment teacher is => submits ⟨tenant, assessment, teacher, is⟩
      rcases @next_cases _ desk.db call with same | called
      · exact .untouched quiet (congrArg Database.nextId same).ge (congrArg Database.drafts same)
      · obtain ⟨later, drafts⟩ := call_keeps_drafts called (by
          rintro request batch rfl submitted
          exact quiet _ _ _ ⟨rfl, rfl, rfl, batch, _, submitted⟩)
        exact .untouched quiet later drafts

omit [Unicode] in
/-- A draft among those a submission closes. -/
theorem mem_drafts_submitted {db : Database} {tenant assessment teacher : ℕ}
    (member : draft ∈ db.draftsSubmitted tenant assessment teacher) :
    ∃ before ∈ db.drafts, before.Later draft ∧
      (draft = before ∨ before.status = .draft ∧ draft = { before with status := .submitted }) := by
  obtain ⟨before, known, rfl⟩ := List.mem_map.mp member
  refine ⟨before, known, ?_⟩
  split
  next closes =>
    exact ⟨⟨rfl, rfl, rfl, rfl, le_refl _, fun _ => rfl,
      fun isClosed => absurd closes.2.2.2 isClosed⟩, .inr ⟨closes.2.2.2, rfl⟩⟩
  next => exact ⟨.refl _, .inl rfl⟩

variable {label : DeskStep}

omit [Unicode] in
theorem Created.new (created : Created desk request key draft desk') :
    ∀ old ∈ desk.db.drafts, old.tenant = draft.tenant → old.assessment = draft.assessment →
      old.teacher = draft.teacher → old.status ≠ .draft := by
  intro old member tenant assessment teacher isOpen
  refine List.find?_eq_none.mp created.first old member ?_
  rw [tenant, assessment, teacher, created.tenant, created.assessment, created.teacher, isOpen]
  simp

theorem Replaced.open (replaced : Replaced desk request key old draft desk') :
    old ∈ desk.db.drafts ∧ old.status = .draft := by
  have passes := List.find?_some replaced.found
  simp only [Bool.and_eq_true, beq_iff_eq] at passes
  exact ⟨List.mem_of_find?_eq_some replaced.found, passes.2⟩

theorem Replaced.later (replaced : Replaced desk request key old draft desk') :
    old.Later draft := by
  rw [replaced.is]
  exact ⟨rfl, rfl, rfl, rfl, Nat.le_succ _, fun same => absurd same (Nat.succ_ne_self _),
    fun isClosed => absurd replaced.open.2 isClosed⟩

/-- What a step makes of a row: it is found later, and is open exactly if it was and no
submission of its teacher is accepted. -/
theorem effect_row (drafted : Drafted desk.db) (effect : DraftEffect desk label desk')
    {row : GradeDraftBatch} (member : row ∈ desk.db.drafts) :
    ∃ after ∈ desk'.db.drafts, row.Later after ∧
      (after.status = .draft ↔
        row.status = .draft ∧ ¬ label.Submits row.tenant row.assessment row.teacher desk) := by
  cases effect with
  | untouched quiet later drafts =>
    exact ⟨row, drafts ▸ member, .refl row, by simp only [quiet, not_false_eq_true, and_true]⟩
  | created request key draft isSave created =>
    rw [created.result, isSave]
    exact ⟨row, List.mem_append_left _ member, .refl row, by simp [DeskStep.Submits]⟩
  | replaced request key old draft isSave replaced =>
    rw [replaced.result, isSave]
    refine ⟨_, List.mem_map_of_mem member, ?_⟩
    split
    next same =>
      rw [Table.eq_of_key drafted.ids member replaced.open.1 (same.trans replaced.later.id)]
      refine ⟨replaced.later, ?_⟩
      rw [replaced.is]
      simp [DeskStep.Submits]
    next => exact ⟨.refl row, by simp [DeskStep.Submits]⟩
  | submitted request isSubmit later drafts =>
    rw [drafts]
    refine ⟨_, List.mem_map_of_mem member, ?_⟩
    split
    next closes =>
      obtain ⟨tenant, assessment, teacher, wasOpen⟩ := closes
      refine ⟨⟨rfl, rfl, rfl, rfl, le_refl _, fun _ => rfl, fun shut => absurd wasOpen shut⟩, ?_⟩
      simp [isSubmit, tenant, assessment, teacher]
    next stays =>
      refine ⟨.refl row, ⟨fun isOpen => ⟨isOpen, fun submits => stays ?_⟩, And.left⟩⟩
      obtain ⟨tenant, assessment, teacher⟩ := (isSubmit _ _ _).mp submits
      exact ⟨tenant.symm, assessment.symm, teacher.symm, isOpen⟩

/-- Every step keeps the invariant. -/
theorem effect_drafted (drafted : Drafted desk.db) (effect : DraftEffect desk label desk') :
    Drafted desk'.db := by
  obtain ⟨ids, drawn, single⟩ := id drafted
  cases effect with
  | untouched quiet later drafts =>
    exact ⟨drafts ▸ ids, fun row member => (drawn row (drafts ▸ member)).trans_le later,
      drafts ▸ single⟩
  | created request key draft isSave created =>
    rw [created.result]
    refine ⟨?_, ?_, ?_⟩
    · refine Table.nodup_concat ids fun old member same => ?_
      have below := drawn old member
      rw [same, created.id] at below
      exact lt_irrefl _ below
    · intro row member
      rcases List.mem_append.mp member with known | new
      · exact (drawn row known).trans (Nat.lt_succ_self _)
      · obtain rfl : row = draft := by simpa using new
        rw [created.id]
        exact Nat.lt_succ_self _
    · intro a member b member' tenant assessment teacher isOpen isOpen'
      rcases List.mem_append.mp member with known | new <;>
        rcases List.mem_append.mp member' with known' | new'
      · exact single a known b known' tenant assessment teacher isOpen isOpen'
      · obtain rfl : b = draft := by simpa using new'
        exact absurd isOpen (created.new a known tenant assessment teacher)
      · obtain rfl : a = draft := by simpa using new
        exact absurd isOpen' (created.new b known' tenant.symm assessment.symm teacher.symm)
      · rw [List.mem_singleton.mp new, List.mem_singleton.mp new']
  | replaced request key old draft isSave replaced =>
    obtain ⟨there, wasOpen⟩ := replaced.open
    obtain ⟨sameId, sameTenant, sameAssessment, sameTeacher, -⟩ := replaced.later
    -- another open row of the teacher would stand beside the one replaced
    have alone : ∀ row ∈ desk.db.drafts, row.id ≠ draft.id → row.tenant = draft.tenant →
        row.assessment = draft.assessment → row.teacher = draft.teacher → row.status ≠ .draft := by
      intro row known other tenant assessment teacher isOpen
      have same := single row known old there (tenant.trans sameTenant)
        (assessment.trans sameAssessment) (teacher.trans sameTeacher) isOpen wasOpen
      exact other (same ▸ sameId.symm)
    rw [replaced.result]
    refine ⟨?_, fun row member => ?_, ?_⟩
    · simp only [Table.keys_replace]
      exact ids
    · rcases Table.mem_replace member with rfl | ⟨known, -⟩
      · rw [sameId]
        exact drawn old there
      · exact drawn row known
    · intro a member b member' tenant assessment teacher isOpen isOpen'
      rcases Table.mem_replace member with rfl | ⟨known, other⟩ <;>
        rcases Table.mem_replace member' with rfl | ⟨known', other'⟩
      · rfl
      · exact absurd isOpen' (alone b known' other' tenant.symm assessment.symm teacher.symm)
      · exact absurd isOpen (alone a known other tenant assessment teacher)
      · exact single a known b known' tenant assessment teacher isOpen isOpen'
  | submitted request isSubmit later drafts =>
    -- a row that is open after a submission is one that was
    have wasOpen : ∀ row ∈ desk'.db.drafts, row.status = .draft → row ∈ desk.db.drafts := by
      intro row member isOpen
      rw [drafts] at member
      obtain ⟨before, known, -, rfl | ⟨-, rfl⟩⟩ := mem_drafts_submitted member
      · exact known
      · cases isOpen
    refine ⟨?_, fun row member => ?_, ?_⟩
    · have same : desk'.db.drafts.map (·.id) = desk.db.drafts.map (·.id) := by
        rw [drafts, Database.draftsSubmitted, List.map_map]
        refine List.map_congr_left fun row _ => ?_
        simp only [Function.comp_apply]
        split <;> rfl
      exact same ▸ ids
    · rw [drafts] at member
      obtain ⟨before, known, kept, -⟩ := mem_drafts_submitted member
      rw [kept.id]
      exact (drawn before known).trans_le later
    · intro a member b member' tenant assessment teacher isOpen isOpen'
      exact single a (wasOpen a member isOpen) b (wasOpen b member' isOpen') tenant assessment
        teacher isOpen isOpen'

/-- Without a submission of its teacher the open draft stays open. -/
theorem effect_open (drafted : Drafted desk.db) (effect : DraftEffect desk label desk')
    {tenant assessment teacher : ℕ}
    (isOpen : desk.db.openDraft tenant assessment teacher = some old)
    (stays : ¬ label.Submits tenant assessment teacher desk) :
    ∃ after, desk'.db.openDraft tenant assessment teacher = some after ∧ old.Later after := by
  obtain ⟨member, rfl, rfl, rfl, status⟩ := (open_draft_iff drafted).mp isOpen
  obtain ⟨after, member', later, stillOpen⟩ := effect_row drafted effect member
  exact ⟨after, (open_draft_iff (effect_drafted drafted effect)).mpr ⟨member', later.tenant,
    later.assessment, later.teacher, stillOpen.mpr ⟨status, stays⟩⟩, later⟩

/-! ## Runs -/

variable {labels : List DeskStep} {s t : Desk} {tenant assessment teacher : ℕ}

theorem run_drafted (drafted : Drafted s.db) (ran : deskMachine.run s labels = some t) :
    Drafted t.db := by
  have keeps : ∀ s label t, Drafted s.db → deskMachine.step s label = some t → Drafted t.db := by
    rintro s label t drafted stepped
    cases stepped
    exact effect_drafted drafted (step_effect s label)
  have kept := Machine.invariant_of_steps keeps drafted ran
  exact kept

/-- Through any run a draft is found later. -/
theorem run_keeps (drafted : Drafted s.db) (ran : deskMachine.run s labels = some t)
    (member : old ∈ s.db.drafts) : ∃ after ∈ t.db.drafts, old.Later after := by
  have keeps : ∀ s label t, (Drafted s.db ∧ ∃ row ∈ s.db.drafts, old.Later row) →
      deskMachine.step s label = some t → Drafted t.db ∧ ∃ row ∈ t.db.drafts, old.Later row := by
    rintro s label t ⟨drafted, row, member, later⟩ stepped
    cases stepped
    have effect := step_effect s label
    obtain ⟨after, member', later', -⟩ := effect_row drafted effect member
    exact ⟨effect_drafted drafted effect, after, member', later.trans later'⟩
  exact (Machine.invariant_of_steps keeps ⟨drafted, old, member, .refl old⟩ ran).2

/-- Through a run without a submission of its teacher, the open draft stays open. -/
theorem run_open (drafted : Drafted s.db)
    (isOpen : s.db.openDraft tenant assessment teacher = some old)
    (stays : deskMachine.Meets
      (fun s label => ¬ label.Submits tenant assessment teacher s) s labels)
    (ran : deskMachine.run s labels = some t) :
    ∃ after, t.db.openDraft tenant assessment teacher = some after ∧ old.Later after := by
  have keeps : ∀ s label t, (Drafted s.db ∧ ∃ row,
        s.db.openDraft tenant assessment teacher = some row ∧ old.Later row) →
      ¬ label.Submits tenant assessment teacher s → deskMachine.step s label = some t →
      Drafted t.db ∧
        ∃ row, t.db.openDraft tenant assessment teacher = some row ∧ old.Later row := by
    rintro s label t ⟨drafted, row, found, later⟩ stays stepped
    cases stepped
    have effect := step_effect s label
    obtain ⟨after, found', later'⟩ := effect_open drafted effect found stays
    exact ⟨effect_drafted drafted effect, after, found', later.trans later'⟩
  exact (Machine.invariant_of_run keeps ⟨drafted, old, isOpen, .refl old⟩ stays ran).2

/-- A draft that is open at the end was not submitted on the way. -/
theorem open_not_submitted (drafted : Drafted s.db)
    (isOpen : s.db.openDraft tenant assessment teacher = some old)
    (ran : deskMachine.run s labels = some t)
    (still : t.db.openDraft tenant assessment teacher = some old) :
    deskMachine.Meets (fun s label => ¬ label.Submits tenant assessment teacher s) s labels := by
  obtain ⟨member, rfl, rfl, rfl, -⟩ := (open_draft_iff drafted).mp isOpen
  rw [Machine.meets_iff_prefixes]
  rintro pre label post r rfl ranPre submits
  -- its row is closed by the submission and stays closed
  have drafted' := run_drafted drafted ranPre
  obtain ⟨row, known, later⟩ := run_keeps drafted ranPre member
  have effect := step_effect r label
  obtain ⟨after, known', later', stillOpen⟩ := effect_row drafted' effect known
  have shut : after.status ≠ .draft := by
    rw [later.tenant, later.assessment, later.teacher] at stillOpen
    exact fun open_ => (stillOpen.mp open_).2 submits
  rw [Machine.run_append, ranPre, Option.bind_some, Machine.run_cons_some] at ran
  obtain ⟨r', stepped, ranPost⟩ := ran
  cases stepped
  obtain ⟨last, known'', later''⟩ := run_keeps (effect_drafted drafted' effect) ranPost known'
  have drafted'' := run_drafted (effect_drafted drafted' effect) ranPost
  obtain ⟨there, -, -, -, open_⟩ := (open_draft_iff drafted'').mp still
  have same : last = old := Table.eq_of_key drafted''.ids known'' there
    (later''.id.trans (later'.id.trans later.id))
  have closed := later''.closed shut
  rw [same] at closed
  exact shut (closed ▸ open_)

/-! ## What a save is based on -/

/-- A request names a version of the draft. -/
def DraftRequest.Names (request : DraftRequest) (version : ℕ) : Prop :=
  request.expectedVersion ≠ .null ∧ intOf request.expectedVersion = .ok (version : ℤ)

/-- The version check of an open draft passes a request that names its version or none. -/
theorem validate_draft_version_ok {current : ℕ} {expected : Json} :
    validateDraftVersion (some current) expected = .ok () ↔
      expected = .null ∨ intOf expected = .ok (current : ℤ) := by
  by_cases null : expected = .null
  · rw [null]
    exact ⟨fun _ => .inl rfl, fun _ => rfl⟩
  · have asked : validateDraftVersion (some current) expected = (do
        let n ← intOf expected
        refuseIf (n != current) "draft_version" "Draft version is stale.") := by
      cases expected <;> first | exact absurd rfl null | rfl
    rw [asked, Outcome.bind_ok]
    simp only [refuseIf_ok, bne_eq_false_iff_eq, null, false_or]
    constructor
    · rintro ⟨n, is, rfl⟩
      exact is
    · intro is
      exact ⟨_, is, rfl⟩

theorem named_version {current version : ℕ} (names : request.Names version)
    (passes : validateDraftVersion (some current) request.expectedVersion = .ok ()) :
    current = version := by
  have is := (validate_draft_version_ok.mp passes).resolve_left names.1
  rw [names.2] at is
  exact Nat.cast_inj.mp (Except.ok.inj is).symm

/-- **What a save overwrites is what its session saw.**  A session reads the open draft; any
requests and calls follow; then its save, which names the version read, writes.  The draft it
writes over is exactly the one it read, unless a submission of the teacher was accepted in
between. -/
theorem save_is_based_on_what_was_seen_iff {desk s t t' : Desk} {before between : List DeskStep}
    {seen : GradeDraftBatch} (start : desk.db.drafts = [])
    (ran : deskMachine.run desk before = some s)
    (saw : s.db.openDraft request.tenant request.assessment request.actor.id = some seen)
    (ran' : deskMachine.run s between = some t) (names : request.Names seen.version)
    (saved : saveGradeDraft t request = .ok (draft, t')) (writes : t' ≠ t) :
    t.db.openDraft request.tenant request.assessment request.actor.id = some seen ↔
      deskMachine.Meets (fun s label =>
        ¬ label.Submits request.tenant request.assessment request.actor.id s) s between := by
  have empty : Drafted desk.db := by
    refine ⟨?_, ?_, ?_⟩ <;> simp [start]
  have drafted := run_drafted empty ran
  constructor
  · exact open_not_submitted drafted saw ran'
  · intro stays
    obtain ⟨current, found, later⟩ := run_open drafted saw stays ran'
    obtain ⟨-, ⟨-, rfl⟩ | created | ⟨old, replaced⟩⟩ := save_draft_ok saved
    · exact absurd rfl writes
    · rw [created.first] at found
      cases found
    · have isCurrent := replaced.found.symm.trans found
      cases isCurrent
      have version := named_version names replaced.named
      have same := later.same version
      have status := replaced.open.2
      have wasOpen := ((open_draft_iff drafted).mp saw).2.2.2.2
      rw [found, same, status, ← wasOpen]

/-- After a save over an open draft, the saved one is open. -/
theorem replaced_open (drafted : Drafted desk.db)
    (replaced : Replaced desk request key old draft desk') :
    desk'.db.openDraft request.tenant request.assessment request.actor.id = some draft := by
  obtain ⟨-, tenant, assessment, teacher, status⟩ := (open_draft_iff drafted).mp replaced.found
  have later := replaced.later
  have drafted' := effect_drafted drafted (.replaced request key old draft rfl replaced)
  refine (open_draft_iff drafted').mpr ⟨?_, later.tenant.trans tenant,
    later.assessment.trans assessment, later.teacher.trans teacher, ?_⟩
  · rw [replaced.result]
    refine List.mem_map.mpr ⟨old, replaced.open.1, if_pos later.id.symm⟩
  · rw [replaced.is]
    exact status

/-- **A save delivered again changes nothing**, whatever was accepted in between, unless its
key has been replaced on the draft and it named no version, or created the draft, or the
teacher's submission was accepted in between. -/
theorem redelivered_save_changes {desk t t' u : Desk} {before between : List DeskStep}
    (start : desk.db.drafts = []) (ran : deskMachine.run desk before = some t)
    (saved : saveGradeDraft t request = .ok (draft, t')) (writes : t' ≠ t)
    (ran' : deskMachine.run t' between = some u)
    (changes : (DeskStep.saveDraft request).next u ≠ u) :
    u.db.draftWithKey request.tenant (Text.strip request.idempotencyKey) = none ∧
      (request.expectedVersion = .null ∨
        t.db.openDraft request.tenant request.assessment request.actor.id = none ∨
        ¬ deskMachine.Meets (fun s label =>
          ¬ label.Submits request.tenant request.assessment request.actor.id s) t' between) := by
  have empty : Drafted desk.db := by
    refine ⟨?_, ?_, ?_⟩ <;> simp [start]
  have drafted := run_drafted empty ran
  cases again : saveGradeDraft u request with
  | error e => exact absurd (next_refused again) changes
  | ok result =>
    obtain ⟨draft', u'⟩ := result
    rw [next_saved again] at changes
    -- the key is gone, and the version, when one is named, is that of the draft open now
    have later : u.db.draftWithKey request.tenant (Text.strip request.idempotencyKey) = none ∧
        ∀ current, u.db.openDraft request.tenant request.assessment request.actor.id =
          some current → request.expectedVersion = .null ∨
            intOf request.expectedVersion = .ok (current.version : ℤ) := by
      obtain ⟨-, ⟨-, rfl⟩ | created | ⟨old, replaced⟩⟩ := save_draft_ok again
      · exact absurd rfl changes
      · refine ⟨created.unused, fun current found => ?_⟩
        rw [created.first] at found
        cases found
      · refine ⟨replaced.unused, fun current found => ?_⟩
        rw [replaced.found] at found
        cases found
        exact validate_draft_version_ok.mp replaced.named
    refine ⟨later.1, ?_⟩
    obtain ⟨-, ⟨-, rfl⟩ | created | ⟨old, replaced⟩⟩ := save_draft_ok saved
    · exact absurd rfl writes
    · exact .inr (.inl created.first)
    · by_cases stays : deskMachine.Meets (fun s label =>
        ¬ label.Submits request.tenant request.assessment request.actor.id s) t' between
      · have drafted' := effect_drafted drafted (.replaced request _ old draft rfl replaced)
        obtain ⟨current, found, kept⟩ :=
          run_open drafted' (replaced_open drafted replaced) stays ran'
        refine .inl ?_
        rcases later.2 current found with null | names
        · exact null
        · -- the version it named is below the one it left
          have below := kept.version
          rw [replaced.is] at below
          rcases validate_draft_version_ok.mp replaced.named with null | named
          · exact null
          · rw [named] at names
            have same := Nat.cast_inj.mp (Except.ok.inj names)
            simp only at below
            omega
      · exact .inr (.inr stays)

end

section Sample

attribute [local instance] Unicode.ascii

/-- The first teacher's draft. -/
private def drafted : DraftRequest where
  actor := ⟨10, true⟩
  tenant := 1
  assessment := 1
  payload := [("rows", .arr [.obj [("student_id", .str (uuidText 1)), ("raw_score", .str "60")]])]
  idempotencyKey := "monday"

/-- The draft of another teacher of the class. -/
private def colleague : DraftRequest := { drafted with actor := ⟨13, true⟩, idempotencyKey := "c" }

/-- The first teacher's next draft, based on the first. -/
private def revised : DraftRequest :=
  { drafted with
    payload := [("draft_version", .str "1"),
      ("rows", .arr [.obj [("student_id", .str (uuidText 2)), ("raw_score", .str "70.5")]])]
    idempotencyKey := "tuesday" }

/-- One more, based on that. -/
private def extended : DraftRequest :=
  { revised with
    payload := [("draft_version", .int 2), ("rows", .arr [])]
    idempotencyKey := "wednesday" }

private def desk : Desk := ⟨Sample.database.store Sample.exam, fun _ => ⟨0, 0⟩⟩

private def seenDesk : Desk := (DeskStep.saveDraft drafted).next desk

private def sharedDesk : Desk := (DeskStep.saveDraft colleague).next seenDesk

private theorem revision_saved : ∃ draft desk',
    saveGradeDraft sharedDesk revised = .ok (draft, desk') ∧
      desk'.db.drafts.map (·.version) = [2, 1] := by
  obtain ⟨⟨draft, desk'⟩, saved, versions⟩ := Outcome.ok_of_any
    (x := saveGradeDraft sharedDesk revised)
    (p := fun result => decide (result.2.db.drafts.map (·.version) = [2, 1])) (by decide +kernel)
  exact ⟨draft, desk', saved, of_decide_eq_true versions⟩

private theorem revision_writes {desk' : Desk}
    (versions : desk'.db.drafts.map (·.version) = [2, 1]) : desk' ≠ sharedDesk := by
  rintro rfl
  exact absurd versions (by decide +kernel)

/-- A revision is based on the draft its session saw, another teacher's save in between. -/
theorem revision_is_based_on_what_was_seen :
    ∃ seen, seenDesk.db.openDraft 1 1 10 = some seen ∧
      sharedDesk.db.openDraft 1 1 10 = some seen := by
  obtain ⟨draft, desk', saved, versions⟩ := revision_saved
  have first : (seenDesk.db.openDraft 1 1 10).map (·.version) = some 1 := by decide +kernel
  obtain ⟨seen, saw, version⟩ := Option.map_eq_some_iff.mp first
  have ran : deskMachine.run desk [.saveDraft drafted] = some seenDesk := rfl
  have ran' : deskMachine.run seenDesk [.saveDraft colleague] = some sharedDesk := rfl
  have names : revised.Names seen.version := by
    rw [version]
    exact ⟨by decide, rfl⟩
  have based := save_is_based_on_what_was_seen_iff rfl ran saw ran' names saved
    (revision_writes versions)
  exact ⟨seen, saw, based.mpr ⟨id, fun _ _ => trivial⟩⟩

private def revisedDesk : Desk := (DeskStep.saveDraft revised).next sharedDesk

private def extendedDesk : Desk := (DeskStep.saveDraft extended).next revisedDesk

/-- Delivered again after the next save, the first draft, which named no version, overwrites
it; so its key was gone. -/
theorem unversioned_save_changes_again :
    extendedDesk.db.draftWithKey 1 (Text.strip drafted.idempotencyKey) = none ∧
      (drafted.expectedVersion = .null ∨ desk.db.openDraft 1 1 10 = none ∨
        ¬ deskMachine.Meets (fun s label => ¬ label.Submits 1 1 10 s) seenDesk
          [.saveDraft colleague, .saveDraft revised, .saveDraft extended]) := by
  obtain ⟨⟨draft, desk'⟩, saved, versions⟩ := Outcome.ok_of_any
    (x := saveGradeDraft desk drafted)
    (p := fun result => decide (result.2.db.drafts.map (·.version) = [1])) (by decide +kernel)
  have versions : desk'.db.drafts.map (·.version) = [1] := of_decide_eq_true versions
  have next : seenDesk = desk' := next_saved saved
  have writes : desk' ≠ desk := by
    rintro rfl
    exact absurd versions (by decide +kernel)
  have ran : deskMachine.run desk [] = some desk := rfl
  have ran' : deskMachine.run desk'
      [.saveDraft colleague, .saveDraft revised, .saveDraft extended] = some extendedDesk := by
    rw [← next]
    rfl
  have changes : (DeskStep.saveDraft drafted).next extendedDesk ≠ extendedDesk := by
    intro same
    have versions' := congrArg (fun desk => desk.db.drafts.map (·.version)) same
    exact absurd versions' (by decide +kernel)
  have gone := redelivered_save_changes rfl ran saved writes ran' changes
  rw [← next] at gone
  exact gone

end Sample

end Darasa.Grading
