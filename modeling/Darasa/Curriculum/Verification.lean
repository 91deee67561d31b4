import Darasa.Runtime.Errors
import Darasa.Runtime.Text

/-!
How evidence is scored, and what the score lets a governance approver decide.

A report weighs the signals of a document into a score; the score picks the next action,
the action the review status, and the status bars or admits an approval.  The number of
other submissions in the evidence's cluster is one of the addends.
-/

namespace Darasa.Curriculum

open Darasa (Exn Outcome Unicode)

/-! ## The report -/

/-- `DocumentSignalReport`. -/
structure DocumentSignalReport where
  referenceNumberDetected : Bool
  referenceNumberValid : Bool
  publicationNumberDetected : Bool
  publicationNumberValid : Bool
  publicationDateDetected : Bool
  effectiveDateDetected : Bool
  stampSignal : Bool
  signatureSignal : Bool
  templateSignal : Bool
  riskFlags : List String
  missingEvidence : List String
  deriving DecidableEq, Repr

/-- `CurriculumVerificationReport.OfficialSourceMatch`. -/
inductive OfficialSourceMatch where
  | unknown
  | matched
  | unmatched
  | awaitingConfirmation
  deriving DecidableEq, Repr

/-- `CurriculumVerificationReport.ConfidenceLevel`. -/
inductive ConfidenceLevel where
  | low
  | medium
  | high
  | rejected
  | needsGovernanceReview
  deriving DecidableEq, Repr

/-- `CurriculumVerificationReport.RecommendedAction`. -/
inductive RecommendedAction where
  | keepQuarantined
  | requestMoreEvidence
  | awaitOfficialConfirmation
  | escalateToGovernance
  | readyForGovernanceReview
  | reject
  deriving DecidableEq, Repr

/-- `CurriculumVerificationReport.Status`. -/
inductive ReportStatus where
  | pending
  | complete
  | needsMoreEvidence
  | awaitingOfficialConfirmation
  | rejected
  | escalated
  deriving DecidableEq, Repr

/-- `VerificationConfidence`. -/
structure VerificationConfidence where
  score : ℤ
  level : ConfidenceLevel
  recommendedNextAction : RecommendedAction
  deriving DecidableEq, Repr

/-- Points for a condition that holds. -/
def pointsIf (condition : Bool) (points : ℤ) : ℤ := if condition then points else 0

/-- The points of the authority and of each signal, on the ten every document has. -/
def signalPoints (signals : DocumentSignalReport) (authorityKnown : Bool) : ℤ :=
  10 + pointsIf authorityKnown 20
    + pointsIf signals.referenceNumberValid 15
    + pointsIf signals.publicationNumberValid 10
    + pointsIf signals.publicationDateDetected 10
    + pointsIf signals.effectiveDateDetected 10
    + pointsIf signals.stampSignal 5
    + pointsIf signals.signatureSignal 5
    + pointsIf signals.templateSignal 5

/-- The score `score_verification_confidence` adds up and cuts to its range. -/
def verificationScore (signals : DocumentSignalReport) (authorityKnown : Bool)
    (officialSourceMatchStatus : OfficialSourceMatch) (duplicateSignalCount : ℕ) : ℤ :=
  let score := signalPoints signals authorityKnown
  let score : ℤ := match officialSourceMatchStatus with
    | .matched => score + 30
    | .unmatched => score - 30
    | _ => score
  let score : ℤ :=
    if duplicateSignalCount ≠ 0 then score + (min 10 duplicateSignalCount : ℕ) else score
  let score : ℤ := score - 10 * signals.riskFlags.length
  max 0 (min 100 score)

/-- `score_verification_confidence`. -/
def scoreVerificationConfidence (signals : DocumentSignalReport) (authorityKnown : Bool)
    (officialSourceMatchStatus : OfficialSourceMatch) (duplicateSignalCount : ℕ) :
    VerificationConfidence :=
  let score := verificationScore signals authorityKnown officialSourceMatchStatus
    duplicateSignalCount
  if officialSourceMatchStatus = .unmatched then ⟨score, .rejected, .reject⟩
  else if 85 ≤ score then ⟨score, .needsGovernanceReview, .readyForGovernanceReview⟩
  else if 70 ≤ score then ⟨score, .high, .escalateToGovernance⟩
  else if 45 ≤ score then ⟨score, .medium, .awaitOfficialConfirmation⟩
  else ⟨score, .low, .requestMoreEvidence⟩

/-- `status_by_action.get(action, PENDING)`. -/
def statusByAction : RecommendedAction → ReportStatus
  | .reject => .rejected
  | .requestMoreEvidence => .needsMoreEvidence
  | .awaitOfficialConfirmation => .awaitingOfficialConfirmation
  | .escalateToGovernance => .escalated
  | .readyForGovernanceReview => .complete
  | .keepQuarantined => .pending

/-- The fields `create_curriculum_verification_report` fills from the score. -/
structure VerificationReport where
  duplicateSignalCount : ℕ
  officialSourceMatchStatus : OfficialSourceMatch
  confidenceScore : ℤ
  confidenceLevel : ConfidenceLevel
  riskFlags : List String
  missingEvidence : List String
  recommendedNextAction : RecommendedAction
  reviewStatus : ReportStatus
  deriving DecidableEq, Repr

/-- `create_curriculum_verification_report`, once the signals are read. -/
def createVerificationReport (signals : DocumentSignalReport) (authorityKnown : Bool)
    (officialSourceMatchStatus : OfficialSourceMatch) (duplicateCount : ℕ) :
    VerificationReport :=
  let confidence := scoreVerificationConfidence signals authorityKnown officialSourceMatchStatus
    duplicateCount
  { duplicateSignalCount := duplicateCount
    officialSourceMatchStatus
    confidenceScore := confidence.score
    confidenceLevel := confidence.level
    riskFlags := signals.riskFlags
    missingEvidence := signals.missingEvidence
    recommendedNextAction := confidence.recommendedNextAction
    reviewStatus := statusByAction confidence.recommendedNextAction }

/-! ## The decision -/

section

variable [Unicode]

/-- `APPROVAL_REPORT_STATUSES`. -/
def approvalReportStatuses : List ReportStatus := [.complete, .escalated]

/-- The decisions a governance approver may record. -/
def allowedDecisions : List String :=
  ["pending", "approved_for_publication", "rejected", "requires_more_evidence", "escalated"]

/-- `decision.strip().lower()`. -/
def normalizeDecision (decision : String) : String := Text.lower (Text.strip decision)

/-- `validate_governance_decision`. -/
def validateGovernanceDecision (decision : String) (reportStatus : ReportStatus)
    (reason : String) : Outcome String := do
  let normalized := normalizeDecision decision
  Darasa.refuseIf (!allowedDecisions.contains normalized) "decision"
    "Governance decision is not allowed."
  Darasa.refuseIf
    (normalized == "approved_for_publication" && !approvalReportStatuses.contains reportStatus)
    "verification_report" "Approval requires a completed report."
  Darasa.refuseIf
    (["rejected", "requires_more_evidence", "escalated"].contains normalized &&
      (reason.isEmpty || Text.isBlank reason))
    "reason" "Governance decision reason required."
  .ok normalized

/-- The decision is accepted on the report of an evidence with so many duplicates. -/
def Accepted (signals : DocumentSignalReport) (authorityKnown : Bool)
    (sourceMatch : OfficialSourceMatch) (duplicates : ℕ) (decision reason : String) : Prop :=
  ∃ normalized, validateGovernanceDecision decision
    (createVerificationReport signals authorityKnown sourceMatch duplicates).reviewStatus reason =
      .ok normalized

/-! ## The bar -/

/-- The points of the evidence itself: every addend but the duplicates, before the score is
cut to its range. -/
def ownPoints (signals : DocumentSignalReport) (authorityKnown : Bool)
    (sourceMatch : OfficialSourceMatch) : ℤ :=
  signalPoints signals authorityKnown + pointsIf (sourceMatch == .matched) 30
    - pointsIf (sourceMatch == .unmatched) 30 - 10 * signals.riskFlags.length

variable {signals : DocumentSignalReport} {authorityKnown : Bool} {sourceMatch : OfficialSourceMatch}
  {decision reason : String} {status status' : ReportStatus}

omit [Unicode] in
/-- The score is the evidence's points and its duplicates', up to ten, within its range. -/
theorem verificationScore_eq (duplicates : ℕ) :
    verificationScore signals authorityKnown sourceMatch duplicates =
      max 0 (min 100 (ownPoints signals authorityKnown sourceMatch + (min 10 duplicates : ℕ))) := by
  have counted (points : ℤ) : (if duplicates ≠ 0 then points + (min 10 duplicates : ℕ)
      else points) = points + (min 10 duplicates : ℕ) := by
    split
    · rfl
    · omega
  unfold verificationScore
  simp only [counted, ownPoints]
  generalize signalPoints signals authorityKnown = points
  generalize (min 10 duplicates : ℕ) = shared
  cases sourceMatch <;> simp [pointsIf] <;> omega

omit [Unicode] in
/-- A report admits an approval from seventy points on. -/
theorem admits_iff (duplicates : ℕ) :
    (createVerificationReport signals authorityKnown sourceMatch duplicates).reviewStatus ∈
        approvalReportStatuses ↔
      sourceMatch ≠ .unmatched ∧
        70 ≤ ownPoints signals authorityKnown sourceMatch + (min 10 duplicates : ℕ) := by
  have reaches : 70 ≤ verificationScore signals authorityKnown sourceMatch duplicates ↔
      70 ≤ ownPoints signals authorityKnown sourceMatch + (min 10 duplicates : ℕ) := by
    rw [verificationScore_eq]
    omega
  rw [← reaches]
  simp only [createVerificationReport, scoreVerificationConfidence, approvalReportStatuses]
  by_cases rejected : sourceMatch = .unmatched
  · simp [rejected, statusByAction]
  · rw [if_neg rejected]
    generalize verificationScore signals authorityKnown sourceMatch duplicates = score
    split
    · simp [statusByAction, rejected]
      omega
    · split
      · simp [statusByAction, rejected]
        omega
      · split <;> simp [statusByAction, rejected] <;> omega

/-- What a decision needs besides the bar of an approval. -/
def WellFormed (decision reason : String) : Prop :=
  normalizeDecision decision ∈ allowedDecisions ∧
    (normalizeDecision decision ∈ ["rejected", "requires_more_evidence", "escalated"] →
      reason.isEmpty = false ∧ Text.isBlank reason = false)

/-- `validate_governance_decision` accepts a well-formed decision, an approval only where the
report admits one. -/
theorem validates_iff :
    (∃ normalized, validateGovernanceDecision decision status reason = .ok normalized) ↔
      WellFormed decision reason ∧
        (normalizeDecision decision = "approved_for_publication" →
          status ∈ approvalReportStatuses) := by
  simp only [validateGovernanceDecision, WellFormed, Outcome.check_ok, Darasa.refuseIf_ok,
    Except.ok.injEq, exists_and_left, exists_eq', and_true]
  generalize normalizeDecision decision = normalized
  simp
  grind

/-- An approval is well formed whatever its reason. -/
theorem wellFormed_approval (approval : normalizeDecision decision = "approved_for_publication") :
    WellFormed decision reason := by
  simp [WellFormed, approval, allowedDecisions]

/-- **When duplicates leave the bar where it is.**  A decision fares alike at two counts
exactly when it is no approval, the official source denies the evidence, or the evidence's
points with either count's share, at most ten, stand on one side of seventy. -/
theorem duplicates_keep_the_bar_iff (signals : DocumentSignalReport) (authorityKnown : Bool)
    (sourceMatch : OfficialSourceMatch) (first second : ℕ) (decision reason : String) :
    (Accepted signals authorityKnown sourceMatch first decision reason ↔
        Accepted signals authorityKnown sourceMatch second decision reason) ↔
      normalizeDecision decision ≠ "approved_for_publication" ∨ sourceMatch = .unmatched ∨
        (70 ≤ ownPoints signals authorityKnown sourceMatch + (min 10 first : ℕ) ↔
          70 ≤ ownPoints signals authorityKnown sourceMatch + (min 10 second : ℕ)) := by
  simp only [Accepted, validates_iff, admits_iff]
  by_cases approval : normalizeDecision decision = "approved_for_publication"
  · have formed : WellFormed decision reason := wellFormed_approval approval
    by_cases rejected : sourceMatch = .unmatched
    · simp [rejected]
    · simp [formed, approval, rejected]
  · simp [approval]

end

/-- A document that shows nothing but what its publisher's name and the official source bear
out is approved when ten others were handed in, and not when it is alone. -/
theorem ten_duplicates_are_approved :
    ¬ ∀ (_ : Unicode) (signals : DocumentSignalReport) (authorityKnown : Bool)
      (sourceMatch : OfficialSourceMatch) (first second : ℕ) (decision reason : String),
      Accepted signals authorityKnown sourceMatch first decision reason ↔
        Accepted signals authorityKnown sourceMatch second decision reason := by
  intro alike
  obtain ⟨normalized, returned⟩ := (@alike Unicode.ascii
    ⟨false, false, false, false, false, false, false, false, false, [],
      ["reference_number", "publication_date", "effective_date", "stamp_signal",
        "signature_signal"]⟩ true .matched 10 0 "approved_for_publication" "").mp
    ⟨"approved_for_publication", by decide +kernel⟩
  have refused : @validateGovernanceDecision Unicode.ascii "approved_for_publication"
      .awaitingOfficialConfirmation "" = .error (.validationError "verification_report"
        "Approval requires a completed report.") := by
    decide +kernel
  exact absurd (refused.symm.trans returned) (by simp)

end Darasa.Curriculum
