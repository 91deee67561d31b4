import Darasa.Grading.ReportRows

/-!
From readiness blockers to report eligibility.

`build_report_readiness_summary` and `evaluate_report_eligibility` pass each other texts, and
eligibility is settled here for any texts; `assessment_eligible_iff` reads off it the
eligibility of an assessment of the tables.
-/

namespace Darasa.Grading

open Darasa (Unicode)

/-- What `build_report_readiness_summary` is called with. -/
structure ReadinessFacts where
  assessmentId : String
  cohortId : String
  learningAreaId : String
  curriculumVersionId : Option String
  compilationRunId : Option String
  compilationStatus : Option String
  expectedLearnerCount : ℕ
  submittedLearnerCount : ℕ
  missingLearnerCount : ℕ
  blockerItems : List ReadinessBlocker
  hasSubmittedBatch : Bool
  hasDraft : Bool
  pendingCorrectionCount : ℕ

/-- `build_report_readiness_summary`. -/
def buildReportReadinessSummary (facts : ReadinessFacts) : ReadinessSummary :=
  let status := determineReadinessStatus facts.compilationStatus facts.blockerItems
    facts.hasSubmittedBatch facts.hasDraft
  { assessmentId := facts.assessmentId
    cohortId := facts.cohortId
    learningAreaId := facts.learningAreaId
    curriculumVersionId := orElse facts.curriculumVersionId ""
    compilationRunId := orElse facts.compilationRunId ""
    compilationStatus := orElse facts.compilationStatus "not_started"
    readinessStatus := status
    reportReady := status == "ready_for_reports"
    expectedLearnerCount := facts.expectedLearnerCount
    submittedLearnerCount := facts.submittedLearnerCount
    missingLearnerCount := facts.missingLearnerCount
    pendingCorrectionCount := facts.pendingCorrectionCount
    hasDraft := facts.hasDraft
    hasSubmittedBatch := facts.hasSubmittedBatch
    blockerCount := facts.blockerItems.countP (·.severity == "blocking")
    reviewCount := facts.blockerItems.countP (·.severity != "blocking")
    blockers := facts.blockerItems }

/-- `evaluate_report_eligibility`: its `eligible`. -/
def isEligible (readiness : ReadinessSummary) : Bool :=
  ((eligibilityBlockerCodes readiness).dedup.insertionSort (· ≤ ·)).isEmpty

/-! ## Eligibility -/

theorem or_else_empty {text : Option String} :
    (orElse text "").isEmpty = true ↔ text = none ∨ text = some "" := by
  unfold orElse
  rcases text with _ | text
  · simp
  · by_cases empty : text = ""
    · subst empty
      exact iff_of_true rfl (.inr rfl)
    · simp [Option.filter, empty]

theorem no_codes_iff {codes : List String} :
    (codes.dedup.insertionSort (· ≤ ·)).isEmpty = true ↔ codes = [] := by
  rw [List.isEmpty_iff, ← List.length_eq_zero_iff, (List.perm_insertionSort _ _).length_eq,
    List.length_eq_zero_iff]
  exact ⟨fun none => List.eq_nil_iff_forall_not_mem.mpr fun code member =>
    List.not_mem_nil (none ▸ List.mem_dedup.mpr member), fun none => by rw [none]; rfl⟩

theorem no_blocker_codes_iff {facts : ReadinessFacts} :
    isEligible (buildReportReadinessSummary facts) = true ↔
      facts.blockerItems = [] ∧ facts.compilationStatus = some "complete" ∧
        (∃ run, facts.compilationRunId = some run ∧ run ≠ "") ∧
        facts.pendingCorrectionCount = 0 := by
  unfold isEligible
  rw [no_codes_iff]
  unfold eligibilityBlockerCodes
  simp only [List.append_eq_nil_iff, and_assoc]
  constructor
  · rintro ⟨-, run, -, -, pending, ready⟩
    have cleared : (buildReportReadinessSummary facts).reportReady = true := by simpa using ready
    obtain ⟨none, complete⟩ := ready_for_reports_iff.mp (eq_of_beq cleared)
    have named : ¬ (orElse facts.compilationRunId "").isEmpty = true := by
      intro empty
      rw [show (buildReportReadinessSummary facts).compilationRunId =
        orElse facts.compilationRunId "" from rfl, if_pos empty] at run
      cases run
    refine ⟨none, complete, ?_, ?_⟩
    swap
    · by_contra some
      rw [show (buildReportReadinessSummary facts).pendingCorrectionCount =
        facts.pendingCorrectionCount from rfl, if_pos (Nat.pos_of_ne_zero some)] at pending
      cases pending
    rw [or_else_empty, not_or] at named
    obtain ⟨run, is⟩ := Option.ne_none_iff_exists'.mp named.1
    exact ⟨run, is, fun empty => named.2 (empty ▸ is)⟩
  · rintro ⟨none, complete, ⟨run, named, filled⟩, pending⟩
    have ready : (buildReportReadinessSummary facts).readinessStatus = "ready_for_reports" :=
      ready_for_reports_iff.mpr ⟨none, complete⟩
    have run' : (buildReportReadinessSummary facts).compilationRunId.isEmpty = false := by
      refine Bool.eq_false_iff.mpr fun empty => ?_
      have absent := or_else_empty.mp empty
      rw [named] at absent
      simp [filled] at absent
    have complete' : (buildReportReadinessSummary facts).compilationStatus = "complete" := by
      unfold buildReportReadinessSummary
      rw [complete]
      rfl
    have cleared : (buildReportReadinessSummary facts).reportReady = true :=
      beq_iff_eq.mpr ready
    have blockers : (buildReportReadinessSummary facts).blockers = [] := none
    have pending' : (buildReportReadinessSummary facts).pendingCorrectionCount = 0 := pending
    rw [ready, run', complete', cleared, blockers, pending']
    exact ⟨rfl, rfl, rfl, rfl, rfl, rfl⟩

/-- **Eligibility.**  An assessment is eligible exactly when nothing blocks it, of whatever
severity, its compilation is there and complete, and no correction is pending; so one more
blocker makes no assessment eligible. -/
theorem eligible_iff (facts : ReadinessFacts) :
    (isEligible (buildReportReadinessSummary facts) = true ↔
      facts.blockerItems = [] ∧ facts.compilationStatus = some "complete" ∧
        (∃ run, facts.compilationRunId = some run ∧ run ≠ "") ∧
        facts.pendingCorrectionCount = 0) ∧
    ∀ before after blocker, facts.blockerItems = before ++ after →
      isEligible (buildReportReadinessSummary facts) = false →
      isEligible (buildReportReadinessSummary
        { facts with blockerItems := before ++ blocker :: after }) = false := by
  refine ⟨no_blocker_codes_iff, fun before after blocker _ _ => ?_⟩
  rw [Bool.eq_false_iff]
  intro eligible
  exact absurd (no_blocker_codes_iff.mp eligible).1 (by simp)

/-! ## Assessments of the tables -/

/-- The texts of what an assessment's readiness is built from. -/
def Readiness.facts (readiness : Readiness) : ReadinessFacts where
  assessmentId := uuidText readiness.assessment
  cohortId := uuidText readiness.cohort
  learningAreaId := uuidText readiness.learningArea
  curriculumVersionId := readiness.curriculumVersion.map uuidText
  compilationRunId := readiness.compilationRun.map uuidText
  compilationStatus := readiness.compilationStatus.map CompilationStatus.value
  expectedLearnerCount := readiness.expectedLearnerCount
  submittedLearnerCount := readiness.submittedLearnerCount
  missingLearnerCount := readiness.missingLearnerCount
  blockerItems := readiness.blockers
  hasSubmittedBatch := readiness.hasSubmittedBatch
  hasDraft := readiness.hasDraft
  pendingCorrectionCount := readiness.pendingCorrectionCount

theorem uuid_text_filled {id : ℕ} : uuidText id ≠ "" := by
  intro empty
  have length := congrArg String.length empty
  simp [uuidText] at length

/-- An assessment is eligible exactly when nothing blocks it, its latest compilation is
complete, and no correction is pending. -/
theorem assessment_eligible_iff [Unicode] {db : Database} {assessment : Assessment} :
    (evaluateReportEligibility (db.assessmentReadiness assessment)).eligible = true ↔
      db.readinessBlockers assessment = [] ∧
        (∃ run, db.latestCompilation assessment = some run ∧ run.status = .complete) ∧
        db.pendingCorrections assessment = [] := by
  have read : (evaluateReportEligibility (db.assessmentReadiness assessment)).eligible =
      isEligible (db.assessmentReadiness assessment).summary := by
    unfold evaluateReportEligibility isEligible
    dsimp only
  have built : (db.assessmentReadiness assessment).summary =
      buildReportReadinessSummary (db.assessmentReadiness assessment).facts := rfl
  rw [read, built, no_blocker_codes_iff]
  refine and_congr_right fun _ => ?_
  change Option.map _ (Option.map _ (db.latestCompilation assessment)) = _ ∧
    (∃ run, Option.map _ (Option.map _ (db.latestCompilation assessment)) = some run ∧ run ≠ "") ∧
    (db.pendingCorrections assessment).length = 0 ↔ _
  rw [List.length_eq_zero_iff]
  cases db.latestCompilation assessment with
  | none => simp
  | some run => simp [CompilationStatus.value_complete, uuid_text_filled]

end Darasa.Grading
