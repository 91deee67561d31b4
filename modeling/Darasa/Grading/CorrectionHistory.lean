import Darasa.Grading.Marks

/-!
The audit trail of corrections, over every run.

Each correction's entries form a chain through the workflow, and the applied entries of
a record form a chain through its states.  Nothing compares the state a correction is
applied to with the one it was requested against; `corrections_apply_to_their_state_iff`
says which runs do so anyway.
-/

namespace Darasa.Grading

open Darasa (Json Machine Outcome Unicode)

/-! ## Chains -/

/-- `TERMINAL_STATUSES`. -/
def CorrectionStatus.isTerminal : CorrectionStatus → Bool
  | rejected | rejectedByHod | rejectedByAcademicHead | applied | cancelled | expired => true
  | _ => false

/-- The entries of a correction, in order: from its request, along the edges of the
workflow, to its status. -/
inductive AuditChain : List GradeCorrectionAuditRecord → CorrectionStatus → Prop where
  | requested (entry : GradeCorrectionAuditRecord) (source : entry.statusFrom = none)
      (target : entry.statusTo = .underHodReview) (action : entry.action ≠ .applied) :
      AuditChain [entry] .underHodReview
  | moved {entries : List GradeCorrectionAuditRecord} {status : CorrectionStatus}
      (before : AuditChain entries status) (entry : GradeCorrectionAuditRecord)
      (source : entry.statusFrom = some status) (edge : entry.statusTo ∈ status.transitions)
      (action : entry.action = .applied ↔ entry.statusTo = .applied) :
      AuditChain (entries ++ [entry]) entry.statusTo

/-- The applied entries of a record, in order: each applied to the state the one before
left, up to the state of the record. -/
inductive StateChain : List GradeCorrectionAuditRecord → GradeState → Prop where
  | submitted (state : GradeState) : StateChain [] state
  | applied {entries : List GradeCorrectionAuditRecord} {state : GradeState}
      (before : StateChain entries state) (entry : GradeCorrectionAuditRecord)
      (after : GradeState) (source : entry.stateBefore = some state)
      (target : entry.stateAfter = some after) (later : after.version = state.version + 1) :
      StateChain (entries ++ [entry]) after

section

variable {entries : List GradeCorrectionAuditRecord} {status : CorrectionStatus}
  {state : GradeState}

/-- A correction is never back at the statuses before its review. -/
theorem chain_under_review (chain : AuditChain entries status) :
    status ≠ .draft ∧ status ≠ .requested ∧ status ≠ .submitted := by
  induction chain with
  | requested entry => decide
  | @moved entries status before entry source edge action ih =>
    obtain ⟨noDraft, -, -⟩ := ih
    revert edge noDraft
    cases status <;> cases entry.statusTo <;> decide

theorem chain_last (chain : AuditChain entries status) :
    ∃ pre entry, entries = pre ++ [entry] ∧ entry.statusTo = status := by
  cases chain with
  | requested entry source target => exact ⟨[], entry, rfl, target⟩
  | moved before entry => exact ⟨_, entry, rfl, rfl⟩

/-- Nothing is recorded after a terminal status. -/
theorem nothing_after_terminal (chain : AuditChain entries status)
    {pre post : List GradeCorrectionAuditRecord} {entry : GradeCorrectionAuditRecord}
    (shape : entries = pre ++ entry :: post) (terminal : entry.statusTo.isTerminal = true) :
    post = [] := by
  induction chain generalizing post with
  | requested first =>
    cases pre with
    | nil => exact (List.cons.inj shape).2.symm
    | cons _ pre => simp at shape
  | @moved entries status before last source edge action ih =>
    rcases List.eq_nil_or_concat post with rfl | ⟨post, last', rfl⟩
    · rfl
    have split : entries ++ [last] = (pre ++ entry :: post) ++ [last'] := by simpa using shape
    obtain ⟨shape', -⟩ := List.append_inj' split rfl
    -- the entry is then the last before this one, whose edge leaves its status
    obtain rfl := ih shape'
    obtain ⟨pre', entry', shape'', here⟩ := chain_last before
    obtain ⟨-, same⟩ := List.append_inj' (shape'.symm.trans shape'') rfl
    obtain rfl : entry = entry' := by simpa using same
    rw [here] at terminal
    revert edge terminal
    cases status <;> simp [CorrectionStatus.isTerminal, CorrectionStatus.transitions]

/-- Only a correction that stands applied has an applied entry, and only one. -/
theorem applied_entries (chain : AuditChain entries status) :
    entries.countP (fun entry => entry.action == .applied) =
      if status = .applied then 1 else 0 := by
  induction chain with
  | requested entry source target action => simp [action]
  | @moved entries status before entry source edge action ih =>
    have unapplied : status ≠ .applied := by
      rintro rfl
      cases edge
    rw [List.countP_append, ih, if_neg unapplied, Nat.zero_add]
    by_cases applied : entry.statusTo = .applied
    · simp [applied, action.mpr applied]
    · have other : entry.action ≠ .applied := fun is => applied (action.mp is)
      simp [applied, other]

/-- The states corrections were applied to are all earlier, and all different. -/
theorem chain_states (chain : StateChain entries state) :
    (entries.map (·.stateBefore)).Nodup ∧
      ∀ entry ∈ entries, ∃ before, entry.stateBefore = some before ∧
        before.version < state.version := by
  induction chain with
  | submitted state => simp
  | @applied entries state before entry after source target later ih =>
    obtain ⟨distinct, each⟩ := ih
    constructor
    · refine Table.nodup_concat distinct fun old member same => ?_
      obtain ⟨earlier, is, below⟩ := each old member
      rw [is, source, Option.some.injEq] at same
      exact absurd below (same ▸ lt_irrefl _)
    · intro old member
      rcases List.mem_append.mp member with known | new
      · obtain ⟨earlier, is, below⟩ := each old known
        exact ⟨earlier, is, by omega⟩
      · obtain rfl : old = entry := by simpa using new
        exact ⟨state, source, by omega⟩

end

/-! ## The invariant -/

namespace Database

/-- The audit entries of a correction, in order. -/
def auditsOf (db : Database) (correction : ℕ) : List GradeCorrectionAuditRecord :=
  db.audits.filter (·.correctionRequest == correction)

/-- The applied entries of a record, in order. -/
def appliedTo (db : Database) (record : ℕ) : List GradeCorrectionAuditRecord :=
  db.audits.filter fun entry => entry.gradeRecord == record && entry.action == .applied

end Database

/-- A correction with its trail. -/
structure Trailed (db : Database) (correction : GradeCorrectionRequest) : Prop where
  chain : AuditChain (db.auditsOf correction.id) correction.status
  reviewer : correction.reviewedBy ≠ some correction.requestedBy
  applier : correction.appliedBy ≠ some correction.requestedBy

/-- A record with the corrections applied to it. -/
structure Versioned (db : Database) (record : GradeRecord) : Prop where
  chain : StateChain (db.appliedTo record.id) record.state
  version : record.version = 1 + (db.appliedTo record.id).length

/-- A correction requested of a record that has since changed only by versions. -/
def Based (db : Database) (correction : GradeCorrectionRequest) : Prop :=
  ∃ record ∈ db.records, record.id = correction.gradeRecord ∧
    correction.oldState.version ≤ record.version ∧
    (correction.oldState.version = record.version → correction.oldState = record.state)

/-- The trails of corrections and records. -/
structure Audited (db : Database) : Prop where
  keyed : Keyed db
  trailed : ∀ correction ∈ db.corrections, Trailed db correction
  based : ∀ correction ∈ db.corrections, Based db correction
  versioned : ∀ record ∈ db.records, Versioned db record
  known : ∀ entry ∈ db.audits, ∃ correction ∈ db.corrections,
    correction.id = entry.correctionRequest ∧ correction.gradeRecord = entry.gradeRecord

/-- No correction yet, and every record at its first version. -/
structure Uncorrected (db : Database) : Prop where
  keyed : Keyed db
  corrections : db.corrections = []
  audits : db.audits = []
  versions : ∀ record ∈ db.records, record.version = 1

theorem uncorrected_audited {db : Database} (start : Uncorrected db) : Audited db := by
  refine ⟨start.keyed, by simp [start.corrections], by simp [start.corrections], ?_,
    by simp [start.audits]⟩
  intro record member
  have none : db.appliedTo record.id = [] := by simp [Database.appliedTo, start.audits]
  constructor
  · rw [none]
    exact .submitted _
  · rw [none, start.versions record member]
    rfl

section

variable {db db' : Database} {label : MarksCall} {before after correction : GradeCorrectionRequest}
  {entry : GradeCorrectionAuditRecord} {record corrected : GradeRecord} {assessment : Assessment}

/-- The table an entry is appended to. -/
theorem audits_of_append {id : ℕ} (audits : db'.audits = db.audits ++ [entry]) :
    db'.auditsOf id =
      if entry.correctionRequest = id then db.auditsOf id ++ [entry] else db.auditsOf id := by
  unfold Database.auditsOf
  rw [audits, List.filter_append]
  by_cases here : entry.correctionRequest = id <;> simp [here]

theorem applied_to_append {id : ℕ} (audits : db'.audits = db.audits ++ [entry]) :
    db'.appliedTo id =
      if entry.gradeRecord = id ∧ entry.action = .applied then db.appliedTo id ++ [entry]
      else db.appliedTo id := by
  unfold Database.appliedTo
  rw [audits, List.filter_append]
  by_cases here : entry.gradeRecord = id ∧ entry.action = .applied
  · simp [here]
  · rw [if_neg here, List.filter_cons_of_neg (by simpa using here), List.filter_nil,
      List.append_nil]

/-- An edge taken is an edge of the workflow. -/
theorem advanced_edge (audited : Audited db) (advanced : Advanced db before after entry) :
    after.status ∈ before.status.transitions := by
  rcases advanced.edge with edge | ⟨eligible, target⟩
  · exact edge
  have known := List.mem_of_find?_eq_some advanced.found
  obtain ⟨-, noRequest, noSubmission⟩ := chain_under_review (audited.trailed before known).chain
  rw [target]
  revert eligible noRequest noSubmission
  cases before.status <;> decide

/-- A step along the workflow keeps the trails of corrections. -/
theorem advanced_trailed (audited : Audited db) (advanced : Advanced db before after entry)
    (action : entry.action = .applied ↔ after.status = .applied)
    (corrections : db'.corrections =
      Table.replace GradeCorrectionRequest.id after db.corrections)
    (audits : db'.audits = db.audits ++ [entry]) :
    ∀ correction ∈ db'.corrections, Trailed db' correction := by
  intro correction member
  have known := List.mem_of_find?_eq_some advanced.found
  rw [corrections] at member
  rcases Table.mem_replace member with rfl | ⟨member, other⟩
  · refine ⟨?_, advanced.reviewer, advanced.applier⟩
    rw [audits_of_append audits, advanced.entryFor, advanced.id, if_pos rfl, ← advanced.statusTo]
    refine .moved (audited.trailed before known).chain entry advanced.statusFrom ?_ ?_
    · rw [advanced.statusTo]
      exact advanced_edge audited advanced
    · rw [advanced.statusTo]
      exact action
  · obtain ⟨chain, reviewer, applier⟩ := audited.trailed correction member
    refine ⟨?_, reviewer, applier⟩
    rw [audits_of_append audits, advanced.entryFor, if_neg]
    · exact chain
    · rw [← advanced.id]
      exact fun same => other same.symm

/-- It keeps every entry at its correction. -/
theorem advanced_known (audited : Audited db) (advanced : Advanced db before after entry)
    (corrections : db'.corrections =
      Table.replace GradeCorrectionRequest.id after db.corrections)
    (audits : db'.audits = db.audits ++ [entry]) :
    ∀ entry ∈ db'.audits, ∃ correction ∈ db'.corrections,
      correction.id = entry.correctionRequest ∧ correction.gradeRecord = entry.gradeRecord := by
  intro entry' member
  have known := List.mem_of_find?_eq_some advanced.found
  have replaced (correction : GradeCorrectionRequest) (member : correction ∈ db.corrections) :
      ∃ correction' ∈ db'.corrections, correction'.id = correction.id ∧
        correction'.gradeRecord = correction.gradeRecord := by
    rw [corrections]
    refine ⟨_, List.mem_map_of_mem member, ?_⟩
    split
    next same =>
      obtain rfl := Table.eq_of_key audited.keyed.corrections member known (same.trans advanced.id)
      exact ⟨advanced.id, advanced.gradeRecord⟩
    next => exact ⟨rfl, rfl⟩
  rw [audits] at member
  rcases List.mem_append.mp member with old | new
  · obtain ⟨correction, member, sameId, sameRecord⟩ := audited.known entry' old
    obtain ⟨correction', member', sameId', sameRecord'⟩ := replaced correction member
    exact ⟨correction', member', sameId'.trans sameId, sameRecord'.trans sameRecord⟩
  · obtain rfl : entry' = entry := by simpa using new
    obtain ⟨correction', member', sameId, sameRecord⟩ := replaced before known
    exact ⟨correction', member', sameId.trans advanced.entryFor.symm,
      sameRecord.trans advanced.entryRecord.symm⟩

/-- An old correction in the table is one of the table before. -/
theorem advanced_based (advanced : Advanced db before after entry)
    (based : ∀ correction ∈ db.corrections, Based db' correction)
    (corrections : db'.corrections =
      Table.replace GradeCorrectionRequest.id after db.corrections) :
    ∀ correction ∈ db'.corrections, Based db' correction := by
  intro correction member
  rw [corrections] at member
  rcases Table.mem_replace member with rfl | ⟨known, -⟩
  · have known := List.mem_of_find?_eq_some advanced.found
    obtain ⟨record, member, ofCorrection, le, same⟩ := based before known
    rw [← advanced.oldState] at le same
    exact ⟨record, member, ofCorrection.trans advanced.gradeRecord.symm, le, same⟩
  · exact based correction known

theorem versioned_same {record : GradeRecord} (versioned : Versioned db record)
    (applied : db'.appliedTo record.id = db.appliedTo record.id) : Versioned db' record := by
  obtain ⟨chain, version⟩ := versioned
  rw [← applied] at chain version
  exact ⟨chain, version⟩

/-- A call that leaves the three tables alone keeps the trails. -/
theorem audited_same (audited : Audited db) (keyed' : Keyed db')
    (corrections : db'.corrections = db.corrections) (records : db'.records = db.records)
    (audits : db'.audits = db.audits) : Audited db' := by
  refine ⟨keyed', ?_, ?_, ?_, ?_⟩
  · intro correction member
    obtain ⟨chain, reviewer, applier⟩ := audited.trailed correction (corrections ▸ member)
    refine ⟨?_, reviewer, applier⟩
    unfold Database.auditsOf
    rw [audits]
    exact chain
  · intro correction member
    obtain ⟨record, known, based⟩ := audited.based correction (corrections ▸ member)
    exact ⟨record, records ▸ known, based⟩
  · intro record member
    refine versioned_same (audited.versioned record (records ▸ member)) ?_
    unfold Database.appliedTo
    rw [audits]
  · intro entry member
    rw [corrections]
    exact audited.known entry (audits ▸ member)

theorem submitted_audited (audited : Audited db) {batch : GradeSubmissionBatch}
    {records : List GradeRecord} (accepted : Accepted db assessment batch records db') :
    Audited db' := by
  obtain ⟨records', drawn'⟩ := accepted_keys audited.keyed accepted
  have written := accepted.written
  have later : db.nextId ≤ db'.nextId := by
    rw [accepted.result]
    simp only
    omega
  have old : db'.records = db.records ++ records := by rw [accepted.result]
  have corrections : db'.corrections = db.corrections := by rw [accepted.result]
  have audits : db'.audits = db.audits := by rw [accepted.result]
  refine ⟨⟨records', drawn', corrections ▸ audited.keyed.corrections, ?_⟩, ?_, ?_, ?_, ?_⟩
  · intro correction member
    exact (audited.keyed.correctionsDrawn correction (corrections ▸ member)).trans_le later
  · intro correction member
    obtain ⟨chain, reviewer, applier⟩ := audited.trailed correction (corrections ▸ member)
    refine ⟨?_, reviewer, applier⟩
    unfold Database.auditsOf
    rw [audits]
    exact chain
  · intro correction member
    obtain ⟨record, known, based⟩ := audited.based correction (corrections ▸ member)
    exact ⟨record, old ▸ List.mem_append_left _ known, based⟩
  · intro record member
    rw [old] at member
    rcases List.mem_append.mp member with known | new
    · refine versioned_same (audited.versioned record known) ?_
      unfold Database.appliedTo
      rw [audits]
    · -- no entry is about a record whose key was not drawn
      have none : db'.appliedTo record.id = [] := by
        unfold Database.appliedTo
        rw [audits, List.filter_eq_nil_iff]
        intro entry known
        obtain ⟨correction, member', -, ofRecord⟩ := audited.known entry known
        obtain ⟨target, there, ofCorrection, -⟩ := audited.based correction member'
        have drawn := audited.keyed.recordsDrawn target there
        have fresh := (written record new).fresh
        simp only [Bool.and_eq_true, beq_iff_eq, not_and]
        intro same
        omega
      constructor
      · rw [none]
        exact .submitted _
      · rw [none, (written record new).version]
        rfl
  · intro entry member
    rw [corrections]
    exact audited.known entry (audits ▸ member)

theorem requested_audited (audited : Audited db) (keyed' : Keyed db')
    (requested : Requested db record correction entry db') : Audited db' := by
  have corrections : db'.corrections = db.corrections ++ [correction] := by rw [requested.result]
  have audits : db'.audits = db.audits ++ [entry] := by rw [requested.result]
  have records : db'.records = db.records := by rw [requested.result]
  obtain ⟨there, -⟩ := record_found requested.found
  have unused : db.auditsOf correction.id = [] := by
    unfold Database.auditsOf
    rw [List.filter_eq_nil_iff]
    intro old known
    obtain ⟨other, member, same, -⟩ := audited.known old known
    have drawn := audited.keyed.correctionsDrawn other member
    have id := requested.id
    rw [beq_iff_eq]
    omega
  refine ⟨keyed', ?_, ?_, ?_, ?_⟩
  · intro other member
    rw [corrections] at member
    rcases List.mem_append.mp member with known | new
    · obtain ⟨chain, reviewer, applier⟩ := audited.trailed other known
      have drawn := audited.keyed.correctionsDrawn other known
      refine ⟨?_, reviewer, applier⟩
      rw [audits_of_append audits, requested.entryFor, requested.id, if_neg (by omega)]
      exact chain
    · obtain rfl : other = correction := by simpa using new
      refine ⟨?_, by simp [requested.reviewedBy], by simp [requested.appliedBy]⟩
      rw [audits_of_append audits, if_pos requested.entryFor, unused, requested.status]
      exact .requested entry requested.statusFrom requested.statusTo (by simp [requested.action])
  · intro other member
    rw [corrections] at member
    rcases List.mem_append.mp member with known | new
    · obtain ⟨target, member', based⟩ := audited.based other known
      exact ⟨target, records ▸ member', based⟩
    · obtain rfl : other = correction := by simpa using new
      refine ⟨record, records ▸ there, requested.gradeRecord.symm, ?_, fun _ =>
        requested.oldState⟩
      rw [requested.oldState]
      exact le_refl _
  · intro target member
    refine versioned_same (audited.versioned target (records ▸ member)) ?_
    rw [applied_to_append audits, if_neg (by simp [requested.action])]
  · intro old member
    rw [audits] at member
    rw [corrections]
    rcases List.mem_append.mp member with known | new
    · obtain ⟨other, member', same⟩ := audited.known old known
      exact ⟨other, List.mem_append_left _ member', same⟩
    · obtain rfl : old = entry := by simpa using new
      exact ⟨correction, by simp, requested.entryFor.symm,
        requested.gradeRecord.trans requested.entryRecord.symm⟩

theorem moved_audited (audited : Audited db) (keyed' : Keyed db')
    (moved : Moved db before after entry db') : Audited db' := by
  have corrections : db'.corrections =
      Table.replace GradeCorrectionRequest.id after db.corrections := by rw [moved.result]
  have audits : db'.audits = db.audits ++ [entry] := by rw [moved.result]
  have records : db'.records = db.records := by rw [moved.result]
  refine ⟨keyed', ?_, ?_, ?_, advanced_known audited moved.toAdvanced corrections audits⟩
  · refine advanced_trailed audited moved.toAdvanced ?_ corrections audits
    simp [moved.action, moved.unapplied]
  · refine advanced_based moved.toAdvanced (fun correction member => ?_) corrections
    obtain ⟨target, member', based⟩ := audited.based correction member
    exact ⟨target, records ▸ member', based⟩
  · intro target member
    refine versioned_same (audited.versioned target (records ▸ member)) ?_
    rw [applied_to_append audits, if_neg (by simp [moved.action])]

/-- The record a correction was applied to, one version later. -/
theorem applied_version (applied : Applied db before after record assessment corrected entry db') :
    corrected.id = record.id ∧ corrected.version = record.version + 1 := by
  obtain ⟨sameId, -, -, version, -⟩ := banded_same applied.banded
  exact ⟨sameId, version⟩

theorem applied_audited (audited : Audited db) (keyed' : Keyed db')
    (applied : Applied db before after record assessment corrected entry db') : Audited db' := by
  have corrections : db'.corrections =
      Table.replace GradeCorrectionRequest.id after db.corrections := by rw [applied.result]
  have audits : db'.audits = db.audits ++ [entry] := by rw [applied.result]
  have records : db'.records = Table.replace GradeRecord.id corrected db.records := by
    rw [applied.result]
    rfl
  obtain ⟨there, ofCorrection⟩ := record_found applied.ofCorrection
  obtain ⟨sameId, version⟩ := applied_version applied
  have ofEntry : entry.gradeRecord = record.id := applied.entryRecord.trans ofCorrection.symm
  refine ⟨keyed', ?_, ?_, ?_, advanced_known audited applied.toAdvanced corrections audits⟩
  · refine advanced_trailed audited applied.toAdvanced ?_ corrections audits
    simp [applied.action, applied.applied]
  · refine advanced_based applied.toAdvanced (fun correction member => ?_) corrections
    obtain ⟨target, member', same, le, unchanged⟩ := audited.based correction member
    have member'' := List.mem_map_of_mem (f := fun old =>
      if GradeRecord.id old = corrected.id then corrected else old) member'
    by_cases here : target.id = corrected.id
    · obtain rfl := Table.eq_of_key audited.keyed.records member' there (here.trans sameId)
      simp only [if_pos here] at member''
      refine ⟨corrected, records ▸ member'', sameId.trans same, by omega, fun equal => ?_⟩
      omega
    · simp only [if_neg here] at member''
      exact ⟨target, records ▸ member'', same, le, unchanged⟩
  · intro target member
    rw [records] at member
    rcases Table.mem_replace member with rfl | ⟨known, other⟩
    · obtain ⟨chain, versions⟩ := audited.versioned record there
      have extended : db'.appliedTo target.id = db.appliedTo record.id ++ [entry] := by
        rw [applied_to_append audits, sameId, if_pos ⟨ofEntry, applied.action⟩]
      constructor
      · rw [extended]
        exact .applied chain entry target.state applied.stateBefore applied.stateAfter version
      · rw [extended, List.length_append, version, versions]
        rfl
    · refine versioned_same (audited.versioned target known) ?_
      rw [applied_to_append audits, if_neg]
      rintro ⟨same, -⟩
      exact other (same.symm.trans (ofEntry.trans sameId.symm))

variable [Unicode]

/-- Every call keeps the trails. -/
theorem next_audited (audited : Audited db) : Audited (label.next db) := by
  rcases @next_cases _ db label with same | called
  · rw [same]
    exact audited
  have effect := call_effect called
  have keyed' := effect_keyed audited.keyed effect
  generalize label.next db = db' at effect keyed'
  cases effect with
  | saved self saves valid result =>
    subst result
    exact audited_same audited keyed' rfl rfl rfl
  | submitted assessment batch records found accepted => exact submitted_audited audited accepted
  | applied before after record corrected assessment entry ofLabel applied =>
    exact applied_audited audited keyed' applied
  | requested record correction entry requested =>
    exact requested_audited audited keyed' requested
  | moved before after entry moved => exact moved_audited audited keyed' moved
  | elsewhere staff school curriculum schemas bands clock nextId later result =>
    subst result
    exact audited_same audited keyed' rfl rfl rfl

/-! ## The audit chain -/

/-- What the entries of a correction say of it. -/
structure CorrectionTrail (db : Database) (correction : GradeCorrectionRequest) : Prop where
  chain : AuditChain (db.auditsOf correction.id) correction.status
  appliedOnce : (db.auditsOf correction.id).countP (fun entry => entry.action == .applied) ≤ 1
  closed : ∀ pre entry post, db.auditsOf correction.id = pre ++ entry :: post →
    entry.statusTo.isTerminal = true → post = []
  reviewer : correction.reviewedBy ≠ some correction.requestedBy
  applier : correction.appliedBy ≠ some correction.requestedBy

omit [Unicode] in
theorem trail_of_trailed (trailed : Trailed db correction) : CorrectionTrail db correction := by
  obtain ⟨chain, reviewer, applier⟩ := trailed
  refine ⟨chain, ?_, fun pre entry post shape => nothing_after_terminal chain shape, reviewer,
    applier⟩
  rw [applied_entries chain]
  split <;> omega

theorem run_audited (start : Uncorrected db) {calls : List MarksCall} {s : Database}
    (ran : marksMachine.run db calls = some s) : Audited s := by
  refine Machine.invariant_of_steps ?_ (uncorrected_audited start) ran
  intro db label db' audited stepped
  cases stepped
  exact next_audited audited

/-- **The audit chain.**  However the services are called, the entries of a correction are
a chain through the workflow up to its status, and the applied entries of a record a chain
through its states, one version each, up to the state it has. -/
theorem corrections_are_audited (start : Uncorrected db) (calls : List MarksCall) (s : Database)
    (ran : marksMachine.run db calls = some s) :
    (∀ correction ∈ s.corrections, CorrectionTrail s correction) ∧
      ∀ record ∈ s.records, StateChain (s.appliedTo record.id) record.state ∧
        record.version = 1 + (s.appliedTo record.id).length := by
  have audited := run_audited start ran
  constructor
  · exact fun correction member => trail_of_trailed (audited.trailed correction member)
  · intro record member
    obtain ⟨chain, version⟩ := audited.versioned record member
    exact ⟨chain, version⟩

/-! ## The state a correction is applied to -/

/-- Every applied correction was applied to the state it was requested against. -/
def AppliedAsRequested (db : Database) : Prop :=
  ∀ correction ∈ db.corrections, correction.status = .applied →
    ∃ entry ∈ db.audits, entry.correctionRequest = correction.id ∧ entry.action = .applied ∧
      entry.stateBefore = some correction.oldState

/-- No two applied corrections of a record were requested against one state. -/
def NoneOverwritten (db : Database) : Prop :=
  ∀ correction ∈ db.corrections, ∀ other ∈ db.corrections, correction.status = .applied →
    other.status = .applied → correction.gradeRecord = other.gradeRecord →
    correction.oldState = other.oldState → correction = other

instance : Decidable (AppliedAsRequested db) :=
  inferInstanceAs (Decidable (∀ correction ∈ db.corrections, _ → ∃ entry ∈ db.audits, _))

instance : Decidable (NoneOverwritten db) :=
  inferInstanceAs (Decidable (∀ correction ∈ db.corrections, ∀ other ∈ db.corrections,
    _ → _ → _ → _ → correction = other))

/-- An accepted application finds the record at the version its correction was requested
against. -/
def FindsVersion (db : Database) : MarksCall → Prop
  | .applyCorrection actor tenant id =>
    ((MarksCall.applyCorrection actor tenant id).call db).isOk = true →
      ∀ correction ∈ db.corrections.find? (·.id == id),
        ∀ record ∈ db.record? correction.gradeRecord,
          record.version = correction.oldState.version
  | _ => True

instance : Decidable (FindsVersion db label) := by
  unfold FindsVersion
  split <;> infer_instance

omit [Unicode] in
/-- Corrections applied as requested overwrite none. -/
theorem none_overwritten (audited : Audited db) (asRequested : AppliedAsRequested db) :
    NoneOverwritten db := by
  intro correction member other member' applied applied' sameRecord sameState
  have atRecord (correction : GradeCorrectionRequest) (member : correction ∈ db.corrections)
      (entry : GradeCorrectionAuditRecord) (known : entry ∈ db.audits)
      (entryFor : entry.correctionRequest = correction.id) (action : entry.action = .applied) :
      entry ∈ db.appliedTo correction.gradeRecord := by
    obtain ⟨owner, member', id, ofRecord⟩ := audited.known entry known
    obtain rfl := Table.eq_of_key audited.keyed.corrections member' member (id.trans entryFor)
    exact List.mem_filter.mpr ⟨known, by simp [ofRecord, action]⟩
  obtain ⟨entry, known, entryFor, action, stateBefore⟩ := asRequested correction member applied
  obtain ⟨entry', known', entryFor', action', stateBefore'⟩ := asRequested other member' applied'
  obtain ⟨record, there, ofCorrection, -⟩ := audited.based correction member
  obtain ⟨distinct, -⟩ := chain_states (audited.versioned record there).chain
  have here := atRecord correction member entry known entryFor action
  have here' := atRecord other member' entry' known' entryFor' action'
  rw [← sameRecord, ← ofCorrection] at here'
  rw [← ofCorrection] at here
  rw [← sameState] at stateBefore'
  obtain rfl := List.inj_on_of_nodup_map distinct here here' (stateBefore.trans stateBefore'.symm)
  exact Table.eq_of_key audited.keyed.corrections member member' (entryFor.symm.trans entryFor')

omit [Unicode] in
/-- Entries are kept, so only a correction newly applied matters. -/
theorem as_requested_grow (asRequested : AppliedAsRequested db)
    (audits : ∀ entry ∈ db.audits, entry ∈ db'.audits)
    (corrections : ∀ correction ∈ db'.corrections, correction.status = .applied →
      correction ∈ db.corrections ∨ ∃ entry ∈ db'.audits,
        entry.correctionRequest = correction.id ∧ entry.action = .applied ∧
          entry.stateBefore = some correction.oldState) : AppliedAsRequested db' := by
  intro correction member applied
  rcases corrections correction member applied with known | new
  · obtain ⟨entry, member', rest⟩ := asRequested correction known applied
    exact ⟨entry, audits entry member', rest⟩
  · exact new

/-- A call that applies nothing to another state keeps the law. -/
theorem effect_as_requested (audited : Audited db) (asRequested : AppliedAsRequested db)
    (effect : Effect db label db')
    (found : ∀ actor tenant before record, label = .applyCorrection actor tenant before.id →
      db.corrections.find? (·.id == before.id) = some before →
        db.record? before.gradeRecord = some record →
          record.version = before.oldState.version) : AppliedAsRequested db' := by
  cases effect with
  | saved self saves valid result =>
    subst result
    exact asRequested
  | submitted assessment batch records found' accepted =>
    have result := accepted.result
    subst result
    exact asRequested
  | applied before after record corrected assessment entry ofLabel applied =>
    have known := List.mem_of_find?_eq_some applied.found
    obtain ⟨there, ofCorrection⟩ := record_found applied.ofCorrection
    obtain ⟨target, member, ofBefore, -, unchanged⟩ := audited.based before known
    obtain rfl := Table.eq_of_key audited.keyed.records member there
      (ofBefore.trans ofCorrection.symm)
    obtain ⟨actor, tenant, same⟩ := ofLabel
    have version := found actor tenant before target same applied.found applied.ofCorrection
    have state := unchanged version.symm
    have audits : db'.audits = db.audits ++ [entry] := by rw [applied.result]
    have corrections : db'.corrections =
        Table.replace GradeCorrectionRequest.id after db.corrections := by rw [applied.result]
    refine as_requested_grow asRequested (fun old member => by simp [audits, member]) ?_
    intro correction member' _
    rw [corrections] at member'
    rcases Table.mem_replace member' with rfl | ⟨old, -⟩
    · refine .inr ⟨entry, by simp [audits], applied.entryFor.trans applied.id.symm,
        applied.action, ?_⟩
      rw [applied.stateBefore, applied.oldState, state]
    · exact .inl old
  | requested record correction entry requested =>
    have result := requested.result
    refine as_requested_grow asRequested (fun old member => by simp [result, member]) ?_
    intro other member applied
    rw [result] at member
    rcases List.mem_append.mp member with old | new
    · exact .inl old
    · obtain rfl : other = correction := by simpa using new
      rw [requested.status] at applied
      cases applied
  | moved before after entry moved =>
    have result := moved.result
    refine as_requested_grow asRequested (fun old member => by simp [result, member]) ?_
    intro other member applied
    rw [result] at member
    rcases Table.mem_replace member with rfl | ⟨old, -⟩
    · exact absurd applied moved.unapplied
    · exact .inl old
  | elsewhere staff school curriculum schemas bands clock nextId later result =>
    subst result
    exact asRequested

omit [Unicode] in
/-- An application that leaves every correction applied as requested found its record at
the version it was requested against. -/
theorem version_of_as_requested (audited : Audited db)
    (applied : Applied db before after record assessment corrected entry db')
    (asRequested : AppliedAsRequested db') : record.version = before.oldState.version := by
  have known := List.mem_of_find?_eq_some applied.found
  have audits : db'.audits = db.audits ++ [entry] := by rw [applied.result]
  have here : after ∈ db'.corrections := by
    rw [applied.result]
    refine List.mem_map.mpr ⟨before, known, ?_⟩
    rw [if_pos applied.id.symm]
  obtain ⟨entry', member, entryFor, action, stateBefore⟩ := asRequested after here applied.applied
  rw [audits] at member
  rcases List.mem_append.mp member with old | new
  · -- the correction had no applied entry before it was applied
    have unapplied : before.status ≠ .applied := by
      intro is
      have approved := applied.approved
      rw [is] at approved
      cases approved
    have none := applied_entries (audited.trailed before known).chain
    rw [if_neg unapplied, List.countP_eq_zero] at none
    have ofBefore : entry' ∈ db.auditsOf before.id :=
      List.mem_filter.mpr ⟨old, by simp [entryFor, applied.id]⟩
    exact absurd (by simp [action]) (none entry' ofBefore)
  · obtain rfl : entry' = entry := by simpa using new
    rw [applied.stateBefore, applied.oldState, Option.some.injEq] at stateBefore
    exact congrArg GradeState.version stateBefore

/-- **When corrections are applied to the state they were requested against.**  In exactly
the runs in which every accepted application finds the record at the version its
correction was requested against, every applied correction was applied to the state it was
requested against, and no two of a record to one state. -/
theorem corrections_apply_to_their_state_iff (start : Uncorrected db) (calls : List MarksCall) :
    marksMachine.Always (fun _ _ s => AppliedAsRequested s ∧ NoneOverwritten s) db calls ↔
      marksMachine.Meets FindsVersion db calls := by
  have begin : Audited db ∧ AppliedAsRequested db :=
    ⟨uncorrected_audited start, by simp [AppliedAsRequested, start.corrections]⟩
  have keeps (db : Database) (label : MarksCall) (db' : Database)
      (inv : Audited db ∧ AppliedAsRequested db) (finds : FindsVersion db label)
      (stepped : marksMachine.step db label = some db') :
      Audited db' ∧ AppliedAsRequested db' := by
    obtain ⟨audited, asRequested⟩ := inv
    cases stepped
    refine ⟨next_audited audited, ?_⟩
    rcases @next_cases _ db label with same | called
    · rw [same]
      exact asRequested
    · refine effect_as_requested audited asRequested (call_effect called) ?_
      rintro actor tenant before record rfl found ofCorrection
      exact finds (by rw [called]; rfl) before found record ofCorrection
  refine Machine.always_iff_meets keeps ?gives ?needs (fun _ _ => ⟨_, rfl⟩) begin
  case gives =>
    intro db label db' inv finds stepped
    obtain ⟨audited, asRequested⟩ := keeps db label db' inv finds stepped
    exact ⟨asRequested, none_overwritten audited asRequested⟩
  case needs =>
    intro db label db' inv stepped safe
    cases stepped
    cases label with
    | applyCorrection actor tenant id =>
      intro accepted correction found record ofCorrection
      obtain ⟨db', called⟩ := Outcome.returns_iff.mp accepted
      have next : (MarksCall.applyCorrection actor tenant id).next db = db' := by
        unfold MarksCall.next
        rw [called]
      obtain ⟨⟨reply, db''⟩, applied, rfl⟩ := Outcome.map_ok called
      obtain ⟨before, record', assessment, corrected, entry, rfl, effect⟩ := apply_ok applied
      cases effect.found.symm.trans found
      cases effect.ofCorrection.symm.trans ofCorrection
      rw [next] at safe
      exact version_of_as_requested inv.1 effect safe.1
    | _ => trivial

end

section Sample

attribute [local instance] Unicode.ascii

/-- A correction of the first learner's 80.00. -/
private def recount (teacher : ℕ) (score : Int) : MarksCall :=
  .createCorrection ⟨teacher, true⟩ 1 1
    [("reason", .str "Recount"), ("proposed_raw_score", .int score)]

/-- The exam is marked, and a correction requested, approved and applied. -/
private def recounted : List MarksCall :=
  [.save Sample.exam, .submit Sample.marks, recount 10 90,
    .reviewAsHod ⟨11, true⟩ 1 2 "approve" "Checked", .applyCorrection ⟨11, true⟩ 1 2]

/-- Two corrections are requested of one state, approved and applied. -/
private def overwritten : List MarksCall :=
  [.save Sample.exam, .submit Sample.marks, recount 10 90, recount 13 70,
    .reviewAsHod ⟨11, true⟩ 1 2 "approve" "Checked", .reviewAsHod ⟨11, true⟩ 1 4 "approve" "Checked",
    .applyCorrection ⟨11, true⟩ 1 2]

private theorem uncorrected : Uncorrected Sample.database :=
  ⟨⟨by decide, by decide, by decide, by decide⟩, rfl, rfl, by decide⟩

/-- One correction applied: its trail, and its record at the second version. -/
theorem recount_is_audited :
    ∃ s, marksMachine.run Sample.database recounted = some s ∧
      (∃ correction ∈ s.corrections, correction.status = .applied) ∧
      (∀ correction ∈ s.corrections, CorrectionTrail s correction) ∧
      ∀ record ∈ s.records, StateChain (s.appliedTo record.id) record.state ∧
        record.version = 1 + (s.appliedTo record.id).length := by
  refine ⟨_, rfl, by decide +kernel, ?_⟩
  exact corrections_are_audited uncorrected recounted _ rfl

/-- It was applied to the state it was requested against. -/
theorem recount_applies_to_its_state :
    marksMachine.Always (fun _ _ s => AppliedAsRequested s ∧ NoneOverwritten s)
      Sample.database recounted :=
  (corrections_apply_to_their_state_iff uncorrected recounted).mpr (by decide +kernel)

/-- The second correction is applied over the first. -/
theorem second_recount_overwrites :
    ¬ marksMachine.Always (fun _ _ s => AppliedAsRequested s ∧ NoneOverwritten s)
      Sample.database (overwritten ++ [.applyCorrection ⟨11, true⟩ 1 4]) := by
  intro always
  have last := Machine.Always.at_step always rfl rfl
  revert last
  decide +kernel

end Sample

end Darasa.Grading
