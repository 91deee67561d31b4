import Darasa.Events.References
import Darasa.Grading.Freshness
import Darasa.Grading.Reports

/-!
What grading announces.

A submission and a compilation register a callback that writes their event once they are
committed.  The events hold identifiers, moments, counts and the name of a state, and the
contracts of grading accept every one of them.
-/

namespace Darasa.Grading

open Darasa (Json Machine Outcome Regex Unicode cleanLength cleanText)
open Darasa.Core (CustomUser)
open Darasa.Events (OutboxRequest EventOutbox EventTypeRegistry IsReference Statement Choice
  Wellformed execute executeNow referenceChars writeOutboxEvent)
open Darasa.Rendering (isoformat)

/-! ## The callbacks -/

/-- `str` of a foreign key. -/
def referenceText : Option ℕ → String
  | some id => uuidText id
  | none => "None"

/-- The idempotency key of a submission's event. -/
def batchKey (id : ℕ) : String := "grading.batch_submitted:" ++ uuidText id

/-- The idempotency key of a compilation's event. -/
def runKey (id : ℕ) : String := "grading.compilation_completed:" ++ uuidText id

/-- `emit_batch_submitted`. -/
def emitBatchSubmitted (assessment : Assessment) (batch : GradeSubmissionBatch)
    (submittedAt : ℕ) : OutboxRequest where
  eventType := "grading.batch_submitted"
  eventVersion := 1
  sourceModule := "grading"
  idempotencyKey := batchKey batch.id
  payload := .obj
    [("tenant_id", .str (uuidText batch.tenant)),
      ("assessment_id", .str (uuidText assessment.id)),
      ("batch_id", .str (uuidText batch.id)),
      ("cohort_id", .str (uuidText assessment.cohort)),
      ("learning_area_id", .str (uuidText assessment.learningArea)),
      ("curriculum_version_id", .str (referenceText assessment.curriculumVersion)),
      ("rubric_foundation_id", .str (referenceText assessment.rubricFoundation)),
      ("record_count", .int batch.recordCount),
      ("submitted_at", .str (isoformat submittedAt))]
  tenant := some batch.tenant
  actorId := some batch.teacher

/-- `emit_compilation_completed`. -/
def emitCompilationCompleted (assessment : Assessment) (run : CompilationRun) (compiledAt : ℕ) :
    OutboxRequest where
  eventType := "grading.compilation_completed"
  eventVersion := 1
  sourceModule := "grading"
  idempotencyKey := runKey run.id
  payload := .obj
    [("tenant_id", .str (uuidText run.tenant)),
      ("assessment_id", .str (uuidText assessment.id)),
      ("compilation_run_id", .str (uuidText run.id)),
      ("cohort_id", .str (uuidText assessment.cohort)),
      ("learning_area_id", .str (uuidText assessment.learningArea)),
      ("curriculum_version_id", .str (referenceText assessment.curriculumVersion)),
      ("status", .str run.status.value),
      ("compiled_at", .str (isoformat compiledAt))]
  tenant := some run.tenant
  actorId := run.requestedBy

/-- The contracts `INITIAL_EVENT_CONTRACTS` has for the two. -/
def batchSubmittedContract : EventTypeRegistry where
  eventType := "grading.batch_submitted"
  eventVersion := 1
  sourceModule := "grading"
  allowedProducers := ["grading"]
  allowedConsumers := ["audit"]
  requiresTenant := true
  payloadSchema := .obj [("required", .arr
    (["tenant_id", "assessment_id", "batch_id", "cohort_id", "learning_area_id",
      "curriculum_version_id", "record_count", "submitted_at"].map .str))]
  priority := .normal
  isActive := true

@[inherit_doc batchSubmittedContract]
def compilationCompletedContract : EventTypeRegistry where
  eventType := "grading.compilation_completed"
  eventVersion := 1
  sourceModule := "grading"
  allowedProducers := ["grading"]
  allowedConsumers := ["audit"]
  requiresTenant := true
  payloadSchema := .obj [("required", .arr
    (["tenant_id", "assessment_id", "compilation_run_id", "cohort_id", "learning_area_id",
      "curriculum_version_id", "status", "compiled_at"].map .str))]
  priority := .normal
  isActive := true

/-! ## The callbacks are accepted -/

/-- The identifiers of an assessment are 128-bit numbers, as UUIDs are. -/
structure Assessment.Uuids (assessment : Assessment) : Prop where
  id : assessment.id < 2 ^ 128
  tenant : assessment.tenant < 2 ^ 128
  cohort : assessment.cohort < 2 ^ 128
  learningArea : assessment.learningArea < 2 ^ 128
  curriculumVersion : ∀ id ∈ assessment.curriculumVersion, id < 2 ^ 128
  rubricFoundation : ∀ id ∈ assessment.rubricFoundation, id < 2 ^ 128

instance (assessment : Assessment) : Decidable assessment.Uuids :=
  decidable_of_iff ((assessment.id < 2 ^ 128 ∧ assessment.tenant < 2 ^ 128 ∧
      assessment.cohort < 2 ^ 128 ∧ assessment.learningArea < 2 ^ 128) ∧
      (assessment.curriculumVersion.all fun id => decide (id < 2 ^ 128)) = true ∧
      (assessment.rubricFoundation.all fun id => decide (id < 2 ^ 128)) = true) <| by
    simp only [Option.all_eq_true, decide_eq_true_eq]
    constructor
    · rintro ⟨⟨id, tenant, cohort, learningArea⟩, curriculumVersion, rubricFoundation⟩
      exact ⟨id, tenant, cohort, learningArea, curriculumVersion, rubricFoundation⟩
    · rintro ⟨id, tenant, cohort, learningArea, curriculumVersion, rubricFoundation⟩
      exact ⟨⟨id, tenant, cohort, learningArea⟩, curriculumVersion, rubricFoundation⟩

/-- So are those drawn so far. -/
structure Database.Uuids (db : Database) : Prop where
  assessments : ∀ assessment ∈ db.assessments, assessment.Uuids
  drawn : db.nextId < 2 ^ 128

instance (db : Database) : Decidable db.Uuids :=
  decidable_of_iff
    ((db.assessments.all fun assessment => decide assessment.Uuids) = true ∧ db.nextId < 2 ^ 128) <| by
    simp only [List.all_eq_true, decide_eq_true_eq]
    constructor
    · rintro ⟨assessments, drawn⟩
      exact ⟨assessments, drawn⟩
    · rintro ⟨assessments, drawn⟩
      exact ⟨assessments, drawn⟩

section

variable [Unicode] {assessment : Assessment} {batch : GradeSubmissionBatch} {run : CompilationRun}
  {moment : ℕ}

open Darasa (cleanJson)
open Darasa.Events (Announceable CalmKey NameChar announceable_reference announceable_text
  authorizeProducer each_char isoformat_reference name_char_stable namespace_accepted payload_accepted
  producer_accepted reference_solid strip_solid text_safe uuidText_reference
  validateEventNamespace validateEventPayload)

theorem uuid_announceable {id : ℕ} (fits : id < 2 ^ 128) : Announceable (.str (uuidText id)) :=
  announceable_reference (uuidText_reference fits)

theorem reference_announceable {id : Option ℕ} (fits : ∀ n ∈ id, n < 2 ^ 128) :
    Announceable (.str (referenceText id)) := by
  cases id with
  | none => exact announceable_text (text_safe (by decide) (by decide) (by decide)
      (.inr (each_char (by decide)))) (by decide) (by decide)
  | some id => exact uuid_announceable (fits id rfl)

theorem moment_announceable : Announceable (.str (isoformat moment)) :=
  announceable_reference (isoformat_reference moment)

omit [Unicode] in
private theorem status_plain (status : CompilationStatus) :
    status.value.toList.countP Regex.upper ≤ 1 ∧ '@' ∉ status.value.toList ∧
      'B' ∉ status.value.toList ∧
      (∀ c ∈ status.value.toList, (c == ':' || c == '=') = false) ∧
      status.value.toList.length ≤ 36 ∧ Text.storable status.value = true := by
  cases status <;> exact ⟨by decide +kernel, by decide +kernel, by decide +kernel,
    each_char (by decide +kernel), by decide +kernel, by decide +kernel⟩

theorem status_announceable (status : CompilationStatus) : Announceable (.str status.value) := by
  obtain ⟨capitals, noAt, noBee, signs, short, storable⟩ := status_plain status
  exact announceable_text (text_safe capitals noAt noBee (.inr signs)) short storable

omit [Unicode] in
theorem count_announceable [Unicode] {count : ℕ} (fits : count ≤ 2147483647) :
    Announceable (.int count) := by
  refine ⟨rfl, ?_, rfl⟩
  have digits : (toString (count : ℤ)).length = (Nat.toDigits 10 count).length := by
    rw [← String.length_toList]
    exact congrArg List.length Nat.toList_repr
  have short : (Nat.toDigits 10 count).length ≤ 10 := by
    rw [Nat.length_toDigits_le_iff (by norm_num) (by norm_num)]
    omega
  rw [Json.encodedLength, digits]
  omega

/-- A key of a name and an identifier passes its checks. -/
theorem key_accepted {name : String} {id : ℕ} (fits : id < 2 ^ 128)
    (plain : ∀ c ∈ name.toList, NameChar c ∨ c = ':') (short : name.toList.length ≤ 60) :
    Text.isBlank (name ++ uuidText id) = false ∧
      cleanText "idempotency_key" 160 (name ++ uuidText id) = .ok () ∧
        Text.storable (name ++ uuidText id) = true := by
  have reference := uuidText_reference fits
  have filled : name.toList ++ (uuidText id).toList ≠ [] := by
    intro empty
    have none := congrArg List.length (List.append_eq_nil_iff.mp empty).2
    unfold uuidText at none
    rw [String.toList_ofList] at none
    simp only [List.length_append, List.length_cons, List.length_nil] at none
    omega
  have chars : (name ++ uuidText id).toList = name.toList ++ (uuidText id).toList :=
    String.toList_append
  refine ⟨?_, ?_, ?_⟩
  · have strip : Text.stripChars (name ++ uuidText id).toList = name.toList ++ (uuidText id).toList := by
      rw [chars]
      apply strip_solid
      intro c member
      rcases List.mem_append.mp member with early | late
      · rcases plain c early with letter | rfl
        · exact (name_char_stable letter).1
        · rfl
      · exact reference_solid c (reference.chars late)
    rw [Text.isBlank, strip, List.isEmpty_eq_false_iff]
    exact filled
  · have length : (name ++ uuidText id).length ≤ 160 := by
      have bound := reference.short
      rw [← String.length_toList, chars, List.length_append]
      omega
    have some_text : (name ++ uuidText id).isEmpty = false := by
      rw [Bool.eq_false_iff]
      intro empty
      rw [String.isEmpty_iff] at empty
      rw [empty] at chars
      exact filled chars.symm
    unfold cleanText cleanLength
    rw [some_text, decide_eq_false_iff_not.mpr (by omega)]
    rfl
  · rw [Text.storable_iff, chars, List.mem_append, not_or]
    refine ⟨fun early => ?_, Text.storable_iff.mp reference.storable⟩
    rcases plain _ early with letter | colon
    · exact absurd letter (by decide)
    · exact absurd colon (by decide)

/-- The names the two payloads use. -/
def announcedKeys : List String :=
  ["tenant_id", "assessment_id", "batch_id", "compilation_run_id", "cohort_id",
    "learning_area_id", "curriculum_version_id", "rubric_foundation_id", "record_count",
    "submitted_at", "status", "compiled_at"]

omit [Unicode] in
theorem announced_keys_calm : ∀ key ∈ announcedKeys, CalmKey key := by decide +kernel

/-- What the two contracts have in common. -/
theorem wellformed_of {request : OutboxRequest} {contract : EventTypeRegistry} {name key : String}
    {tenant id : ℕ} (isType : request.eventType = name)
    (named : validateEventNamespace name = .ok name)
    (typeText : cleanText "event_type" 128 name = .ok ())
    (source : request.sourceModule = "grading") (producers : contract.allowedProducers = ["grading"])
    (payload : validateEventPayload request.payload contract.payloadSchema = .ok () ∧
      request.payload.storable = true)
    (filled : cleanJson "payload" request.payload = .ok ())
    (ofTenant : request.tenant = some tenant) (tenantFits : tenant < 2 ^ 128)
    (isKey : request.idempotencyKey = key ++ uuidText id) (fits : id < 2 ^ 128)
    (plain : ∀ c ∈ key.toList, NameChar c ∨ c = ':') (short : key.toList.length ≤ 60) :
    Wellformed request contract := by
  obtain ⟨spoken, keyText, keyStored⟩ := key_accepted fits plain short
  have producer : authorizeProducer "grading" ["grading"] = .ok "grading" :=
    producer_accepted (each_char (by decide)) (by decide)
  refine ⟨?_, ⟨"grading", ?_⟩, payload.1, ⟨tenant, tenantFits, ofTenant⟩, ?_,
    ⟨?_, ?_, ?_, filled⟩, ?_, ?_, payload.2⟩
  · rw [isType, named]
  · rw [source, producers, producer]
  · rw [isKey, spoken]
  · rw [isType, typeText]
  · rw [isKey, keyText]
  · rw [source]
    decide
  · rw [isKey, keyStored]
  · rw [source]
    decide

theorem batch_wellformed (uuids : assessment.Uuids) (tenant : batch.tenant = assessment.tenant)
    (fits : batch.id < 2 ^ 128) (count : batch.recordCount ≤ 2147483647) :
    Wellformed (emitBatchSubmitted assessment batch moment) batchSubmittedContract := by
  have tenantFits : batch.tenant < 2 ^ 128 := tenant ▸ uuids.tenant
  have named : validateEventNamespace "grading.batch_submitted" = .ok "grading.batch_submitted" :=
    namespace_accepted (by decide +kernel) (by decide +kernel)
  have typeText : cleanText "event_type" 128 "grading.batch_submitted" = .ok () := by decide
  refine wellformed_of rfl named typeText rfl rfl ?_ rfl rfl tenantFits rfl fits
    (each_char (by decide +kernel)) (by decide +kernel)
  have keys : ["tenant_id", "assessment_id", "batch_id", "cohort_id", "learning_area_id",
    "curriculum_version_id", "rubric_foundation_id", "record_count", "submitted_at"] ⊆
      announcedKeys := by decide
  apply payload_accepted
  · exact fun key member => announced_keys_calm key (keys member)
  · simp only [List.map_cons, List.map_nil, List.forall_mem_cons]
    exact ⟨uuid_announceable tenantFits, uuid_announceable uuids.id, uuid_announceable fits,
      uuid_announceable uuids.cohort, uuid_announceable uuids.learningArea,
      reference_announceable uuids.curriculumVersion, reference_announceable uuids.rubricFoundation,
      count_announceable count, moment_announceable, by simp⟩
  · exact le_rfl
  · simp only [List.map_cons, List.map_nil]
    decide

theorem run_wellformed (uuids : assessment.Uuids) (tenant : run.tenant = assessment.tenant)
    (fits : run.id < 2 ^ 128) :
    Wellformed (emitCompilationCompleted assessment run moment) compilationCompletedContract := by
  have tenantFits : run.tenant < 2 ^ 128 := tenant ▸ uuids.tenant
  have named : validateEventNamespace "grading.compilation_completed" =
      .ok "grading.compilation_completed" :=
    namespace_accepted (by decide +kernel) (by decide +kernel)
  have typeText : cleanText "event_type" 128 "grading.compilation_completed" = .ok () := by decide
  refine wellformed_of rfl named typeText rfl rfl ?_ rfl rfl tenantFits rfl fits
    (each_char (by decide +kernel)) (by decide +kernel)
  have keys : ["tenant_id", "assessment_id", "compilation_run_id", "cohort_id",
    "learning_area_id", "curriculum_version_id", "status", "compiled_at"] ⊆
      announcedKeys := by decide
  apply payload_accepted
  · exact fun key member => announced_keys_calm key (keys member)
  · simp only [List.map_cons, List.map_nil, List.forall_mem_cons]
    exact ⟨uuid_announceable tenantFits, uuid_announceable uuids.id, uuid_announceable fits,
      uuid_announceable uuids.cohort, uuid_announceable uuids.learningArea,
      reference_announceable uuids.curriculumVersion, status_announceable _,
      moment_announceable, by simp⟩
  · exact Nat.le_succ 8
  · simp only [List.map_cons, List.map_nil]
    decide

end

end Darasa.Grading
