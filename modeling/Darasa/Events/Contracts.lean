import Darasa.Runtime.Json
import Darasa.Runtime.Regex

/-!
The deterministic event rules of `events/algorithms`: which names, producers,
priorities, partition keys and payloads an event may carry, and how a failed
dispatch is classified.

`validateEventContractAlgorithm` is the whole check an emission passes before a row is
written; `EventOutbox.clean` repeats its payload half on every later save.
-/

namespace Darasa.Events

open Darasa (Outcome Exn Json Regex Unicode refuseIf)

/-! ## Constants -/

def maxEventPayloadBytes : ℕ := 8 * 1024
def maxRetryAttempts : ℕ := 3
def defaultRetryDelaySeconds : ℕ := 60
def maxRelayBatchSize : ℕ := 100
def lockTimeoutSeconds : ℕ := 300

/-! ## Event names -/

variable [Unicode]

section Names

open Regex

/-- `[a-z][a-z0-9_]*`. -/
def segmentPattern : Regex :=
  seq (one lowercase) (star (one fun c => lowercase c || asciiDigit c || c == '_'))

/-- `BASE_EVENT_PATTERN`. -/
def baseEventPattern : Regex := seq segmentPattern (plus (seq (lit '.') segmentPattern))

/-- `COMMAND_TOKENS`. -/
def commandTokens : List String :=
  ["command", "delete", "delete_everything", "do", "execute", "now", "publish_this", "run", "send",
    "send_message", "update_every", "update_every_school"]

/-- `value.split(sep)`. -/
def split (sep : Char) (value : List Char) : List (List Char) := value.splitOnP (· == sep)

/-- `_reject_command_language`: neither a segment nor a word of one is a command. -/
def rejectCommandLanguage (value : List Char) : Outcome Unit :=
  let segments := split '.' value
  let parts := segments.flatMap (split '_')
  refuseIf ((parts ++ segments).any (commandTokens.map String.toList).contains) "event_type"
    "Events must describe facts."

/-- `validate_event_namespace`. -/
def validateEventNamespace (eventType : String) : Outcome String := do
  let value := Text.lowerChars (Text.stripChars eventType.toList)
  refuseIf (!baseEventPattern.fullmatch value) "event_type" "Event type name is invalid."
  rejectCommandLanguage value
  return .ofList value

end Names

/-! ## Priorities, producers, partitions -/

/-- A priority that passed `validate_priority`. -/
inductive Priority where
  | critical | high | normal | low | background
  deriving DecidableEq, Repr

/-- `PRIORITY_ORDER`. -/
def Priority.rank : Priority → ℕ
  | critical => 0
  | high => 1
  | normal => 2
  | low => 3
  | background => 4

/-- Exact allowlist matching, the shape of both authorizers. -/
def authorize (field message value : String) (allowed : List String) : Outcome String := do
  let value := Text.strip value
  let allowed := (allowed.map Text.strip).filter (!·.isEmpty)
  refuseIf (value.isEmpty || !allowed.contains value) field message
  return value

/-- `authorize_producer`. -/
def authorizeProducer (producer : String) (allowedProducers : List String) : Outcome String :=
  authorize "source_module" "Producer is not allowlisted." producer allowedProducers

/-- `authorize_consumer`. -/
def authorizeConsumer (consumer : String) (allowedConsumers : List String) : Outcome String :=
  authorize "consumer" "Consumer is not allowlisted." consumer allowedConsumers

/-- `PARTITION_KEY_PATTERN`. -/
def partitionKeyPattern : Regex :=
  .times (fun c => Regex.upper c || Regex.lowercase c || Regex.asciiDigit c ||
    ['.', '_', ':', '-'].contains c) 1 128

/-- `validate_partition_key`. -/
def validatePartitionKey (partitionKey : String) : Outcome String := do
  let value := Text.stripChars partitionKey.toList
  refuseIf (!partitionKeyPattern.fullmatch value) "partition_key" "Partition key is invalid."
  return .ofList value

/-- `build_partition_key`, with the arguments `write_outbox_event` gives it. -/
def buildPartitionKey (tenantId : Option String) (eventType : String) (requiresTenant : Bool) :
    Outcome String := do
  refuseIf (requiresTenant && tenantId.isNone) "tenant" "Tenant is required for partitioning."
  match tenantId with
  | some tenantId => validatePartitionKey ("tenant:" ++ tenantId)
  | none =>
    if eventType.isEmpty then validatePartitionKey "global"
    else validatePartitionKey ("event_type:" ++ eventType)

/-! ## Payloads -/

/-- `TYPE_MAP`: the classes a payload field can be declared with. -/
def fieldTypeAccepts : String → Option (Json → Bool)
  | "str" | "string" => some fun | .str _ => true | _ => false
  -- a Python `bool` is an `int`
  | "int" | "integer" => some fun | .int _ | .bool _ => true | _ => false
  | "bool" | "boolean" => some fun | .bool _ => true | _ => false
  | "dict" | "object" => some fun | .obj _ => true | _ => false
  | "list" => some fun | .arr _ => true | _ => false
  | _ => none

/-- The names `payload_schema["required"]` iterates over. -/
def requiredFields : Option Json → Outcome (List Json)
  | none => .ok []
  | some (.arr items) => .ok items
  | some (.str s) => .ok (s.toList.map fun c => .str (.singleton c))
  | some (.obj fields) => .ok (fields.map fun field => .str field.1)
  | some _ => .error (.typeError "object is not iterable")

/-- `field not in payload`, for the keys of a dict. -/
def isMissing (fields : List (String × Json)) : Json → Outcome Bool
  | .str name => .ok ((Json.lookup name fields).isNone)
  | .arr _ => .error (.typeError "unhashable type: 'list'")
  | .obj _ => .error (.typeError "unhashable type: 'dict'")
  | _ => .ok true

/-- One entry of `payload_schema["types"]`. -/
def checkFieldType (fields : List (String × Json)) (entry : String × Json) : Outcome Unit :=
  match Json.lookup entry.1 fields with
  | none => .ok ()
  | some value =>
    match entry.2 with
    | .str typeName =>
      match fieldTypeAccepts (Text.lower typeName) with
      | none => .error (.validationError "payload_schema" "Payload field type is unsupported.")
      | some accepts => refuseIf (!accepts value) "payload" "Event payload field type is invalid."
    | _ => .error (.validationError "payload_schema" "Payload field type is unsupported.")

/-- `validate_payload_schema`.  A JSON value is always JSON-safe, so
`ensure_json_serializable` has nothing to refuse. -/
def validatePayloadSchema (payload payloadSchema : Json) : Outcome Unit := do
  match payload with
  | .obj fields =>
    match payloadSchema with
    | .obj schema =>
      let required ← requiredFields (Json.lookup "required" schema)
      let missing ← required.filterM (isMissing fields)
      refuseIf (!missing.isEmpty) "payload" "Event payload is missing required fields."
      match (Json.lookup "types" schema).getD (.obj []) with
      | .obj types => types.forM (checkFieldType fields)
      | _ => .error (.validationError "payload_schema" "Payload field types are invalid.")
    | _ => .error (.attributeError "object has no attribute 'get'")
  | _ => .error (.validationError "payload" "Event payload must be an object.")

/-- `validate_payload_size`. -/
def validatePayloadSize (payload : Json) (maxBytes : ℕ) : Outcome Unit :=
  refuseIf (decide (maxBytes < payload.encodedLength)) "payload" "Event payload is too large."

/-- `SENSITIVE_KEY_FRAGMENTS`. -/
def sensitiveKeyFragments : List String :=
  ["access_token", "admission", "component_scores", "circular_text", "document_body", "email",
    "file_content", "full_curriculum_text", "guardian", "grade_mark", "grade_marks", "html_body",
    "learner_name", "learner_names", "nlp_output", "password", "phone", "private_key",
    "raw_circular", "raw_curriculum", "raw_document", "raw_grade_grid", "raw_mark", "raw_marks",
    "raw_payload", "raw_score", "raw_uploaded_file", "report_text", "secret", "student_data",
    "student_name", "student_names", "teacher_private_notes", "token", "uploaded_file_content"]

section Patterns

open Regex

/-- A literal text. -/
def litText (s : String) : Regex := s.toList.foldr (fun c r => seq (lit c) r) (star (one fun _ => false))

/-- `SENSITIVE_VALUE_PATTERNS`. -/
def sensitiveValuePatterns : List Regex :=
  [
    -- `\b[A-Z]{2,5}[-_]?\d{3,}\b`
    seq boundary (seq (times upper 2 5) (seq (opt (one fun c => c == '-' || c == '_'))
      (seq (atLeast 3 digit) boundary))),
    -- `\b[\w.+-]+@[\w.-]+\.[A-Za-z]{2,}\b`
    seq boundary (seq (atLeast 1 fun c => Unicode.isWord c || ['.', '+', '-'].contains c)
      (seq (lit '@') (seq (atLeast 1 fun c => Unicode.isWord c || ['.', '-'].contains c)
        (seq (lit '.') (seq (atLeast 2 fun c => upper c || lowercase c) boundary))))),
    -- `-----BEGIN [A-Z ]*PRIVATE KEY-----`
    seq (litText "-----BEGIN ") (seq (star (one fun c => upper c || c == ' '))
      (litText "PRIVATE KEY-----")),
    -- `\b(password|token|secret)\s*[:=]`, ignoring case
    seq boundary (seq (alt (litIgnoringCase "password".toList)
      (alt (litIgnoringCase "token".toList) (litIgnoringCase "secret".toList)))
      (seq (star (one Unicode.isSpace)) (one fun c => c == ':' || c == '=')))]

end Patterns

/-- A mapping key that names something sensitive. -/
def sensitiveKey (key : String) : Bool :=
  let keyText := Text.lowerChars (Text.stripChars key.toList)
  sensitiveKeyFragments.any fun fragment => Text.containsChars fragment.toList keyText

/-- What an ASCII key names does not depend on the database of characters. -/
theorem calm_of_ascii {key : String} (ascii : key.toList.all Unicode.isAscii = true)
    (calm : @sensitiveKey .ascii key = false) : sensitiveKey key = false := by
  have each := List.all_eq_true.mp ascii
  have stripped : ∀ c ∈ Text.stripChars key.toList, Unicode.isAscii c = true := fun c member =>
    each c (Text.strip_subset member)
  unfold sensitiveKey at calm ⊢
  rw [Text.lower_ascii stripped, Text.strip_ascii each]
  exact calm

/-- A string value that looks like something sensitive. -/
def sensitiveText (value : String) : Bool := sensitiveValuePatterns.any (·.search value.toList)

/-- The text of a list whose items are all strings. -/
def joinStrings : List Json → Option String
  | [] => some ""
  | [.str s] => some s
  | .str s :: rest => (joinStrings rest).map (s ++ " " ++ ·)
  | _ => none

/-- A non-empty list of strings that talks of learners. -/
def namesLearners (items : List Json) : Bool :=
  !items.isEmpty && (joinStrings items).any fun joined =>
    let lowered := Text.lowerChars joined.toList
    Text.containsChars "learner".toList lowered || Text.containsChars "student".toList lowered

mutual

/-- `reject_sensitive_payload`, the recursive walk. -/
def rejectSensitivePayload : Json → Outcome Unit
  | .obj fields => rejectSensitiveFields fields
  | .arr items => do
    refuseIf (namesLearners items) "payload" "Event payload contains sensitive values."
    rejectSensitiveItems items
  | .str value =>
    refuseIf (sensitiveText value) "payload" "Event payload contains sensitive values."
  | _ => .ok ()

def rejectSensitiveItems : List Json → Outcome Unit
  | [] => .ok ()
  | item :: items => do
    rejectSensitivePayload item
    rejectSensitiveItems items

def rejectSensitiveFields : List (String × Json) → Outcome Unit
  | [] => .ok ()
  | (key, nested) :: fields => do
    refuseIf (sensitiveKey key) "payload" "Event payload contains sensitive fields."
    rejectSensitivePayload nested
    rejectSensitiveFields fields

end

theorem reject_sensitive_fields_ok {key : String} {nested : Json} {fields : List (String × Json)} :
    rejectSensitiveFields ((key, nested) :: fields) = .ok () ↔
      sensitiveKey key = false ∧ rejectSensitivePayload nested = .ok () ∧
        rejectSensitiveFields fields = .ok () := by
  have unit {x : Outcome Unit} : (∃ u, x = .ok u) ↔ x = .ok () :=
    ⟨fun ⟨_, ok⟩ => ok, fun ok => ⟨(), ok⟩⟩
  simp [rejectSensitiveFields, Outcome.bind_ok, unit]

/-- `validate_event_payload`. -/
def validateEventPayload (payload payloadSchema : Json) : Outcome Unit := do
  validatePayloadSchema payload payloadSchema
  validatePayloadSize payload maxEventPayloadBytes
  rejectSensitivePayload payload

/-! ## Contracts -/

/-- An `EventTypeRegistry` row: the contract of one event type and version. -/
structure EventTypeRegistry where
  eventType : String
  eventVersion : ℕ
  sourceModule : String
  allowedProducers : List String
  allowedConsumers : List String
  requiresTenant : Bool
  payloadSchema : Json
  priority : Priority
  isActive : Bool
  deriving DecidableEq, Repr

/-- `event_contract_validator.validate_event_contract`, which the services import
as `validate_event_contract_algorithm`, for a contract taken from the registry
and a priority already validated. -/
def validateEventContractAlgorithm (contract : EventTypeRegistry) (eventType : String)
    (eventVersion : ℕ) (producer : String) (hasTenant : Bool) (payload : Json) :
    Outcome Unit := do
  refuseIf (!contract.isActive) "event_type" "Active event type is required."
  let name ← validateEventNamespace eventType
  refuseIf (name != contract.eventType) "event_type" "Event type does not match contract."
  refuseIf (eventVersion != contract.eventVersion) "event_version" "Event version is invalid."
  let _ ← authorizeProducer producer contract.allowedProducers
  refuseIf (contract.requiresTenant && !hasTenant) "tenant" "Tenant is required for this event."
  validateEventPayload payload contract.payloadSchema

/-! ## Retries and dead letters -/

/-- `decide_retry` for the failure class `retryable`: another attempt is due. -/
def shouldRetry (attemptNumber : ℕ) : Bool := decide (attemptNumber < maxRetryAttempts)

/-- `calculate_backoff_seconds` with the dispatcher's delays. -/
def calculateBackoffSeconds (attemptNumber : ℕ) : ℕ :=
  min (defaultRetryDelaySeconds * 2 ^ (attemptNumber - 1)) (defaultRetryDelaySeconds * 8)

/-- `sanitize_failure_text`, with its fallback. -/
def sanitizeFailureText (value fallback : String) : String :=
  let text : String := .ofList (value.toList.take 255)
  match rejectSensitivePayload (.obj [("message", .str text)]) with
  | .ok () => text
  | .error _ => fallback

/-- The dead-letter fallback is safe to store. -/
theorem fallback_safe : sensitiveText "sanitized_dead_letter" = false := by
  have chars : "sanitized_dead_letter".toList =
      ['s', 'a', 'n', 'i', 't', 'i', 'z', 'e', 'd', '_', 'd', 'e', 'a', 'd', '_',
        'l', 'e', 't', 't', 'e', 'r'] := by decide
  rw [sensitiveText, sensitiveValuePatterns, chars, List.any_cons, Bool.or_eq_false_iff]
  refine ⟨rfl, ?_⟩
  rw [List.any_cons, Regex.search_absent (by decide), Bool.false_or]
  rfl

/-- What is left of a text is its start, which is not sensitive, or the fallback. -/
theorem sanitize_failure_cases {value fallback : String} :
    sanitizeFailureText value fallback = .ofList (value.toList.take 255) ∧
        sensitiveText (.ofList (value.toList.take 255)) = false ∨
      sanitizeFailureText value fallback = fallback := by
  unfold sanitizeFailureText
  generalize String.ofList (value.toList.take 255) = text
  dsimp only
  split
  next accepted =>
    rw [rejectSensitivePayload, reject_sensitive_fields_ok] at accepted
    exact .inl ⟨rfl, by simpa [rejectSensitivePayload] using accepted.2.1⟩
  next => exact .inr rfl

/-- What is left of a text is safe to store. -/
theorem sanitize_failure_text_safe {value fallback : String}
    (safe : sensitiveText fallback = false) :
    sensitiveText (sanitizeFailureText value fallback) = false := by
  rcases @sanitize_failure_cases _ value fallback with ⟨is, calm⟩ | is
  · rw [is]
    exact calm
  · rw [is]
    exact safe

/-- `_sanitize_error`. -/
def sanitizeError (message : String) : String :=
  sanitizeFailureText (.ofList (message.toList.take 255)) "sanitized_dead_letter"

theorem sanitize_error_safe (message : String) : sensitiveText (sanitizeError message) = false :=
  sanitize_failure_text_safe fallback_safe

end Darasa.Events
