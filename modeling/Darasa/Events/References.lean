import Darasa.Events.EventNames
import Darasa.Events.Outbox
import Darasa.Runtime.RegexAbsence
import Darasa.Runtime.Renderings
import Mathlib.Tactic.FinCases

/-!
Events of references.

The services announce identifiers, moments, counts and the names of states.  Such a payload
passes every check `write_outbox_event` makes, whatever the identifiers are: the event is
refused only where its key is taken.
-/

namespace Darasa.Events

open Darasa (Outcome Exn Json Unicode Regex length_uuidText mem_uuidText refuseIf refuseIf_ok
  refuseUnstorable refuse_unstorable_ok Program uuidText)
open Darasa.Rendering

/-! ## Texts -/

/-- What each character of a text is found to have, each has. -/
theorem each_char {p : Char → Prop} [DecidablePred p] {s : List Char}
    (all : (s.all fun c => decide (p c)) = true) : ∀ c ∈ s, p c := fun c member =>
  of_decide_eq_true (List.all_eq_true.mp all c member)

/-- The characters identifiers and moments are written with. -/
def referenceChars : List Char :=
  ['0', '1', '2', '3', '4', '5', '6', '7', '8', '9', 'a', 'b', 'c', 'd', 'e', 'f', '-', ':', '.',
    '+', 'T']

/-- A text as identifiers and moments have it. -/
structure IsReference (s : List Char) : Prop where
  chars : s ⊆ referenceChars
  once : s.count 'T' ≤ 1
  short : s.length ≤ 36

theorem digitChar_reference : ∀ d < 16, Nat.digitChar d ∈ referenceChars := by decide

theorem digitChar_letter : ∀ d < 16, Nat.digitChar d ≠ 'T' := by decide

theorem digits_reference {base width n : ℕ} (positive : 0 < base) (small : base ≤ 16) :
    digits base width n ⊆ referenceChars ∧ 'T' ∉ digits base width n := by
  constructor
  · intro c member
    obtain ⟨d, below, rfl⟩ := mem_digits positive member
    exact digitChar_reference d (below.trans_le small)
  · intro member
    obtain ⟨d, below, is⟩ := mem_digits positive member
    exact digitChar_letter d (below.trans_le small) is.symm

theorem isoformat_reference (moment : ℕ) : IsReference (isoformat moment).toList := by
  have part (width n : ℕ) : digits 10 width n ⊆ referenceChars ∧ 'T' ∉ digits 10 width n :=
    digits_reference (by norm_num) (by norm_num)
  have clock : timeChars moment ⊆ referenceChars ∧ 'T' ∉ timeChars moment ∧
      (timeChars moment).length ≤ 21 := by
    unfold timeChars
    by_cases whole : moment % 1000000 = 0
    · simp [whole, List.append_subset, List.cons_subset, part]
      decide
    · simp [whole, List.append_subset, List.cons_subset, part]
      decide
  have day : dateChars (civilDate (moment / 1000000 / 86400)) ⊆ referenceChars ∧
      'T' ∉ dateChars (civilDate (moment / 1000000 / 86400)) ∧
      (dateChars (civilDate (moment / 1000000 / 86400))).length = 10 := by
    unfold dateChars
    simp [List.append_subset, List.cons_subset, part]
    decide
  unfold isoformat
  rw [String.toList_ofList]
  refine ⟨?_, ?_, ?_⟩
  · rw [List.append_subset, List.cons_subset]
    exact ⟨day.1, by decide, clock.1⟩
  · rw [List.count_append, List.count_cons_self, List.count_eq_zero_of_not_mem day.2.1,
      List.count_eq_zero_of_not_mem clock.2.1]
  · rw [List.length_append, List.length_cons, day.2.2]
    omega

theorem uuidText_reference {n : ℕ} (fits : n < 2 ^ 128) : IsReference (uuidText n).toList where
  chars c member := by
    rcases mem_uuidText member with rfl | ⟨d, below, rfl⟩
    · decide
    · exact digitChar_reference d below
  once := by
    rw [List.count_eq_zero_of_not_mem]
    · exact Nat.zero_le 1
    · intro member
      rcases mem_uuidText member with dash | ⟨d, below, is⟩
      · exact absurd dash (by decide)
      · exact digitChar_letter d below is.symm
  short := (length_uuidText fits).le

/-- Identifiers and moments hold no NUL. -/
theorem IsReference.storable {s : String} (reference : IsReference s.toList) :
    Text.storable s = true :=
  Text.storable_iff.mpr fun member => absurd (reference.chars member) (by decide)

variable [Unicode]

theorem reference_solid : ∀ c ∈ referenceChars, Unicode.isSpace c = false := by
  intro c member
  fin_cases member <;> rfl

/-- The letters a sensitive word cannot do without, and the signs of the other patterns. -/
private def missing (c : Char) : Bool :=
  Unicode.sameLetter 'p' c || Unicode.sameLetter 'o' c || Unicode.sameLetter 's' c

private theorem missing_reference : ∀ c ∈ referenceChars, missing c = false := by
  intro c member
  fin_cases member <;> rfl

omit [Unicode] in
private theorem upper_reference : ∀ c ∈ referenceChars, Regex.upper c = true → c = 'T' :=
  each_char (by decide)

/-- A text with at most one capital that holds none of the signs does not look sensitive. -/
theorem text_safe {s : String} (capitals : s.toList.countP Regex.upper ≤ 1)
    (noAt : '@' ∉ s.toList) (noBee : 'B' ∉ s.toList)
    (wordless : (∀ c ∈ s.toList, missing c = false) ∨
      ∀ c ∈ s.toList, (c == ':' || c == '=') = false) :
    sensitiveText s = false := by
  have absent {sign : Char} (outside : sign ∉ s.toList) : ∀ c ∈ s.toList, (c == sign) = false := by
    intro c member
    rw [beq_eq_false_iff_ne]
    rintro rfl
    exact outside member
  have alone : ∀ u a b v, s.toList = u ++ a :: b :: v →
      ¬ (Regex.upper a = true ∧ Regex.upper b = true) := by
    rintro u a b v text ⟨first, second⟩
    rw [text, List.countP_append, List.countP_cons_of_pos first, List.countP_cons_of_pos second]
      at capitals
    omega
  rw [sensitiveText, sensitiveValuePatterns, List.any_eq_false]
  intro pattern member
  rw [Bool.not_eq_true]
  simp only [List.mem_cons, List.not_mem_nil, or_false] at member
  rcases member with rfl | rfl | rfl | rfl
  · exact Regex.search_of_pairs alone
  · apply Regex.search_of_needs _ (absent noAt)
    exact .inr (.inr (.inl fun c is => is))
  · apply Regex.search_of_needs _ (absent noBee)
    exact .inl (.inr (.inr (.inr (.inr (.inr (.inl fun c is => is))))))
  · rcases wordless with letters | signs
    · have password : ∀ c, Unicode.sameLetter 'p' c = true → missing c = true :=
        fun c same => by simp [missing, same]
      have token : ∀ c, Unicode.sameLetter 'o' c = true → missing c = true :=
        fun c same => by simp [missing, same]
      have secret : ∀ c, Unicode.sameLetter 's' c = true → missing c = true :=
        fun c same => by simp [missing, same]
      apply Regex.search_of_needs _ letters
      exact .inr (.inl ⟨.inl password, .inr (.inl token), .inl secret⟩)
    · apply Regex.search_of_needs _ signs
      exact .inr (.inr (.inr fun c is => is))

/-- Identifiers and moments do not look sensitive. -/
theorem reference_safe {s : String} (reference : IsReference s.toList) :
    sensitiveText s = false := by
  have absent (sign : Char) (outside : sign ∉ referenceChars) : sign ∉ s.toList :=
    fun member => outside (reference.chars member)
  have capitals : s.toList.countP Regex.upper ≤ s.toList.count 'T' := by
    rw [List.count]
    apply List.countP_mono_left
    intro c member capital
    rw [beq_iff_eq]
    exact upper_reference c (reference.chars member) capital
  apply text_safe (capitals.trans reference.once) (absent '@' (by decide)) (absent 'B' (by decide))
  exact .inl fun c member => missing_reference c (reference.chars member)

/-! ## Payloads -/

/-- A value that may stand in a payload with a dozen others. -/
structure Announceable (value : Json) : Prop where
  calm : rejectSensitivePayload value = .ok ()
  short : value.encodedLength ≤ 440
  storable : value.storable = true

omit [Unicode] in
theorem charLength_le (c : Char) : Json.charLength c ≤ 12 := by
  unfold Json.charLength
  split_ifs <;> omega

omit [Unicode] in
theorem charsLength_le (s : List Char) : (s.map Json.charLength).sum ≤ 12 * s.length := by
  induction s with
  | nil => exact le_rfl
  | cons c s ih =>
    have here := charLength_le c
    rw [List.map_cons, List.sum_cons, List.length_cons]
    omega

omit [Unicode] in
theorem stringLength_le (s : String) : Json.stringLength s ≤ 12 * s.toList.length + 2 :=
  Nat.add_le_add_right (charsLength_le s.toList) 2

theorem announceable_text {s : String} (safe : sensitiveText s = false)
    (short : s.toList.length ≤ 36) (storable : Text.storable s = true) :
    Announceable (.str s) := by
  refine ⟨by simp [rejectSensitivePayload, safe], ?_, storable⟩
  have bound := stringLength_le s
  simp only [Json.encodedLength]
  omega

theorem announceable_reference {s : String} (reference : IsReference s.toList) :
    Announceable (.str s) :=
  announceable_text (reference_safe reference) reference.short reference.storable

omit [Unicode] in
/-- A key that may stand in a payload: a short name that is not sensitive. -/
def CalmKey (key : String) : Prop :=
  (∀ c ∈ key.toList, NameChar c) ∧
    (sensitiveKeyFragments.any fun fragment =>
      Text.containsChars fragment.toList key.toList) = false ∧
    key.toList.length ≤ 32

instance (c : Char) : Decidable (NameChar c) := inferInstanceAs (Decidable (_ ∨ _ ∨ _ ∨ _))

instance (key : String) : Decidable (CalmKey key) :=
  decidable_of_iff ((key.toList.all fun c => decide (NameChar c)) = true ∧
      (sensitiveKeyFragments.any fun fragment =>
        Text.containsChars fragment.toList key.toList) = false ∧
      key.toList.length ≤ 32)
    (and_congr_left fun _ =>
      ⟨each_char, fun each => List.all_eq_true.mpr fun c member => decide_eq_true (each c member)⟩)

theorem CalmKey.safe {key : String} (calm : CalmKey key) : sensitiveKey key = false := by
  have normal := normal_of_stable fun c member => name_char_stable (calm.1 c member)
  unfold sensitiveKey
  rw [normal]
  exact calm.2.1

omit [Unicode] in
theorem CalmKey.storable {key : String} (calm : CalmKey key) : Text.storable key = true :=
  Text.storable_iff.mpr fun member => absurd (calm.1 _ member) (by decide)

variable {fields : List (String × Json)}

theorem calm_fields (each : ∀ field ∈ fields, CalmKey field.1 ∧ Announceable field.2) :
    rejectSensitiveFields fields = .ok () := by
  induction fields with
  | nil => rfl
  | cons field fields ih =>
    obtain ⟨⟨key, value⟩, later⟩ := List.forall_mem_cons.mp each
    exact reject_sensitive_fields_ok.mpr ⟨key.safe, value.calm, ih later⟩

theorem short_fields (each : ∀ field ∈ fields, CalmKey field.1 ∧ Announceable field.2) :
    Json.encodedFields fields ≤ 827 * fields.length := by
  induction fields with
  | nil => simp [Json.encodedFields]
  | cons field fields ih =>
    obtain ⟨⟨key, value⟩, later⟩ := List.forall_mem_cons.mp each
    have name := stringLength_le field.1
    have bound := key.2.2
    have short := value.short
    have rest := ih later
    simp only [Json.encodedFields, List.length_cons]
    omega

theorem storable_fields (each : ∀ field ∈ fields, CalmKey field.1 ∧ Announceable field.2) :
    Json.storableFields fields = true := by
  induction fields with
  | nil => rfl
  | cons field fields ih =>
    obtain ⟨⟨key, value⟩, later⟩ := List.forall_mem_cons.mp each
    rw [Json.storableFields, key.storable, value.storable, ih later]
    rfl

omit [Unicode] in
theorem lookup_of_key {name : String} (present : name ∈ fields.map Prod.fst) :
    (Json.lookup name fields).isSome = true := by
  obtain ⟨field, member, rfl⟩ := List.mem_map.mp present
  rw [Json.lookup, Option.isSome_map, List.find?_isSome]
  exact ⟨field, member, beq_self_eq_true field.1⟩

/-- A few such values, under such keys, with the required ones among them, pass the checks and
can be stored. -/
theorem payload_accepted {names : List String}
    (keys : ∀ key ∈ fields.map Prod.fst, CalmKey key)
    (values : ∀ value ∈ fields.map Prod.snd, Announceable value) (few : fields.length ≤ 9)
    (present : names ⊆ fields.map Prod.fst) :
    validateEventPayload (.obj fields) (.obj [("required", .arr (names.map .str))]) = .ok () ∧
      (Json.obj fields).storable = true := by
  have each : ∀ field ∈ fields, CalmKey field.1 ∧ Announceable field.2 := fun field member =>
    ⟨keys _ (List.mem_map_of_mem member), values _ (List.mem_map_of_mem member)⟩
  have kept : ∀ missing, List.filterAuxM (isMissing fields) (names.map Json.str) missing =
      .ok missing := by
    intro missing
    induction names with
    | nil => rfl
    | cons name names ih =>
      obtain ⟨here, later⟩ := List.cons_subset.mp present
      have found : isMissing fields (.str name) = .ok false :=
        congrArg Except.ok (Option.isNone_eq_false_iff.mpr (lookup_of_key here))
      rw [List.map_cons, List.filterAuxM, found]
      exact ih later
  have none : (names.map Json.str).filterM (isMissing fields) = .ok [] := by
    rw [List.filterM, kept]
    rfl
  have schema : validatePayloadSchema (.obj fields)
      (.obj [("required", .arr (names.map .str))]) = .ok () := by
    simp only [validatePayloadSchema]
    have required : requiredFields (Json.lookup "required" [("required", .arr (names.map .str))]) =
      .ok (names.map .str) := rfl
    rw [required]
    change (do
      let missing ← (names.map Json.str).filterM (isMissing fields)
      refuseIf (!missing.isEmpty) "payload" "Event payload is missing required fields."
      _) = _
    rw [none]
    rfl
  have size : validatePayloadSize (.obj fields) maxEventPayloadBytes = .ok () := by
    have bound := short_fields each
    rw [validatePayloadSize, refuseIf_ok, decide_eq_false_iff_not]
    simp only [Json.encodedLength, maxEventPayloadBytes]
    omega
  refine ⟨?_, storable_fields each⟩
  unfold validateEventPayload
  rw [schema, size]
  exact calm_fields each

/-! ## Names of events -/

theorem strip_solid {s : List Char} (solid : ∀ c ∈ s, Unicode.isSpace c = false) :
    Text.stripChars s = s := by
  have left : ∀ s : List Char, (∀ c ∈ s, Unicode.isSpace c = false) → Text.lstripChars s = s := by
    intro s solid
    cases s with
    | nil => rfl
    | cons c s => exact List.dropWhile_cons_of_neg (by simp [solid c List.mem_cons_self])
  unfold Text.stripChars
  rw [left s solid, left s.reverse fun c member => solid c (List.mem_reverse.mp member),
    List.reverse_reverse]

/-- A name that is a namespace whatever the characters past ASCII are. -/
theorem namespace_accepted {name : String}
    (named : @Regex.fullmatch Unicode.ascii baseEventPattern name.toList = true)
    (fact : rejectCommandLanguage name.toList = .ok ()) :
    validateEventNamespace name = .ok name := by
  have base := (@Regex.fullmatch_iff Unicode.ascii _ _ patterns_regular.1).mp named
  have accepted := IsNamespace.accepted (v := name.toList) ⟨base, fact⟩
  rwa [String.ofList_toList] at accepted

/-- A producer that is listed as it is named. -/
theorem producer_accepted {producer : String} (named : ∀ c ∈ producer.toList, NameChar c)
    (filled : producer.isEmpty = false) :
    authorizeProducer producer [producer] = .ok producer := by
  have strip : Text.strip producer = producer := by
    unfold Text.strip
    rw [strip_solid fun c member => (name_char_stable (named c member)).1, String.ofList_toList]
  unfold authorizeProducer authorize
  refine Outcome.check_ok.mpr ⟨?_, congrArg Except.ok strip⟩
  simp [strip, filled]

/-! ## Partition keys -/

omit [Unicode] in
/-- The digits of an identifier are among the characters of a partition key. -/
private theorem digitChar_partition : ∀ d < 16,
    (Regex.upper d.digitChar || Regex.lowercase d.digitChar || Regex.asciiDigit d.digitChar ||
      ['.', '_', ':', '-'].contains d.digitChar) = true := by
  decide

/-- The partition of a tenant. -/
theorem partition_of_tenant {tenant : ℕ} (fits : tenant < 2 ^ 128) :
    validatePartitionKey ("tenant:" ++ uuidText tenant) = .ok ("tenant:" ++ uuidText tenant) ∧
      cleanText "partition_key" 128 ("tenant:" ++ uuidText tenant) = .ok () := by
  have chars : ("tenant:" ++ uuidText tenant).toList =
      ['t', 'e', 'n', 'a', 'n', 't', ':'] ++ (uuidText tenant).toList := String.toList_append
  have length : ("tenant:" ++ uuidText tenant).toList.length = 43 := by
    rw [chars, List.length_append, length_uuidText fits]
    rfl
  have strip : Text.stripChars ("tenant:" ++ uuidText tenant).toList =
      ("tenant:" ++ uuidText tenant).toList := by
    apply strip_solid
    rw [chars]
    intro c member
    rcases List.mem_append.mp member with letter | reference
    · fin_cases letter <;> rfl
    · exact reference_solid c ((uuidText_reference fits).chars reference)
  have whole : partitionKeyPattern.fullmatch ("tenant:" ++ uuidText tenant).toList = true := by
    apply Regex.fullmatch_times
    · rw [chars]
      intro c member
      rcases List.mem_append.mp member with letter | reference
      · fin_cases letter <;> rfl
      · rcases mem_uuidText reference with rfl | ⟨d, below, rfl⟩
        · rfl
        · exact digitChar_partition d below
    · omega
    · omega
  constructor
  · unfold validatePartitionKey
    simp only [strip, whole]
    exact congrArg Except.ok (String.ofList_toList)
  · have short : ("tenant:" ++ uuidText tenant).length ≤ 128 := by
      rw [← String.length_toList]
      omega
    have filled : ("tenant:" ++ uuidText tenant).isEmpty = false := by
      rw [Bool.eq_false_iff]
      intro empty
      rw [String.isEmpty_iff] at empty
      rw [empty] at length
      cases length
    unfold cleanText cleanLength
    rw [filled, decide_eq_false_iff_not.mpr (by omega)]
    rfl

/-! ## The writer -/

/-- A request of a tenant that the checks of a contract let through. -/
structure Wellformed (request : OutboxRequest) (contract : EventTypeRegistry) : Prop where
  named : validateEventNamespace request.eventType = .ok request.eventType
  producer : ∃ producer,
    authorizeProducer request.sourceModule contract.allowedProducers = .ok producer
  payload : validateEventPayload request.payload contract.payloadSchema = .ok ()
  tenant : ∃ tenant < 2 ^ 128, request.tenant = some tenant
  spoken : Text.isBlank request.idempotencyKey = false
  texts : cleanText "event_type" 128 request.eventType = .ok () ∧
    cleanText "idempotency_key" 160 request.idempotencyKey = .ok () ∧
    cleanText "source_module" 64 request.sourceModule = .ok () ∧
    cleanJson "payload" request.payload = .ok ()
  storable : Text.storable request.idempotencyKey = true ∧
    Text.storable request.sourceModule = true ∧ request.payload.storable = true

variable {request : OutboxRequest} {contract : EventTypeRegistry} {t : Tables}

omit [Unicode] in
theorem contract_found (found : t.contract? request.eventType request.eventVersion = some contract) :
    contract.eventType = request.eventType ∧ contract.eventVersion = request.eventVersion ∧
      contract.isActive = true := by
  have passes := List.find?_some found
  simp only [Bool.and_eq_true, beq_iff_eq] at passes
  exact ⟨passes.1.1, passes.1.2, passes.2⟩

theorem contract_checks_pass (wellformed : Wellformed request contract)
    (found : t.contract? request.eventType request.eventVersion = some contract) :
    validateEventContractAlgorithm contract contract.eventType contract.eventVersion
      request.sourceModule request.tenant.isSome request.payload = .ok () := by
  obtain ⟨isType, -, active⟩ := contract_found found
  obtain ⟨producer, authorized⟩ := wellformed.producer
  obtain ⟨tenant, -, isTenant⟩ := wellformed.tenant
  unfold validateEventContractAlgorithm
  refine Outcome.check_ok.mpr ⟨by simp [active], Outcome.bind_ok.mpr ⟨contract.eventType, ?_, ?_⟩⟩
  · rw [isType]
    exact wellformed.named
  · refine Outcome.check_ok.mpr ⟨by simp, Outcome.check_ok.mpr ⟨by simp, ?_⟩⟩
    refine Outcome.bind_ok.mpr ⟨producer, authorized, ?_⟩
    exact Outcome.check_ok.mpr ⟨by simp [isTenant], wellformed.payload⟩

/-- The row the writer makes is valid. -/
theorem row_valid {row : EventOutbox} (wellformed : Wellformed request contract)
    (isType : row.eventType = request.eventType) (isSource : row.sourceModule = request.sourceModule)
    (isKey : row.idempotencyKey = request.idempotencyKey) (isPayload : row.payload = request.payload)
    (isTenant : row.tenant = request.tenant)
    (partition : validatePartitionKey row.partitionKey = .ok row.partitionKey)
    (partitionText : cleanText "partition_key" 128 row.partitionKey = .ok ()) :
    row.validate (some contract) = .ok () := by
  obtain ⟨producer, authorized⟩ := wellformed.producer
  obtain ⟨tenant, -, ofTenant⟩ := wellformed.tenant
  obtain ⟨typeText, keyText, sourceText, filled⟩ := wellformed.texts
  refine full_clean_ok.mpr ⟨?_, ?_⟩
  · unfold EventOutbox.cleanFields
    rw [isType, isKey, isSource, isPayload, typeText, keyText, sourceText, partitionText, filled]
    rfl
  · unfold EventOutbox.clean
    rw [isType, isKey, isSource, isPayload, isTenant, ofTenant]
    refine Outcome.bind_ok.mpr ⟨producer, authorized, ?_⟩
    refine Outcome.check_ok.mpr ⟨by simp, Outcome.check_ok.mpr ⟨refuseIf_ok.mpr wellformed.spoken, ?_⟩⟩
    refine Outcome.bind_ok.mpr ⟨_, wellformed.named, ?_⟩
    exact Outcome.bind_ok.mpr ⟨_, partition, wellformed.payload⟩

section

attribute [local irreducible] EventOutbox.validate validateEventNamespace authorizeProducer
  validateEventContractAlgorithm buildPartitionKey validatePartitionKey

/-- **Announcements are accepted.**  A wellformed request of a registered contract is written,
unless its key is taken. -/
theorem write_outbox_event_ok (wellformed : Wellformed request contract)
    (found : t.contract? request.eventType request.eventVersion = some contract)
    (free : t.keyTaken request.idempotencyKey = false) :
    ∃ row : EventOutbox, row.idempotencyKey = request.idempotencyKey ∧
      (writeOutboxEvent request).run executeNow t =
        (.ok { row with id := t.nextId }, t.insertEvent row) := by
  obtain ⟨isType, isVersion, -⟩ := contract_found found
  obtain ⟨producer, authorized⟩ := wellformed.producer
  obtain ⟨tenant, fits, isTenant⟩ := wellformed.tenant
  obtain ⟨partitioned, partitionText⟩ := partition_of_tenant fits
  obtain ⟨typeText, keyText, sourceText, filled⟩ := wellformed.texts
  have looked : (validateEventContract request.eventType request.eventVersion).run executeNow t =
      (.ok contract, t) := by
    have answer : executeNow (.selectContract request.eventType request.eventVersion) t =
        (some contract, t) := by rw [← found]; rfl
    rw [validateEventContract, Program.run_check_of_ok wellformed.named, run_query_bind, answer]
    rfl
  have partition : buildPartitionKey (request.tenant.map uuidText) contract.eventType
      contract.requiresTenant = .ok ("tenant:" ++ uuidText tenant) := by
    rw [isTenant]
    unfold buildPartitionKey
    simp only [Option.map_some, Option.isNone_some, Bool.and_false]
    exact partitioned
  let row : EventOutbox :=
    { id := 0
      eventType := contract.eventType
      eventVersion := contract.eventVersion
      tenant := request.tenant
      actorId := request.actorId
      idempotencyKey := request.idempotencyKey
      sourceModule := request.sourceModule
      partitionKey := "tenant:" ++ uuidText tenant
      priority := contract.priority
      payload := request.payload
      status := .pending
      availableAt := t.clock
      occurredAt := t.clock
      lockedAt := none
      lockedBy := ""
      dispatchedAt := none }
  have valid : row.validate (t.contract? row.eventType row.eventVersion) = .ok () := by
    change row.validate (t.contract? contract.eventType contract.eventVersion) = .ok ()
    rw [isType, isVersion, found]
    exact row_valid wellformed isType rfl rfl rfl rfl partitioned partitionText
  have created : row.create.run executeNow t = (.ok { row with id := t.nextId }, t.insertEvent row) := by
    have keyStored : refuseUnstorable (Text.storable row.idempotencyKey) = .ok () :=
      refuse_unstorable_ok.mpr wellformed.storable.1
    have textsStored : refuseUnstorable (Text.storable row.sourceModule && row.payload.storable) =
        .ok () := by
      rw [refuse_unstorable_ok, Bool.and_eq_true]
      exact wellformed.storable.2
    rw [create_run, valid, keyStored, textsStored]
    exact if_neg (Bool.eq_false_iff.mp free)
  refine ⟨row, rfl, ?_⟩
  rw [writeOutboxEvent, Program.run_bind_of_ok looked, Program.run_check_of_ok authorized,
    Program.run_check_of_ok (contract_checks_pass wellformed found),
    Program.run_check_of_ok partition, Program.run_check_of_ok partitioned, run_query_bind,
    run_query_bind]
  exact created

end

end Darasa.Events
