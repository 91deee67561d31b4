import Darasa.Events.Contracts
import Darasa.Foundation.Separators
import Darasa.Runtime.RegexLanguage
import Mathlib.Tactic.IntervalCases

/-!
Event names with a version suffix, `name.vN`, taken apart and put together.

The name before the suffix may itself end in a segment of the form of a version.  What
follows the last dot of a full name is its version all the same: a version has no dot.
-/

namespace Darasa.Events

open Darasa (Outcome Exn Regex Unicode refuseIf)

/-! ## Full names -/

section Patterns

open Regex

/-- The group `event_type` of `VERSIONED_EVENT_PATTERN`. -/
def eventNamePattern : Regex := seq segmentPattern (star (seq (lit '.') segmentPattern))

/-- `[1-9]`. -/
def nonzeroDigit (c : Char) : Bool := '1' ≤ c && c ≤ '9'

/-- The rest of `VERSIONED_EVENT_PATTERN`: `\.v[1-9][0-9]*`. -/
def versionSuffix : Regex :=
  seq (lit '.') (seq (lit 'v') (seq (one nonzeroDigit) (star (one asciiDigit))))

end Patterns

/-- `NormalizedEventName`. -/
structure NormalizedEventName where
  eventType : String
  eventVersion : ℤ
  canonicalName : String
  deriving DecidableEq, Repr

section

variable [Unicode]

/-- `normalize_event_name`. -/
def normalizeEventName (eventName : String) : Outcome NormalizedEventName :=
  let value := Text.lowerChars (Text.stripChars eventName.toList)
  match Regex.groupMatch eventNamePattern versionSuffix value with
  | none =>
    .error (.validationError "event_type" "Event name must include a version suffix.")
  | some (name, suffix) => do
    let eventType ← validateEventNamespace (.ofList name)
    let eventVersion : ℤ := Nat.ofDigitChars 10 (suffix.drop 2) 0
    .ok ⟨eventType, eventVersion, eventType ++ ".v" ++ toString eventVersion⟩

/-- `build_event_name`. -/
def buildEventName (eventType : String) (eventVersion : ℤ) : Outcome String := do
  let name ← validateEventNamespace eventType
  refuseIf (eventVersion < 1) "event_version" "Event version is invalid."
  .ok (name ++ ".v" ++ toString eventVersion)

end

/-! ## Versions -/

/-- The digits of a version. -/
def IsVersion (digits : List Char) : Prop :=
  ∃ d rest, digits = d :: rest ∧ nonzeroDigit d = true ∧
    ∀ c ∈ rest, Regex.asciiDigit c = true

theorem matches_one_star {inClass : Char → Bool} {s : List Char} :
    (Regex.star (.one inClass)).Matches s ↔ ∀ c ∈ s, inClass c = true := by
  constructor
  · rintro ⟨parts, rfl, each⟩ c member
    obtain ⟨part, here, inside⟩ := List.mem_flatten.mp member
    obtain ⟨d, inClass, rfl⟩ := each part here
    rwa [List.mem_singleton.mp inside]
  · intro each
    refine ⟨s.map fun c => [c], by simp [← List.flatMap_def], fun part member => ?_⟩
    obtain ⟨c, here, rfl⟩ := List.mem_map.mp member
    exact ⟨c, each c here, rfl⟩

theorem versionSuffix_matches {s : List Char} :
    versionSuffix.Matches s ↔ ∃ digits, s = '.' :: 'v' :: digits ∧ IsVersion digits := by
  constructor
  · rintro ⟨_, _, rfl, ⟨c, dot, rfl⟩, _, _, rfl, ⟨c', v, rfl⟩, _, rest, rfl, ⟨d, nonzero, rfl⟩,
      digits⟩
    obtain rfl := beq_iff_eq.mp dot
    obtain rfl := beq_iff_eq.mp v
    exact ⟨d :: rest, rfl, d, rest, rfl, nonzero, matches_one_star.mp digits⟩
  · rintro ⟨_, rfl, d, rest, rfl, nonzero, digits⟩
    exact ⟨['.'], _, rfl, ⟨'.', rfl, rfl⟩, ['v'], _, rfl, ⟨'v', rfl, rfl⟩, [d], rest, rfl,
      ⟨d, nonzero, rfl⟩, matches_one_star.mpr digits⟩

theorem asciiDigit_iff {c : Char} :
    Regex.asciiDigit c = true ↔ 48 ≤ c.toNat ∧ c.toNat ≤ 57 := by
  simp only [Regex.asciiDigit, Bool.and_eq_true, decide_eq_true_eq, Char.le_def,
    UInt32.le_iff_toNat_le]
  rfl

theorem nonzeroDigit_iff {c : Char} :
    nonzeroDigit c = true ↔ 49 ≤ c.toNat ∧ c.toNat ≤ 57 := by
  simp only [nonzeroDigit, Bool.and_eq_true, decide_eq_true_eq, Char.le_def,
    UInt32.le_iff_toNat_le]
  rfl

/-- A digit writes its value. -/
theorem digitChar_of_digit {c : Char} (low : 48 ≤ c.toNat) (high : c.toNat ≤ 57) :
    (c.toNat - 48).digitChar = c := by
  rw [← Char.toNat_inj]
  generalize c.toNat = n at low high ⊢
  interval_cases n <;> rfl

/-- The digits a version is written with are a version. -/
theorem toDigits_version {n : ℕ} (positive : 0 < n) : IsVersion (Nat.toDigits 10 n) := by
  induction n using Nat.strong_induction_on with
  | _ n ih =>
    rcases Nat.lt_or_ge n 10 with small | large
    · rw [Nat.toDigits_of_lt_base small]
      refine ⟨_, [], rfl, ?_, by simp⟩
      interval_cases n <;> rfl
    · rw [Nat.toDigits_of_base_le (by norm_num) large]
      obtain ⟨d, rest, digits, nonzero, each⟩ := ih (n / 10) (by omega) (by omega)
      refine ⟨d, rest ++ [(n % 10).digitChar], by rw [digits, List.cons_append], nonzero, ?_⟩
      intro c member
      rcases List.mem_append.mp member with earlier | last
      · exact each c earlier
      · rw [List.mem_singleton.mp last]
        have below : n % 10 < 10 := Nat.mod_lt _ (by norm_num)
        generalize n % 10 = k at below
        interval_cases k <;> rfl

/-- A version is written as it was read. -/
theorem toDigits_of_version {digits : List Char} (version : IsVersion digits) :
    0 < Nat.ofDigitChars 10 digits 0 ∧
      Nat.toDigits 10 (Nat.ofDigitChars 10 digits 0) = digits := by
  obtain ⟨d, rest, rfl, nonzero, each⟩ := version
  obtain ⟨low, high⟩ := nonzeroDigit_iff.mp nonzero
  induction rest using List.reverseRecOn with
  | nil =>
    have value : Nat.ofDigitChars 10 [d] 0 = d.toNat - 48 := by
      rw [Nat.ofDigitChars_cons, Nat.ofDigitChars_nil]
      simp
    rw [value, Nat.toDigits_of_lt_base (by omega), digitChar_of_digit (by omega) high]
    exact ⟨by omega, rfl⟩
  | append_singleton init c ih =>
    obtain ⟨positive, writes⟩ := ih fun c' member => each c' (List.mem_append_left _ member)
    obtain ⟨low', high'⟩ := asciiDigit_iff.mp
      (each c (List.mem_append_right _ (List.mem_singleton.mpr rfl)))
    have below : c.toNat - 48 < 10 := by omega
    have value : Nat.ofDigitChars 10 (d :: (init ++ [c])) 0 =
        10 * Nat.ofDigitChars 10 (d :: init) 0 + (c.toNat - 48) := by
      rw [← List.cons_append, Nat.ofDigitChars_append, Nat.ofDigitChars_cons,
        Nat.ofDigitChars_nil]
      rfl
    rw [value]
    refine ⟨by omega, ?_⟩
    rw [← Nat.toDigits_append_toDigits (by norm_num) positive below, writes,
      Nat.toDigits_of_lt_base below, digitChar_of_digit low' high', List.cons_append]

/-! ## Names -/

/-- A character of a name. -/
def NameChar (c : Char) : Prop :=
  Regex.lowercase c = true ∨ Regex.asciiDigit c = true ∨ c = '_' ∨ c = '.'

theorem segment_chars {s : List Char} (segment : segmentPattern.Matches s) :
    ∀ c ∈ s, NameChar c := by
  obtain ⟨_, rest, rfl, ⟨d, letter, rfl⟩, tail⟩ := segment
  intro c member
  rcases List.mem_append.mp member with first | later
  · obtain rfl := List.mem_singleton.mp first
    exact .inl letter
  · have inClass := matches_one_star.mp tail c later
    simp only [Bool.or_eq_true, beq_iff_eq] at inClass
    rcases inClass with (letter | digit) | rfl
    · exact .inl letter
    · exact .inr (.inl digit)
    · exact .inr (.inr (.inl rfl))

theorem name_chars {s : List Char} (name : eventNamePattern.Matches s) : ∀ c ∈ s, NameChar c := by
  obtain ⟨first, _, rfl, segment, parts, rfl, each⟩ := name
  intro c member
  rcases List.mem_append.mp member with here | later
  · exact segment_chars segment c here
  · obtain ⟨part, known, inside⟩ := List.mem_flatten.mp later
    obtain ⟨_, rest, rfl, ⟨d, dot, rfl⟩, segment'⟩ := each part known
    rcases List.mem_append.mp inside with separator | within
    · obtain rfl := List.mem_singleton.mp separator
      exact .inr (.inr (.inr (beq_iff_eq.mp dot)))
    · exact segment_chars segment' c within

/-- A namespace is a name. -/
theorem name_of_base {s : List Char} (base : baseEventPattern.Matches s) :
    eventNamePattern.Matches s := by
  obtain ⟨first, _, rfl, segment, part, _, rfl, here, parts, rfl, each⟩ := base
  exact ⟨first, _, rfl, segment, part :: parts, by rw [List.flatten_cons],
    List.forall_mem_cons.mpr ⟨here, each⟩⟩

section

variable [Unicode]

theorem name_char_stable {c : Char} (name : NameChar c) :
    Unicode.isSpace c = false ∧ Unicode.lower c = [c] := by
  have code : c.toNat = 46 ∨ 48 ≤ c.toNat ∧ c.toNat ≤ 57 ∨ c.toNat = 95 ∨
      97 ≤ c.toNat ∧ c.toNat ≤ 122 := by
    rcases name with letter | digit | rfl | rfl
    · simp only [Regex.lowercase, Bool.and_eq_true, decide_eq_true_eq, Char.le_def,
        UInt32.le_iff_toNat_le] at letter
      exact .inr (.inr (.inr letter))
    · exact .inr (.inl (asciiDigit_iff.mp digit))
    · exact .inr (.inr (.inl rfl))
    · exact .inl rfl
  have ascii : Unicode.isAscii c = true := decide_eq_true (by omega)
  have blank : (c == ' ') = false := by
    rw [beq_eq_false_iff_ne, ne_eq, ← Char.toNat_inj]
    change ¬ c.toNat = 32
    omega
  constructor
  · simp only [Unicode.isSpace, ascii, if_true, blank, Bool.false_or]
    simp only [Bool.or_eq_false_iff, Bool.and_eq_false_iff, decide_eq_false_iff_not]
    omega
  · have lowered : c.toLower = c := by
      apply dif_neg
      rintro ⟨low, high⟩
      have low : 65 ≤ c.toNat := UInt32.le_iff_toNat_le.mp low
      have high : c.toNat ≤ 90 := UInt32.le_iff_toNat_le.mp high
      omega
    rw [Unicode.lower, if_pos ascii, lowered]

/-- A text of characters that are no white space and have no other lower case is its own
trimmed and lowered form. -/
theorem normal_of_stable {s : List Char}
    (stable : ∀ c ∈ s, Unicode.isSpace c = false ∧ Unicode.lower c = [c]) :
    Text.lowerChars (Text.stripChars s) = s := by
  have trimmed : ∀ t : List Char, (∀ c ∈ t, Unicode.isSpace c = false) →
      Text.lstripChars t = t := by
    intro t solid
    cases t with
    | nil => rfl
    | cons c t => exact List.dropWhile_cons_of_neg (by simp [solid c])
  have strip : Text.stripChars s = s := by
    unfold Text.stripChars
    rw [trimmed s fun c member => (stable c member).1,
      trimmed s.reverse fun c member => (stable c (List.mem_reverse.mp member)).1,
      List.reverse_reverse]
  rw [strip]
  unfold Text.lowerChars
  calc s.flatMap Unicode.lower = s.flatMap fun c => [c] :=
        List.flatMap_congr fun c member => (stable c member).2
    _ = s := List.flatMap_singleton' s

/-! ## Namespaces -/

/-- A namespace `validate_event_namespace` accepts as it stands. -/
def IsNamespace (v : List Char) : Prop :=
  baseEventPattern.Matches v ∧ rejectCommandLanguage v = .ok ()

omit [Unicode] in
theorem patterns_regular :
    baseEventPattern.Regular ∧ eventNamePattern.Regular ∧ versionSuffix.Regular := by
  simp [baseEventPattern, eventNamePattern, versionSuffix, segmentPattern, Regex.plus, Regex.lit,
    Regex.Regular]

theorem namespace_ok {eventType name : String} :
    validateEventNamespace eventType = .ok name ↔
      IsNamespace (Text.lowerChars (Text.stripChars eventType.toList)) ∧
        name = .ofList (Text.lowerChars (Text.stripChars eventType.toList)) := by
  unfold validateEventNamespace IsNamespace
  generalize Text.lowerChars (Text.stripChars eventType.toList) = v
  simp only [Outcome.check_ok, Darasa.refuseIf_ok, Bool.not_eq_false',
    Regex.fullmatch_iff patterns_regular.1, and_assoc]
  refine and_congr_right fun _ => and_congr_right fun _ => ?_
  exact ⟨fun returned => (Except.ok.inj returned).symm, fun same => same ▸ rfl⟩

theorem IsNamespace.stable {v : List Char} (named : IsNamespace v) :
    ∀ c ∈ v, Unicode.isSpace c = false ∧ Unicode.lower c = [c] := fun c member =>
  name_char_stable (name_chars (name_of_base named.1) c member)

/-- A namespace is its own normal form. -/
theorem IsNamespace.accepted {v : List Char} (named : IsNamespace v) :
    validateEventNamespace (.ofList v) = .ok (.ofList v) := by
  have normal := normal_of_stable named.stable
  refine namespace_ok.mpr ?_
  rw [String.toList_ofList, normal]
  exact ⟨named, rfl⟩

/-! ## Full names -/

/-- The full name of a namespace and a version. -/
def fullName (v : List Char) (n : ℕ) : List Char := v ++ '.' :: 'v' :: Nat.toDigits 10 n

omit [Unicode] in
theorem fullName_text {v : List Char} {n : ℕ} :
    (.ofList v : String) ++ ".v" ++ toString (n : ℤ) = .ofList (fullName v n) := by
  have digits : (toString (n : ℤ)).toList = Nat.toDigits 10 n := Nat.toList_repr
  have suffix : ".v".toList = ['.', 'v'] := rfl
  rw [← String.toList_inj]
  simp only [String.toList_append, String.toList_ofList, digits, suffix, fullName,
    List.append_assoc, List.cons_append, List.nil_append]

omit [Unicode] in
theorem version_chars {digits : List Char} (version : IsVersion digits) :
    ∀ c ∈ digits, Regex.asciiDigit c = true := by
  obtain ⟨d, rest, rfl, nonzero, each⟩ := version
  obtain ⟨low, high⟩ := nonzeroDigit_iff.mp nonzero
  exact List.forall_mem_cons.mpr ⟨asciiDigit_iff.mpr ⟨by omega, high⟩, each⟩

omit [Unicode] in
/-- No dot follows the dot of the suffix. -/
theorem version_dotless {digits : List Char} (version : IsVersion digits) :
    '.' ∉ 'v' :: digits := by
  intro member
  rcases List.mem_cons.mp member with wrong | later
  · cases wrong
  · cases version_chars version '.' later

/-- A full name is taken apart at its last dot. -/
theorem group_of_fullName {v : List Char} {n : ℕ} (name : eventNamePattern.Matches v)
    (positive : 0 < n) : Regex.groupMatch eventNamePattern versionSuffix (fullName v n) =
      some (v, '.' :: 'v' :: Nat.toDigits 10 n) := by
  have version := toDigits_version positive
  refine Regex.groupMatch_eq patterns_regular.2.1 patterns_regular.2.2 name
    (versionSuffix_matches.mpr ⟨_, rfl, version⟩) fun x y same _ suffix => ?_
  obtain ⟨digits, rfl, version'⟩ := versionSuffix_matches.mp suffix
  obtain ⟨rfl, rest⟩ := Separators.split_last (version_dotless version')
    (version_dotless version) same
  exact ⟨rfl, congrArg _ rest⟩

/-- What is read of a full name. -/
theorem normalize_fullName {v : List Char} {n : ℕ} (named : IsNamespace v) (positive : 0 < n) :
    normalizeEventName (.ofList (fullName v n)) =
      .ok ⟨.ofList v, n, .ofList (fullName v n)⟩ := by
  have stable : ∀ c ∈ fullName v n, Unicode.isSpace c = false ∧ Unicode.lower c = [c] := by
    intro c member
    rcases List.mem_append.mp member with inside | suffix
    · exact named.stable c inside
    · rcases List.mem_cons.mp suffix with rfl | suffix
      · exact name_char_stable (.inr (.inr (.inr rfl)))
      · rcases List.mem_cons.mp suffix with rfl | digit
        · exact name_char_stable (.inl rfl)
        · exact name_char_stable
            (.inr (.inl (version_chars (toDigits_version positive) c digit)))
  have value : Nat.ofDigitChars 10 (Nat.toDigits 10 n) 0 = n :=
    Nat.ofDigitChars_toDigits (by norm_num) (by norm_num)
  unfold normalizeEventName
  simp only [String.toList_ofList, normal_of_stable stable,
    group_of_fullName (name_of_base named.1) positive, named.accepted, List.drop_succ_cons,
    List.drop_zero, value]
  exact congrArg Except.ok (congrArg _ fullName_text)

/-- What is accepted as a full name is the full name of a namespace and a version. -/
theorem normalize_ok {s : String} {r : NormalizedEventName}
    (accepted : normalizeEventName s = .ok r) :
    ∃ v, ∃ n : ℕ, IsNamespace v ∧ 0 < n ∧
      r = ⟨.ofList v, n, .ofList (fullName v n)⟩ := by
  unfold normalizeEventName at accepted
  generalize Text.lowerChars (Text.stripChars s.toList) = value at accepted
  cases taken : Regex.groupMatch eventNamePattern versionSuffix value with
  | none => simp [taken] at accepted
  | some parts =>
    obtain ⟨name, suffix⟩ := parts
    simp only [taken] at accepted
    obtain ⟨eventType, validated, returned⟩ := Outcome.bind_ok.mp accepted
    obtain ⟨-, group, left⟩ :=
      Regex.groupMatch_some patterns_regular.2.1 patterns_regular.2.2 taken
    obtain ⟨digits, rfl, version⟩ := versionSuffix_matches.mp left
    obtain ⟨positive, -⟩ := toDigits_of_version version
    obtain ⟨named, rfl⟩ := namespace_ok.mp validated
    refine ⟨_, _, named, positive, ?_⟩
    rw [← Except.ok.inj returned, ← fullName_text]
    rfl

/-- What is built is the full name of the normal form and the version. -/
theorem build_ok {eventType canonical : String} {n : ℤ} :
    buildEventName eventType n = .ok canonical ↔
      ∃ v, ∃ k : ℕ, validateEventNamespace eventType = .ok (.ofList v) ∧ IsNamespace v ∧
        n = k ∧ 0 < k ∧ canonical = .ofList (fullName v k) := by
  unfold buildEventName
  constructor
  · intro built
    obtain ⟨name, validated, built⟩ := Outcome.bind_ok.mp built
    obtain ⟨positive, built⟩ := Outcome.check_ok.mp built
    obtain ⟨named, rfl⟩ := namespace_ok.mp validated
    have positive : 1 ≤ n := by simpa using positive
    obtain ⟨k, rfl⟩ := Int.eq_ofNat_of_zero_le (by omega : 0 ≤ n)
    refine ⟨_, k, validated, named, rfl, by omega, ?_⟩
    rw [← Except.ok.inj built, fullName_text]
  · rintro ⟨v, k, validated, -, rfl, positive, rfl⟩
    rw [validated, ← fullName_text]
    have passes : decide ((k : ℤ) < 1) = false := decide_eq_false (by omega)
    simp only [passes]
    rfl

omit [Unicode] in
theorem fullName_inj {v v' : List Char} {n n' : ℕ} (positive : 0 < n) (positive' : 0 < n')
    (same : fullName v n = fullName v' n') : v = v' ∧ n = n' := by
  obtain ⟨rfl, digits⟩ := Separators.split_last (version_dotless (toDigits_version positive))
    (version_dotless (toDigits_version positive')) same
  obtain ⟨-, digits⟩ := List.cons.inj digits
  refine ⟨rfl, ?_⟩
  calc n = Nat.ofDigitChars 10 (Nat.toDigits 10 n) 0 :=
        (Nat.ofDigitChars_toDigits (by norm_num) (by norm_num)).symm
    _ = Nat.ofDigitChars 10 (Nat.toDigits 10 n') 0 := by rw [digits]
    _ = n' := Nat.ofDigitChars_toDigits (by norm_num) (by norm_num)

/-- Two names built alike are built of one namespace and one version. -/
theorem build_inj {eventType eventType' name name' canonical : String} {n n' : ℤ}
    (validated : validateEventNamespace eventType = .ok name)
    (validated' : validateEventNamespace eventType' = .ok name')
    (built : buildEventName eventType n = .ok canonical)
    (built' : buildEventName eventType' n' = .ok canonical) : name = name' ∧ n = n' := by
  obtain ⟨v, k, here, -, rfl, positive, rfl⟩ := build_ok.mp built
  obtain ⟨v', k', there, -, rfl, positive', same⟩ := build_ok.mp built'
  obtain ⟨rfl, rfl⟩ := fullName_inj positive positive' (String.ofList_inj.mp same)
  obtain rfl := Except.ok.inj (validated.symm.trans here)
  obtain rfl := Except.ok.inj (validated'.symm.trans there)
  exact ⟨rfl, rfl⟩

/-- **Event names round-trip.**  A name built of an accepted namespace and a version is read
back as the normal form of the one and the other; a full name that is read is built again
from what was read; and two names built alike have one namespace and one version. -/
theorem event_names_round_trip :
    (∀ (eventType name : String) (n : ℤ), validateEventNamespace eventType = .ok name → 1 ≤ n →
      ∃ canonical, buildEventName eventType n = .ok canonical ∧
        normalizeEventName canonical = .ok ⟨name, n, canonical⟩) ∧
    (∀ (s : String) (r : NormalizedEventName), normalizeEventName s = .ok r →
      buildEventName r.eventType r.eventVersion = .ok r.canonicalName ∧
        normalizeEventName r.canonicalName = .ok r) ∧
    ∀ (eventType eventType' name name' canonical : String) (n n' : ℤ),
      validateEventNamespace eventType = .ok name →
      validateEventNamespace eventType' = .ok name' →
      buildEventName eventType n = .ok canonical → buildEventName eventType' n' = .ok canonical →
      name = name' ∧ n = n' := by
  refine ⟨?_, ?_, fun _ _ _ _ _ _ _ => build_inj⟩
  · intro eventType name n validated positive
    obtain ⟨k, rfl⟩ := Int.eq_ofNat_of_zero_le (by omega : 0 ≤ n)
    obtain ⟨named, rfl⟩ := namespace_ok.mp validated
    exact ⟨_, build_ok.mpr ⟨_, k, validated, named, rfl, by omega, rfl⟩,
      normalize_fullName named (by omega)⟩
  · intro s r accepted
    obtain ⟨v, n, named, positive, rfl⟩ := normalize_ok accepted
    exact ⟨build_ok.mpr ⟨v, n, named.accepted, named, rfl, positive, rfl⟩,
      normalize_fullName named positive⟩

end

end Darasa.Events
