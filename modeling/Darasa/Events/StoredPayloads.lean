import Darasa.Events.Contracts

/-!
What storage makes of a payload.

The safety guard walks the Python value a producer hands over; every later save walks the
value read back from its JSON text.  JSON has no tuples and no keys but strings: a tuple,
which the guard does not walk into, comes back as a list, which it does.  JSON escapes what
is not ASCII: a high surrogate and a low one after it come back as the one character the two
encode.
-/

namespace Darasa.Events

open Darasa (Decimal Json Outcome Unicode refuseIf)

/-! ## Python texts -/

/-- A code point of a `str`: a character, or one of the 1024 high or low surrogates. -/
inductive CodePoint where
  | char (c : Char)
  | high (n : Fin 1024)
  | low (n : Fin 1024)
  deriving DecidableEq, Repr

/-- The code point as the guard sees it.  To its patterns, `strip` and `lower` a surrogate is
what a private-use character is: no letter, no digit and no space. -/
def CodePoint.shown : CodePoint → Char
  | char c => c
  | _ => Char.ofNat 0xE000

/-- A `str`. -/
abbrev PyStr := List CodePoint

namespace PyStr

/-- A text without surrogates. -/
def of (s : String) : PyStr := s.toList.map .char

/-- The text as the guard sees it. -/
def shown (s : PyStr) : String := .ofList (s.map CodePoint.shown)

@[simp] theorem shown_of (s : String) : (of s).shown = s := by
  simp [of, shown, Function.comp_def, CodePoint.shown]

/-- The character two surrogates encode. -/
def joined (high low : Fin 1024) : Char := Char.ofNat (0x10000 + 1024 * high + low)

/-- `json.loads(json.dumps(s))`. -/
def joinPairs : PyStr → PyStr
  | .high h :: .low l :: rest => .char (joined h l) :: joinPairs rest
  | c :: rest => c :: joinPairs rest
  | [] => []

/-- A high surrogate stands before a low one. -/
def hasPair : PyStr → Bool
  | .high _ :: .low _ :: _ => true
  | _ :: rest => hasPair rest
  | [] => false

/-- Only surrogate pairs are read back as something else. -/
theorem join_pairs_of_no_pair {s : PyStr} (alone : s.hasPair = false) : s.joinPairs = s := by
  fun_induction joinPairs s with
  | case1 h l rest => simp [hasPair] at alone
  | case2 c rest other ih =>
    rw [hasPair] at alone
    · rw [ih alone]
    · exact other
  | case3 => rfl

end PyStr

/-! ## Python values -/

/-- A key `json.dumps` can write. -/
inductive PyKey where
  | none
  | bool (b : Bool)
  | int (n : ℤ)
  | float (repr : Decimal)
  | str (s : PyStr)
  deriving DecidableEq, Repr

/-- `str(key)`, as the guard sees it. -/
def PyKey.text : PyKey → String
  | none => "None"
  | bool b => if b then "True" else "False"
  | int n => toString n
  | float value => Json.floatText value
  | str s => s.shown

/-- The key read back from what `json.dumps` writes. -/
def PyKey.json : PyKey → PyStr
  | none => .of "null"
  | bool b => .of (if b then "true" else "false")
  | int n => .of (toString n)
  | float (.infinity negative) => .of (if negative then "-Infinity" else "Infinity")
  | float (.nan _) => .of "NaN"
  | float value => .of (Json.floatText value)
  | str s => s.joinPairs

/-- A value `json.dumps` can write. -/
inductive PyValue where
  | none
  | bool (b : Bool)
  | int (n : ℤ)
  | float (repr : Decimal)
  | str (s : PyStr)
  | list (items : List PyValue)
  | tuple (items : List PyValue)
  | dict (entries : List (PyKey × PyValue))
  deriving Repr

namespace PyValue

mutual

/-- `json.loads(json.dumps(value))`.  Of the entries of one key the last is read. -/
def readBack : PyValue → PyValue
  | str s => .str s.joinPairs
  | list items => .list (readItems items)
  | tuple items => .list (readItems items)
  | dict entries => .dict (readEntries entries)
  | none => .none
  | bool b => .bool b
  | int n => .int n
  | float value => .float value

def readItems : List PyValue → List PyValue
  | [] => []
  | item :: items => item.readBack :: readItems items

def readEntries : List (PyKey × PyValue) → List (PyKey × PyValue)
  | [] => []
  | (key, value) :: entries =>
    if entries.any fun later => later.1.json == key.json then readEntries entries
    else (.str key.json, value.readBack) :: readEntries entries

end

/-- The text of a list whose items are all strings. -/
def joinStrings : List PyValue → Option PyStr
  | [] => some []
  | [.str s] => some s
  | .str s :: rest => (joinStrings rest).map (s ++ .char ' ' :: ·)
  | _ => Option.none

section

variable [Unicode]

/-- A non-empty list of strings that talks of learners. -/
def namesLearners (items : List PyValue) : Bool :=
  !items.isEmpty && (joinStrings items).any fun joined =>
    let lowered := Text.lowerChars joined.shown.toList
    Text.containsChars "learner".toList lowered || Text.containsChars "student".toList lowered

mutual

/-- `reject_sensitive_payload`, on the value a producer hands over or a row is read with. -/
def rejectSensitive : PyValue → Outcome Unit
  | dict entries => rejectEntries entries
  | list items => do
    refuseIf (namesLearners items) "payload" "Event payload contains sensitive values."
    rejectItems items
  | str value =>
    refuseIf (sensitiveText value.shown) "payload" "Event payload contains sensitive values."
  -- a tuple is no `list`: the walk ends there
  | _ => .ok ()

def rejectItems : List PyValue → Outcome Unit
  | [] => .ok ()
  | item :: items => do
    rejectSensitive item
    rejectItems items

def rejectEntries : List (PyKey × PyValue) → Outcome Unit
  | [] => .ok ()
  | (key, nested) :: entries => do
    refuseIf (sensitiveKey key.text) "payload" "Event payload contains sensitive fields."
    rejectSensitive nested
    rejectEntries entries

end

end

/-! ### The values of the tables -/

mutual

/-- A JSON value of a row as the Python value it is. -/
def ofJson : Json → PyValue
  | .null => .none
  | .bool b => .bool b
  | .int n => .int n
  | .float value => .float value
  | .str s => .str (.of s)
  | .arr items => .list (ofItems items)
  | .obj fields => .dict (ofFields fields)

def ofItems : List Json → List PyValue
  | [] => []
  | item :: items => ofJson item :: ofItems items

def ofFields : List (String × Json) → List (PyKey × PyValue)
  | [] => []
  | (key, value) :: fields => (.str (.of key), ofJson value) :: ofFields fields

end

theorem join_strings_of_items {items : List Json} :
    joinStrings (ofItems items) = (Events.joinStrings items).map PyStr.of := by
  fun_induction Events.joinStrings items with
  | case1 => rfl
  | case2 s => rfl
  | case3 s rest filled ih =>
    cases rest with
    | nil => exact absurd rfl filled
    | cons next rest =>
      rw [ofItems, ofJson, joinStrings, ih, Option.map_map, Option.map_map]
      · refine congrArg (Option.map · _) (funext fun joined => ?_)
        simp [PyStr.of]
      · simp [ofItems]
  | case4 items filled single many =>
    cases items with
    | nil => exact absurd rfl filled
    | cons item rest =>
      cases item with
      | str s => exact absurd rfl (many s rest)
      | _ => cases rest <;> rfl

section

variable [Unicode]

theorem names_learners_of_items {items : List Json} :
    namesLearners (ofItems items) = Events.namesLearners items := by
  unfold namesLearners Events.namesLearners
  rw [join_strings_of_items, Option.any_map]
  have empty : (ofItems items).isEmpty = items.isEmpty := by cases items <;> rfl
  simp [empty]

mutual

/-- The guard on the values of the tables is the guard on the Python values they are. -/
theorem reject_of_json : (value : Json) →
    (ofJson value).rejectSensitive = rejectSensitivePayload value
  | .obj fields => by rw [ofJson, rejectSensitive, rejectSensitivePayload, reject_of_fields]
  | .arr items => by
    rw [ofJson, rejectSensitive, rejectSensitivePayload, names_learners_of_items, reject_of_items]
  | .str s => by rw [ofJson, rejectSensitive, rejectSensitivePayload, PyStr.shown_of]
  | .null => rfl
  | .bool _ => rfl
  | .int _ => rfl
  | .float _ => rfl

theorem reject_of_items : (items : List Json) →
    rejectItems (ofItems items) = rejectSensitiveItems items
  | [] => rfl
  | item :: items => by
    rw [ofItems, rejectItems, rejectSensitiveItems, reject_of_json item, reject_of_items items]

theorem reject_of_fields : (fields : List (String × Json)) →
    rejectEntries (ofFields fields) = rejectSensitiveFields fields
  | [] => rfl
  | (key, value) :: fields => by
    rw [ofFields, rejectEntries, rejectSensitiveFields, reject_of_json value,
      reject_of_fields fields, PyKey.text, PyStr.shown_of]

end

end

end PyValue

/-! ## What is inside a value -/

/-- A value inside another, at any depth. -/
inductive Within : PyValue → PyValue → Prop where
  | self (value : PyValue) : Within value value
  | item {items : List PyValue} {item value : PyValue} (member : item ∈ items)
      (inside : Within item value) : Within (.list items) value
  | part {items : List PyValue} {item value : PyValue} (member : item ∈ items)
      (inside : Within item value) : Within (.tuple items) value
  | entry {entries : List (PyKey × PyValue)} {entry : PyKey × PyValue} {value : PyValue}
      (member : entry ∈ entries) (inside : Within entry.2 value) : Within (.dict entries) value

/-- A value the guard reaches: through lists and mappings, but not into tuples. -/
inductive Reached : PyValue → PyValue → Prop where
  | self (value : PyValue) : Reached value value
  | item {items : List PyValue} {item value : PyValue} (member : item ∈ items)
      (inside : Reached item value) : Reached (.list items) value
  | entry {entries : List (PyKey × PyValue)} {entry : PyKey × PyValue} {value : PyValue}
      (member : entry ∈ entries) (inside : Reached entry.2 value) : Reached (.dict entries) value

/-- An entry that no later one overwrites when the mapping is stored. -/
def Kept (entries : List (PyKey × PyValue)) (entry : PyKey × PyValue) : Prop :=
  ∃ before after, entries = before ++ entry :: after ∧
    ∀ later ∈ after, later.1.json ≠ entry.1.json

/-- A value that is stored, outside tuples. -/
inductive Stored : PyValue → PyValue → Prop where
  | self (value : PyValue) : Stored value value
  | item {items : List PyValue} {item value : PyValue} (member : item ∈ items)
      (inside : Stored item value) : Stored (.list items) value
  | entry {entries : List (PyKey × PyValue)} {entry : PyKey × PyValue} {value : PyValue}
      (kept : Kept entries entry) (inside : Stored entry.2 value) : Stored (.dict entries) value

section

variable [Unicode]

/-- Nothing the guard looks for shows in the value itself. -/
def Calm : PyValue → Prop
  | .dict entries => ∀ entry ∈ entries, sensitiveKey entry.1.text = false
  | .list items => PyValue.namesLearners items = false
  | .str s => sensitiveText s.shown = false
  | _ => True

/-- Nothing the guard looks for shows outside tuples. -/
def HarmlessOutsideTuples (payload : PyValue) : Prop :=
  ∀ inner, Reached payload inner → Calm inner

/-- Nothing the guard looks for shows in the value, a tuple, once it is a list. -/
def CalmAsList : PyValue → Prop
  | .tuple items => HarmlessOutsideTuples (.list (PyValue.readItems items))
  | _ => True

/-- Nothing the guard looks for shows where surrogates of the value itself are joined. -/
def CalmOncePaired : PyValue → Prop
  | .dict entries => ∀ entry s, Kept entries entry → entry.1 = .str s → s.hasPair = true →
      sensitiveKey s.joinPairs.shown = false
  | .list items => (∃ s, PyValue.str s ∈ items ∧ s.hasPair = true) →
      PyValue.namesLearners (PyValue.readItems items) = false
  | .str s => s.hasPair = true → sensitiveText s.joinPairs.shown = false
  | _ => True

/-- Nothing the guard looks for shows in the tuples that are stored. -/
def HarmlessTuples (payload : PyValue) : Prop := ∀ inner, Stored payload inner → CalmAsList inner

/-- Nothing the guard looks for comes about where surrogates are joined, outside tuples. -/
def HarmlessPairs (payload : PyValue) : Prop :=
  ∀ inner, Stored payload inner → CalmOncePaired inner

/-! ## The walk -/

variable {items : List PyValue} {entries : List (PyKey × PyValue)} {value : PyValue}

theorem outside_items : HarmlessOutsideTuples (.list items) ↔
    PyValue.namesLearners items = false ∧ ∀ item ∈ items, HarmlessOutsideTuples item := by
  constructor
  · intro harmless
    exact ⟨harmless _ (.self _), fun item member inner inside => harmless _ (.item member inside)⟩
  · rintro ⟨calm, each⟩ inner inside
    cases inside with
    | self => exact calm
    | item member inside => exact each _ member _ inside

theorem outside_entries : HarmlessOutsideTuples (.dict entries) ↔
    ∀ entry ∈ entries, sensitiveKey entry.1.text = false ∧ HarmlessOutsideTuples entry.2 := by
  constructor
  · intro harmless entry member
    exact ⟨harmless _ (.self _) entry member,
      fun inner inside => harmless _ (.entry member inside)⟩
  · intro each inner inside
    cases inside with
    | self => exact fun entry member => (each entry member).1
    | entry member inside => exact (each _ member).2 _ inside

theorem outside_atom (atom : ∀ inner, Reached value inner → inner = value) :
    HarmlessOutsideTuples value ↔ Calm value :=
  ⟨fun harmless => harmless _ (.self _), fun calm _ inside => atom _ inside ▸ calm⟩

mutual

/-- The guard accepts a Python value exactly when nothing it looks for shows outside
tuples. -/
theorem guard_iff : (value : PyValue) →
    (value.rejectSensitive = .ok () ↔ HarmlessOutsideTuples value)
  | .dict entries => by
    rw [PyValue.rejectSensitive, guard_entries, outside_entries]
  | .list items => by
    rw [PyValue.rejectSensitive, Outcome.check_ok, refuseIf_ok, guard_items, outside_items]
  | .str s => by
    rw [PyValue.rejectSensitive, refuseIf_ok,
      outside_atom fun inner inside => by cases inside; rfl]
    exact Iff.rfl
  | .tuple items => by
    rw [outside_atom fun inner inside => by cases inside; rfl]
    exact ⟨fun _ => trivial, fun _ => rfl⟩
  | .none => by
    rw [outside_atom fun inner inside => by cases inside; rfl]
    exact ⟨fun _ => trivial, fun _ => rfl⟩
  | .bool b => by
    rw [outside_atom fun inner inside => by cases inside; rfl]
    exact ⟨fun _ => trivial, fun _ => rfl⟩
  | .int n => by
    rw [outside_atom fun inner inside => by cases inside; rfl]
    exact ⟨fun _ => trivial, fun _ => rfl⟩
  | .float value => by
    rw [outside_atom fun inner inside => by cases inside; rfl]
    exact ⟨fun _ => trivial, fun _ => rfl⟩

theorem guard_items : (items : List PyValue) →
    (PyValue.rejectItems items = .ok () ↔ ∀ item ∈ items, HarmlessOutsideTuples item)
  | [] => by simp [PyValue.rejectItems]
  | item :: items => by
    rw [PyValue.rejectItems, Outcome.check_ok, guard_iff item, guard_items items,
      List.forall_mem_cons]

theorem guard_entries : (entries : List (PyKey × PyValue)) →
    (PyValue.rejectEntries entries = .ok () ↔
      ∀ entry ∈ entries, sensitiveKey entry.1.text = false ∧ HarmlessOutsideTuples entry.2)
  | [] => by simp [PyValue.rejectEntries]
  | (key, nested) :: entries => by
    rw [PyValue.rejectEntries, Outcome.check_ok, refuseIf_ok, Outcome.check_ok, guard_iff nested,
      guard_entries entries, List.forall_mem_cons, and_assoc]

end

/-! ## Storage -/

/-- What JSON has words for. -/
def jsonWords : List String := ["null", "true", "false", "Infinity", "-Infinity", "NaN"]

theorem json_word_calm {word : String} (known : word ∈ jsonWords) : sensitiveKey word = false := by
  have ascii : ∀ word ∈ jsonWords, word.toList.all Unicode.isAscii = true := by decide
  have calm : ∀ word ∈ jsonWords, @sensitiveKey .ascii word = false := by decide +kernel
  exact calm_of_ascii (ascii word known) (calm word known)

/-- A key that is no string is written as a text of its own, which is not sensitive
either. -/
theorem stored_key_calm {key : PyKey} (calm : sensitiveKey key.text = false)
    (paired : ∀ s, key = .str s → s.hasPair = true → sensitiveKey s.joinPairs.shown = false) :
    sensitiveKey key.json.shown = false := by
  cases key with
  | none =>
    rw [PyKey.json, PyStr.shown_of]
    exact json_word_calm (by decide)
  | bool b =>
    rw [PyKey.json, PyStr.shown_of]
    cases b <;> exact json_word_calm (by decide)
  | int n =>
    rw [PyKey.json, PyStr.shown_of]
    exact calm
  | float value =>
    cases value with
    | finite negative coefficient exponent =>
      rw [PyKey.json, PyStr.shown_of]
      · exact calm
      all_goals simp
    | infinity negative =>
      rw [PyKey.json, PyStr.shown_of]
      cases negative <;> exact json_word_calm (by decide)
    | nan signaling =>
      rw [PyKey.json, PyStr.shown_of]
      exact json_word_calm (by decide)
  | str s =>
    rw [PyKey.json]
    cases pair : s.hasPair with
    | true => exact paired s rfl pair
    | false =>
      rw [PyStr.join_pairs_of_no_pair pair]
      exact calm

omit [Unicode] in
/-- A list of strings without surrogate pairs is joined as it was. -/
theorem join_read (alone : ∀ s, PyValue.str s ∈ items → s.hasPair = false) :
    PyValue.joinStrings (PyValue.readItems items) = PyValue.joinStrings items := by
  induction items with
  | nil => rfl
  | cons item items ih =>
    have later := ih fun s member => alone s (.tail _ member)
    cases item with
    | str s =>
      have here : s.joinPairs = s := PyStr.join_pairs_of_no_pair (alone s (.head _))
      cases items with
      | nil => simp [PyValue.readItems, PyValue.readBack, PyValue.joinStrings, here]
      | cons next items =>
        rw [PyValue.readItems, PyValue.readBack, here, PyValue.joinStrings, PyValue.joinStrings,
          later]
        · simp
        · simp [PyValue.readItems]
    | _ =>
      cases items <;> simp [PyValue.readItems, PyValue.readBack, PyValue.joinStrings]

theorem names_learners_read (calm : PyValue.namesLearners items = false)
    (paired : CalmOncePaired (.list items)) :
    PyValue.namesLearners (PyValue.readItems items) = false := by
  by_cases pair : ∃ s, PyValue.str s ∈ items ∧ s.hasPair = true
  · exact paired pair
  · have alone : ∀ s, PyValue.str s ∈ items → s.hasPair = false := fun s member =>
      Bool.eq_false_iff.mpr fun has => pair ⟨s, member, has⟩
    have empty : (PyValue.readItems items).isEmpty = items.isEmpty := by cases items <;> rfl
    unfold PyValue.namesLearners at calm ⊢
    rw [join_read alone, empty]
    exact calm

omit [Unicode] in
theorem mem_read_items : value ∈ PyValue.readItems items ↔ ∃ item ∈ items, item.readBack = value := by
  induction items with
  | nil => simp [PyValue.readItems]
  | cons item items ih =>
    rw [PyValue.readItems, List.mem_cons, ih]
    simp [eq_comm]

omit [Unicode] in
theorem kept_cons {first entry : PyKey × PyValue} :
    Kept (first :: entries) entry ↔
      entry = first ∧ (∀ later ∈ entries, later.1.json ≠ first.1.json) ∨ Kept entries entry := by
  constructor
  · rintro ⟨before, after, split, last⟩
    cases before with
    | nil =>
      obtain ⟨rfl, rfl⟩ := List.cons.inj split
      exact .inl ⟨rfl, last⟩
    | cons other before =>
      obtain ⟨rfl, rest⟩ := List.cons.inj split
      exact .inr ⟨before, after, rest, last⟩
  · rintro (⟨rfl, last⟩ | ⟨before, after, rfl, last⟩)
    · exact ⟨[], entries, rfl, last⟩
    · exact ⟨first :: before, after, rfl, last⟩

omit [Unicode] in
/-- The entries read back are the entries kept. -/
theorem mem_read_entries {field : PyKey × PyValue} :
    field ∈ PyValue.readEntries entries ↔
      ∃ entry, Kept entries entry ∧ field = (.str entry.1.json, entry.2.readBack) := by
  induction entries with
  | nil => simp [PyValue.readEntries, Kept]
  | cons first entries ih =>
    obtain ⟨key, value⟩ := first
    simp only [PyValue.readEntries, kept_cons]
    split
    next again =>
      obtain ⟨later, member, same⟩ := List.any_eq_true.mp again
      rw [ih]
      constructor
      · rintro ⟨entry, kept, is⟩
        exact ⟨entry, .inr kept, is⟩
      · rintro ⟨entry, ⟨-, last⟩ | kept, is⟩
        · exact absurd (by simpa using same) (last later member)
        · exact ⟨entry, kept, is⟩
    next last =>
      have last' : ∀ later ∈ entries, later.1.json ≠ key.json := by simpa using last
      rw [List.mem_cons, ih]
      constructor
      · rintro (is | ⟨entry, kept, is⟩)
        · exact ⟨_, .inl ⟨rfl, last'⟩, is⟩
        · exact ⟨entry, .inr kept, is⟩
      · rintro ⟨entry, ⟨rfl, -⟩ | kept, is⟩
        · exact .inl is
        · exact .inr ⟨entry, kept, is⟩

omit [Unicode] in
theorem mem_of_kept {entry : PyKey × PyValue} (kept : Kept entries entry) : entry ∈ entries := by
  obtain ⟨before, after, rfl, -⟩ := kept
  simp

section

variable {P : PyValue → Prop}

omit [Unicode] in
theorem stored_in_items : (∀ inner, Stored (.list items) inner → P inner) ↔
    P (.list items) ∧ ∀ item ∈ items, ∀ inner, Stored item inner → P inner := by
  constructor
  · exact fun all => ⟨all _ (.self _), fun item member inner stored => all _ (.item member stored)⟩
  · rintro ⟨here, each⟩ inner stored
    cases stored with
    | self => exact here
    | item member inside => exact each _ member _ inside

omit [Unicode] in
theorem stored_in_entries : (∀ inner, Stored (.dict entries) inner → P inner) ↔
    P (.dict entries) ∧ ∀ entry, Kept entries entry → ∀ inner, Stored entry.2 inner → P inner := by
  constructor
  · exact fun all => ⟨all _ (.self _), fun entry kept inner stored => all _ (.entry kept stored)⟩
  · rintro ⟨here, each⟩ inner stored
    cases stored with
    | self => exact here
    | entry kept inside => exact each _ kept _ inside

omit [Unicode] in
theorem stored_in_atom (atom : ∀ inner, Stored value inner → inner = value) :
    (∀ inner, Stored value inner → P inner) ↔ P value :=
  ⟨fun all => all _ (.self _), fun here inner stored => atom inner stored ▸ here⟩

end

/-- A value that is read back as itself. -/
theorem read_atom_iff (accepted : HarmlessOutsideTuples value)
    (atom : ∀ inner, Stored value inner → inner = value) (same : value.readBack = value)
    (calm : CalmAsList value ∧ CalmOncePaired value) :
    HarmlessOutsideTuples value.readBack ↔ HarmlessTuples value ∧ HarmlessPairs value := by
  rw [HarmlessTuples, HarmlessPairs, stored_in_atom atom, stored_in_atom atom, same]
  exact iff_of_true accepted calm

mutual

/-- What an accepted value is read back as is accepted exactly when its tuples and its surrogate
pairs are harmless. -/
theorem read_back_iff : (value : PyValue) → HarmlessOutsideTuples value →
    (HarmlessOutsideTuples value.readBack ↔ HarmlessTuples value ∧ HarmlessPairs value)
  | .dict entries, accepted => by
    rw [outside_entries] at accepted
    have each := read_entries_iff entries fun entry member => (accepted entry member).2
    rw [PyValue.readBack, outside_entries, HarmlessTuples, HarmlessPairs, stored_in_entries,
      stored_in_entries]
    constructor
    · intro harmless
      have kept_harmless (entry : PyKey × PyValue) (kept : Kept entries entry) :=
        harmless _ (mem_read_entries.mpr ⟨entry, kept, rfl⟩)
      have inside (entry : PyKey × PyValue) (kept : Kept entries entry) :=
        (each entry (mem_of_kept kept)).mp (kept_harmless entry kept).2
      refine ⟨⟨trivial, fun entry kept => (inside entry kept).1⟩, ?_,
        fun entry kept => (inside entry kept).2⟩
      rintro ⟨key, value⟩ s kept rfl -
      exact (kept_harmless _ kept).1
    · rintro ⟨⟨-, tuples⟩, keys, pairs⟩ field member
      obtain ⟨entry, kept, rfl⟩ := mem_read_entries.mp member
      have known := mem_of_kept kept
      exact ⟨stored_key_calm (accepted entry known).1 fun s => keys entry s kept,
        (each entry known).mpr ⟨tuples entry kept, pairs entry kept⟩⟩
  | .list items, accepted => by
    rw [outside_items] at accepted
    have each := read_items_iff items accepted.2
    rw [PyValue.readBack, outside_items, HarmlessTuples, HarmlessPairs, stored_in_items,
      stored_in_items]
    constructor
    · rintro ⟨unnamed, harmless⟩
      have inside (item : PyValue) (member : item ∈ items) :=
        (each item member).mp (harmless _ (mem_read_items.mpr ⟨item, member, rfl⟩))
      exact ⟨⟨trivial, fun item member => (inside item member).1⟩, fun _ => unnamed,
        fun item member => (inside item member).2⟩
    · rintro ⟨⟨-, tuples⟩, joined, pairs⟩
      refine ⟨names_learners_read accepted.1 joined, fun value member => ?_⟩
      obtain ⟨item, known, rfl⟩ := mem_read_items.mp member
      exact (each item known).mpr ⟨tuples item known, pairs item known⟩
  | .tuple items, _ => by
    have atom : ∀ inner, Stored (.tuple items) inner → inner = .tuple items :=
      fun inner stored => by cases stored; rfl
    rw [PyValue.readBack, HarmlessTuples, HarmlessPairs, stored_in_atom atom, stored_in_atom atom]
    exact ⟨fun harmless => ⟨harmless, trivial⟩, And.left⟩
  | .str s, accepted => by
    have atom : ∀ inner, Stored (.str s) inner → inner = .str s :=
      fun inner stored => by cases stored; rfl
    have calm := accepted _ (.self _)
    rw [PyValue.readBack, HarmlessTuples, HarmlessPairs, stored_in_atom atom, stored_in_atom atom,
      outside_atom fun inner inside => by cases inside; rfl]
    refine ⟨fun read => ⟨trivial, fun _ => read⟩, fun both => ?_⟩
    cases pair : s.hasPair with
    | true => exact both.2 pair
    | false =>
      rw [PyStr.join_pairs_of_no_pair pair]
      exact calm
  | .none, accepted => read_atom_iff accepted (fun _ stored => by cases stored; rfl) rfl ⟨trivial, trivial⟩
  | .bool b, accepted => read_atom_iff accepted (fun _ stored => by cases stored; rfl) rfl ⟨trivial, trivial⟩
  | .int n, accepted => read_atom_iff accepted (fun _ stored => by cases stored; rfl) rfl ⟨trivial, trivial⟩
  | .float f, accepted => read_atom_iff accepted (fun _ stored => by cases stored; rfl) rfl ⟨trivial, trivial⟩

theorem read_items_iff : (items : List PyValue) → (∀ item ∈ items, HarmlessOutsideTuples item) →
    ∀ item ∈ items, (HarmlessOutsideTuples item.readBack ↔ HarmlessTuples item ∧ HarmlessPairs item)
  | [], _ => by simp
  | first :: items, accepted => by
    intro item member
    rcases List.mem_cons.mp member with same | later
    · rw [same]
      exact read_back_iff first (accepted first List.mem_cons_self)
    · exact read_items_iff items (fun item known => accepted item (List.mem_cons_of_mem _ known))
        item later

theorem read_entries_iff : (entries : List (PyKey × PyValue)) →
    (∀ entry ∈ entries, HarmlessOutsideTuples entry.2) → ∀ entry ∈ entries,
      (HarmlessOutsideTuples entry.2.readBack ↔ HarmlessTuples entry.2 ∧ HarmlessPairs entry.2)
  | [], _ => by simp
  | (key, value) :: entries, accepted => by
    intro entry member
    rcases List.mem_cons.mp member with same | later
    · rw [same]
      exact read_back_iff value (accepted (key, value) List.mem_cons_self)
    · exact read_entries_iff entries
        (fun entry known => accepted entry (List.mem_cons_of_mem _ known)) entry later

end

/-! ## What is read back -/

omit [Unicode] in
/-- The guard reaches everything inside a value read back: there are no tuples. -/
theorem reached_of_within {inner : PyValue} (within : Within value inner) :
    ∀ payload : PyValue, payload.readBack = value → Reached value inner := by
  induction within with
  | self value => exact fun _ _ => .self value
  | @item items _ _ member _ ih =>
    intro payload is
    have read : ∃ parts, items = PyValue.readItems parts := by
      cases payload with
      | list parts => exact ⟨parts, (PyValue.list.inj is).symm⟩
      | tuple parts => exact ⟨parts, (PyValue.list.inj is).symm⟩
      | _ => cases is
    obtain ⟨parts, rfl⟩ := read
    obtain ⟨part, -, same⟩ := mem_read_items.mp member
    exact .item member (ih part same)
  | part member _ ih =>
    intro payload is
    cases payload <;> cases is
  | entry member _ ih =>
    intro payload is
    cases payload with
    | dict fields =>
      cases is
      obtain ⟨field, -, same⟩ := mem_read_entries.mp member
      exact .entry member (ih field.2 (by rw [same]))
    | _ => cases is

/-- What a payload read back may hold: at any depth, no sensitive key and no text of a
sensitive pattern. -/
def NothingSensitive (payload : PyValue) : Prop :=
  (∀ entries, Within payload (.dict entries) →
    ∀ entry ∈ entries, sensitiveKey entry.1.text = false) ∧
  ∀ s, Within payload (.str s) → sensitiveText s.shown = false

theorem nothing_sensitive_of_harmless (harmless : HarmlessOutsideTuples value.readBack) :
    NothingSensitive value.readBack :=
  ⟨fun _ within => harmless _ (reached_of_within within value rfl),
    fun _ within => harmless _ (reached_of_within within value rfl)⟩

/-- **An accepted payload stays acceptable after storage exactly when its tuples, which the
guard does not walk into, hold nothing the guard would reject, and joining its surrogates brings
nothing about that it would.** -/
theorem accepted_stays_acceptable_iff (payload : PyValue) :
    (payload.rejectSensitive = .ok () →
      payload.readBack.rejectSensitive = .ok () ∧ NothingSensitive payload.readBack) ↔
    (HarmlessOutsideTuples payload → HarmlessTuples payload ∧ HarmlessPairs payload) := by
  rw [guard_iff, guard_iff]
  constructor
  · intro stays outside
    exact (read_back_iff payload outside).mp (stays outside).1
  · intro calm outside
    have harmless := (read_back_iff payload outside).mpr (calm outside)
    exact ⟨harmless, nothing_sensitive_of_harmless harmless⟩

end

section

attribute [local instance] Unicode.ascii

/-- A tuple of admission numbers passes the guard once, and no later save passes it. -/
theorem tuple_is_accepted_once :
    (PyValue.dict [(.str (.of "references"), .tuple [.str (.of "ADM1234")])]).rejectSensitive =
        .ok () ∧
      (PyValue.dict [(.str (.of "references"),
          .tuple [.str (.of "ADM1234")])]).readBack.rejectSensitive =
        .error (.validationError "payload" "Event payload contains sensitive values.") := by
  decide +kernel

end

section

/-- A database that knows one letter past ASCII, U+1D400. -/
private abbrev boldLetter : Unicode := { Unicode.ascii with word := (· == Char.ofNat 0x1D400) }

attribute [local instance] boldLetter

/-- The two surrogates of a letter, before what could be the rest of an address. -/
private def splitAddress : PyValue :=
  .dict [(.str (.of "x"), .str (.high 53 :: .low 0 :: PyStr.of "@b.com"))]

example : splitAddress.rejectSensitive = .ok () ∧ splitAddress.readBack.rejectSensitive =
    .error (.validationError "payload" "Event payload contains sensitive values.") := by
  decide +kernel

end

end Darasa.Events
