import Darasa.Foundation.Tables
import Darasa.Runtime.Errors
import Darasa.Runtime.Json
import Mathlib.Data.String.Basic

/-!
What changed between two snapshots of the curriculum graph.

A snapshot is a list of nodes, each a mapping from text to whatever Python objects its
maker put there.  The engine files the nodes of either side under the text
`entity_type:identifier` and compares the two under each key.
-/

namespace Darasa.Curriculum

open Darasa (Decimal Exn Json Outcome Unicode)

/-! ## Nodes -/

/-- A value of a node: what JSON has, a tuple, or an object of another class. -/
inductive SnapshotValue (O : Type) where
  | none
  | bool (b : Bool)
  | int (n : ℤ)
  | float (repr : Decimal)
  | str (s : String)
  | list (items : List (SnapshotValue O))
  | tuple (items : List (SnapshotValue O))
  | dict (entries : List (String × SnapshotValue O))
  | object (o : O)
  deriving Repr

/-- What objects of other classes bring of their own, and `==`, which asks them. -/
class SnapshotObject (O : Type) where
  str : O → String
  repr : O → String
  truthy : O → Bool
  unhashable? : O → Option String
  equal : SnapshotValue O → SnapshotValue O → Bool

/-- The digest of a text, in hexadecimal digits. -/
class Sha256 where
  hexdigest : String → String

namespace SnapshotValue

variable {O : Type} [SnapshotObject O] [Unicode]

mutual

/-- `repr(value)`. -/
def repr : SnapshotValue O → String
  | none => "None"
  | bool b => if b then "True" else "False"
  | int n => toString n
  | float value => Json.floatText value
  | str s => Json.stringRepr s
  | list items => "[" ++ reprItems items ++ "]"
  | tuple [item] => "(" ++ item.repr ++ ",)"
  | tuple items => "(" ++ reprItems items ++ ")"
  | dict entries => "\x7b" ++ reprEntries entries ++ "\x7d"
  | object o => SnapshotObject.repr o

def reprItems : List (SnapshotValue O) → String
  | [] => ""
  | [item] => item.repr
  | item :: items => item.repr ++ ", " ++ reprItems items

def reprEntries : List (String × SnapshotValue O) → String
  | [] => ""
  | [(key, value)] => Json.stringRepr key ++ ": " ++ value.repr
  | (key, value) :: entries =>
    Json.stringRepr key ++ ": " ++ value.repr ++ ", " ++ reprEntries entries

end

/-- `str(value)`. -/
def text : SnapshotValue O → String
  | str s => s
  | object o => SnapshotObject.str o
  | value => value.repr

/-- `bool(value)`. -/
def truthy : SnapshotValue O → Bool
  | none => false
  | bool b => b
  | int n => n != 0
  | float (.finite _ coefficient _) => coefficient != 0
  | float _ => true
  | str s => !s.isEmpty
  | list items | tuple items => !items.isEmpty
  | dict entries => !entries.isEmpty
  | object o => SnapshotObject.truthy o

mutual

/-- The class that makes `hash(value)` raise. -/
def unhashable? : SnapshotValue O → Option String
  | list _ => some "list"
  | dict _ => some "dict"
  | tuple items => unhashableItem? items
  | object o => SnapshotObject.unhashable? o
  | _ => Option.none

def unhashableItem? : List (SnapshotValue O) → Option String
  | [] => Option.none
  | item :: items => item.unhashable? <|> unhashableItem? items

end

mutual

/-- `_canonicalize`, with the keys in the order `json.dumps` sorts them. -/
def canonicalize : SnapshotValue O → Json
  | none => .null
  | bool b => .bool b
  | int n => .int n
  | float value => .float value
  | str s => .str s
  | list items | tuple items => .arr (canonicalizeItems items)
  | dict entries => .obj (canonicalizeEntries entries)
  | object o => .str (SnapshotObject.str o)

def canonicalizeItems : List (SnapshotValue O) → List Json
  | [] => []
  | item :: items => item.canonicalize :: canonicalizeItems items

def canonicalizeEntries : List (String × SnapshotValue O) → List (String × Json)
  | [] => []
  | (key, value) :: entries =>
    Json.insertField (key, value.canonicalize) (canonicalizeEntries entries)

end

end SnapshotValue

/-- A node: a mapping of distinct keys. -/
structure GraphNode (O : Type) where
  entries : List (String × SnapshotValue O)
  distinct : (entries.map Prod.fst).Nodup

namespace GraphNode

variable {O : Type}

/-- `node.get(key, default)`. -/
def getD (node : GraphNode O) (key : String) (default : SnapshotValue O) : SnapshotValue O :=
  ((node.entries.find? fun entry => entry.1 == key).map Prod.snd).getD default

/-- `node.get(key)`. -/
def get (node : GraphNode O) (key : String) : SnapshotValue O := node.getD key .none

end GraphNode

/-! ## Keys -/

/-- `f"{entity_type}:{identifier}"`. -/
def keyText (identity : String × String) : String := identity.1 ++ ":" ++ identity.2

theorem before_colon {name rest : List Char} (free : ':' ∉ name) :
    (name ++ ':' :: rest).takeWhile (· != ':') = name := by
  have letters : ∀ c ∈ name, (c != ':') = true := by
    intro c member
    exact bne_iff_ne.mpr fun colon => free (colon ▸ member)
  rw [List.takeWhile_append_of_pos letters]
  simp

theorem keyText_inj {a b : String × String} (free : ':' ∉ a.1.toList) (free' : ':' ∉ b.1.toList)
    (same : keyText a = keyText b) : a = b := by
  have letters := congrArg String.toList same
  have colon : ":".toList = [':'] := rfl
  simp only [keyText, String.toList_append, List.append_assoc, colon, List.singleton_append]
    at letters
  have first : a.1.toList = b.1.toList := by
    rw [← before_colon free, letters, before_colon free']
  rw [first] at letters
  obtain ⟨-, second⟩ := List.cons.inj (List.append_cancel_left letters)
  exact Prod.ext (String.toList_inj.mp first) (String.toList_inj.mp second)

section

variable {O : Type} [SnapshotObject O] [Unicode] {snapshot : List (GraphNode O)}
  {node : GraphNode O}

/-- The trimmed entity type and identifier of a node. -/
def GraphNode.identity (node : GraphNode O) : String × String :=
  (Text.strip (node.getD "entity_type" (.str "")).text,
    Text.strip (node.getD "identifier" (.str "")).text)

/-- `_node_key`. -/
def nodeKey (node : GraphNode O) : String := keyText node.identity

/-- A snapshot whose nodes are told apart by entity type and identifier, where an entity
type is a name: no colon in its text, and a value a set can look up. -/
structure Keyed (snapshot : List (GraphNode O)) : Prop where
  distinct : (snapshot.map GraphNode.identity).Nodup
  colonFree : ∀ node ∈ snapshot, ':' ∉ node.identity.1.toList
  named : ∀ node ∈ snapshot, (node.get "entity_type").unhashable? = none

theorem Keyed.free (keyed : Keyed snapshot) {identity : String × String}
    (member : identity ∈ snapshot.map GraphNode.identity) : ':' ∉ identity.1.toList := by
  obtain ⟨node, known, rfl⟩ := List.mem_map.mp member
  exact keyed.colonFree node known

theorem Keyed.keys_nodup (keyed : Keyed snapshot) : (snapshot.map nodeKey).Nodup := by
  have split : snapshot.map nodeKey = (snapshot.map GraphNode.identity).map keyText := by
    rw [List.map_map]
    rfl
  rw [split]
  exact keyed.distinct.map_on fun a known b known' same =>
    keyText_inj (keyed.free known) (keyed.free known') same

/-- What is filed under the key of a name. -/
theorem Keyed.indexed_eq_some (keyed : Keyed snapshot) {identity : String × String}
    (free : ':' ∉ identity.1.toList) :
    Table.indexed nodeKey snapshot (keyText identity) = some node ↔
      node ∈ snapshot ∧ node.identity = identity := by
  rw [Table.indexed_eq_some keyed.keys_nodup]
  refine and_congr_right fun member => ?_
  exact ⟨fun same => keyText_inj (keyed.colonFree node member) free same, fun same =>
    congrArg keyText same⟩

theorem Keyed.indexed_eq_none (keyed : Keyed snapshot) {identity : String × String}
    (free : ':' ∉ identity.1.toList) :
    Table.indexed nodeKey snapshot (keyText identity) = none ↔
      identity ∉ snapshot.map GraphNode.identity := by
  rw [Option.eq_none_iff_forall_ne_some]
  simp only [ne_eq, keyed.indexed_eq_some free, List.mem_map]
  constructor
  · rintro absent ⟨node, here⟩
    exact absent node here
  · intro absent node here
    exact absent ⟨node, here⟩

/-! ## Fingerprints -/

variable [Sha256]

/-- `stable_graph_hash`. -/
def stableGraphHash (payload : SnapshotValue O) : String :=
  Sha256.hexdigest payload.canonicalize.dumps

/-- `fingerprint_node`. -/
def fingerprintNode (entityType : String) (values : List (String × SnapshotValue O)) : String :=
  stableGraphHash (.dict [("entity_type", .str entityType), ("values", .dict values)])

/-! ## The engine -/

/-- `_node_fingerprint`. -/
def nodeFingerprint (node : GraphNode O) : String :=
  if (node.get "fingerprint").truthy then (node.get "fingerprint").text
  else
    fingerprintNode (node.getD "entity_type" (.str "")).text
      (node.entries.filter fun entry =>
        !(["fingerprint", "identifier", "entity_type"].contains entry.1))

/-- `CurriculumDiffItem.ChangeType`, as far as the engine tells. -/
inductive DiffChange where
  | added
  | removed
  | retired
  | reactivated
  | effectiveDateChanged
  | assessmentCriteriaChanged
  | renamed
  | updated
  deriving DecidableEq, Repr

/-- `ASSESSMENT_ENTITY_TYPES`. -/
def assessmentEntityTypes : List String :=
  ["rubric_foundation", "assessment_guidance", "teacher_training_notice"]

/-- `entity_type in ASSESSMENT_ENTITY_TYPES`: a set asks for the hash first. -/
def isAssessmentType (entityType : SnapshotValue O) : Outcome Bool :=
  match entityType.unhashable? with
  | some typeName => .error (.typeError ("unhashable type: '" ++ typeName ++ "'"))
  | none =>
    .ok (match entityType with
      | .str s => assessmentEntityTypes.contains s
      | _ => false)

/-- `node.get("is_active", True)`, as a condition. -/
def GraphNode.active (node : GraphNode O) : Bool := (node.getD "is_active" (.bool true)).truthy

/-- `_change_type`. -/
def changeType (old new : GraphNode O) : Outcome DiffChange :=
  let differs (key : String) := !SnapshotObject.equal (old.get key) (new.get key)
  if old.active && !new.active then .ok .retired
  else if !old.active && new.active then .ok .reactivated
  else if differs "effective_date" then .ok .effectiveDateChanged
  else do
    if ← isAssessmentType (new.get "entity_type") then .ok .assessmentCriteriaChanged
    else if differs "title" || differs "name" then .ok .renamed
    else .ok .updated

/-- One entry of the diff. -/
structure DiffItem (O : Type) where
  changeType : DiffChange
  entityType : SnapshotValue O
  entityIdentifier : SnapshotValue O
  oldValueFingerprint : String
  newValueFingerprint : String
  summary : String

/-- What the loop appends under one key. -/
def diffNode : (old new : Option (GraphNode O)) → Outcome (List (DiffItem O))
  | none, some new =>
    .ok [⟨.added, new.get "entity_type", new.get "identifier", "", nodeFingerprint new,
      "Added " ++ (new.get "entity_type").text ++ "."⟩]
  | some old, none =>
    .ok [⟨.removed, old.get "entity_type", old.get "identifier", nodeFingerprint old, "",
      "Removed " ++ (old.get "entity_type").text ++ "."⟩]
  | none, none => .ok []
  | some old, some new =>
    if nodeFingerprint old = nodeFingerprint new then .ok []
    else do
      let change ← changeType old new
      .ok [⟨change, new.get "entity_type", new.get "identifier", nodeFingerprint old,
        nodeFingerprint new, "Updated " ++ (new.get "entity_type").text ++ "."⟩]

/-- The loop over the keys in order. -/
def diffKeys (old new : String → Option (GraphNode O)) :
    List String → Outcome (List (DiffItem O))
  | [] => .ok []
  | key :: keys => do
    let here ← diffNode (old key) (new key)
    let later ← diffKeys old new keys
    .ok (here ++ later)

/-- `diff_graph_snapshots`. -/
def diffGraphSnapshots (oldSnapshot newSnapshot : List (GraphNode O)) :
    Outcome (List (DiffItem O)) :=
  diffKeys (Table.indexed nodeKey oldSnapshot) (Table.indexed nodeKey newSnapshot)
    (Table.allKeys nodeKey oldSnapshot newSnapshot)

/-! ## What it reports -/

/-- A node stands on one side only, or on both with other fingerprints. -/
def Changes (old new : List (GraphNode O)) (identity : String × String) : Prop :=
  (identity ∈ new.map GraphNode.identity ∧ identity ∉ old.map GraphNode.identity) ∨
  (identity ∈ old.map GraphNode.identity ∧ identity ∉ new.map GraphNode.identity) ∨
  ∃ before ∈ old, ∃ after ∈ new, before.identity = identity ∧ after.identity = identity ∧
    nodeFingerprint before ≠ nodeFingerprint after

/-- The item that tells of a node. -/
inductive Reports (old new : List (GraphNode O)) : String × String → DiffItem O → Prop
  | added {node : GraphNode O} (member : node ∈ new)
      (fresh : node.identity ∉ old.map GraphNode.identity) :
      Reports old new node.identity
        ⟨.added, node.get "entity_type", node.get "identifier", "", nodeFingerprint node,
          "Added " ++ (node.get "entity_type").text ++ "."⟩
  | removed {node : GraphNode O} (member : node ∈ old)
      (gone : node.identity ∉ new.map GraphNode.identity) :
      Reports old new node.identity
        ⟨.removed, node.get "entity_type", node.get "identifier", nodeFingerprint node, "",
          "Removed " ++ (node.get "entity_type").text ++ "."⟩
  | changed {before after : GraphNode O} {change : DiffChange}
      (member : before ∈ old) (member' : after ∈ new) (same : before.identity = after.identity)
      (differ : nodeFingerprint before ≠ nodeFingerprint after)
      (kind : changeType before after = .ok change) :
      Reports old new after.identity
        ⟨change, after.get "entity_type", after.get "identifier", nodeFingerprint before,
          nodeFingerprint after, "Updated " ++ (after.get "entity_type").text ++ "."⟩

/-- Two items that tell of one change seen from either side. -/
structure Dual (item swapped : DiffItem O) : Prop where
  old_fingerprint : swapped.oldValueFingerprint = item.newValueFingerprint
  new_fingerprint : swapped.newValueFingerprint = item.oldValueFingerprint
  added_iff : swapped.changeType = .added ↔ item.changeType = .removed
  removed_iff : swapped.changeType = .removed ↔ item.changeType = .added
  retired_iff : swapped.changeType = .retired ↔ item.changeType = .reactivated
  reactivated_iff : swapped.changeType = .reactivated ↔ item.changeType = .retired

variable {old new : List (GraphNode O)} {before after : GraphNode O}

/-! ## One key -/

/-- What a kind of change says of the two nodes. -/
structure Kind (before after : GraphNode O) (change : DiffChange) : Prop where
  not_added : change ≠ .added
  not_removed : change ≠ .removed
  retired_iff : change = .retired ↔ before.active = true ∧ after.active = false
  reactivated_iff : change = .reactivated ↔ before.active = false ∧ after.active = true

omit [Unicode] [Sha256] in
theorem changeType_returns (named : (after.get "entity_type").unhashable? = none) :
    ∃ change, changeType before after = .ok change ∧ Kind before after change := by
  obtain ⟨assessed, asked⟩ : ∃ answer, isAssessmentType (after.get "entity_type") = .ok answer := by
    simp only [isAssessmentType, named]
    exact ⟨_, rfl⟩
  unfold changeType
  simp only [asked]
  cases was : before.active <;> cases is : after.active
  case true.false => exact ⟨.retired, by simp, by simp, by simp, by simp [was, is], by simp [was]⟩
  case false.true =>
    exact ⟨.reactivated, by simp, by simp, by simp, by simp [was], by simp [was, is]⟩
  -- Both active or neither: the remaining cascade never speaks of activity.
  all_goals
    simp only [Bool.not_true, Bool.not_false, Bool.and_false, Bool.and_true, Bool.false_eq_true,
      if_false]
    split
    · exact ⟨_, rfl, by simp, by simp, by simp [was, is], by simp [was, is]⟩
    · cases assessed with
      | true => exact ⟨.assessmentCriteriaChanged, rfl, by simp, by simp, by simp [was, is],
          by simp [was, is]⟩
      | false =>
        by_cases renamed : (!SnapshotObject.equal (before.get "title") (after.get "title") ||
            !SnapshotObject.equal (before.get "name") (after.get "name")) = true
        · exact ⟨.renamed, by simp [renamed, bind, Except.bind], by simp, by simp,
            by simp [was, is], by simp [was, is]⟩
        · exact ⟨.updated, by simp [renamed, bind, Except.bind], by simp, by simp,
            by simp [was, is], by simp [was, is]⟩

/-- What the engine does under the key of a name, either way round. -/
inductive UnderKey (old new : List (GraphNode O)) (identity : String × String) : Prop
  | quiet (unchanged : ¬ Changes old new identity)
      (nothing : diffNode (Table.indexed nodeKey old (keyText identity))
        (Table.indexed nodeKey new (keyText identity)) = .ok [])
      (nothing' : diffNode (Table.indexed nodeKey new (keyText identity))
        (Table.indexed nodeKey old (keyText identity)) = .ok [])
  | reported (changed : Changes old new identity) (item swapped : DiffItem O)
      (one : diffNode (Table.indexed nodeKey old (keyText identity))
        (Table.indexed nodeKey new (keyText identity)) = .ok [item])
      (one' : diffNode (Table.indexed nodeKey new (keyText identity))
        (Table.indexed nodeKey old (keyText identity)) = .ok [swapped])
      (told : Reports old new identity item) (told' : Reports new old identity swapped)
      (dual : Dual item swapped)

/-- A node both sides hold. -/
theorem under_common (oldKeyed : Keyed old) (newKeyed : Keyed new) (member : before ∈ old)
    (member' : after ∈ new) (same : before.identity = after.identity) :
    UnderKey old new after.identity := by
  have free := newKeyed.colonFree after member'
  have found : Table.indexed nodeKey old (keyText after.identity) = some before :=
    (oldKeyed.indexed_eq_some free).mpr ⟨member, same⟩
  have found' : Table.indexed nodeKey new (keyText after.identity) = some after :=
    (newKeyed.indexed_eq_some free).mpr ⟨member', rfl⟩
  by_cases equal : nodeFingerprint before = nodeFingerprint after
  · refine .quiet ?_ ?_ ?_
    · rintro (⟨-, absent⟩ | ⟨-, absent⟩ | ⟨o, known, n, known', here, here', differ⟩)
      · exact absent (List.mem_map.mpr ⟨before, member, same⟩)
      · exact absent (List.mem_map.mpr ⟨after, member', rfl⟩)
      · obtain rfl := Table.eq_of_key oldKeyed.distinct known member (here.trans same.symm)
        obtain rfl := Table.eq_of_key newKeyed.distinct known' member' here'
        exact differ equal
    · rw [found, found', diffNode, if_pos equal]
    · rw [found, found', diffNode, if_pos equal.symm]
  · obtain ⟨change, kind, tells⟩ :=
      @changeType_returns O _ before after (newKeyed.named after member')
    obtain ⟨change', kind', tells'⟩ :=
      @changeType_returns O _ after before (oldKeyed.named before member)
    refine .reported (.inr (.inr ⟨before, member, after, member', same, rfl, equal⟩)) _ _ ?_ ?_
      (.changed member member' same equal kind)
      (by rw [← same]; exact .changed member' member same.symm (Ne.symm equal) kind') ?_
    · rw [found, found', diffNode, if_neg equal, kind]
      rfl
    · rw [found, found', diffNode, if_neg (Ne.symm equal), kind']
      rfl
    · exact ⟨rfl, rfl, iff_of_false tells'.not_added tells.not_removed,
        iff_of_false tells'.not_removed tells.not_added,
        by rw [tells'.retired_iff, tells.reactivated_iff]; exact And.comm,
        by rw [tells'.reactivated_iff, tells.retired_iff]; exact And.comm⟩

theorem under_one_side (oldKeyed : Keyed old) (newKeyed : Keyed new) (member : node ∈ new)
    (fresh : node.identity ∉ old.map GraphNode.identity) :
    UnderKey old new node.identity ∧ UnderKey new old node.identity := by
  have free := newKeyed.colonFree node member
  have missing := (oldKeyed.indexed_eq_none free).mpr fresh
  have found : Table.indexed nodeKey new (keyText node.identity) = some node :=
    (newKeyed.indexed_eq_some free).mpr ⟨member, rfl⟩
  have known := List.mem_map_of_mem member (f := GraphNode.identity)
  constructor
  · refine .reported (.inl ⟨known, fresh⟩) _ _ ?_ ?_ (.added member fresh)
      (.removed member fresh) ?_
    · rw [missing, found, diffNode]
    · rw [missing, found, diffNode]
    · constructor <;> simp
  · refine .reported (.inr (.inl ⟨known, fresh⟩)) _ _ ?_ ?_ (.removed member fresh)
      (.added member fresh) ?_
    · rw [missing, found, diffNode]
    · rw [missing, found, diffNode]
    · constructor <;> simp

theorem under_key (oldKeyed : Keyed old) (newKeyed : Keyed new) {identity : String × String}
    (filed : identity ∈ old.map GraphNode.identity ∨ identity ∈ new.map GraphNode.identity) :
    UnderKey old new identity := by
  by_cases before : identity ∈ old.map GraphNode.identity <;>
    by_cases after : identity ∈ new.map GraphNode.identity
  · obtain ⟨o, member, same⟩ := List.mem_map.mp before
    obtain ⟨n, member', rfl⟩ := List.mem_map.mp after
    exact under_common oldKeyed newKeyed member member' same
  · obtain ⟨o, member, rfl⟩ := List.mem_map.mp before
    exact (under_one_side newKeyed oldKeyed member after).2
  · obtain ⟨n, member, rfl⟩ := List.mem_map.mp after
    exact (under_one_side oldKeyed newKeyed member before).1
  · exact absurd filed (not_or.mpr ⟨before, after⟩)

/-! ## The whole diff -/

omit [Sha256] in
/-- The keys of two snapshots are the keys of their names. -/
theorem allKeys_are_names (old new : List (GraphNode O)) :
    ∃ names : List (String × String), names.map keyText = Table.allKeys nodeKey old new ∧
      ∀ name ∈ names, name ∈ old.map GraphNode.identity ∨ name ∈ new.map GraphNode.identity := by
  have each : ∀ key ∈ Table.allKeys nodeKey old new, ∃ name : String × String,
      keyText name = key ∧
        (name ∈ old.map GraphNode.identity ∨ name ∈ new.map GraphNode.identity) := by
    intro key member
    rcases Table.mem_allKeys.mp member with known | known <;>
      obtain ⟨node, here, rfl⟩ := List.mem_map.mp known
    · exact ⟨node.identity, rfl, .inl (List.mem_map_of_mem here)⟩
    · exact ⟨node.identity, rfl, .inr (List.mem_map_of_mem here)⟩
  generalize Table.allKeys nodeKey old new = keys at each
  induction keys with
  | nil => exact ⟨[], rfl, by simp⟩
  | cons key keys ih =>
    obtain ⟨name, text, filed⟩ := each key List.mem_cons_self
    obtain ⟨names, texts, filed'⟩ := ih fun k later => each k (List.mem_cons_of_mem _ later)
    refine ⟨name :: names, ?_, List.forall_mem_cons.mpr ⟨filed, filed'⟩⟩
    rw [List.map_cons, text, texts]

/-- The loop reports the changed names, one item each, in their order. -/
theorem loop_reports {names : List (String × String)}
    (each : ∀ name ∈ names, UnderKey old new name) :
    ∃ items swapped changed,
      diffKeys (Table.indexed nodeKey old) (Table.indexed nodeKey new) (names.map keyText) =
        .ok items ∧
      diffKeys (Table.indexed nodeKey new) (Table.indexed nodeKey old) (names.map keyText) =
        .ok swapped ∧
      changed.Sublist names ∧ (∀ name, name ∈ changed ↔ name ∈ names ∧ Changes old new name) ∧
      List.Forall₂ (Reports old new) changed items ∧
      List.Forall₂ (Reports new old) changed swapped ∧ List.Forall₂ Dual items swapped := by
  induction names with
  | nil => exact ⟨[], [], [], rfl, rfl, .slnil, by simp, .nil, .nil, .nil⟩
  | cons name names ih =>
    obtain ⟨items, swapped, changed, ran, ran', kept, known, told, told', dual⟩ :=
      ih fun later member => each later (List.mem_cons_of_mem _ member)
    have rest : ∀ other, other ∈ name :: changed ↔
        other = name ∨ other ∈ names ∧ Changes old new other := by
      intro other
      rw [List.mem_cons, known]
    cases each name List.mem_cons_self with
    | quiet unchanged nothing nothing' =>
      refine ⟨items, swapped, changed, ?_, ?_, kept.cons name, ?_, told, told', dual⟩
      · simp only [List.map_cons, diffKeys, nothing, ran]
        rfl
      · simp only [List.map_cons, diffKeys, nothing', ran']
        rfl
      · intro other
        rw [known, List.mem_cons]
        refine and_congr_left fun differs => ⟨.inr, ?_⟩
        rintro (rfl | later)
        · exact absurd differs unchanged
        · exact later
    | reported here item mirrored one one' tells tells' both =>
      refine ⟨item :: items, mirrored :: swapped, name :: changed, ?_, ?_, kept.cons_cons name, ?_,
        .cons tells told, .cons tells' told', .cons both dual⟩
      · simp only [List.map_cons, diffKeys, one, ran]
        rfl
      · simp only [List.map_cons, diffKeys, one', ran']
        rfl
      · intro other
        rw [rest, List.mem_cons]
        constructor
        · rintro (rfl | ⟨later, differs⟩)
          · exact ⟨.inl rfl, here⟩
          · exact ⟨.inr later, differs⟩
        · rintro ⟨rfl | later, differs⟩
          · exact .inl rfl
          · exact .inr ⟨later, differs⟩

/-- A snapshot does not differ from itself. -/
theorem diff_self (snapshot : List (GraphNode O)) :
    diffGraphSnapshots snapshot snapshot = .ok [] := by
  unfold diffGraphSnapshots
  generalize Table.allKeys nodeKey snapshot snapshot = keys
  induction keys with
  | nil => rfl
  | cons key keys ih =>
    have here : diffNode (Table.indexed nodeKey snapshot key)
        (Table.indexed nodeKey snapshot key) = .ok [] := by
      cases Table.indexed nodeKey snapshot key with
      | none => rfl
      | some node => rw [diffNode, if_pos rfl]
    rw [diffKeys, here, ih]
    rfl

/-- The order of the nodes does not matter. -/
theorem diff_perm (oldKeyed : Keyed old) (newKeyed : Keyed new) {old' new' : List (GraphNode O)}
    (same : old'.Perm old) (same' : new'.Perm new) :
    diffGraphSnapshots old' new' = diffGraphSnapshots old new := by
  unfold diffGraphSnapshots
  rw [Table.allKeys_perm same same', funext (Table.indexed_perm oldKeyed.keys_nodup same),
    funext (Table.indexed_perm newKeyed.keys_nodup same')]

theorem Changes.filed {identity : String × String} (changes : Changes old new identity) :
    identity ∈ old.map GraphNode.identity ∨ identity ∈ new.map GraphNode.identity := by
  rcases changes with ⟨known, -⟩ | ⟨known, -⟩ | ⟨before, member, -, -, rfl, -⟩
  · exact .inr known
  · exact .inl known
  · exact .inl (List.mem_map_of_mem member)

/-- **The diff is exact.**  It holds one item for each name that stands on one side only
or whose fingerprints differ, and no other; it is empty between a snapshot and itself,
does not depend on the order of the nodes, and read the other way round tells of the same
names with the fingerprints and the kinds of change exchanged. -/
theorem diff_is_exact (oldKeyed : Keyed old) (newKeyed : Keyed new) :
    ∃ items swapped changed,
      diffGraphSnapshots old new = .ok items ∧
      diffGraphSnapshots new old = .ok swapped ∧
      changed.Nodup ∧ (∀ name, name ∈ changed ↔ Changes old new name) ∧
      List.Forall₂ (Reports old new) changed items ∧
      List.Forall₂ (Reports new old) changed swapped ∧
      List.Forall₂ Dual items swapped ∧
      diffGraphSnapshots old old = .ok [] ∧
      ∀ old' new', old'.Perm old → new'.Perm new → diffGraphSnapshots old' new' = .ok items := by
  obtain ⟨names, texts, filed⟩ := allKeys_are_names old new
  obtain ⟨items, swapped, changed, ran, ran', kept, known, told, told', dual⟩ :=
    loop_reports fun name member => under_key oldKeyed newKeyed (filed name member)
  have distinct : names.Nodup := by
    apply List.Nodup.of_map keyText
    rw [texts]
    exact Table.allKeys_nodup
  have diffed : diffGraphSnapshots old new = .ok items := by
    rw [diffGraphSnapshots, ← texts, ran]
  have diffed' : diffGraphSnapshots new old = .ok swapped := by
    rw [diffGraphSnapshots, Table.allKeys_comm, ← texts, ran']
  refine ⟨items, swapped, changed, diffed, diffed', distinct.sublist kept, ?_, told, told', dual,
    diff_self old, fun old' new' same same' =>
      (diff_perm oldKeyed newKeyed same same').trans diffed⟩
  intro name
  rw [known]
  refine ⟨And.right, fun changes => ⟨?_, changes⟩⟩
  have free : ':' ∉ name.1.toList := changes.filed.elim oldKeyed.free newKeyed.free
  have member : keyText name ∈ names.map keyText := by
    rw [texts]
    refine Table.mem_allKeys.mpr (changes.filed.imp ?_ ?_) <;>
    · intro here
      obtain ⟨node, known, rfl⟩ := List.mem_map.mp here
      exact List.mem_map_of_mem known
  obtain ⟨other, here, same⟩ := List.mem_map.mp member
  exact keyText_inj ((filed other here).elim oldKeyed.free newKeyed.free) free same ▸ here

end

/-! ## A new learning area -/

section Sample

attribute [local instance] Unicode.ascii

/-- No object but what JSON has. -/
local instance : SnapshotObject Empty where
  str := Empty.elim
  repr := Empty.elim
  truthy := Empty.elim
  unhashable? := Empty.elim
  equal
    | .none, .none => true
    | .bool a, .bool b => a == b
    | .str a, .str b => a == b
    | _, _ => false

/-- The digest of the one text the sample hashes. -/
local instance : Sha256 where
  hexdigest text :=
    if text = "\x7b\"entity_type\":\"learning_area\"," ++
        "\"values\":\x7b\"name\":\"Aviation Technology\"\x7d\x7d" then
      "16f3fd26afd3677b7d3cb4bb2351bb3666f579b378e516cc5ea831ca8eecbe22"
    else ""

/-- An outcome that is renamed, and a learning area. -/
def motion (title fingerprint : String) : GraphNode Empty where
  entries := [("entity_type", .str "outcome"), ("identifier", .str "outcome-1"),
    ("title", .str title), ("fingerprint", .str fingerprint)]
  distinct := by simp

def aviation : GraphNode Empty where
  entries := [("entity_type", .str "learning_area"), ("identifier", .str "grade-10-aviation"),
    ("name", .str "Aviation Technology")]
  distinct := by decide

theorem aviation_is_added :
    ∃ items swapped changed,
      diffGraphSnapshots [motion "Explain motion" "a1"]
        [aviation, motion "Explain motion and force" "b2"] = .ok items ∧
      diffGraphSnapshots [aviation, motion "Explain motion and force" "b2"]
        [motion "Explain motion" "a1"] = .ok swapped ∧
      changed.Nodup ∧
      (∀ name, name ∈ changed ↔ Changes [motion "Explain motion" "a1"]
        [aviation, motion "Explain motion and force" "b2"] name) ∧
      List.Forall₂ (Reports [motion "Explain motion" "a1"]
        [aviation, motion "Explain motion and force" "b2"]) changed items ∧
      List.Forall₂ (Reports [aviation, motion "Explain motion and force" "b2"]
        [motion "Explain motion" "a1"]) changed swapped ∧
      List.Forall₂ Dual items swapped ∧
      diffGraphSnapshots [motion "Explain motion" "a1"] [motion "Explain motion" "a1"] = .ok [] ∧
      ∀ old' new', old'.Perm [motion "Explain motion" "a1"] →
        new'.Perm [aviation, motion "Explain motion and force" "b2"] →
        diffGraphSnapshots old' new' = .ok items :=
  diff_is_exact
    ⟨by decide +kernel, by decide +kernel, by simp; rfl⟩
    ⟨by decide +kernel, by decide +kernel, by simp; exact ⟨rfl, rfl⟩⟩

/-- An outcome whose entity type is a list of one name. -/
private def listed (fingerprint : String) : GraphNode Empty where
  entries := [("entity_type", .list [.str "outcome"]), ("identifier", .str "outcome-1"),
    ("fingerprint", .str fingerprint)]
  distinct := by simp

/-- No set looks up a list: the kind of change of such a node is not found out. -/
theorem listed_entity_type_raises :
    (([listed "a1"].map GraphNode.identity).Nodup ∧
      ∀ node ∈ [listed "a1"], ':' ∉ node.identity.1.toList) ∧
    (([listed "b2"].map GraphNode.identity).Nodup ∧
      ∀ node ∈ [listed "b2"], ':' ∉ node.identity.1.toList) ∧
    diffGraphSnapshots [listed "a1"] [listed "b2"] =
      .error (.typeError "unhashable type: 'list'") := by
  refine ⟨by decide +kernel, by decide +kernel, ?_⟩
  have raised : (diffGraphSnapshots [listed "a1"] [listed "b2"]).map List.length =
      .error (.typeError "unhashable type: 'list'") := by decide +kernel
  cases ran : diffGraphSnapshots [listed "a1"] [listed "b2"] with
  | error e =>
    rw [ran] at raised
    exact congrArg Except.error (Except.error.inj raised)
  | ok items =>
    rw [ran] at raised
    cases raised

end Sample

end Darasa.Curriculum
