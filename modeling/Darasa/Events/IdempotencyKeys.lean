import Darasa.Events.EventNames

/-!
Idempotency keys: which facts share one.

A key is the fields of a fact written one after another with a colon between them.  Nothing
keeps a colon out of a field, so where one field ends and the next begins cannot always be
read back.  The facts whose key is theirs alone are named here, exactly.
-/

namespace Darasa.Events

open Darasa (Outcome Exn Unicode refuseIf)

/-! ## Building a key -/

/-- An argument of any type, as far as `build_idempotency_key` looks at it. -/
inductive Argument where
  | none
  | str (text : String)
  /-- A UUID, an integer, an instance: what it is written as, and never equal to `""`. -/
  | object (text : String)
  deriving DecidableEq, Repr

/-- `str(value)`. -/
def Argument.text : Argument → String
  | none => "None"
  | str text => text
  | object text => text

/-- `value in (None, "")`. -/
def Argument.absent : Argument → Bool
  | none => true
  | str text => text.isEmpty
  | object _ => false

/-- The arguments of `build_idempotency_key`. -/
structure IdempotencyInputs where
  tenantId : Argument
  eventType : String
  eventVersion : ℤ
  resourceType : Option String
  resourceId : Argument
  semanticAction : Option String
  deriving DecidableEq, Repr

/-- `value in (None, "")`, of an argument declared a `str`. -/
def absentText (value : Option String) : Bool := value == none || value == some ""

/-- `str(value)`, of an argument declared a `str`. -/
def textOf (value : Option String) : String := value.getD "None"

/-- `build_idempotency_key`. -/
def buildIdempotencyKey [Unicode] (a : IdempotencyInputs) : Outcome String := do
  refuseIf (a.tenantId.absent || absentText a.resourceType || a.resourceId.absent ||
    absentText a.semanticAction) "idempotency_key" "Idempotency inputs are required."
  let eventName ← buildEventName a.eventType a.eventVersion
  return "tenant:" ++ a.tenantId.text ++ ":" ++ eventName ++ ":" ++
    textOf a.resourceType ++ ":" ++ a.resourceId.text ++ ":" ++ textOf a.semanticAction

/-! ## Facts and their keys -/

/-- The two name one fact: each field, compared as text, the event type in its normal form. -/
structure SameFact [Unicode] (a b : IdempotencyInputs) : Prop where
  tenantId : a.tenantId.text = b.tenantId.text
  eventType : validateEventNamespace a.eventType = validateEventNamespace b.eventType
  eventVersion : a.eventVersion = b.eventVersion
  resourceType : textOf a.resourceType = textOf b.resourceType
  resourceId : a.resourceId.text = b.resourceId.text
  semanticAction : textOf a.semanticAction = textOf b.semanticAction

/-- The full name of an event: a namespace, its last segment a version. -/
def IsFullName (e : List Char) : Prop := ∃ v, ∃ n : ℕ, IsNamespace v ∧ 0 < n ∧ e = fullName v n

/-- No colon of a field can be taken for the end of it.  A resource type may start with one,
a semantic action may end with one, and a tenant may hold one that no event name follows up
to the next colon or the end. -/
structure Unambiguous (a : IdempotencyInputs) : Prop where
  tenantId : ∀ t e rest, IsFullName e → (rest = [] ∨ ∃ m, rest = ':' :: m) →
    a.tenantId.text.toList ≠ t ++ ':' :: (e ++ rest)
  resourceType : ∀ u v, (textOf a.resourceType).toList = u ++ ':' :: v → u = []
  resourceId : ':' ∉ a.resourceId.text.toList
  semanticAction : ∀ u v, (textOf a.semanticAction).toList = u ++ ':' :: v → v = []

/-- The text of a key past `tenant:`. -/
def keyText (t e rt ri sa : List Char) : List Char :=
  t ++ ':' :: (e ++ ':' :: (rt ++ ':' :: (ri ++ ':' :: sa)))

/-- No argument that is required is missing. -/
structure Complete (a : IdempotencyInputs) : Prop where
  tenantId : a.tenantId.absent = false
  resourceType : absentText a.resourceType = false
  resourceId : a.resourceId.absent = false
  semanticAction : absentText a.semanticAction = false

theorem textOf_ne_nil {value : Option String} (present : absentText value = false) :
    (textOf value).toList ≠ [] := by
  cases value with
  | none => cases present
  | some text =>
    intro empty
    rw [textOf, Option.getD_some, String.toList_eq_nil_iff] at empty
    simp [absentText, empty] at present

theorem present_of_ne_nil {text : List Char} (some_text : text ≠ []) :
    absentText (some (.ofList text)) = false := by
  simp only [absentText, Bool.or_eq_false_iff, beq_eq_false_iff_ne, ne_eq, reduceCtorEq,
    not_false_iff, true_and, Option.some.injEq]
  intro empty
  rw [← String.toList_eq_nil_iff, String.toList_ofList] at empty
  exact some_text empty

theorem key_text {t rt ri sa : String} {e : List Char} :
    ("tenant:" ++ t ++ ":" ++ .ofList e ++ ":" ++ rt ++ ":" ++ ri ++ ":" ++ sa).toList =
      "tenant:".toList ++ keyText t.toList e rt.toList ri.toList sa.toList := by
  have colon : ":".toList = [':'] := rfl
  simp only [String.toList_append, String.toList_ofList, colon, keyText, List.append_assoc,
    List.cons_append, List.nil_append]

section

variable [Unicode]

/-- A key is built of complete arguments that name an event, and is their text. -/
theorem key_ok {a : IdempotencyInputs} {key : String} :
    buildIdempotencyKey a = .ok key ↔
      Complete a ∧ ∃ v, ∃ n : ℕ, validateEventNamespace a.eventType = .ok (.ofList v) ∧
        IsNamespace v ∧ a.eventVersion = n ∧ 0 < n ∧
        key.toList = "tenant:".toList ++ keyText a.tenantId.text.toList (fullName v n)
          (textOf a.resourceType).toList a.resourceId.text.toList
          (textOf a.semanticAction).toList := by
  unfold buildIdempotencyKey
  constructor
  · intro built
    obtain ⟨complete, built⟩ := Outcome.check_ok.mp built
    obtain ⟨name, named, built⟩ := Outcome.bind_ok.mp built
    obtain ⟨v, n, validated, namespaced, version, positive, rfl⟩ := build_ok.mp named
    simp only [Darasa.refuseIf_ok, Bool.or_eq_false_iff, and_assoc] at complete
    obtain ⟨tenant, type, id, action⟩ := complete
    refine ⟨⟨tenant, type, id, action⟩, v, n, validated, namespaced, version, positive, ?_⟩
    rw [← Except.ok.inj built, key_text]
  · rintro ⟨complete, v, n, validated, namespaced, version, positive, text⟩
    refine Outcome.check_ok.mpr ⟨?_, Outcome.bind_ok.mpr ⟨.ofList (fullName v n),
      build_ok.mpr ⟨v, n, validated, namespaced, version, positive, rfl⟩, ?_⟩⟩
    · simp [complete.tenantId, complete.resourceType, complete.resourceId,
        complete.semanticAction]
    · exact congrArg Except.ok (String.toList_inj.mp (key_text.trans text.symm))

omit [Unicode] in
theorem name_colonless {v : List Char} {n : ℕ} (named : IsNamespace v) (positive : 0 < n) :
    ':' ∉ fullName v n := by
  intro member
  rcases List.mem_append.mp member with inside | suffix
  · rcases name_chars (name_of_base named.1) ':' inside with letter | digit | wrong | wrong
    · cases letter
    · cases digit
    · cases wrong
    · cases wrong
  · rcases List.mem_cons.mp suffix with wrong | suffix
    · cases wrong
    · rcases List.mem_cons.mp suffix with wrong | digit
      · cases wrong
      · cases version_chars (toDigits_version positive) ':' digit

end

/-! ## Reading a key back -/

section Fields

variable {rt ri sa : List Char}

/-- Two fields are told apart when a colon of the first can only be its first character and
the second has none. -/
theorem two_fields {x y : List Char} (leading : ∀ u v, rt = u ++ ':' :: v → u = [])
    (free : ':' ∉ ri) (nonempty : x ≠ []) (same : rt ++ ':' :: ri = x ++ ':' :: y) :
    rt = x ∧ ri = y := by
  rcases Separators.split_cases same with here | ⟨m, longer, -⟩ | ⟨m, -, rfl⟩
  · exact here
  · exact absurd (leading x m longer) nonempty
  · exact absurd (by simp) free

/-- Three fields are told apart when, besides, a colon of the third can only be its last
character. -/
theorem three_fields {x y z : List Char} (leading : ∀ u v, rt = u ++ ':' :: v → u = [])
    (free : ':' ∉ ri) (trailing : ∀ u v, sa = u ++ ':' :: v → v = []) (nonempty : x ≠ [])
    (nonempty' : z ≠ []) (same : rt ++ ':' :: (ri ++ ':' :: sa) = x ++ ':' :: (y ++ ':' :: z)) :
    rt = x ∧ ri = y ∧ sa = z := by
  have grouped : (rt ++ ':' :: ri) ++ ':' :: sa = (x ++ ':' :: y) ++ ':' :: z := by
    simpa only [List.append_assoc, List.cons_append] using same
  rcases Separators.split_cases grouped with ⟨first, rfl⟩ | ⟨m, first, -⟩ | ⟨m, -, last⟩
  · obtain ⟨rfl, rfl⟩ := two_fields leading free nonempty first
    exact ⟨rfl, rfl, rfl⟩
  · -- the middle field would reach past a colon
    rw [List.append_assoc, List.cons_append] at first
    obtain ⟨-, rfl⟩ := two_fields leading free nonempty first
    exact absurd (by simp) free
  · exact absurd (trailing m z last) nonempty'

/-- A text between two colons cannot start in the fields and leave three fields after it. -/
theorem no_fourth_field {x y z w : List Char} (leading : ∀ u v, rt = u ++ ':' :: v → u = [])
    (free : ':' ∉ ri) (trailing : ∀ u v, sa = u ++ ':' :: v → v = []) (nonempty : x ≠ [])
    (nonempty' : w ≠ []) :
    rt ++ ':' :: (ri ++ ':' :: sa) ≠ x ++ ':' :: (y ++ ':' :: (z ++ ':' :: w)) := by
  intro same
  have grouped : rt ++ ':' :: (ri ++ ':' :: sa) = x ++ ':' :: ((y ++ ':' :: z) ++ ':' :: w) := by
    simpa only [List.append_assoc, List.cons_append] using same
  obtain ⟨-, rfl, -⟩ := three_fields leading free trailing nonempty nonempty' grouped
  exact free (by simp)

end Fields

section Tenants

variable {a : IdempotencyInputs} {e e' t rt ri sa : List Char}

/-- The fields of an unambiguous fact are read back from its key. -/
theorem fields_of_key (clear : Unambiguous a) (colonless : ':' ∉ e) (named : IsFullName e')
    (colonless' : ':' ∉ e') (type : rt ≠ []) (action : sa ≠ [])
    (same : keyText a.tenantId.text.toList e (textOf a.resourceType).toList
        a.resourceId.text.toList (textOf a.semanticAction).toList = keyText t e' rt ri sa) :
    (a.tenantId.text.toList = t ∧ e = e') ∧ (textOf a.resourceType).toList = rt ∧
      a.resourceId.text.toList = ri ∧ (textOf a.semanticAction).toList = sa := by
  unfold keyText at same
  rcases Separators.split_cases same with ⟨tenant, rest⟩ | ⟨m, longer, rest⟩ | ⟨m, -, rest⟩
  · obtain ⟨name, fields⟩ := Separators.split_first colonless colonless' rest
    exact ⟨⟨tenant, name⟩, three_fields clear.resourceType clear.resourceId
      clear.semanticAction type action fields⟩
  · -- the other tenant ends before this one, so this one holds the other's event name
    rcases Separators.split_cases rest with ⟨rfl, -⟩ | ⟨m', rfl, -⟩ | ⟨m', rfl, -⟩
    · exact absurd (by rw [longer, List.append_nil]) (clear.tenantId t _ [] named (.inl rfl))
    · exact absurd (by simp) colonless'
    · exact absurd longer (clear.tenantId t e' _ named (.inr ⟨m', rfl⟩))
  · -- the other tenant reaches past this one, so the other's event name is in the fields
    have solid : e' ≠ [] := by
      obtain ⟨v, n, -, -, rfl⟩ := named
      simp [fullName]
    rcases Separators.split_cases rest with ⟨-, fields⟩ | ⟨m', rfl, -⟩ | ⟨m', -, fields⟩
    · exact absurd fields (no_fourth_field clear.resourceType clear.resourceId
        clear.semanticAction solid action)
    · exact absurd (by simp) colonless
    · refine absurd (fields.trans ?_) (no_fourth_field (x := m' ++ ':' :: e') (y := rt) (z := ri)
        clear.resourceType clear.resourceId clear.semanticAction (by simp) action)
      rw [List.append_assoc, List.cons_append]

end Tenants

section

variable [Unicode]

/-- Nothing else has the key of an unambiguous fact. -/
theorem same_fact_of_same_key {a b : IdempotencyInputs} {key : String} (clear : Unambiguous a)
    (built : buildIdempotencyKey a = .ok key) (built' : buildIdempotencyKey b = .ok key) :
    SameFact a b := by
  obtain ⟨-, v, n, validated, named, version, positive, text⟩ := key_ok.mp built
  obtain ⟨complete, v', n', validated', named', version', positive', text'⟩ := key_ok.mp built'
  obtain ⟨⟨tenant, name⟩, type, id, action⟩ := fields_of_key clear
    (name_colonless named positive) ⟨v', n', named', positive', rfl⟩
    (name_colonless named' positive') (textOf_ne_nil complete.resourceType)
    (textOf_ne_nil complete.semanticAction) (List.append_cancel_left (text.symm.trans text'))
  obtain ⟨rfl, rfl⟩ := fullName_inj positive positive' name
  exact ⟨String.toList_inj.mp tenant, validated.trans validated'.symm,
    version.trans version'.symm, String.toList_inj.mp type, String.toList_inj.mp id,
    String.toList_inj.mp action⟩

/-- A fact with a key of its own: no other fields are written alike. -/
theorem fields_of_unique_key {a : IdempotencyInputs} {key : String} {v : List Char} {n : ℕ}
    (unique : ∀ b, buildIdempotencyKey b = .ok key → SameFact a b) (named : IsNamespace v)
    (positive : 0 < n) (t rt ri sa : List Char) (type : rt ≠ []) (action : sa ≠ [])
    (text : key.toList = "tenant:".toList ++ keyText t (fullName v n) rt ri sa) :
    a.tenantId.text.toList = t ∧ (textOf a.resourceType).toList = rt ∧
      a.resourceId.text.toList = ri ∧ (textOf a.semanticAction).toList = sa := by
  have same := unique ⟨.object (.ofList t), .ofList v, n, some (.ofList rt),
    .object (.ofList ri), some (.ofList sa)⟩ (key_ok.mpr ⟨⟨rfl, present_of_ne_nil type, rfl,
      present_of_ne_nil action⟩, v, n, named.accepted, named, rfl, positive, by
        simpa only [textOf, Argument.text, Option.getD_some, String.toList_ofList] using text⟩)
  refine ⟨?_, ?_, ?_, ?_⟩
  · exact (congrArg String.toList same.tenantId).trans String.toList_ofList
  · exact (congrArg String.toList same.resourceType).trans String.toList_ofList
  · exact (congrArg String.toList same.resourceId).trans String.toList_ofList
  · exact (congrArg String.toList same.semanticAction).trans String.toList_ofList

/-- **Which facts have an idempotency key of their own.**  A fact that has a key shares it
with no other fact exactly when no colon of its fields can be taken for the end of one. -/
theorem key_is_unique_iff {a : IdempotencyInputs} {key : String}
    (built : buildIdempotencyKey a = .ok key) :
    (∀ b, buildIdempotencyKey b = .ok key → SameFact a b) ↔ Unambiguous a := by
  refine ⟨fun unique => ?_, fun clear b => same_fact_of_same_key clear built⟩
  obtain ⟨complete, v, n, validated, named, version, positive, text⟩ := key_ok.mp built
  have type := textOf_ne_nil complete.resourceType
  have action := textOf_ne_nil complete.semanticAction
  have shorter : ∀ {x u w : List Char}, x = u ++ ':' :: w → x ≠ u := by
    rintro x u w rfl same
    simpa using congrArg List.length same
  -- a field that can be cut at a colon gives what is cut off to the field beside it
  refine ⟨?_, ?_, ?_, ?_⟩
  · rintro t e rest ⟨v', n', named', positive', rfl⟩ (rfl | ⟨m, rfl⟩) split
    · refine shorter split (fields_of_unique_key unique named' positive' t (fullName v n)
        ((textOf a.resourceType).toList ++ ':' :: a.resourceId.text.toList) _ (by simp [fullName])
        action ?_).1
      rw [text, split]
      simp only [keyText, List.append_assoc, List.cons_append, List.append_nil]
    · refine shorter split (fields_of_unique_key unique named' positive' t
        (m ++ ':' :: fullName v n)
        ((textOf a.resourceType).toList ++ ':' :: a.resourceId.text.toList) _ (by simp) action
        ?_).1
      rw [text, split]
      simp only [keyText, List.append_assoc, List.cons_append]
  · intro u w split
    by_contra nonempty
    refine shorter split (fields_of_unique_key unique named positive
      a.tenantId.text.toList u (w ++ ':' :: a.resourceId.text.toList) _ nonempty action ?_).2.1
    rw [text, split]
    simp only [keyText, List.append_assoc, List.cons_append]
  · intro colon
    obtain ⟨u, w, split⟩ := List.append_of_mem colon
    refine shorter split (fields_of_unique_key unique named positive a.tenantId.text.toList _ u
      (w ++ ':' :: (textOf a.semanticAction).toList) type (by simp) ?_).2.2.1
    rw [text, split]
    simp only [keyText, List.append_assoc, List.cons_append]
  · intro u w split
    by_contra nonempty
    refine shorter rfl (fields_of_unique_key unique named positive
      a.tenantId.text.toList _ (a.resourceId.text.toList ++ ':' :: u) w type nonempty ?_).2.2.1.symm
    rw [text, split]
    simp only [keyText, List.append_assoc, List.cons_append]

end

section Collision

attribute [local instance] Unicode.ascii

/-- A curriculum's first publication, its curriculum named in the resource type. -/
def colonInType : IdempotencyInputs :=
  ⟨.str "school-1", "curriculum.version_published", 1, some "publication:cbc", .str "pub-1",
    some "issued"⟩

/-- Another publication, its curriculum named in the identifier. -/
def colonInId : IdempotencyInputs :=
  ⟨.str "school-1", "curriculum.version_published", 1, some "publication", .str "cbc:pub-1",
    some "issued"⟩

/-- A type `publication:cbc` and an identifier `pub-1` have the key of a type `publication`
and an identifier `cbc:pub-1`. -/
theorem two_publications_share_a_key :
    ∃ key, buildIdempotencyKey colonInType = .ok key ∧ buildIdempotencyKey colonInId = .ok key ∧
      ¬ SameFact colonInType colonInId := by
  refine ⟨"tenant:school-1:curriculum.version_published.v1:publication:cbc:pub-1:issued",
    by decide +kernel, by decide +kernel, fun same => ?_⟩
  exact absurd same.resourceType (by decide)

/-- A publication with no colon in its fields, its event type written in two ways. -/
def publicationIssued (eventType : String) : IdempotencyInputs :=
  ⟨.str "school-1", eventType, 1, some "publication", .str "pub-1", some "issued"⟩

/-- That the two have one key says that they are one fact. -/
theorem publication_has_its_own_key :
    SameFact (publicationIssued "curriculum.version_published")
      (publicationIssued " Curriculum.Version_Published") := by
  have colonless : ∀ {s u w : List Char}, ':' ∉ s → s ≠ u ++ ':' :: w := by
    rintro s u w free rfl
    simp at free
  have built : buildIdempotencyKey (publicationIssued "curriculum.version_published") =
      .ok "tenant:school-1:curriculum.version_published.v1:publication:pub-1:issued" := by
    decide +kernel
  refine (key_is_unique_iff built).mpr
    ⟨fun t e rest _ _ => colonless (by decide), ?_, by decide, ?_⟩ _ (by decide +kernel)
  · exact fun u w split => absurd split (colonless (by decide))
  · exact fun u w split => absurd split (colonless (by decide))

end Collision

end Darasa.Events
