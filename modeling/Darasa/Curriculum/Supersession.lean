import Darasa.Curriculum.Resolution
import Darasa.Curriculum.StaleCopies
import Darasa.Foundation.Chains
import Darasa.Foundation.Tables

/-!
Publications that supersede one another.

`supersede_curriculum_publication` takes any two publications: it looks neither at the
successor's own successor nor at whether it is active.  A superseded publication stays
out of force for good (`superseded_stay_out`), but the chain of successors ends only
when no call names a successor that leads back (`chains_end_iff`).
-/

namespace Darasa.Curriculum

open Darasa (Outcome Unicode refuseIf Machine)
open Darasa.Core (CustomUser)

/-! ## The service -/

namespace Governance

/-- The stored publication. -/
def publication? (t : Governance) (id : ℕ) : Option CurriculumPublication :=
  t.publications.find? (·.id == id)

/-- The publication that supersedes one. -/
def successor (t : Governance) (id : ℕ) : Option ℕ :=
  (t.publication? id).bind (·.supersededBy)

end Governance

section

variable [Unicode]

/-- `supersede_curriculum_publication`.  A caller's copy differs from its row at most in
the two fields written here, so the row stands for it. -/
def supersedeCurriculumPublication (publication : CurriculumPublication) (supersededBy : ℕ)
    (t : Governance) : Outcome Governance := do
  refuseIf (t.publication? supersededBy).isNone "superseded_by"
    "curriculum publication instance with id %(value)r does not exist."
  validateGovernanceText publication.publicationNotes
  refuseIf (publication.effectiveTo.any (· < publication.effectiveFrom)) "effective_to"
    "Publication end date must follow start date."
  let row : CurriculumPublication :=
    { publication with
      publicationNotes := Text.strip publication.publicationNotes
      isActive := false
      supersededBy := some supersededBy
      updatedAt := t.clock }
  return { t with
    publications := Table.replace (·.id) row t.publications
    clock := t.clock + 1 }

/-! ## Runs -/

/-- A step of the workflow, or one of the two services that take publications. -/
inductive PublicationStep (H : Type) where
  | workflow (step : WorkflowStep H)
  | create (request : PublicationRequest)
  | supersede (publication supersededBy : ℕ)

variable {H : Type} [DecidableEq H]

/-- The tables a supersession leaves; one that raises is rolled back. -/
def Governance.superseded (t : Governance) (publication supersededBy : ℕ) : Governance :=
  match t.publication? publication with
  | none => t
  | some row => (supersedeCurriculumPublication row supersededBy t).toOption.getD t

/-- The calls in any order, each one transaction. -/
def publicationMachine : Machine (Workflow H) (PublicationStep H) where
  step w
    | .workflow step => workflowMachine.step w step
    | .create request =>
      some { w with
        tables := ((createCurriculumPublication request w.tables).map Prod.snd).toOption.getD
          w.tables }
    | .supersede publication supersededBy =>
      some { w with tables := w.tables.superseded publication supersededBy }

/-! ## What holds of the table -/

/-- The table of publications, as the services leave it. -/
structure Filed (t : Governance) : Prop where
  keyed : (t.publications.map (·.id)).Nodup
  fresh : ∀ publication ∈ t.publications, publication.id < t.nextId
  retired : ∀ publication ∈ t.publications, publication.supersededBy.isSome = true →
    publication.isActive = false
  known : ∀ id next, t.successor id = some next → (t.publication? next).isSome = true
  oneActive : OneActivePublication t.publications

/-- Every chain of successors ends. -/
def ChainsEnd (t : Governance) : Prop := ∀ id, ∃ last, Chain.EndsAt t.successor id last

/-- A supersession that goes through names a successor that does not lead back. -/
def NamesNewSuccessor (w : Workflow H) : PublicationStep H → Prop
  | .supersede publication supersededBy => ∀ row ∈ w.tables.publication? publication,
      (supersedeCurriculumPublication row supersededBy w.tables).isOk = true →
        ¬ Chain.Reaches w.tables.successor supersededBy publication
  | _ => True

/-! ## What a step does to the table -/

/-- A publication filed under a new key. -/
structure Added (t t' : Governance) (publication : CurriculumPublication) : Prop where
  id : publication.id = t.nextId
  current : publication.supersededBy = none
  free : publication.isActive = true → t.hasActivePublication publication.curriculumVersion = false
  publications : t'.publications = t.publications ++ [publication]
  nextId : t'.nextId = t.nextId + 1

/-- The row of a superseded publication. -/
structure Replaced (t t' : Governance) (old row : CurriculumPublication) (next : ℕ) : Prop where
  found : t.publication? old.id = some old
  target : (t.publication? next).isSome = true
  id : row.id = old.id
  version : row.curriculumVersion = old.curriculumVersion
  inactive : row.isActive = false
  superseded : row.supersededBy = some next
  publications : t'.publications = Table.replace (·.id) row t.publications
  nextId : t'.nextId = t.nextId

/-- The publications as they were, or with one more. -/
inductive Extended (t t' : Governance) : Prop where
  | same (publications : t'.publications = t.publications) (nextId : t'.nextId = t.nextId)
  | added (publication : CurriculumPublication) (added : Added t t' publication)

/-- What a step does to the publications. -/
inductive Filing (t t' : Governance) : Prop where
  | extended (extended : Extended t t')
  | replaced (old row : CurriculumPublication) (next : ℕ) (replaced : Replaced t t' old row next)

variable {t t' : Governance} {w w' : Workflow H} {step : PublicationStep H}

attribute [local irreducible] validateGovernanceText

omit [DecidableEq H] in
theorem create_ok {request : PublicationRequest} {publication : CurriculumPublication}
    (created : createCurriculumPublication request t = .ok (publication, t')) :
    Added t t' publication := by
  unfold createCurriculumPublication at created
  obtain ⟨-, created⟩ := Outcome.check_ok.mp created
  cases started : request.effectiveFrom with
  | none =>
    simp only [started] at created
    split at created
    all_goals
      obtain ⟨-, -, created⟩ := Outcome.bind_ok.mp created
      cases created
  | some effectiveFrom =>
    simp only [started] at created
    split at created
    all_goals
      obtain ⟨-, -, created⟩ := Outcome.bind_ok.mp created
      obtain ⟨-, created⟩ := Outcome.check_ok.mp created
      obtain ⟨-, created⟩ := Outcome.check_ok.mp created
      obtain ⟨free, created⟩ := Outcome.check_ok.mp created
      cases created
      refine ⟨rfl, rfl, fun active => ?_, rfl, rfl⟩
      have free := refuseIf_ok.mp free
      rwa [show request.isActive = true from active, Bool.true_and] at free

theorem supersede_ok {old : CurriculumPublication} {next : ℕ}
    (found : t.publication? old.id = some old)
    (superseded : supersedeCurriculumPublication old next t = .ok t') :
    ∃ row, Replaced t t' old row next := by
  unfold supersedeCurriculumPublication at superseded
  obtain ⟨target, superseded⟩ := Outcome.check_ok.mp superseded
  obtain ⟨-, superseded⟩ := Outcome.check_ok.mp superseded
  obtain ⟨-, superseded⟩ := Outcome.check_ok.mp superseded
  cases superseded
  refine ⟨{ old with
    publicationNotes := Text.strip old.publicationNotes
    isActive := false
    supersededBy := some next
    updatedAt := t.clock }, found, ?_, rfl, rfl, rfl, rfl, rfl, rfl⟩
  simpa using refuseIf_ok.mp target

/-- A review leaves the publications alone. -/
private theorem review_publications {copy : CurriculumChangeSet} {status : ChangeSetStatus}
    {reviewer : CustomUser} (ran : (reviewAndSave copy status reviewer t).outcome = .ok t') :
    t'.publications = t.publications ∧ t'.nextId = t.nextId := by
  cases text : validateGovernanceText copy.summary with
  | error e => simp [reviewAndSave, saveClean, text, bind, Except.bind] at ran
  | ok _ =>
    simp only [reviewAndSave, saveClean, text, bind, Except.bind, pure, Except.pure] at ran
    cases ran
    exact ⟨rfl, rfl⟩

/-- A call on a change set adds at most a publication. -/
theorem run_extends {request : WorkflowCall} {copy : CurriculumChangeSet}
    (ran : (request.run copy t).outcome = .ok t') : Extended t t' := by
  cases request with
  | approve reviewedBy =>
    simp only [WorkflowCall.run, approveChangeSet] at ran
    split at ran
    · cases ran
    · split at ran
      · cases ran
      · obtain ⟨publications, nextId⟩ := review_publications ran
        exact .same publications nextId
  | reject reviewedBy =>
    simp only [WorkflowCall.run, rejectChangeSet] at ran
    split at ran
    · cases ran
    · split at ran
      · cases ran
      · obtain ⟨publications, nextId⟩ := review_publications ran
        exact .same publications nextId
  | publish version approvedBy effectiveFrom notes =>
    simp only [WorkflowCall.run, publishCurriculumVersion] at ran
    split at ran
    · cases ran
    next approver t₁ published =>
      obtain ⟨publications, nextId⟩ := review_publications ran
      split at published
      · cases published
      · obtain ⟨approver', -, published⟩ := Outcome.bind_ok.mp published
        obtain ⟨-, published⟩ := Outcome.check_ok.mp published
        obtain ⟨-, published⟩ := Outcome.check_ok.mp published
        obtain ⟨⟨publication, t₂⟩, created, published⟩ := Outcome.bind_ok.mp published
        cases published
        obtain ⟨id, current, free, added, next⟩ := create_ok created
        exact .added publication
          ⟨id, current, free, publications.trans added, nextId.trans next⟩

theorem workflow_extends {step : WorkflowStep H} (stepped : workflowMachine.step w step = some w') :
    Extended w.tables w'.tables := by
  cases step with
  | load caller id => cases stepped; exact .same rfl rfl
  | staff staff => cases stepped; exact .same rfl rfl
  | call caller request =>
    simp only [workflowMachine] at stepped
    split at stepped
    · cases stepped
      exact .same rfl rfl
    next copy holds =>
      cases stepped
      cases ran : (request.run copy w.tables).outcome with
      | error e =>
        refine .same ?_ ?_ <;> rw [Workflow.called, ran] <;> rfl
      | ok t' =>
        have tables : (w.called caller (request.run copy w.tables)).tables = t' := by
          rw [Workflow.called, ran]
          rfl
        rw [tables]
        exact run_extends ran

omit [DecidableEq H] in
theorem create_extends {request : PublicationRequest} :
    Extended t (((createCurriculumPublication request t).map Prod.snd).toOption.getD t) := by
  cases created : createCurriculumPublication request t with
  | error e => exact .same rfl rfl
  | ok result => exact .added result.1 (create_ok created)

omit [DecidableEq H] in
/-- A supersession raises, or replaces the row of its publication. -/
theorem superseded_cases (publication supersededBy : ℕ) :
    t.superseded publication supersededBy = t ∧
        (∀ old ∈ t.publication? publication,
          (supersedeCurriculumPublication old supersededBy t).isOk = false) ∨
      ∃ old row, t.publication? publication = some old ∧ old.id = publication ∧
        (supersedeCurriculumPublication old supersededBy t).isOk = true ∧
        Replaced t (t.superseded publication supersededBy) old row supersededBy := by
  unfold Governance.superseded
  cases found : t.publication? publication with
  | none => exact .inl ⟨rfl, by simp⟩
  | some old =>
    have here : old.id = publication := by simpa using List.find?_some found
    simp only [Option.mem_some_iff, forall_eq']
    cases superseded : supersedeCurriculumPublication old supersededBy t with
    | error e => exact .inl ⟨rfl, rfl⟩
    | ok t' =>
      obtain ⟨row, replaced⟩ := supersede_ok (here.symm ▸ found) superseded
      exact .inr ⟨old, row, rfl, here, by rw [superseded]; rfl, replaced⟩

/-- Every step adds a publication, replaces one by its superseded row, or does neither. -/
theorem step_filing (stepped : publicationMachine.step w step = some w') :
    Filing w.tables w'.tables := by
  cases step with
  | workflow step => exact .extended (workflow_extends stepped)
  | create request =>
    cases stepped
    exact .extended create_extends
  | supersede publication supersededBy =>
    cases stepped
    rcases superseded_cases publication supersededBy with
      ⟨same, -⟩ | ⟨old, row, -, -, -, replaced⟩
    · exact .extended (.same (congrArg _ same) (congrArg _ same))
    · exact .replaced old row supersededBy replaced

/-! ## The pointers after a step -/

omit [Unicode] in
theorem successor_of_extended (extended : Extended t t') : t'.successor = t.successor := by
  funext id
  unfold Governance.successor Governance.publication?
  cases extended with
  | same publications => rw [publications]
  | added publication added =>
    rw [added.publications, List.find?_append]
    cases t.publications.find? (·.id == id) with
    | some row => rfl
    | none =>
      by_cases here : publication.id = id
      · simp [here, added.current]
      · simp [here]

omit [Unicode] in
theorem successor_of_replaced {old row : CurriculumPublication} {next : ℕ}
    (replaced : Replaced t t' old row next) :
    t'.successor = Function.update t.successor old.id (some next) := by
  funext id
  unfold Governance.successor Governance.publication?
  rw [replaced.publications, Table.find_replace, replaced.id]
  by_cases here : id = old.id
  · subst here
    have found := replaced.found
    unfold Governance.publication? at found
    rw [if_pos rfl, found, Function.update_self]
    exact replaced.superseded
  · rw [if_neg here, Function.update_of_ne here]

omit [Unicode] in
/-- No publication is taken out of the table. -/
theorem publication_kept (filing : Filing t t') {id : ℕ}
    (there : (t.publication? id).isSome = true) : (t'.publication? id).isSome = true := by
  unfold Governance.publication? at there ⊢
  cases filing with
  | extended extended =>
    cases extended with
    | same publications => rwa [publications]
    | added publication added => simp [added.publications, List.find?_append, there]
  | replaced old row next replaced =>
    rw [replaced.publications, Table.find_replace]
    split
    · rwa [Option.isSome_map]
    · exact there

omit [Unicode] in
/-- A superseded publication stays superseded, whichever publication supersedes it. -/
theorem superseded_kept (filing : Filing t t') {id : ℕ}
    (superseded : (t.successor id).isSome = true) : (t'.successor id).isSome = true := by
  cases filing with
  | extended extended => rwa [successor_of_extended extended]
  | replaced old row next replaced =>
    rw [successor_of_replaced replaced]
    by_cases here : id = old.id
    · rw [here, Function.update_self]
      rfl
    · rwa [Function.update_of_ne here]

omit [Unicode] in
theorem one_active_of_replaced {old row : CurriculumPublication} {next : ℕ}
    (replaced : Replaced t t' old row next) (oneActive : OneActivePublication t.publications) :
    OneActivePublication t'.publications := by
  unfold OneActivePublication
  rw [replaced.publications]
  refine List.pairwise_map.mpr (oneActive.imp fun {a b} apart => ?_)
  have inactive : row.isActive ≠ true := by simp [replaced.inactive]
  split
  · exact fun active => absurd active inactive
  · split
    · exact fun _ active => absurd active inactive
    · exact apart

omit [Unicode] in
theorem one_active_of_added {publication : CurriculumPublication}
    (added : Added t t' publication) (oneActive : OneActivePublication t.publications) :
    OneActivePublication t'.publications := by
  unfold OneActivePublication
  rw [added.publications, List.pairwise_append]
  refine ⟨oneActive, List.pairwise_singleton _ _, fun a member b new active active' same => ?_⟩
  obtain rfl : b = publication := by simpa using new
  have free := List.any_eq_false.mp (added.free active') a member
  exact free (by simp [same, active])

omit [Unicode] in
/-- A step keeps the table as the services leave it. -/
theorem filed_step (filed : Filed t) (filing : Filing t t') : Filed t' := by
  have known : ∀ id next, t.successor id = some next → (t'.publication? next).isSome = true :=
    fun id next points => publication_kept filing (filed.known id next points)
  cases filing with
  | extended extended =>
    rw [← successor_of_extended extended] at known
    cases extended with
    | same publications nextId =>
      refine ⟨?_, ?_, ?_, known, ?_⟩
      · exact publications ▸ filed.keyed
      · exact publications ▸ nextId ▸ filed.fresh
      · exact publications ▸ filed.retired
      · exact publications ▸ filed.oneActive
    | added publication added =>
      refine ⟨?_, ?_, ?_, known, one_active_of_added added filed.oneActive⟩
      · rw [added.publications]
        refine Table.nodup_concat filed.keyed fun old member same => ?_
        have earlier := filed.fresh old member
        rw [same, added.id] at earlier
        exact lt_irrefl _ earlier
      · rw [added.publications, added.nextId]
        intro row member
        rcases List.mem_append.mp member with old | new
        · exact Nat.lt_succ_of_lt (filed.fresh row old)
        · obtain rfl : row = publication := by simpa using new
          exact added.id ▸ Nat.lt_succ_self _
      · rw [added.publications]
        intro row member superseded
        rcases List.mem_append.mp member with old | new
        · exact filed.retired row old superseded
        · obtain rfl : row = publication := by simpa using new
          rw [added.current] at superseded
          cases superseded
  | replaced old row next replaced =>
    have there := List.mem_of_find?_eq_some replaced.found
    have target := publication_kept (.replaced old row next replaced) replaced.target
    refine ⟨?_, ?_, ?_, ?_, one_active_of_replaced replaced filed.oneActive⟩
    · rw [replaced.publications, Table.keys_replace]
      exact filed.keyed
    · rw [replaced.publications, replaced.nextId]
      intro a member
      rcases Table.mem_replace member with rfl | ⟨known, -⟩
      · rw [replaced.id]
        exact filed.fresh old there
      · exact filed.fresh a known
    · rw [replaced.publications]
      intro a member superseded
      rcases Table.mem_replace member with rfl | ⟨known, -⟩
      · exact replaced.inactive
      · exact filed.retired a known superseded
    · rw [successor_of_replaced replaced]
      intro id next' points
      by_cases here : id = old.id
      · rw [here, Function.update_self] at points
        exact Option.some.inj points ▸ target
      · rw [Function.update_of_ne here] at points
        exact known id next' points

/-! ## Over runs -/

/-- **Superseded publications stay out of force.**  Whatever is called, in any order, the
table stays orderly, and a publication once superseded is resolved for no date again. -/
theorem superseded_stay_out {steps : List (PublicationStep H)} (filed : Filed w.tables)
    (ran : publicationMachine.run w steps = some w') :
    Filed w'.tables ∧
      ∀ id, (w.tables.successor id).isSome = true →
        (w'.tables.successor id).isSome = true ∧
          ∀ onDate publication,
            resolvePublicationForDate w'.tables.publications onDate = some publication →
              publication.id ≠ id := by
  have filedNext : ∀ (v : Workflow H) step v', Filed v.tables →
      publicationMachine.step v step = some v' → Filed v'.tables :=
    fun v step v' filed stepped => filed_step filed (step_filing stepped)
  have staysNext : ∀ id (v : Workflow H) step v', (v.tables.successor id).isSome = true →
      publicationMachine.step v step = some v' → (v'.tables.successor id).isSome = true :=
    fun id v step v' superseded stepped => superseded_kept (step_filing stepped) superseded
  have filed' := Machine.invariant_of_steps filedNext filed ran
  refine ⟨filed', fun id before => ?_⟩
  have superseded := Machine.invariant_of_steps (staysNext id) before ran
  refine ⟨superseded, fun onDate publication resolved same => ?_⟩
  obtain ⟨member, inForce, -⟩ := resolved_is_latest resolved
  have current : publication.supersededBy = none := by
    simp only [CurriculumPublication.inForce, Bool.and_eq_true] at inForce
    exact Option.isNone_iff_eq_none.mp inForce.1.1.2
  have found := Table.find_of_mem filed'.keyed member
  rw [← same] at superseded
  unfold Governance.successor Governance.publication? at superseded
  rw [found, Option.bind_some, current] at superseded
  cases superseded

omit [Unicode] in
/-- The successors are all in the table, so chains without loops end. -/
theorem chains_end_of_acyclic (filed : Filed t) :
    Chain.Acyclic t.successor ↔ ChainsEnd t := by
  refine Chain.acyclic_iff_ends (t.publications.map (·.id)).toFinset fun id next points => ?_
  obtain ⟨row, found⟩ := Option.isSome_iff_exists.mp (filed.known id next points)
  have here : row.id = next := by simpa using List.find?_some found
  rw [List.mem_toFinset]
  exact List.mem_map.mpr ⟨row, List.mem_of_find?_eq_some found, here⟩

omit [Unicode] in
/-- A publication in force leads nowhere, so it is a safe successor of every other. -/
theorem active_leads_nowhere (filed : Filed t) {publication : CurriculumPublication} {id : ℕ}
    (found : t.publication? publication.id = some publication)
    (active : publication.isActive = true) (other : id ≠ publication.id) :
    ¬ Chain.Reaches t.successor publication.id id := by
  have last : t.successor publication.id = none := by
    unfold Governance.successor
    rw [found, Option.bind_some]
    by_contra superseded
    have retired := filed.retired publication (List.mem_of_find?_eq_some found)
      (Option.isSome_iff_ne_none.mpr superseded)
    rw [active] at retired
    cases retired
  exact fun reaches => other ((Chain.reaches_of_last last).mp reaches)

/-- A step closes no loop exactly when it names no successor that leads back. -/
theorem acyclic_step_iff (acyclic : Chain.Acyclic w.tables.successor)
    (stepped : publicationMachine.step w step = some w') :
    Chain.Acyclic w'.tables.successor ↔ NamesNewSuccessor w step := by
  cases step with
  | workflow step =>
    rw [successor_of_extended (workflow_extends stepped)]
    exact iff_of_true acyclic trivial
  | create request =>
    cases stepped
    rw [successor_of_extended create_extends]
    exact iff_of_true acyclic trivial
  | supersede publication supersededBy =>
    cases stepped
    rcases superseded_cases publication supersededBy with
      ⟨same, refused⟩ | ⟨old, row, found, here, accepted, replaced⟩
    · have kept : Chain.Acyclic (w.tables.superseded publication supersededBy).successor := by
        rw [same]
        exact acyclic
      refine iff_of_true kept fun old found ok => ?_
      rw [refused old found] at ok
      cases ok
    · rw [successor_of_replaced replaced, Chain.acyclic_redirect_iff acyclic, here]
      constructor
      · exact fun apart _ _ _ => apart
      · exact fun names => names old found accepted

/-- **Chains of successors end exactly when no call names a successor that leads back.** -/
theorem chains_end_iff (filed : Filed w.tables) (ends : ChainsEnd w.tables)
    (steps : List (PublicationStep H)) :
    publicationMachine.Always (fun _ _ w' => ChainsEnd w'.tables) w steps ↔
      publicationMachine.Meets NamesNewSuccessor w steps := by
  have keeps : ∀ (v : Workflow H) step v', (Filed v.tables ∧ Chain.Acyclic v.tables.successor) →
      NamesNewSuccessor v step → publicationMachine.step v step = some v' →
      (Filed v'.tables ∧ Chain.Acyclic v'.tables.successor) :=
    fun v step v' inv names stepped =>
      ⟨filed_step inv.1 (step_filing stepped), (acyclic_step_iff inv.2 stepped).mpr names⟩
  refine Machine.always_iff_meets keeps (fun v step v' inv names stepped => ?_)
    (fun v step v' inv stepped ends' => ?_) (fun v step => ?_)
    ⟨filed, (chains_end_of_acyclic filed).mpr ends⟩
  · have kept := keeps v step v' inv names stepped
    exact (chains_end_of_acyclic kept.1).mp kept.2
  · apply (acyclic_step_iff inv.2 stepped).mp
    exact (chains_end_of_acyclic (filed_step inv.1 (step_filing stepped))).mpr ends'
  · cases step with
    | workflow step =>
      cases step with
      | call caller request =>
        cases held : v.copies caller <;> simp [publicationMachine, workflowMachine, held]
      | _ => exact ⟨_, rfl⟩
    | _ => exact ⟨_, rfl⟩

end

section Sample

attribute [local instance] Unicode.ascii

/-- Three editions: the first superseded by the second, the last of another version. -/
private def editions : Workflow ℕ where
  tables :=
    { staff := ⟨[⟨1, true⟩], [⟨7, true⟩], [⟨3, .schoolAdmin, true⟩], [⟨1, 7, 3, true, 0⟩]⟩
      changeSets := []
      publications :=
        [⟨1, 20, 100, none, false, "First edition.", some 7, 0, some 2, 2⟩,
          ⟨2, 20, 200, none, true, "Second edition.", some 7, 1, none, 1⟩,
          ⟨3, 30, 300, none, true, "Third edition.", some 7, 3, none, 3⟩]
      clock := 4
      nextId := 4 }
  copies := fun _ => none

private theorem editions_pointers (id : ℕ) :
    editions.tables.successor id = if id = 1 then some 2 else none := by
  unfold Governance.successor Governance.publication?
  by_cases first : id = 1
  · subst first
    rfl
  by_cases second : id = 2
  · subst second
    rfl
  by_cases third : id = 3
  · subst third
    rfl
  · simp [editions, first, Ne.symm first, Ne.symm second, Ne.symm third]

private theorem editions_filed : Filed editions.tables where
  keyed := by decide
  fresh := by decide
  retired := by decide
  known id next points := by
    rw [editions_pointers] at points
    split at points
    · cases points
      rfl
    · cases points
  oneActive := by decide

private theorem editions_end : ChainsEnd editions.tables := by
  intro id
  by_cases first : id = 1
  · refine ⟨2, .single ?_, ?_⟩
    · rw [Chain.Step, editions_pointers, if_pos first]
    · rw [editions_pointers]
      rfl
  · exact ⟨id, .refl, by rw [editions_pointers, if_neg first]⟩

/-- The second edition is superseded by the third, and a draft is filed. -/
private def retirement : List (PublicationStep ℕ) :=
  [.supersede 2 3, .create ⟨20, some 400, none, "Draft edition.", none, false, false⟩]

/-- The first edition is not resolved after the second is superseded too. -/
theorem first_edition_stays_out :
    ∃ w, publicationMachine.run editions retirement = some w ∧
      (w.tables.successor 2).isSome = true ∧ (w.tables.successor 1).isSome = true ∧
      ∀ onDate publication,
        resolvePublicationForDate w.tables.publications onDate = some publication →
          publication.id ≠ 1 := by
  obtain ⟨w, ran, second⟩ : ∃ w, publicationMachine.run editions retirement = some w ∧
      (w.tables.successor 2).isSome = true := by
    refine ⟨_, rfl, ?_⟩
    decide +kernel
  exact ⟨w, ran, second, (superseded_stay_out editions_filed ran).2 1 rfl⟩

/-- The chains end after both steps. -/
theorem retired_chains_end :
    publicationMachine.Always (fun _ _ w => ChainsEnd w.tables) editions retirement := by
  refine (chains_end_iff editions_filed editions_end retirement).mpr
    ⟨fun _ _ _ => ?_, fun _ _ => ⟨trivial, fun _ _ => trivial⟩⟩
  obtain ⟨third, found, here, active⟩ : ∃ third : CurriculumPublication,
      editions.tables.publication? third.id = some third ∧ third.id = 3 ∧
        third.isActive = true :=
    ⟨⟨3, 30, 300, none, true, "Third edition.", some 7, 3, none, 3⟩, rfl, rfl, rfl⟩
  exact here ▸ active_leads_nowhere editions_filed found active (by rw [here]; decide)

end Sample

end Darasa.Curriculum
