import Mathlib.Data.Finset.Card
import Mathlib.Logic.Function.Basic
import Mathlib.Logic.Relation

/-!
Chains of pointers.

Every node points to at most one next node.  Pointing a node elsewhere closes a loop
exactly when the new target already reaches it (`acyclic_redirect_iff`), and where the
pointers stay among finitely many nodes, having no loop is the same as every chain
ending (`acyclic_iff_ends`).
-/

namespace Darasa.Chain

open Relation (ReflTransGen TransGen)

variable {α : Type*} {next next' : α → Option α} {a b c p q : α}

/-- The next node of `a` is `b`. -/
def Step (next : α → Option α) (a b : α) : Prop := next a = some b

/-- Some steps, or none, from `a` arrive at `b`. -/
abbrev Reaches (next : α → Option α) : α → α → Prop := ReflTransGen (Step next)

/-- One step or more from `a` arrive at `b`. -/
abbrev Leads (next : α → Option α) : α → α → Prop := TransGen (Step next)

/-- No node leads back to itself. -/
def Acyclic (next : α → Option α) : Prop := ∀ a, ¬ Leads next a a

/-- The chain from `a` ends at `b`. -/
def EndsAt (next : α → Option α) (a b : α) : Prop := Reaches next a b ∧ next b = none

/-! ## Following a chain -/

theorem step_unique (first : Step next a b) (second : Step next a c) : b = c :=
  Option.some.inj (first.symm.trans second)

/-- A node without a next node reaches itself only. -/
theorem reaches_of_last (last : next a = none) : Reaches next a b ↔ b = a := by
  constructor
  · intro reaches
    cases reaches.cases_head with
    | inl here => exact here.symm
    | inr onward =>
      obtain ⟨c, step, -⟩ := onward
      rw [Step, last] at step
      cases step
  · rintro rfl
    exact .refl

/-- The nodes of a loop reach each other. -/
theorem reaches_back (loop : Leads next a a) (reaches : Reaches next a b) : Reaches next b a := by
  induction reaches with
  | refl => exact .refl
  | @tail c b _ step ih =>
    rcases ih.cases_head with rfl | ⟨d, first, rest⟩
    · obtain ⟨d, first, rest⟩ := TransGen.head'_iff.mp loop
      obtain rfl := step_unique step first
      exact rest
    · obtain rfl := step_unique step first
      exact rest

/-! ## Loops and ends -/

/-- A node whose chain ends is on no loop. -/
theorem no_loop_of_ends (ends : EndsAt next a b) : ¬ Leads next a a := by
  obtain ⟨reaches, last⟩ := ends
  induction reaches using ReflTransGen.head_induction_on with
  | refl =>
    intro loop
    obtain ⟨c, step, -⟩ := TransGen.head'_iff.mp loop
    rw [Step, last] at step
    cases step
  | @head a c step _ ih =>
    intro loop
    obtain ⟨d, first, rest⟩ := TransGen.head'_iff.mp loop
    obtain rfl := step_unique step first
    exact ih (TransGen.tail' rest step)

/-- Without loops, a chain among finitely many nodes ends. -/
theorem ends_of_acyclic (acyclic : Acyclic next) (nodes : Finset α)
    (within : ∀ a b, next a = some b → b ∈ nodes) (a : α) : ∃ b, EndsAt next a b := by
  classical
  -- each step leaves fewer nodes ahead: the one it arrives at is not ahead of itself
  induction ahead : (nodes.filter (Leads next a)).card using Nat.strong_induction_on
    generalizing a with
  | _ n ih =>
    cases here : next a with
    | none => exact ⟨a, .refl, here⟩
    | some b =>
      have fewer : (nodes.filter (Leads next b)).card < n := by
        rw [← ahead]
        apply Finset.card_lt_card
        constructor
        · intro c member
          obtain ⟨known, leads⟩ := Finset.mem_filter.mp member
          exact Finset.mem_filter.mpr ⟨known, .head here leads⟩
        · intro all
          have member := all (Finset.mem_filter.mpr ⟨within a b here, .single here⟩)
          exact acyclic b (Finset.mem_filter.mp member).2
      obtain ⟨c, reaches, last⟩ := ih _ fewer b rfl
      exact ⟨c, .head here reaches, last⟩

/-- Pointers among finitely many nodes have no loop exactly when every chain ends. -/
theorem acyclic_iff_ends (nodes : Finset α) (within : ∀ a b, next a = some b → b ∈ nodes) :
    Acyclic next ↔ ∀ a, ∃ b, EndsAt next a b := by
  constructor
  · intro acyclic
    exact ends_of_acyclic acyclic nodes within
  · intro ends a
    obtain ⟨b, ends⟩ := ends a
    exact no_loop_of_ends ends

/-! ## Pointing a node elsewhere -/

/-- Arriving at a node does not depend on where it points. -/
theorem reaches_of_agree (agree : ∀ a, a ≠ p → next a = next' a) (reaches : Reaches next a p) :
    Reaches next' a p := by
  induction reaches using ReflTransGen.head_induction_on with
  | refl => exact .refl
  | @head a b step _ ih =>
    by_cases here : a = p
    · subst here
      exact .refl
    · exact .head ((agree a here).symm.trans step) ih

/-- Going on without arriving at a node does not depend on where it points. -/
theorem leads_of_agree (agree : ∀ a, a ≠ p → next a = next' a) (leads : Leads next a b) :
    Leads next' a b ∨ Reaches next a p := by
  induction leads using TransGen.head_induction_on with
  | @single a step =>
    by_cases here : a = p
    · subst here
      exact .inr .refl
    · exact .inl (.single ((agree a here).symm.trans step))
  | @head a c step _ ih =>
    by_cases here : a = p
    · subst here
      exact .inr .refl
    · rcases ih with leads | reaches
      · exact .inl (.head ((agree a here).symm.trans step) leads)
      · exact .inr (.head step reaches)

variable [DecidableEq α]

/-- **Pointing a node elsewhere closes a loop exactly when its new target reaches it.** -/
theorem acyclic_redirect_iff (acyclic : Acyclic next) :
    Acyclic (Function.update next p (some q)) ↔ ¬ Reaches next q p := by
  have agree : ∀ a, a ≠ p → next a = Function.update next p (some q) a :=
    fun a other => (Function.update_of_ne other _ _).symm
  have first : Step (Function.update next p (some q)) p q := Function.update_self ..
  constructor
  · intro open_ reaches
    exact open_ p (.head' first (reaches_of_agree agree reaches))
  · intro apart a loop
    rcases leads_of_agree (fun a other => (agree a other).symm) loop with leads | reaches
    · exact acyclic a leads
    · have back := reaches_back loop reaches
      -- the loop passes the node, so its target comes back to it
      have around : Leads (Function.update next p (some q)) p p :=
        TransGen.trans_right back (loop.trans_left reaches)
      obtain ⟨c, step, rest⟩ := TransGen.head'_iff.mp around
      obtain rfl := step_unique first step
      exact apart (reaches_of_agree (fun a other => (agree a other).symm) rest)

end Darasa.Chain
