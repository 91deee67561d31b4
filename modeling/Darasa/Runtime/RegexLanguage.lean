import Darasa.Runtime.Regex

/-!
The texts a pattern matches.

`Regex.ends` runs a pattern from a place; for a pattern without `\b` or a bounded repetition
the texts it can consume are a language in the usual sense, and `fullmatch` decides it.
-/

namespace Darasa.Regex

/-- A pattern of classes, sequences, alternatives and unbounded repetitions. -/
def Regular : Regex → Prop
  | one _ => True
  | seq first second => first.Regular ∧ second.Regular
  | alt first second => first.Regular ∧ second.Regular
  | opt r => r.Regular
  | star r => r.Regular
  | times _ _ _ => False
  | boundary => False

/-- The texts a regular pattern matches. -/
def Matches : Regex → List Char → Prop
  | one inClass, s => ∃ c, inClass c = true ∧ s = [c]
  | seq first second, s => ∃ x y, s = x ++ y ∧ first.Matches x ∧ second.Matches y
  | alt first second, s => first.Matches s ∨ second.Matches s
  | opt r, s => s = [] ∨ r.Matches s
  | star r, s => ∃ parts : List (List Char), s = parts.flatten ∧ ∀ part ∈ parts, r.Matches part
  | times _ _ _, _ => False
  | boundary, _ => False

variable [Unicode] {r first second : Regex} {s rest : List Char} {p q : Place}

omit [Unicode] in
/-- What a step consumes, round after round. -/
theorem rounds_consume {step : Place → List Place} {language : List Char → Prop}
    (consumes : ∀ p q, q ∈ step p → ∃ x, p.after = x ++ q.after ∧ language x) {fuel : ℕ}
    (reached : q ∈ rounds step fuel p) :
    ∃ parts : List (List Char), p.after = parts.flatten ++ q.after ∧
      ∀ part ∈ parts, language part := by
  induction fuel generalizing p with
  | zero =>
    obtain rfl := List.mem_singleton.mp reached
    exact ⟨[], rfl, by simp⟩
  | succ fuel ih =>
    rcases List.mem_cons.mp reached with rfl | later
    · exact ⟨[], rfl, by simp⟩
    · obtain ⟨middle, once, onward⟩ := List.mem_flatMap.mp later
      obtain ⟨x, text, here⟩ := consumes p middle once
      obtain ⟨parts, text', each⟩ := ih onward
      refine ⟨x :: parts, ?_, List.forall_mem_cons.mpr ⟨here, each⟩⟩
      rw [text, text', List.flatten_cons, List.append_assoc]

/-- A pattern consumes texts of its language. -/
theorem ends_consume (regular : r.Regular) (reached : q ∈ r.ends p) :
    ∃ x, p.after = x ++ q.after ∧ r.Matches x := by
  induction r generalizing p q with
  | one inClass =>
    unfold ends at reached
    split at reached
    next c rest text =>
      split at reached
      next here =>
        obtain rfl := List.mem_singleton.mp reached
        exact ⟨[c], text, c, here, rfl⟩
      next => cases reached
    next => cases reached
  | seq first second ihFirst ihSecond =>
    obtain ⟨middle, once, onward⟩ := List.mem_flatMap.mp reached
    obtain ⟨x, text, here⟩ := ihFirst regular.1 once
    obtain ⟨y, text', there⟩ := ihSecond regular.2 onward
    exact ⟨x ++ y, by rw [text, text', List.append_assoc], x, y, rfl, here, there⟩
  | alt first second ihFirst ihSecond =>
    rcases List.mem_append.mp reached with left | right
    · obtain ⟨x, text, here⟩ := ihFirst regular.1 left
      exact ⟨x, text, .inl here⟩
    · obtain ⟨x, text, here⟩ := ihSecond regular.2 right
      exact ⟨x, text, .inr here⟩
  | opt r ih =>
    rcases List.mem_cons.mp reached with rfl | inside
    · exact ⟨[], rfl, .inl rfl⟩
    · obtain ⟨x, text, here⟩ := ih regular inside
      exact ⟨x, text, .inr here⟩
  | star r ih =>
    obtain ⟨parts, text, each⟩ := rounds_consume (fun _ _ => ih regular) reached
    exact ⟨parts.flatten, text, parts, rfl, each⟩
  | times => cases regular
  | boundary => cases regular

omit [Unicode] in
/-- Rounds of a step reach what a list of its parts spells, empty parts left out. -/
theorem rounds_reach {step : Place → List Place} {language : List Char → Prop}
    (reaches : ∀ before x rest, language x →
      ∃ last, (⟨last, rest⟩ : Place) ∈ step ⟨before, x ++ rest⟩)
    (parts : List (List Char)) (each : ∀ part ∈ parts, language part) {before : Option Char}
    {fuel : ℕ} (enough : (parts.flatten ++ rest).length ≤ fuel) :
    ∃ last, (⟨last, rest⟩ : Place) ∈ rounds step fuel ⟨before, parts.flatten ++ rest⟩ := by
  induction parts generalizing before fuel with
  | nil => exact ⟨before, by cases fuel <;> simp [rounds]⟩
  | cons part parts ih =>
    obtain ⟨here, later⟩ := List.forall_mem_cons.mp each
    cases part with
    | nil => exact ih later enough
    | cons c part =>
      cases fuel with
      | zero => simp at enough
      | succ fuel =>
        rw [List.flatten_cons, List.append_assoc] at enough ⊢
        obtain ⟨middle, once⟩ := reaches before (c :: part) (parts.flatten ++ rest) here
        have enough' : (parts.flatten ++ rest).length ≤ fuel := by
          rw [List.cons_append, List.length_cons, List.length_append] at enough
          omega
        obtain ⟨last, onward⟩ := @ih later middle fuel enough'
        exact ⟨last, List.mem_cons_of_mem _ (List.mem_flatMap.mpr ⟨_, once, onward⟩)⟩

/-- Every text of its language can be consumed. -/
theorem ends_reach (regular : r.Regular) (before : Option Char) (x rest : List Char)
    (here : r.Matches x) : ∃ last, (⟨last, rest⟩ : Place) ∈ r.ends ⟨before, x ++ rest⟩ := by
  induction r generalizing before x rest with
  | one inClass =>
    obtain ⟨c, member, rfl⟩ := here
    exact ⟨some c, by simp [ends, member]⟩
  | seq first second ihFirst ihSecond =>
    obtain ⟨y, z, rfl, matched, matched'⟩ := here
    rw [List.append_assoc]
    obtain ⟨middle, once⟩ := ihFirst regular.1 before y (z ++ rest) matched
    obtain ⟨last, onward⟩ := ihSecond regular.2 middle z rest matched'
    exact ⟨last, List.mem_flatMap.mpr ⟨_, once, onward⟩⟩
  | alt first second ihFirst ihSecond =>
    rcases here with left | right
    · obtain ⟨last, reached⟩ := ihFirst regular.1 before x rest left
      exact ⟨last, List.mem_append_left _ reached⟩
    · obtain ⟨last, reached⟩ := ihSecond regular.2 before x rest right
      exact ⟨last, List.mem_append_right _ reached⟩
  | opt r ih =>
    rcases here with rfl | inside
    · exact ⟨before, List.mem_cons_self⟩
    · obtain ⟨last, reached⟩ := ih regular before x rest inside
      exact ⟨last, List.mem_cons_of_mem _ reached⟩
  | star r ih =>
    obtain ⟨parts, rfl, each⟩ := here
    exact rounds_reach (ih regular) parts each le_rfl
  | times => cases regular
  | boundary => cases regular

/-- `fullmatch` decides the language. -/
theorem fullmatch_iff (regular : r.Regular) : r.fullmatch s = true ↔ r.Matches s := by
  unfold fullmatch
  rw [List.any_eq_true]
  constructor
  · rintro ⟨p, reached, whole⟩
    obtain ⟨x, text, here⟩ := ends_consume regular reached
    obtain rfl : s = x := by simpa [List.isEmpty_iff.mp whole] using text
    exact here
  · intro here
    obtain ⟨last, reached⟩ := ends_reach regular none s [] here
    rw [List.append_nil] at reached
    exact ⟨_, reached, rfl⟩

/-! ## A group and the rest -/

/-- A group matched against the front of a text, taking as much as it can, and the rest of
the pattern against what is left. -/
def groupMatch (group rest : Regex) (s : List Char) : Option (List Char × List Char) :=
  ((List.range (s.length + 1)).reverse.map fun n => (s.take n, s.drop n)).find? fun split =>
    group.fullmatch split.1 && rest.fullmatch split.2

/-- What the group holds it matches, and the rest matches what is left. -/
theorem groupMatch_some (regular : first.Regular) (regular' : second.Regular)
    {x y : List Char} (found : groupMatch first second s = some (x, y)) :
    s = x ++ y ∧ first.Matches x ∧ second.Matches y := by
  obtain ⟨n, -, here⟩ := List.mem_map.mp (List.mem_of_find?_eq_some found)
  obtain ⟨rfl, rfl⟩ := Prod.mk.inj here
  have both := List.find?_some found
  obtain ⟨group, left⟩ := Bool.and_eq_true_iff.mp both
  exact ⟨(List.take_append_drop n s).symm, (fullmatch_iff regular).mp group,
    (fullmatch_iff regular').mp left⟩

/-- Where the text splits in one way only, the group holds its part. -/
theorem groupMatch_eq (regular : first.Regular) (regular' : second.Regular) {x y : List Char}
    (here : first.Matches x) (there : second.Matches y)
    (only : ∀ x' y', x' ++ y' = x ++ y → first.Matches x' → second.Matches y' →
      x' = x ∧ y' = y) :
    groupMatch first second (x ++ y) = some (x, y) := by
  cases found : groupMatch first second (x ++ y) with
  | none =>
    have place : x.length ∈ (List.range ((x ++ y).length + 1)).reverse := by
      rw [List.mem_reverse, List.mem_range, List.length_append]
      omega
    have missed := List.find?_eq_none.mp found (x, y)
      (List.mem_map.mpr ⟨x.length, place, by simp⟩)
    exact absurd (by simp [fullmatch_iff, regular, regular', here, there]) missed
  | some split =>
    obtain ⟨x', y'⟩ := split
    obtain ⟨same, group, left⟩ := groupMatch_some regular regular' found
    obtain ⟨rfl, rfl⟩ := only x' y' same.symm group left
    rfl

end Darasa.Regex
