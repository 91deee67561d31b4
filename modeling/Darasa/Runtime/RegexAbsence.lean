import Darasa.Runtime.Regex

/-!
Texts in which a pattern finds nothing.

A pattern that needs a character of a class finds nothing in a text without one; a pattern
that starts with two characters of a class finds nothing where no two stand together.
-/

namespace Darasa.Regex

/-- Every match takes a character of the class. -/
def Needs (needed : Char → Bool) : Regex → Prop
  | one inClass => ∀ c, inClass c = true → needed c = true
  | seq first second => first.Needs needed ∨ second.Needs needed
  | alt first second => first.Needs needed ∧ second.Needs needed
  | opt _ => False
  | star _ => False
  | times inClass low _ => 0 < low ∧ ∀ c, inClass c = true → needed c = true
  | boundary => False

variable {needed inClass : Char → Bool} {r start rest : Regex} {p q : Place} {s : List Char}
  {low high : ℕ}

/-- A run that takes something starts with a character of the class. -/
theorem run_takes (reached : q ∈ (runs inClass high p).drop (low + 1)) :
    ∃ c rest, p.after = c :: rest ∧ inClass c = true ∧
      q ∈ (runs inClass (high - 1) ⟨some c, rest⟩).drop low := by
  cases high with
  | zero => simp [runs] at reached
  | succ high =>
    unfold runs at reached
    split at reached
    next => simp at reached
    next c rest text =>
      split at reached
      next here => exact ⟨c, rest, text, here, reached⟩
      next => simp at reached

variable [Unicode]

/-- What a pattern needs, its matches take. -/
theorem taken_of_needs (needs : r.Needs needed) (reached : q ∈ r.ends p) :
    ∃ c ∈ p.after, needed c = true := by
  induction r generalizing p q with
  | one inClass =>
    unfold ends at reached
    split at reached
    next c rest text =>
      split at reached
      next here => exact ⟨c, by simp [text], needs c here⟩
      next => cases reached
    next => cases reached
  | seq first second ihFirst ihSecond =>
    obtain ⟨middle, once, onward⟩ := List.mem_flatMap.mp reached
    rcases needs with early | late
    · exact ihFirst early once
    · obtain ⟨c, member, taken⟩ := ihSecond late onward
      exact ⟨c, (ends_suffix once).mem member, taken⟩
  | alt first second ihFirst ihSecond =>
    rcases List.mem_append.mp reached with left | right
    · exact ihFirst needs.1 left
    · exact ihSecond needs.2 right
  | opt => cases needs
  | star => cases needs
  | times inClass low high =>
    obtain ⟨positive, within⟩ := needs
    obtain ⟨low, rfl⟩ := Nat.exists_eq_succ_of_ne_zero positive.ne'
    obtain ⟨c, rest, text, here, -⟩ := run_takes reached
    exact ⟨c, by simp [text], within c here⟩
  | boundary => cases needs

/-- A pattern finds nothing in a text without what it needs. -/
theorem search_of_needs (needs : r.Needs needed) (absent : ∀ c ∈ s, needed c = false) :
    r.search s = false := by
  rw [search, List.any_eq_false]
  intro p here
  simp only [Bool.not_eq_true', Bool.not_eq_false, List.isEmpty_iff]
  refine List.eq_nil_iff_forall_not_mem.mpr fun q reached => ?_
  obtain ⟨c, member, taken⟩ := taken_of_needs needs reached
  rw [absent c ((places_suffix here).mem member)] at taken
  cases taken

/-- A pattern that starts with two characters of a class finds nothing where no two stand
together. -/
theorem search_of_pairs
    (apart : ∀ u a b v, s = u ++ a :: b :: v → ¬ (inClass a = true ∧ inClass b = true)) :
    (seq start (seq (times inClass (low + 2) high) rest)).search s = false := by
  rw [search, List.any_eq_false]
  intro p here
  simp only [Bool.not_eq_true', Bool.not_eq_false, List.isEmpty_iff]
  refine List.eq_nil_iff_forall_not_mem.mpr fun q reached => ?_
  obtain ⟨started, first, onward⟩ := List.mem_flatMap.mp reached
  obtain ⟨counted, second, -⟩ := List.mem_flatMap.mp onward
  obtain ⟨a, rest, text, inFirst, second⟩ := run_takes second
  obtain ⟨b, rest', text', inSecond, -⟩ := run_takes second
  obtain ⟨u, whole⟩ := (ends_suffix first).trans (places_suffix here)
  refine apart u a b rest' ?_ ⟨inFirst, inSecond⟩
  rw [← whole, text, show rest = b :: rest' from text']

/-- The whole text is a run of the class, of a length the pattern allows. -/
theorem fullmatch_times (within : ∀ c ∈ s, inClass c = true) (enough : low ≤ s.length)
    (few : s.length ≤ high) : (times inClass low high).fullmatch s = true := by
  have last : ∀ (before : Option Char) (high : ℕ), s.length ≤ high →
      ∃ q ∈ (runs inClass high ⟨before, s⟩).drop s.length, q.after = [] := by
    clear enough few
    induction s with
    | nil =>
      intro before high _
      cases high with
      | zero => exact ⟨⟨before, []⟩, by simp [runs], rfl⟩
      | succ high => exact ⟨⟨before, []⟩, by simp [runs], rfl⟩
    | cons c s ih =>
      intro before high few
      obtain ⟨here, later⟩ := List.forall_mem_cons.mp within
      obtain ⟨high, rfl⟩ := Nat.exists_eq_succ_of_ne_zero
        (show high ≠ 0 by simp only [List.length_cons] at few; omega)
      obtain ⟨q, member, ended⟩ := ih later (some c) high (by
        simp only [List.length_cons] at few; omega)
      refine ⟨q, ?_, ended⟩
      unfold runs
      simp only [here, if_true, List.length_cons, List.drop_succ_cons]
      exact member
  obtain ⟨q, member, ended⟩ := last none high few
  rw [fullmatch, List.any_eq_true]
  refine ⟨q, ?_, by rw [ended]; rfl⟩
  exact (List.drop_sublist_drop_left _ enough).mem member

end Darasa.Regex
