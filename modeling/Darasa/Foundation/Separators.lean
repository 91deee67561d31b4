import Mathlib.Data.List.Basic
import Mathlib.Data.List.Forall2

/-!
Texts put together with a separator.

What is written between two separators can be read back when the separator does not occur
in it.  Where it does, a text has a second reading, and the lemmas here say what the two
have to do with each other.
-/

namespace Darasa.Separators

variable {α : Type*} {c : α} {x x' y y' : List α}

/-- Two places of a separator in one text are one place, or one stands before the other. -/
theorem split_cases (same : x ++ c :: y = x' ++ c :: y') :
    (x = x' ∧ y = y') ∨ (∃ m, x = x' ++ c :: m ∧ y' = m ++ c :: y) ∨
      ∃ m, x' = x ++ c :: m ∧ y = m ++ c :: y' := by
  rcases List.append_eq_append_iff.mp same with ⟨m, left, right⟩ | ⟨m, left, right⟩
  · cases m with
    | nil =>
      rw [List.append_nil] at left
      exact .inl ⟨left.symm, (List.cons.inj right).2⟩
    | cons d m =>
      obtain ⟨rfl, rest⟩ := List.cons.inj right
      exact .inr (.inr ⟨m, left, rest⟩)
  · cases m with
    | nil =>
      rw [List.append_nil] at left
      exact .inl ⟨left, (List.cons.inj right).2.symm⟩
    | cons d m =>
      obtain ⟨rfl, rest⟩ := List.cons.inj right
      exact .inr (.inl ⟨m, left, rest⟩)

/-- The first separator of a text stands in one place. -/
theorem split_first (free : c ∉ x) (free' : c ∉ x') (same : x ++ c :: y = x' ++ c :: y') :
    x = x' ∧ y = y' := by
  rcases split_cases same with here | ⟨m, rfl, -⟩ | ⟨m, rfl, -⟩
  · exact here
  · exact absurd (by simp) free
  · exact absurd (by simp) free'

/-- The last separator of a text stands in one place. -/
theorem split_last (free : c ∉ y) (free' : c ∉ y') (same : x ++ c :: y = x' ++ c :: y') :
    x = x' ∧ y = y' := by
  rcases split_cases same with here | ⟨m, -, rfl⟩ | ⟨m, -, rfl⟩
  · exact here
  · exact absurd (by simp) free'
  · exact absurd (by simp) free

/-! ## Partitions -/

section Partitions

variable [DecidableEq α] {s : List α}

/-- What stands before the first separator, and what follows it if there is one. -/
def partition (c : α) : List α → List α × Option (List α)
  | [] => ([], none)
  | d :: rest =>
    if d = c then ([], some rest) else (d :: (partition c rest).1, (partition c rest).2)

/-- What stands before the last separator, if there is one, and what follows it. -/
def rpartition (c : α) (s : List α) : Option (List α) × List α :=
  ((partition c s.reverse).2.map List.reverse, (partition c s.reverse).1.reverse)

theorem partition_of_not_mem (free : c ∉ s) : partition c s = (s, none) := by
  induction s with
  | nil => rfl
  | cons d rest ih =>
    obtain ⟨here, later⟩ := not_or.mp fun either => free (List.mem_cons.mpr either)
    rw [partition, if_neg (Ne.symm here), ih later]

theorem partition_append (free : c ∉ x) : partition c (x ++ c :: y) = (x, some y) := by
  induction x with
  | nil => exact if_pos rfl
  | cons d rest ih =>
    obtain ⟨here, later⟩ := not_or.mp fun either => free (List.mem_cons.mpr either)
    rw [List.cons_append, partition, if_neg (Ne.symm here), ih later]

/-- A text has no separator, or its first one stands where it is taken apart. -/
theorem partition_cases (c : α) (s : List α) : (c ∉ s ∧ partition c s = (s, none)) ∨
    ∃ x y, c ∉ x ∧ s = x ++ c :: y ∧ partition c s = (x, some y) := by
  by_cases member : c ∈ s
  · obtain ⟨x, y, rfl, free⟩ := List.eq_append_cons_of_mem member
    exact .inr ⟨x, y, free, rfl, partition_append free⟩
  · exact .inl ⟨member, partition_of_not_mem member⟩

theorem partition_fst_free (c : α) (s : List α) : c ∉ (partition c s).1 := by
  rcases partition_cases c s with ⟨free, taken⟩ | ⟨x, y, free, -, taken⟩
  · rwa [taken]
  · rwa [taken]

theorem partition_fst_subset (c : α) (s : List α) : (partition c s).1 ⊆ s := by
  rcases partition_cases c s with ⟨-, taken⟩ | ⟨x, y, -, rfl, taken⟩
  · rw [taken]
    exact List.Subset.refl s
  · rw [taken]
    exact List.subset_append_left x _

theorem partition_snd_subset (c : α) (s : List α) : (partition c s).2.getD [] ⊆ s := by
  rcases partition_cases c s with ⟨-, taken⟩ | ⟨x, y, -, rfl, taken⟩
  · rw [taken]
    exact List.nil_subset s
  · rw [taken]
    exact List.Subset.trans (List.subset_cons_self c y) (List.subset_append_right x _)

theorem rpartition_of_not_mem (free : c ∉ s) : rpartition c s = (none, s) := by
  rw [rpartition, partition_of_not_mem fun member => free (List.mem_reverse.mp member)]
  simp

/-- A text has no separator, or its last one stands where it is taken apart. -/
theorem rpartition_cases (c : α) (s : List α) : (c ∉ s ∧ rpartition c s = (none, s)) ∨
    ∃ x y, c ∉ y ∧ s = x ++ c :: y ∧ rpartition c s = (some x, y) := by
  rcases partition_cases c s.reverse with ⟨free, taken⟩ | ⟨x, y, free, whole, taken⟩
  · have free' : c ∉ s := fun member => free (List.mem_reverse.mpr member)
    exact .inl ⟨free', rpartition_of_not_mem free'⟩
  · refine .inr ⟨y.reverse, x.reverse, fun member => free (List.mem_reverse.mp member), ?_, ?_⟩
    · rw [← List.reverse_reverse s, whole]
      simp
    · rw [rpartition, taken]
      rfl

end Partitions

/-! ## Joined texts -/

section Joined

variable [BEq α] [LawfulBEq α] {parts parts' : List (List α)}

/-- A text is joined of its pieces. -/
theorem intercalate_pieces (c : α) (s : List α) : [c].intercalate (s.splitOn c) = s :=
  List.intercalate_splitOn c

/-- The pieces of a joined text are the pieces of its parts. -/
theorem splitOn_intercalate_pieces (nonempty : parts ≠ []) :
    ([c].intercalate parts).splitOn c = parts.flatMap (List.splitOn c) := by
  induction parts with
  | nil => exact absurd rfl nonempty
  | cons part rest ih =>
    cases rest with
    | nil => rw [List.intercalate_singleton, List.flatMap_singleton]
    | cons next rest =>
      rw [List.intercalate_cons_cons, List.append_assoc, List.singleton_append,
        List.splitOn_append_cons_self, ih (List.cons_ne_nil next rest)]
      rfl

/-- Two texts joined of parts are one exactly when the parts have the same pieces, one
after another. -/
theorem intercalate_eq_iff (nonempty : parts ≠ []) (nonempty' : parts' ≠ []) :
    [c].intercalate parts = [c].intercalate parts' ↔
      parts.flatMap (List.splitOn c) = parts'.flatMap (List.splitOn c) := by
  rw [← splitOn_intercalate_pieces nonempty, ← splitOn_intercalate_pieces nonempty']
  constructor
  · exact congrArg (List.splitOn c)
  · intro same
    rw [← intercalate_pieces c ([c].intercalate parts), same, intercalate_pieces]

/-- Parts of the same pieces are the same when each has as many as the other. -/
theorem parts_eq_of_pieces (pieces : parts.flatMap (List.splitOn c) =
    parts'.flatMap (List.splitOn c)) (counts : parts.map (fun part => (part.splitOn c).length) =
      parts'.map fun part => (part.splitOn c).length) : parts = parts' := by
  induction parts generalizing parts' with
  | nil => exact (List.map_eq_nil_iff.mp counts.symm).symm
  | cons part rest ih =>
    cases parts' with
    | nil => cases counts
    | cons part' rest' =>
      simp only [List.map_cons, List.cons.injEq] at counts
      simp only [List.flatMap_cons] at pieces
      obtain ⟨here, later⟩ := List.append_inj pieces counts.1
      rw [← intercalate_pieces c part, here, intercalate_pieces, ih later counts.2]

omit [LawfulBEq α] in
/-- Each part has a piece of its own. -/
theorem length_le_pieces (c : α) (parts : List (List α)) :
    parts.length ≤ (parts.flatMap (List.splitOn c)).length := by
  induction parts with
  | nil => exact Nat.zero_le _
  | cons part rest ih =>
    have here := List.length_pos_iff.mpr (List.splitOn_ne_nil c part)
    simp only [List.flatMap_cons, List.length_append, List.length_cons]
    omega

/-- Parts without the separator have the pieces of other parts, no more and no fewer of them,
only when these have no separator either. -/
theorem counts_of_free (free : ∀ part ∈ parts, c ∉ part) (asMany : parts.length = parts'.length)
    (pieces : parts.flatMap (List.splitOn c) = parts'.flatMap (List.splitOn c)) :
    parts.map (fun part => (part.splitOn c).length) =
      parts'.map fun part => (part.splitOn c).length := by
  induction parts generalizing parts' with
  | nil =>
    rw [List.length_eq_zero_iff.mp asMany.symm]
  | cons part rest ih =>
    cases parts' with
    | nil => cases asMany
    | cons part' rest' =>
      obtain ⟨here, later⟩ := List.forall_mem_cons.mp free
      have whole : rest.flatMap (List.splitOn c) = rest := by
        calc rest.flatMap (List.splitOn c) = rest.flatMap fun part => [part] :=
              List.flatMap_congr fun part member => List.splitOn_eq_singleton (later part member)
          _ = rest := List.flatMap_singleton' rest
      have one := congrArg List.length (List.splitOn_eq_singleton here)
      have lengths := congrArg List.length pieces
      have enough := length_le_pieces c rest'
      have first := List.length_pos_iff.mpr (List.splitOn_ne_nil c part')
      simp only [List.flatMap_cons, List.length_append, whole, List.length_cons,
        List.length_nil] at lengths one asMany
      have same : (part.splitOn c).length = (part'.splitOn c).length := by omega
      rw [List.flatMap_cons, List.flatMap_cons] at pieces
      rw [List.map_cons, List.map_cons, same,
        ih later (by omega) (List.append_inj pieces same).2]

end Joined

end Darasa.Separators
