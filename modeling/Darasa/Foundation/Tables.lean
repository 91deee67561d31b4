import Mathlib.Data.List.Forall2
import Mathlib.Data.List.Nodup
import Mathlib.Data.Finset.Sort
import Mathlib.Data.Finset.Dedup

/-!
Tables as lists of rows under a key.

A row is appended under a new key or replaces the row with its key, and is read by
finding its key.
-/

namespace Darasa.Table

variable {α κ : Type*} {key : α → κ} {table : List α} {row a : α}

/-- A row under a new key. -/
theorem nodup_concat (distinct : (table.map key).Nodup) (new : ∀ old ∈ table, key old ≠ key row) :
    ((table ++ [row]).map key).Nodup := by
  rw [List.map_append, List.nodup_append]
  refine ⟨distinct, by simp, ?_⟩
  intro k known k' here same
  obtain ⟨old, member, rfl⟩ := List.mem_map.mp known
  obtain rfl : k' = key row := by simpa using here
  exact new old member same

/-- Rows of one key are one row. -/
theorem eq_of_key (distinct : (table.map key).Nodup) (member : row ∈ table) (member' : a ∈ table)
    (same : key row = key a) : row = a :=
  List.inj_on_of_nodup_map distinct member member' same

/-- Rows of a table are told by their keys, one for one. -/
theorem eq_of_keys (distinct : (table.map key).Nodup) {rows rows' : List α}
    (known : ∀ row ∈ rows, row ∈ table) (known' : ∀ row ∈ rows', row ∈ table)
    (same : rows.map key = rows'.map key) : rows = rows' := by
  induction rows generalizing rows' with
  | nil => exact (List.map_eq_nil_iff.mp same.symm).symm
  | cons row rows ih =>
    cases rows' with
    | nil => cases same
    | cons row' rows' =>
      obtain ⟨first, rest⟩ := List.cons.inj same
      obtain rfl := eq_of_key distinct (known row List.mem_cons_self)
        (known' row' List.mem_cons_self) first
      rw [ih (fun a here => known a (List.mem_cons_of_mem _ here))
        (fun a here => known' a (List.mem_cons_of_mem _ here)) rest]

/-- A row written in step with others was written of one of them. -/
theorem source_of_mem {β : Type*} {R : β → α → Prop} {sources : List β}
    (each : List.Forall₂ R sources table) (member : row ∈ table) : ∃ source ∈ sources, R source row := by
  induction each with
  | nil => cases member
  | cons here rest ih =>
    rcases List.mem_cons.mp member with rfl | later
    · exact ⟨_, List.mem_cons_self, here⟩
    · obtain ⟨source, known, there⟩ := ih later
      exact ⟨source, List.mem_cons_of_mem _ known, there⟩

variable [DecidableEq κ]

/-- A row is found under its key. -/
theorem find_of_mem (distinct : (table.map key).Nodup) (member : row ∈ table) :
    table.find? (fun old => key old == key row) = some row := by
  cases found : table.find? (fun old => key old == key row) with
  | none => exact absurd (List.find?_eq_none.mp found row member) (by simp)
  | some a =>
    have same : key a = key row := by simpa using List.find?_some found
    exact congrArg some
      (eq_of_key distinct (List.mem_of_find?_eq_some found) member same)

/-- A row written over the one with its key. -/
def replace (key : α → κ) (row : α) (table : List α) : List α :=
  table.map fun old => if key old = key row then row else old

theorem keys_replace : (replace key row table).map key = table.map key := by
  unfold replace
  rw [List.map_map]
  refine List.map_congr_left fun old _ => ?_
  simp only [Function.comp_apply]
  split
  next same => exact same.symm
  next => rfl

theorem mem_replace (member : a ∈ replace key row table) :
    a = row ∨ a ∈ table ∧ key a ≠ key row := by
  obtain ⟨old, known, is⟩ := List.mem_map.mp member
  split at is
  next same => exact .inl is.symm
  next other => exact .inr (is ▸ ⟨known, other⟩)

/-- Rows chosen by what neither the new row nor the one it replaces has. -/
theorem filter_replace {p : α → Bool} (new : p row = false)
    (old : ∀ a ∈ table, key a = key row → p a = false) :
    (replace key row table).filter p = table.filter p := by
  unfold replace
  induction table with
  | nil => rfl
  | cons a table ih =>
    obtain ⟨here, later⟩ := List.forall_mem_cons.mp old
    rw [List.map_cons]
    split
    next same => rw [List.filter_cons_of_neg (by simp [new]),
        List.filter_cons_of_neg (by simp [here same]), ih later]
    next => rw [List.filter_cons, List.filter_cons, ih later]

/-- What a key finds after a row is replaced. -/
theorem find_replace {k : κ} :
    (replace key row table).find? (fun old => key old == k) =
      if k = key row then (table.find? fun old => key old == k).map fun _ => row
      else table.find? fun old => key old == k := by
  have keeps : (fun old => key old == k) ∘ (fun old => if key old = key row then row else old) =
      fun old => key old == k := by
    funext old
    simp only [Function.comp_apply]
    split
    next same => rw [same]
    next => rfl
  unfold replace
  rw [List.find?_map, keeps]
  cases found : table.find? fun old => key old == k with
  | none => simp
  | some old =>
    have here : key old = k := by simpa using List.find?_some found
    rw [Option.map_some, Option.map_some, here]
    split <;> rfl

/-! ## Two tables side by side -/

/-- `{key(row): row for row in table}.get(k)`: of the rows of one key the last. -/
def indexed (key : α → κ) (table : List α) (k : κ) : Option α :=
  table.reverse.find? fun row => key row == k

theorem indexed_eq_none {k : κ} : indexed key table k = none ↔ ∀ row ∈ table, key row ≠ k := by
  simp [indexed]

theorem indexed_eq_some (distinct : (table.map key).Nodup) {k : κ} :
    indexed key table k = some row ↔ row ∈ table ∧ key row = k := by
  have distinct' : (table.reverse.map key).Nodup := by
    rw [List.map_reverse]
    exact List.nodup_reverse.mpr distinct
  constructor
  · intro found
    exact ⟨by simpa using List.mem_of_find?_eq_some found, by simpa using List.find?_some found⟩
  · rintro ⟨member, rfl⟩
    exact find_of_mem distinct' (List.mem_reverse.mpr member)

/-- The order of a table does not matter to its index. -/
theorem indexed_perm {table' : List α} (distinct : (table.map key).Nodup)
    (same : table'.Perm table) (k : κ) : indexed key table' k = indexed key table k := by
  have distinct' := ((same.map key).nodup_iff).mpr distinct
  apply Option.ext
  intro row
  rw [indexed_eq_some distinct', indexed_eq_some distinct, same.mem_iff]

variable [LinearOrder κ] {old new : List α} {k : κ}

/-- `sorted(set(old) | set(new))` of two indexed tables. -/
def allKeys (key : α → κ) (old new : List α) : List κ :=
  ((old.map key).toFinset ∪ (new.map key).toFinset).sort

theorem mem_allKeys : k ∈ allKeys key old new ↔ k ∈ old.map key ∨ k ∈ new.map key := by
  simp [allKeys]

theorem allKeys_nodup : (allKeys key old new).Nodup := Finset.sort_nodup ..

theorem allKeys_comm : allKeys key old new = allKeys key new old := by
  unfold allKeys
  rw [Finset.union_comm]

theorem allKeys_perm {old' new' : List α} (same : old'.Perm old) (same' : new'.Perm new) :
    allKeys key old' new' = allKeys key old new := by
  unfold allKeys
  rw [List.toFinset_eq_of_perm _ _ (same.map key), List.toFinset_eq_of_perm _ _ (same'.map key)]

end Darasa.Table
