import Mathlib.Data.List.Sort
import Mathlib.Data.List.Perm.Subperm

/-!
The first rows of a stable sort.

A program that sorts by a key and takes what comes first gives the same answer on
every order of its rows exactly when the key singles that answer out.
-/

namespace Darasa.Ranking

variable {α : Type*} {before : α → α → Prop} {rows : List α} {row : α}

/-- A row that none of the others strictly precedes. -/
def Foremost (before : α → α → Prop) (rows : List α) (row : α) : Prop :=
  row ∈ rows ∧ ∀ other ∈ rows, before row other

theorem Foremost.perm {rows' : List α} (same : rows'.Perm rows) :
    Foremost before rows' row ↔ Foremost before rows row := by
  unfold Foremost
  simp only [same.mem_iff]

/-! ## The first rows -/

/-- A choice of `n` of the rows none of which is preceded by one left out. -/
structure Selects (before : α → α → Prop) (n : ℕ) (rows chosen : List α) : Prop where
  split : ∃ rest, (chosen ++ rest).Perm rows ∧ ∀ x ∈ chosen, ∀ y ∈ rest, before x y
  length : chosen.length = min n rows.length

/-- The first `n` of the rows, in their order. -/
structure FirstOf (before : α → α → Prop) (n : ℕ) (rows chosen : List α) : Prop
    extends Selects before n rows chosen where
  ordered : chosen.Pairwise before

section

variable {n : ℕ} {chosen chosen' : List α}

theorem Selects.mem (selects : Selects before n rows chosen) (member : row ∈ chosen) :
    row ∈ rows := by
  obtain ⟨rest, split, -⟩ := selects.split
  exact split.mem_iff.mp (List.mem_append_left rest member)

theorem Selects.nodup (selects : Selects before n rows chosen) (distinct : rows.Nodup) :
    chosen.Nodup := by
  obtain ⟨rest, split, -⟩ := selects.split
  exact (List.nodup_append.mp (split.nodup_iff.mpr distinct)).1

theorem Selects.before_of_left_out (selects : Selects before n rows chosen) {x : α}
    (member : x ∈ chosen) (known : row ∈ rows) (out : row ∉ chosen) : before x row := by
  obtain ⟨rest, split, apart⟩ := selects.split
  rcases List.mem_append.mp (split.mem_iff.mpr known) with inside | outside
  · exact absurd inside out
  · exact apart x member row outside

theorem Selects.of_perm (selects : Selects before n rows chosen) (same : chosen'.Perm chosen) :
    Selects before n rows chosen' := by
  obtain ⟨rest, split, apart⟩ := selects.split
  exact ⟨⟨rest, (same.append_right rest).trans split,
    fun x member => apart x (same.mem_iff.mp member)⟩, same.length_eq.trans selects.length⟩

theorem Selects.of_rows_perm (selects : Selects before n rows chosen) {rows' : List α}
    (same : rows.Perm rows') : Selects before n rows' chosen := by
  obtain ⟨rest, split, apart⟩ := selects.split
  exact ⟨⟨rest, split.trans same, apart⟩, same.length_eq ▸ selects.length⟩

/-- Choices of distinct rows by membership. -/
theorem selects_of_mem [DecidableEq α] (distinct : rows.Nodup) (distinct' : chosen.Nodup)
    (known : ∀ x ∈ chosen, x ∈ rows) (length : chosen.length = min n rows.length)
    (apart : ∀ x ∈ chosen, ∀ y ∈ rows, y ∉ chosen → before x y) :
    Selects before n rows chosen := by
  refine ⟨⟨rows.filter (· ∉ chosen), ?_, fun x member y outside => ?_⟩, length⟩
  · have same : (rows.filter (· ∈ chosen)).Perm chosen := by
      refine (List.perm_ext_iff_of_nodup (distinct.filter _) distinct').mpr fun x => ?_
      simp only [List.mem_filter, decide_eq_true_eq, and_iff_right_iff_imp]
      exact known x
    have parts := List.filter_append_perm (fun x => decide (x ∈ chosen)) rows
    refine (same.symm.append_right _).trans ?_
    simpa using parts
  · simp only [List.mem_filter, decide_eq_true_eq] at outside
    exact apart x member y outside.1 outside.2

/-- Two choices agree but for rows that tie. -/
theorem Selects.tied (distinct : rows.Nodup) (refl : ∀ x, before x x)
    (selects : Selects before n rows chosen) (selects' : Selects before n rows chosen') {x : α}
    (member : x ∈ chosen) : ∃ y ∈ chosen', before x y ∧ before y x := by
  by_cases both : x ∈ chosen'
  · exact ⟨x, both, refl x, refl x⟩
  -- the other choice is as long, so it has a row this one leaves out
  obtain ⟨y, here, out⟩ : ∃ y ∈ chosen', y ∉ chosen := by
    by_contra within
    have inside : chosen' ⊆ chosen := fun y here => by
      by_contra out
      exact within ⟨y, here, out⟩
    have same := (List.subperm_of_subset (selects'.nodup distinct) inside).perm_of_length_le
      (selects.length.trans selects'.length.symm).le
    exact both (same.mem_iff.mpr member)
  exact ⟨y, here, selects.before_of_left_out member (selects'.mem here) out,
    selects'.before_of_left_out here (selects.mem member) both⟩

/-- In a list in order, a row that does not follow another precedes it. -/
theorem pair_sublist {a b : α} (ordered : rows.Pairwise before) (first : a ∈ rows)
    (second : b ∈ rows) (apart : a ≠ b) (after : ¬ before b a) : [a, b].Sublist rows := by
  induction rows with
  | nil => cases first
  | cons head rest ih =>
    obtain ⟨leads, ordered⟩ := List.pairwise_cons.mp ordered
    rcases List.mem_cons.mp first with rfl | later
    · rcases List.mem_cons.mp second with rfl | later'
      · exact absurd rfl apart
      · exact (List.singleton_sublist.mpr later').cons_cons a
    · rcases List.mem_cons.mp second with rfl | later'
      · exact absurd (leads a later) after
      · exact (ih ordered later later').cons head

end

section

variable [DecidableRel before]

/-- A foremost row that is read first is sorted first. -/
theorem head_of_cons (first : Foremost before (row :: rows) row) :
    ((row :: rows).insertionSort before).head? = some row := by
  rw [List.insertionSort_cons_of_forall_rel]
  · rfl
  · exact fun other member => first.2 other (List.mem_cons_of_mem _ member)

theorem head_eq_none : (rows.insertionSort before).head? = none ↔ rows = [] := by
  rw [List.head?_eq_none_iff, ← List.length_eq_zero_iff, List.length_insertionSort,
    List.length_eq_zero_iff]

variable [Std.Total before] [IsTrans α before]

/-- What is sorted first is foremost. -/
theorem foremost_of_head (first : (rows.insertionSort before).head? = some row) :
    Foremost before rows row := by
  have ordered := List.pairwise_insertionSort before rows
  have known := fun other => List.mem_insertionSort before (l := rows) (x := other)
  cases sorted : rows.insertionSort before with
  | nil => rw [sorted] at first; cases first
  | cons head rest =>
    rw [sorted] at first ordered known
    obtain rfl : head = row := by simpa using first
    refine ⟨(known head).mp List.mem_cons_self, fun other member => ?_⟩
    rcases List.mem_cons.mp ((known other).mpr member) with rfl | later
    · exact Std.Refl.refl _
    · exact (List.pairwise_cons.mp ordered).1 other later

/-- What is sorted first of one row and some others. -/
theorem head_of_insert (row : α) (rest : List α) :
    ((row :: rest).insertionSort before).head? =
      if ∀ other ∈ rest, before row other then some row
      else (rest.insertionSort before).head? := by
  split
  next leads =>
    refine head_of_cons ⟨List.mem_cons_self, fun other member => ?_⟩
    rcases List.mem_cons.mp member with rfl | later
    · exact Std.Refl.refl _
    · exact leads other later
  next behind =>
    rw [List.insertionSort_cons]
    cases sorted : rest.insertionSort before with
    | nil =>
      have empty := head_eq_none.mp (congrArg List.head? sorted)
      simp [empty] at behind
    | cons head tail =>
      have first := foremost_of_head (congrArg List.head? sorted)
      have after : ¬ before row head := fun leads =>
        behind fun other member => IsTrans.trans _ _ _ leads (first.2 other member)
      rw [List.orderedInsert, if_neg after]
      rfl

/-- What is sorted first of a list with one more row: that row, when it precedes the rows
that follow it and the rows before it do not precede it, and else what was first. -/
theorem head_of_append_cons (earlier later : List α) (row : α) :
    ((earlier ++ row :: later).insertionSort before).head? =
      if (∀ other ∈ earlier, ¬ before other row) ∧ ∀ other ∈ later, before row other then some row
      else ((earlier ++ later).insertionSort before).head? := by
  induction earlier with
  | nil => simpa using head_of_insert row later
  | cons first earlier ih =>
    rw [List.cons_append, List.cons_append, head_of_insert, head_of_insert, ih]
    by_cases leads : before first row
    · have ended : ¬ ((∀ other ∈ first :: earlier, ¬ before other row) ∧
          ∀ other ∈ later, before row other) :=
        fun both => both.1 first List.mem_cons_self leads
      by_cases all : ∀ other ∈ earlier ++ later, before first other
      · have every : ∀ other ∈ earlier ++ row :: later, before first other := by
          intro other member
          rcases List.mem_append.mp member with left | right
          · exact all other (List.mem_append_left _ left)
          · rcases List.mem_cons.mp right with rfl | right
            · exact leads
            · exact all other (List.mem_append_right _ right)
        rw [if_pos every, if_neg ended, if_pos all]
      · -- the new row precedes none that the first row does not
        have behind : ¬ ((∀ other ∈ earlier, ¬ before other row) ∧
            ∀ other ∈ later, before row other) := by
          rintro ⟨passed, followed⟩
          refine all fun other member => IsTrans.trans _ _ _ leads ?_
          rcases List.mem_append.mp member with left | right
          · exact (Std.Total.total other row).resolve_left (passed other left)
          · exact followed other right
        have some_ : ¬ ∀ other ∈ earlier ++ row :: later, before first other := by
          intro every
          refine all fun other member => every other ?_
          rcases List.mem_append.mp member with left | right
          · exact List.mem_append_left _ left
          · exact List.mem_append_right _ (List.mem_cons_of_mem _ right)
        rw [if_neg some_, if_neg behind, if_neg ended, if_neg all]
    · have some_ : ¬ ∀ other ∈ earlier ++ row :: later, before first other :=
        fun every => leads (every row (List.mem_append_right _ List.mem_cons_self))
      rw [if_neg some_]
      by_cases ahead : (∀ other ∈ earlier, ¬ before other row) ∧ ∀ other ∈ later, before row other
      · rw [if_pos ahead, if_pos]
        exact ⟨List.forall_mem_cons.mpr ⟨leads, ahead.1⟩, ahead.2⟩
      · -- the row behind which the new one stays is not behind the first row either
        have apart : ¬ ∀ other ∈ earlier ++ later, before first other := by
          intro all
          refine ahead ⟨fun other member ahead' => ?_, fun other member => ?_⟩
          · exact leads (IsTrans.trans _ _ _ (all other (List.mem_append_left _ member)) ahead')
          · refine (Std.Total.total row other).resolve_right fun behind => ?_
            exact leads (IsTrans.trans _ _ _ (all other (List.mem_append_right _ member)) behind)
        have ended : ¬ ((∀ other ∈ first :: earlier, ¬ before other row) ∧
            ∀ other ∈ later, before row other) :=
          fun both => ahead ⟨fun other member => both.1 other (List.mem_cons_of_mem _ member),
            both.2⟩
        rw [if_neg ahead, if_neg ended, if_neg apart]

/-- **The first of a stable sort is the same for every order of the rows exactly
when one row is foremost.** -/
theorem head_of_perm_iff :
    (∀ other : List α, other.Perm rows →
      (other.insertionSort before).head? = (rows.insertionSort before).head?) ↔
    ∀ a b, Foremost before rows a → Foremost before rows b → a = b := by
  constructor
  · intro same a b first first'
    have leads : ∀ c, Foremost before rows c → (rows.insertionSort before).head? = some c := by
      intro c leading
      obtain ⟨left, right, split⟩ := List.append_of_mem leading.1
      have moved : (c :: (left ++ right)).Perm rows := split ▸ List.perm_middle.symm
      rw [← same _ moved]
      exact head_of_cons ((Foremost.perm moved).mpr leading)
    exact Option.some.inj ((leads a first).symm.trans (leads b first'))
  · intro single other moved
    cases here : (rows.insertionSort before).head? with
    | none =>
      rw [head_eq_none] at here ⊢
      exact List.Perm.eq_nil (here ▸ moved)
    | some a =>
      cases there : (other.insertionSort before).head? with
      | none =>
        rw [head_eq_none] at there
        subst there
        rw [← List.Perm.nil_eq moved] at here
        cases here
      | some b =>
        have first := (Foremost.perm moved).mp (foremost_of_head there)
        exact congrArg some (single b a first (foremost_of_head here))

/-! ## Sorting and taking -/

/-- The first `n` rows of a stable sort. -/
def leading (before : α → α → Prop) [DecidableRel before] (n : ℕ) (rows : List α) : List α :=
  (rows.insertionSort before).take n

theorem leading_first (n : ℕ) (rows : List α) : FirstOf before n rows (leading before n rows) := by
  have ordered := List.pairwise_insertionSort before rows
  have whole := List.take_append_drop n (rows.insertionSort before)
  refine ⟨⟨⟨(rows.insertionSort before).drop n, ?_, ?_⟩, ?_⟩, ?_⟩
  · exact (List.Perm.of_eq whole).trans (List.perm_insertionSort before rows)
  · rw [← whole] at ordered
    exact (List.pairwise_append.mp ordered).2.2
  · rw [leading, List.length_take, List.length_insertionSort]
  · exact ordered.sublist (List.take_sublist n _)

end

end Darasa.Ranking
