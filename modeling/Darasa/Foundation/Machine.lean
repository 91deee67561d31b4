import Mathlib.Data.List.Basic

/-!
Labelled machines and their runs.

A `Machine` moves from a state to at most one state on each label; everything
the environment chooses (who calls, what a handler answers, whether a process
dies) is in the label, so a run is a list of labels.  `Meets` says that every
step of a run is taken where a condition on the state and the label holds, and
`invariant_of_run` is the induction every safety theorem uses: an invariant
that each step meeting the condition keeps holds wherever such a run ends.
Runs are closed under prefixes (`run_append`), so a theorem about the state a
run ends in is a theorem about every state the run passes through.
-/

namespace Darasa

universe u v

/-- A machine with state `σ` and labels `ι`: `none` when the label is not
enabled. -/
structure Machine (σ : Type u) (ι : Type v) where
  step : σ → ι → Option σ

namespace Machine

variable {σ : Type u} {ι : Type v} {m : Machine σ ι} {s t : σ} {i : ι} {is js : List ι}
variable {cond cond' : σ → ι → Prop} {Inv : σ → Prop} {safe : σ → ι → σ → Prop}

/-- The state after the labels, in order. -/
def run (m : Machine σ ι) : σ → List ι → Option σ
  | s, [] => some s
  | s, i :: is => (m.step s i).bind fun t => m.run t is

/-- Every step of the run is taken where `cond` holds. -/
def Meets (m : Machine σ ι) (cond : σ → ι → Prop) : σ → List ι → Prop
  | _, [] => True
  | s, i :: is => cond s i ∧ ∀ t, m.step s i = some t → m.Meets cond t is

/-- Every step of the run is one that `safe` relates. -/
def Always (m : Machine σ ι) (safe : σ → ι → σ → Prop) : σ → List ι → Prop
  | _, [] => True
  | s, i :: is => ∀ t, m.step s i = some t → safe s i t ∧ m.Always safe t is

@[simp] theorem run_nil : m.run s [] = some s := rfl

@[simp] theorem run_cons : m.run s (i :: is) = (m.step s i).bind fun t => m.run t is := rfl

@[simp] theorem meets_nil : m.Meets cond s [] := trivial

@[simp] theorem meets_cons :
    m.Meets cond s (i :: is) ↔ cond s i ∧ ∀ t, m.step s i = some t → m.Meets cond t is := Iff.rfl

instance decidableMeets [∀ s i, Decidable (cond s i)] :
    ∀ s is, Decidable (m.Meets cond s is)
  | _, [] => isTrue trivial
  | s, i :: is =>
    have (t : σ) : Decidable (m.Meets cond t is) := decidableMeets t is
    match stepped : m.step s i with
    | none => decidable_of_iff (cond s i) (by simp [stepped])
    | some t => decidable_of_iff (cond s i ∧ m.Meets cond t is) (by simp [stepped])

theorem run_cons_some : m.run s (i :: is) = some t ↔ ∃ r, m.step s i = some r ∧ m.run r is = some t := by
  simp [Option.bind_eq_some_iff]

theorem run_append : m.run s (is ++ js) = (m.run s is).bind fun t => m.run t js := by
  induction is generalizing s with
  | nil => rfl
  | cons i is ih =>
    rw [List.cons_append, run_cons, run_cons, Option.bind_assoc]
    exact congrArg _ (funext fun r => ih)

/-- The last step of a run. -/
theorem run_concat_some :
    m.run s (is ++ [i]) = some t ↔ ∃ r, m.run s is = some r ∧ m.step r i = some t := by
  simp [run_append, Option.bind_eq_some_iff]

theorem meets_append :
    m.Meets cond s (is ++ js) ↔
      m.Meets cond s is ∧ ∀ t, m.run s is = some t → m.Meets cond t js := by
  induction is generalizing s with
  | nil => simp
  | cons i is ih =>
    simp only [List.cons_append, meets_cons, ih, run_cons_some]
    constructor
    · rintro ⟨here, rest⟩
      exact ⟨⟨here, fun r stepped => (rest r stepped).1⟩,
        fun t ⟨r, stepped, ran⟩ => (rest r stepped).2 t ran⟩
    · rintro ⟨⟨here, rest⟩, after⟩
      exact ⟨here, fun r stepped => ⟨rest r stepped, fun t ran => after t ⟨r, stepped, ran⟩⟩⟩

theorem Meets.mono (meets : m.Meets cond s is) (weaker : ∀ s i, cond s i → cond' s i) :
    m.Meets cond' s is := by
  induction is generalizing s with
  | nil => trivial
  | cons i is ih => exact ⟨weaker s i meets.1, fun t stepped => ih (meets.2 t stepped)⟩

/-- **The run rule.**  An invariant kept by every step that meets the condition
holds at the end of every run whose steps all meet it. -/
theorem invariant_of_run (keeps : ∀ s i t, Inv s → cond s i → m.step s i = some t → Inv t)
    (start : Inv s) (meets : m.Meets cond s is) (ran : m.run s is = some t) : Inv t := by
  induction is generalizing s with
  | nil => cases ran; exact start
  | cons i is ih =>
    obtain ⟨r, stepped, ran⟩ := run_cons_some.mp ran
    exact ih (keeps s i r start meets.1 stepped) (meets.2 r stepped) ran

/-- The run rule without a condition. -/
theorem invariant_of_steps (keeps : ∀ s i t, Inv s → m.step s i = some t → Inv t)
    (start : Inv s) (ran : m.run s is = some t) : Inv t := by
  induction is generalizing s with
  | nil => cases ran; exact start
  | cons i is ih =>
    obtain ⟨r, stepped, ran⟩ := run_cons_some.mp ran
    exact ih (keeps s i r start stepped) ran

/-- What an invariant and the condition give at each step, every step has. -/
theorem always_of_meets (keeps : ∀ s i t, Inv s → cond s i → m.step s i = some t → Inv t)
    (gives : ∀ s i t, Inv s → cond s i → m.step s i = some t → safe s i t)
    (start : Inv s) (meets : m.Meets cond s is) : m.Always safe s is := by
  induction is generalizing s with
  | nil => trivial
  | cons i is ih =>
    intro t stepped
    exact ⟨gives s i t start meets.1 stepped,
      ih (keeps s i t start meets.1 stepped) (meets.2 t stepped)⟩

/-- Where every label is enabled and safety needs the condition, a run is safe
exactly when it meets the condition. -/
theorem always_iff_meets (keeps : ∀ s i t, Inv s → cond s i → m.step s i = some t → Inv t)
    (gives : ∀ s i t, Inv s → cond s i → m.step s i = some t → safe s i t)
    (needs : ∀ s i t, Inv s → m.step s i = some t → safe s i t → cond s i)
    (enabled : ∀ s i, ∃ t, m.step s i = some t) (start : Inv s) :
    m.Always safe s is ↔ m.Meets cond s is := by
  refine ⟨fun always => ?_, always_of_meets keeps gives start⟩
  induction is generalizing s with
  | nil => trivial
  | cons i is ih =>
    obtain ⟨t, stepped⟩ := enabled s i
    have here := needs s i t start stepped (always t stepped).1
    exact ⟨here, fun r next => ih (keeps s i r start here next) (always r next).2⟩

/-- A safe run is safe at the step after any of its prefixes. -/
theorem Always.at_step {i : ι} {r : σ} (always : m.Always safe s (is ++ i :: js))
    (ran : m.run s is = some r) (stepped : m.step r i = some t) : safe r i t := by
  induction is generalizing s with
  | nil => cases ran; exact (always t stepped).1
  | cons j is ih =>
    obtain ⟨q, first, ran⟩ := run_cons_some.mp ran
    exact ih (always q first).2 ran

/-- The condition holds at every step of a run exactly when it holds wherever a
prefix of the run stands before its next label. -/
theorem meets_iff_prefixes :
    m.Meets cond s is ↔
      ∀ pre i post r, is = pre ++ i :: post → m.run s pre = some r → cond r i := by
  constructor
  · rintro meets pre i post r rfl ran
    exact ((meets_append.mp meets).2 r ran).1
  · induction is generalizing s with
    | nil => intro _; trivial
    | cons i is ih =>
      intro always
      refine ⟨always [] i is s rfl rfl, fun t stepped => ih fun pre j post r shape ran => ?_⟩
      exact always (i :: pre) j post r (by simp [shape]) (run_cons_some.mpr ⟨t, stepped, ran⟩)

end Machine

end Darasa
