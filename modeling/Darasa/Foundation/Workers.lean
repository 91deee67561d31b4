import Darasa.Foundation.Machine
import Darasa.Foundation.Program
import Mathlib.Logic.Function.Basic

/-!
Any number of workers running one program over shared state, interleaved at
single statements.

A busy worker is about to issue a statement, and holds what comes after it and
a record of its own, kept by `System.after` from the statements it issued and
their answers.  A worker whose program returned or raised is idle again.
Labels start a worker, let one issue its statement (the environment's choice
of the answer is in the label), kill one anywhere, or change the shared state
from outside.

`System.Sound` is what a protocol has to satisfy one statement at a time;
`Sound.of_run` turns it into an invariant of every run, given only that the
program alone follows the protocol.
-/

namespace Darasa

variable {I : Interface} {ε σ ι κ η ρ W : Type} [DecidableEq W]

/-- Shared state and programs: how a statement is performed on a choice of the
environment (`none` when it has to wait), what the outside world can do, the
program a worker runs on a request, and the record it keeps. -/
structure System (I : Interface) (ε σ ι κ η ρ : Type) where
  perform : (op : I.Op) → ι → σ → Option (I.Answer op × σ)
  world : κ → σ → Option σ
  program : ρ → Program I ε Unit
  blank : η
  after : η → (op : I.Op) → I.Answer op → η

/-- A busy worker: its record, the statement it is about to issue, and how it
goes on. -/
structure Worker (I : Interface) (ε η : Type) where
  record : η
  op : I.Op
  next : I.Answer op → Program I ε Unit

/-- The worker left with a program, if there is anything left to do. -/
def Program.resume (record : η) : Program I ε Unit → Option (Worker I ε η)
  | ask op next => some ⟨record, op, next⟩
  | _ => none

/-- The shared state and the workers, `none` for an idle one. -/
structure Pool (I : Interface) (ε σ η W : Type) where
  shared : σ
  workers : W → Option (Worker I ε η)

/-- What can happen next. -/
inductive Happening (ι κ ρ W : Type) where
  | start (worker : W) (request : ρ)
  | advance (worker : W) (choice : ι)
  | crash (worker : W)
  | world (change : κ)
  deriving DecidableEq

namespace Pool

/-- The record of each busy worker. -/
def records (p : Pool I ε σ η W) (w : W) : Option η := (p.workers w).map Worker.record

/-- The pool with one worker replaced. -/
def set (p : Pool I ε σ η W) (s : σ) (w : W) (worker : Option (Worker I ε η)) : Pool I ε σ η W :=
  ⟨s, Function.update p.workers w worker⟩

variable {p : Pool I ε σ η W} {s : σ} {w : W} {worker : Option (Worker I ε η)}

@[simp] theorem set_shared : (p.set s w worker).shared = s := rfl

@[simp] theorem set_workers : (p.set s w worker).workers = Function.update p.workers w worker := rfl

@[simp] theorem set_records :
    (p.set s w worker).records = Function.update p.records w (worker.map Worker.record) := by
  funext v
  by_cases same : v = w
  · subst same; simp [records]
  · simp [records, same]

end Pool

namespace System

variable (S : System I ε σ ι κ η ρ)

/-- One step of the pool. -/
def step (p : Pool I ε σ η W) : Happening ι κ ρ W → Option (Pool I ε σ η W)
  | .start w request =>
    match p.workers w with
    | none => some (p.set p.shared w ((S.program request).resume S.blank))
    | some _ => none
  | .advance w choice =>
    match p.workers w with
    | some worker =>
      (S.perform worker.op choice p.shared).map fun (answer, s) =>
        p.set s w ((worker.next answer).resume (S.after worker.record worker.op answer))
    | none => none
  | .crash w =>
    match p.workers w with
    | some _ => some (p.set p.shared w none)
    | none => none
  | .world change => (S.world change p.shared).map fun s => { p with shared := s }

/-- The machine of the pool. -/
def machine : Machine (Pool I ε σ η W) (Happening ι κ ρ W) := ⟨S.step⟩

/-- All workers idle. -/
def idle (s : σ) : Pool I ε σ η W := ⟨s, fun _ => none⟩

/-- A condition on the statement a worker is about to issue, on the shared
state and everyone's records. -/
abbrev Restriction (I : Interface) (ε σ ι η W : Type) :=
  W → I.Op → ι → Pool I ε σ η W → Prop

/-- The condition where the label lets a worker issue its statement. -/
def Respects (r : Restriction I ε σ ι η W) (p : Pool I ε σ η W) : Happening ι κ ρ W → Prop
  | .advance w choice =>
    match p.workers w with
    | some worker => r w worker.op choice p
    | none => True
  | _ => True

instance (r : Restriction I ε σ ι η W) [∀ w op choice p, Decidable (r w op choice p)]
    (p : Pool I ε σ η W) (label : Happening ι κ ρ W) : Decidable (Respects r p label) := by
  unfold Respects
  split
  · split <;> infer_instance
  · infer_instance

/-- What one statement has to keep: performed where its worker's record allows
it and the condition holds, its answer is one the protocol admits and the
invariant goes on. -/
structure Sound (P : Program.Protocol I η) (r : Restriction I ε σ ι η W)
    (Inv : σ → (W → Option η) → Prop) : Prop where
  after : P.after = S.after
  start : ∀ s records w, Inv s records → records w = none →
    Inv s (Function.update records w (some S.blank))
  stop : ∀ s records w, Inv s records → Inv s (Function.update records w none)
  world : ∀ s records change t, Inv s records → S.world change s = some t → Inv t records
  ask : ∀ (p : Pool I ε σ η W) w record op choice answer t, Inv p.shared p.records →
    p.records w = some record → P.allows record op → r w op choice p →
    S.perform op choice p.shared = some (answer, t) →
    P.admits record op answer ∧
      Inv t (Function.update p.records w (some (P.after record op answer)))

/-- A busy worker follows the protocol from here on. -/
def Dutiful (P : Program.Protocol I η) (worker : Worker I ε η) : Prop :=
  Program.Follows P worker.record (.ask worker.op worker.next) fun _ _ => True

/-- The invariant, and every busy worker still following the protocol. -/
def Guarded (P : Program.Protocol I η) (Inv : σ → (W → Option η) → Prop)
    (p : Pool I ε σ η W) : Prop :=
  Inv p.shared p.records ∧ ∀ w worker, p.workers w = some worker → Dutiful P worker

variable {S} {P : Program.Protocol I η} {r : Restriction I ε σ ι η W}
  {Inv : σ → (W → Option η) → Prop} {p q : Pool I ε σ η W} {label : Happening ι κ ρ W}
  {labels : List (Happening ι κ ρ W)}

/-- What a step can do to the shared state. -/
theorem step_shared (stepped : S.step p label = some q) :
    q.shared = p.shared ∨
      (∃ change, label = .world change ∧ S.world change p.shared = some q.shared) ∨
      ∃ w choice worker answer, label = .advance w choice ∧ p.workers w = some worker ∧
        S.perform worker.op choice p.shared = some (answer, q.shared) := by
  cases label with
  | start w request =>
    cases busy : p.workers w <;> simp only [step, busy, Option.some.injEq, reduceCtorEq] at stepped
    subst stepped
    exact .inl rfl
  | crash w =>
    cases busy : p.workers w <;> simp only [step, busy, Option.some.injEq, reduceCtorEq] at stepped
    subst stepped
    exact .inl rfl
  | world change =>
    simp only [step, Option.map_eq_some_iff] at stepped
    obtain ⟨s, changed, rfl⟩ := stepped
    exact .inr (.inl ⟨change, rfl, changed⟩)
  | advance w choice =>
    cases busy : p.workers w with
    | none => simp [step, busy] at stepped
    | some worker =>
      simp only [step, busy, Option.map_eq_some_iff] at stepped
      obtain ⟨⟨answer, s⟩, performed, rfl⟩ := stepped
      exact .inr (.inr ⟨w, choice, worker, answer, rfl, busy, performed⟩)

private theorem guarded_set {s : σ} {w : W} {worker : Option (Worker I ε η)}
    (duty : ∀ v worker, p.workers v = some worker → Dutiful P worker)
    (kept : Inv s (Function.update p.records w (worker.map Worker.record)))
    (own : ∀ v, worker = some v → Dutiful P v) : Guarded P Inv (p.set s w worker) := by
  refine ⟨by simpa using kept, fun v other busy => ?_⟩
  by_cases same : v = w
  · subst same
    exact own other (by simpa using busy)
  · exact duty v other (by simpa [same] using busy)

/-- A worker that goes on with a program following the protocol. -/
private theorem guarded_resume (sound : S.Sound P r Inv) {s : σ} {w : W} {record : η}
    {program : Program I ε Unit}
    (duty : ∀ v worker, p.workers v = some worker → Dutiful P worker)
    (kept : Inv s (Function.update p.records w (some record)))
    (follows : Program.Follows P record program fun _ _ => True) :
    Guarded P Inv (p.set s w (program.resume record)) := by
  have idle := sound.stop _ _ w kept
  rw [Function.update_idem] at idle
  cases program with
  | ask op next => exact guarded_set duty kept (by rintro worker ⟨⟩; exact follows)
  | ret _ => exact guarded_set duty idle (by rintro worker ⟨⟩)
  | raise _ => exact guarded_set duty idle (by rintro worker ⟨⟩)

/-- One step keeps a sound protocol's invariant and everyone's duty. -/
theorem Sound.keeps (sound : S.Sound P r Inv)
    (follows : ∀ request, Program.Follows P S.blank (S.program request) fun _ _ => True)
    (guarded : Guarded P Inv p) (respects : Respects r p label)
    (stepped : S.step p label = some q) : Guarded P Inv q := by
  obtain ⟨kept, duty⟩ := guarded
  cases label with
  | start w request =>
    cases busy : p.workers w with
    | some worker => simp [step, busy] at stepped
    | none =>
      simp only [step, busy, Option.some.injEq] at stepped
      subst stepped
      have started := sound.start _ _ w kept (by simp [Pool.records, busy])
      exact guarded_resume sound duty started (follows request)
  | crash w =>
    cases busy : p.workers w with
    | none => simp [step, busy] at stepped
    | some worker =>
      simp only [step, busy, Option.some.injEq] at stepped
      subst stepped
      exact guarded_set duty (sound.stop _ _ _ kept) (by simp)
  | world change =>
    simp only [step, Option.map_eq_some_iff] at stepped
    obtain ⟨s, changed, rfl⟩ := stepped
    exact ⟨sound.world _ _ _ _ kept changed, duty⟩
  | advance w choice =>
    cases busy : p.workers w with
    | none => simp [step, busy] at stepped
    | some worker =>
      simp only [step, busy, Option.map_eq_some_iff] at stepped
      obtain ⟨⟨answer, s⟩, performed, rfl⟩ := stepped
      have own := duty w worker busy
      have restricted : r w worker.op choice p := by simpa [Respects, busy] using respects
      obtain ⟨admitted, goes⟩ := sound.ask p w worker.record worker.op choice answer s kept
        (by simp [Pool.records, busy]) own.1 restricted performed
      rw [← sound.after]
      exact guarded_resume sound duty goes (own.2 answer admitted)

/-- **The rule of interleaving.**  A sound protocol's invariant, and everyone's
duty, hold wherever a run meeting the condition ends. -/
theorem Sound.of_run (sound : S.Sound P r Inv)
    (follows : ∀ request, Program.Follows P S.blank (S.program request) fun _ _ => True)
    (start : Guarded P Inv p) (meets : S.machine.Meets (Respects r) p labels)
    (ran : S.machine.run p labels = some q) : Guarded P Inv q :=
  Machine.invariant_of_run
    (fun _ _ _ guarded respects stepped => sound.keeps follows guarded respects stepped)
    start meets ran

/-- What a sound protocol gives at each step, every step of such a run has. -/
theorem Sound.always {safe : Pool I ε σ η W → Happening ι κ ρ W → Pool I ε σ η W → Prop}
    (sound : S.Sound P r Inv)
    (follows : ∀ request, Program.Follows P S.blank (S.program request) fun _ _ => True)
    (gives : ∀ p label q, Guarded P Inv p → Respects r p label → S.step p label = some q →
      safe p label q)
    (start : Guarded P Inv p) (meets : S.machine.Meets (Respects r) p labels) :
    S.machine.Always safe p labels :=
  Machine.always_of_meets
    (fun _ _ _ guarded respects stepped => sound.keeps follows guarded respects stepped)
    gives start meets

omit [DecidableEq W] in
/-- What the invariant says at the start: nobody is at work. -/
theorem guarded_idle {s : σ} (kept : Inv s fun _ => none) :
    Guarded P Inv (idle s : Pool I ε σ η W) :=
  ⟨kept, fun _ _ busy => by simp [idle] at busy⟩

/-- The label lets this worker issue this statement. -/
def Issues (p : Pool I ε σ η W) (label : Happening ι κ ρ W) (w : W) (worker : Worker I ε η) :
    Prop :=
  ∃ choice, label = .advance w choice ∧ p.workers w = some worker

end System

end Darasa
