import Mathlib.Data.Nat.Notation

/-!
Programs that talk to a database one statement at a time.

A `Program` is the tree of what a piece of code does next: return, raise, or
issue a statement and go on with the answer.  It is a monad with exceptions, so
source code is transcribed in `do` notation with `throw` and `try`; what a
statement does is not fixed by the tree.

- `run` executes a program alone: each statement takes effect at once, and
  effects stay when the program raises, as under autocommit.
- `Follows` is the verification condition of a program against a `Protocol`:
  along every sequence of answers the protocol admits, each statement is one
  the program's own record so far allows.  It composes over `bind`, `tryCatch`
  and loops, and says nothing about who else is running.
-/

namespace Darasa

/-- The statements a program can issue, and what each is answered with. -/
structure Interface where
  Op : Type
  Answer : Op → Type

/-- Code over an interface that raises `ε` or returns `α`. -/
inductive Program (I : Interface) (ε α : Type) : Type where
  | ret (a : α)
  | raise (e : ε)
  | ask (op : I.Op) (next : I.Answer op → Program I ε α)

namespace Program

variable {I : Interface} {ε ε' α β σ η : Type}

/-- Go on with `f` where the program returns. -/
def bind : Program I ε α → (α → Program I ε β) → Program I ε β
  | ret a, f => f a
  | raise e, _ => raise e
  | ask op next, f => ask op fun answer => (next answer).bind f

/-- Go on with `handler` where the program raises. -/
def tryCatch : Program I ε α → (ε → Program I ε' α) → Program I ε' α
  | ret a, _ => ret a
  | raise e, handler => handler e
  | ask op next, handler => ask op fun answer => (next answer).tryCatch handler

instance : Monad (Program I ε) where
  pure := ret
  bind := bind

instance : MonadExcept ε (Program I ε) where
  throw := raise
  tryCatch := tryCatch

/-- Issue one statement. -/
def issue (op : I.Op) : Program I ε (I.Answer op) := ask op ret

/-- Rename what the program raises. -/
def raising (f : ε → ε') (p : Program I ε α) : Program I ε' α := p.tryCatch fun e => raise (f e)

/-- A computation that issues nothing. -/
def ofOutcome : Except ε α → Program I ε α
  | .ok a => ret a
  | .error e => raise e

/-! ## Running alone -/

section Run

/-- Execute a program with `exec` answering each statement. -/
def run (exec : (op : I.Op) → σ → I.Answer op × σ) : Program I ε α → σ → Except ε α × σ
  | ret a, s => (.ok a, s)
  | raise e, s => (.error e, s)
  | ask op next, s => (next (exec op s).1).run exec (exec op s).2

variable {exec : (op : I.Op) → σ → I.Answer op × σ} {s : σ}

@[simp] theorem run_ret {a : α} : (ret a : Program I ε α).run exec s = (.ok a, s) := rfl

@[simp] theorem run_pure {a : α} : (pure a : Program I ε α).run exec s = (.ok a, s) := rfl

@[simp] theorem run_raise {e : ε} : (raise e : Program I ε α).run exec s = (.error e, s) := rfl

@[simp] theorem run_throw {e : ε} : (throw e : Program I ε α).run exec s = (.error e, s) := rfl

@[simp] theorem run_issue {op : I.Op} :
    (issue op : Program I ε _).run exec s = (.ok (exec op s).1, (exec op s).2) := rfl

@[simp] theorem run_ofOutcome {x : Except ε α} :
    (ofOutcome x : Program I ε α).run exec s = (x, s) := by
  cases x <;> rfl

/-- Where a run goes on after a bind. -/
def andThen (exec : (op : I.Op) → σ → I.Answer op × σ) (f : α → Program I ε β) :
    Except ε α × σ → Except ε β × σ
  | (.ok a, s) => (f a).run exec s
  | (.error e, s) => (.error e, s)

/-- Where a run goes on after a `try`. -/
def orElse (exec : (op : I.Op) → σ → I.Answer op × σ) (handler : ε → Program I ε' α) :
    Except ε α × σ → Except ε' α × σ
  | (.ok a, s) => (.ok a, s)
  | (.error e, s) => (handler e).run exec s

@[simp] theorem andThen_ok {f : α → Program I ε β} {a : α} :
    andThen exec f (.ok a, s) = (f a).run exec s := rfl

@[simp] theorem andThen_error {f : α → Program I ε β} {e : ε} :
    andThen exec f (.error e, s) = (.error e, s) := rfl

@[simp] theorem orElse_ok {handler : ε → Program I ε' α} {a : α} :
    orElse exec handler (.ok a, s) = (.ok a, s) := rfl

@[simp] theorem orElse_error {handler : ε → Program I ε' α} {e : ε} :
    orElse exec handler (.error e, s) = (handler e).run exec s := rfl

theorem run_bind {p : Program I ε α} {f : α → Program I ε β} :
    (p >>= f).run exec s = andThen exec f (p.run exec s) := by
  induction p generalizing s with
  | ret a => rfl
  | raise e => rfl
  | ask op next ih => exact ih (exec op s).1

theorem run_tryCatch {p : Program I ε α} {handler : ε → Program I ε' α} :
    (p.tryCatch handler).run exec s = orElse exec handler (p.run exec s) := by
  induction p generalizing s with
  | ret a => rfl
  | raise e => rfl
  | ask op next ih => exact ih (exec op s).1

theorem run_raising {f : ε → ε'} {p : Program I ε α} :
    (p.raising f).run exec s = ((p.run exec s).1.mapError f, (p.run exec s).2) := by
  rw [raising, run_tryCatch]
  rcases p.run exec s with ⟨_ | _, t⟩ <;> rfl

/-- A bind whose first part returns. -/
theorem run_bind_of_ok {p : Program I ε α} {f : α → Program I ε β} {a : α} {t : σ}
    (returned : p.run exec s = (.ok a, t)) : (p >>= f).run exec s = (f a).run exec t := by
  rw [run_bind, returned, andThen_ok]

/-- A bind whose first part raises. -/
theorem run_bind_of_error {p : Program I ε α} {f : α → Program I ε β} {e : ε} {t : σ}
    (raised : p.run exec s = (.error e, t)) : (p >>= f).run exec s = (.error e, t) := by
  rw [run_bind, raised, andThen_error]

/-- A check that passes. -/
theorem run_check_of_ok {x : Except ε α} {f : α → Program I ε β} {a : α} (passed : x = .ok a) :
    (ofOutcome x >>= f).run exec s = (f a).run exec s := by
  subst passed
  rfl

/-- A check that refuses. -/
theorem run_check_of_error {x : Except ε α} {f : α → Program I ε β} {e : ε}
    (refused : x = .error e) : (ofOutcome x >>= f).run exec s = (.error e, s) := by
  subst refused
  rfl

end Run

/-! ## Protocols -/

/-- What a program may do, judged by a record of its own: which statements the
record allows, which answers are to be expected, and how the record goes on. -/
structure Protocol (I : Interface) (η : Type) where
  allows : η → I.Op → Prop
  admits : η → (op : I.Op) → I.Answer op → Prop
  after : η → (op : I.Op) → I.Answer op → η

variable {P : Protocol I η} {h : η} {post post' : η → Except ε α → Prop}

/-- Every statement the program issues is allowed, and it ends in `post`. -/
def Follows (P : Protocol I η) (h : η) :
    Program I ε α → (η → Except ε α → Prop) → Prop
  | ret a, post => post h (.ok a)
  | raise e, post => post h (.error e)
  | ask op next, post =>
    P.allows h op ∧
      ∀ answer, P.admits h op answer → Follows P (P.after h op answer) (next answer) post

@[simp] theorem follows_ret {a : α} : Follows P h (ret a) post ↔ post h (.ok a) := Iff.rfl

@[simp] theorem follows_pure {a : α} :
    Follows P h (pure a : Program I ε α) post ↔ post h (.ok a) := Iff.rfl

@[simp] theorem follows_raise {e : ε} : Follows P h (raise e) post ↔ post h (.error e) := Iff.rfl

@[simp] theorem follows_throw {e : ε} :
    Follows P h (throw e : Program I ε α) post ↔ post h (.error e) := Iff.rfl

@[simp] theorem follows_issue {op : I.Op} {post : η → Except ε (I.Answer op) → Prop} :
    Follows P h (issue op) post ↔
      P.allows h op ∧ ∀ answer, P.admits h op answer → post (P.after h op answer) (.ok answer) :=
  Iff.rfl

@[simp] theorem follows_ofOutcome {x : Except ε α} :
    Follows P h (ofOutcome x : Program I ε α) post ↔ post h x := by
  cases x <;> exact Iff.rfl

/-- A weaker end is reached as well. -/
theorem Follows.mono {p : Program I ε α} (follows : Follows P h p post)
    (weaker : ∀ h x, post h x → post' h x) : Follows P h p post' := by
  induction p generalizing h with
  | ret a => exact weaker _ _ follows
  | raise e => exact weaker _ _ follows
  | ask op next ih =>
    exact ⟨follows.1, fun answer admitted => ih answer (follows.2 answer admitted)⟩

/-- What is left to show after a bind's first part. -/
def thenFollows (P : Protocol I η) (f : α → Program I ε β) (post : η → Except ε β → Prop) :
    η → Except ε α → Prop
  | h, .ok a => Follows P h (f a) post
  | h, .error e => post h (.error e)

/-- What is left to show after the body of a `try`. -/
def elseFollows (P : Protocol I η) (handler : ε → Program I ε' α)
    (post : η → Except ε' α → Prop) : η → Except ε α → Prop
  | h, .ok a => post h (.ok a)
  | h, .error e => Follows P h (handler e) post

/-- **The rule of sequence.** -/
theorem follows_bind {p : Program I ε α} {f : α → Program I ε β}
    {post : η → Except ε β → Prop} :
    Follows P h (p >>= f) post ↔ Follows P h p (thenFollows P f post) := by
  induction p generalizing h with
  | ret a => exact Iff.rfl
  | raise e => exact Iff.rfl
  | ask op next ih =>
    exact and_congr_right fun _ => forall₂_congr fun answer _ => ih answer

/-- **The rule of exceptions.** -/
theorem follows_tryCatch {p : Program I ε α} {handler : ε → Program I ε' α}
    {post : η → Except ε' α → Prop} :
    Follows P h (p.tryCatch handler) post ↔
      Follows P h p (elseFollows P handler post) := by
  induction p generalizing h with
  | ret a => exact Iff.rfl
  | raise e => exact Iff.rfl
  | ask op next ih =>
    exact and_congr_right fun _ => forall₂_congr fun answer _ => ih answer

theorem follows_raising {f : ε → ε'} {p : Program I ε α} {post : η → Except ε' α → Prop} :
    Follows P h (p.raising f) post ↔ Follows P h p fun h x => post h (x.mapError f) := by
  rw [raising, follows_tryCatch]
  exact ⟨fun follows => follows.mono fun h x ended => by cases x <;> exact ended,
    fun follows => follows.mono fun h x ended => by cases x <;> exact ended⟩

/-- A sequence from what its first part ends in. -/
theorem Follows.andThen {p : Program I ε α} {f : α → Program I ε β}
    {post : η → Except ε α → Prop} {post' : η → Except ε β → Prop} (first : Follows P h p post)
    (returned : ∀ h a, post h (.ok a) → Follows P h (f a) post')
    (raised : ∀ h e, post h (.error e) → post' h (.error e)) : Follows P h (p >>= f) post' := by
  rw [follows_bind]
  refine first.mono fun h x ended => ?_
  cases x with
  | ok a => exact returned h a ended
  | error e => exact raised h e ended

/-- A check before the rest: it issues nothing. -/
theorem Follows.check {x : Except ε α} {f : α → Program I ε β} {post : η → Except ε β → Prop}
    (refused : ∀ e, post h (.error e)) (passed : ∀ a, Follows P h (f a) post) :
    Follows P h (ofOutcome x >>= f) post := by
  rw [follows_bind, follows_ofOutcome]
  cases x with
  | error e => exact refused e
  | ok a => exact passed a

/-- A `try` from what its body ends in. -/
theorem Follows.orElse {p : Program I ε α} {handler : ε → Program I ε' α}
    {post : η → Except ε α → Prop} {post' : η → Except ε' α → Prop} (body : Follows P h p post)
    (returned : ∀ h a, post h (.ok a) → post' h (.ok a))
    (raised : ∀ h e, post h (.error e) → Follows P h (handler e) post') :
    Follows P h (p.tryCatch handler) post' := by
  rw [follows_tryCatch]
  refine body.mono fun h x ended => ?_
  cases x with
  | ok a => exact returned h a ended
  | error e => exact raised h e ended

end Program

end Darasa
