import Mathlib.Tactic.Common

/-!
# Coroutines

A coroutine is a finite tree of what a task of a cooperative scheduler can do:
touch the shared state, report an event, give the other tasks a turn, or await
the reply to a call. Between two suspension points (`turn`, `await`) a task runs
alone, so the segment between them is one atomic step.
-/

namespace Coop

/-- `S` is the shared state, `Ev` what an observer is told, `C` the calls that
suspend, `R c` the reply to the call `c` and `E` the exceptions. -/
inductive Coro (S Ev C : Type) (R : C → Type) (E α : Type) : Type where
  | pure (a : α)
  | throw (e : E)
  | get (k : S → Coro S Ev C R E α)
  | set (s : S) (k : Coro S Ev C R E α)
  | emit (e : Ev) (k : Coro S Ev C R E α)
  | turn (k : Coro S Ev C R E α)
  | await (c : C) (k : Except E (R c) → Coro S Ev C R E α)

namespace Coro
variable {S Ev C : Type} {R : C → Type} {E α β : Type}

def bind : Coro S Ev C R E α → (α → Coro S Ev C R E β) → Coro S Ev C R E β
  | .pure a, f => f a
  | .throw e, _ => .throw e
  | .get k, f => .get fun s => (k s).bind f
  | .set s k, f => .set s (k.bind f)
  | .emit e k, f => .emit e (k.bind f)
  | .turn k, f => .turn (k.bind f)
  | .await c k, f => .await c fun r => (k r).bind f

instance : Monad (Coro S Ev C R E) where
  pure := .pure
  bind := bind

/-- Run `x` and hand its result or its exception over as a value. -/
def attempt : Coro S Ev C R E α → Coro S Ev C R E (Except E α)
  | .pure a => .pure (.ok a)
  | .throw e => .pure (.error e)
  | .get k => .get fun s => (k s).attempt
  | .set s k => .set s k.attempt
  | .emit e k => .emit e k.attempt
  | .turn k => .turn k.attempt
  | .await c k => .await c fun r => (k r).attempt

def state : Coro S Ev C R E S := .get .pure

def modify (f : S → S) : Coro S Ev C R E Unit := .get fun s => .set (f s) (.pure ())

def report (e : Ev) : Coro S Ev C R E Unit := .emit e (.pure ())

def yield : Coro S Ev C R E Unit := .turn (.pure ())

def lift : Except E α → Coro S Ev C R E α
  | .ok a => .pure a
  | .error e => .throw e

/-- Suspend on the call `c`; an exceptional reply is rethrown at the call site. -/
def call (c : C) : Coro S Ev C R E (R c) := .await c lift

/-- `try x except e: f e`; what `f` throws is not caught. -/
def catching (x : Coro S Ev C R E α) (f : E → Coro S Ev C R E α) : Coro S Ev C R E α :=
  x.attempt.bind fun r => match r with
    | .ok a => .pure a
    | .error e => f e

/-- `try x finally f`: `f` runs on both exits. -/
def ensuring (x : Coro S Ev C R E α) (f : Coro S Ev C R E Unit) : Coro S Ev C R E α :=
  x.attempt.bind fun r => f.bind fun _ => lift r

/-- Results of gathered tasks: the first exception is rethrown. -/
def both : Except E α → Except E β → Except E (α × β)
  | .ok a, .ok b => .ok (a, b)
  | .error e, _ => .error e
  | .ok _, .error e => .error e

theorem both_ok {x : Except E α} {y : Except E β} {p : α × β} (h : both x y = .ok p) :
    x = .ok p.1 ∧ y = .ok p.2 := by
  cases x with
  | error e => cases h
  | ok a =>
    cases y with
    | error e => cases h
    | ok b =>
      cases h
      exact ⟨rfl, rfl⟩

/-- Coroutines as concurrent tasks, their results gathered. Every task is run, in
a turn of its own, whatever becomes of the others; the one that gathers them goes
on in a turn after the last one. -/
def gather (x : Coro S Ev C R E α) (y : Coro S Ev C R E β) : Coro S Ev C R E (α × β) := do
  yield
  let a ← x.attempt
  yield
  let b ← y.attempt
  yield
  lift (both a b)

def gather3 {γ : Type} (x : Coro S Ev C R E α) (y : Coro S Ev C R E β) (z : Coro S Ev C R E γ) :
    Coro S Ev C R E (α × β × γ) := do
  yield
  let a ← x.attempt
  yield
  let b ← y.attempt
  yield
  let c ← z.attempt
  yield
  lift (both a (both b c))

@[simp] theorem pure_eq (a : α) : (Pure.pure a : Coro S Ev C R E α) = .pure a := rfl

@[simp] theorem bind_eq (x : Coro S Ev C R E α) (f : α → Coro S Ev C R E β) :
    x >>= f = x.bind f := rfl

theorem bind_assoc {γ : Type} (x : Coro S Ev C R E α) (f : α → Coro S Ev C R E β)
    (g : β → Coro S Ev C R E γ) : (x.bind f).bind g = x.bind fun a => (f a).bind g := by
  induction x with
  | pure a => rfl
  | throw e => rfl
  | get k ih => exact congrArg Coro.get (funext ih)
  | set s k ih => exact congrArg (Coro.set s) ih
  | emit e k ih => exact congrArg (Coro.emit e) ih
  | turn k ih => exact congrArg Coro.turn ih
  | await c k ih => exact congrArg (Coro.await c) (funext ih)

end Coro
end Coop
