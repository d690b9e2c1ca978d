import BimodalArbitrage.Coop.Coro
import Mathlib.Logic.Function.Basic

/-!
# Running coroutines

Two ways to run a coroutine. `play` runs one alone against an environment that
chooses every reply from what it has seen so far, and that may change the shared
state whenever the coroutine is suspended. `run` is a cooperative event loop:
each slot holds at most one task, and a schedule says which one goes on next and
what the outside world answers.
-/

namespace Coop
variable {ι S Ev C : Type} {R : C → Type} {E Inp α β : Type}

/-! ### One coroutine against an environment -/

inductive Obs (Ev C : Type) (R : C → Type) (E : Type) : Type where
  | event (e : Ev)
  | reply (c : C) (r : Except E (R c))
  | turn

structure Env (S Ev C : Type) (R : C → Type) (E : Type) where
  answer : List (Obs Ev C R E) → (c : C) → Except E (R c)
  drift : List (Obs Ev C R E) → S → S

structure Outcome (S Ev C : Type) (R : C → Type) (E α : Type) where
  result : Except E α
  state : S
  trace : List (Obs Ev C R E)

namespace Coro

/-- Run a coroutine to its end; `h` is what has been observed before. -/
def play (env : Env S Ev C R E) : Coro S Ev C R E α → S → List (Obs Ev C R E) →
    Outcome S Ev C R E α
  | .pure a, s, h => ⟨.ok a, s, h⟩
  | .throw e, s, h => ⟨.error e, s, h⟩
  | .get k, s, h => (k s).play env s h
  | .set s k, _, h => k.play env s h
  | .emit e k, s, h => k.play env s (h ++ [.event e])
  | .turn k, s, h => k.play env (env.drift h s) (h ++ [.turn])
  | .await c k, s, h =>
      (k (env.answer h c)).play env (env.drift h s) (h ++ [.reply c (env.answer h c)])

end Coro

def Outcome.andThen (o : Outcome S Ev C R E α)
    (f : α → S → List (Obs Ev C R E) → Outcome S Ev C R E β) : Outcome S Ev C R E β :=
  match o.result with
  | .ok a => f a o.state o.trace
  | .error e => ⟨.error e, o.state, o.trace⟩

def Outcome.Returns (o : Outcome S Ev C R E α) : Prop := ∃ a, o.result = .ok a

theorem Outcome.andThen_returns (o : Outcome S Ev C R E α)
    (f : α → S → List (Obs Ev C R E) → Outcome S Ev C R E β) :
    (o.andThen f).Returns ↔ ∃ a, o.result = .ok a ∧ (f a o.state o.trace).Returns := by
  cases hr : o.result with
  | error e => simp [Outcome.andThen, Outcome.Returns, hr]
  | ok a => simp [Outcome.andThen, hr]

namespace Coro

theorem play_bind (env : Env S Ev C R E) (x : Coro S Ev C R E α) (f : α → Coro S Ev C R E β)
    (s : S) (h : List (Obs Ev C R E)) :
    (x.bind f).play env s h = (x.play env s h).andThen fun a s' h' => (f a).play env s' h' := by
  induction x generalizing s h with
  | pure a => rfl
  | throw e => rfl
  | get k ih => exact ih s s h
  | set s' k ih => exact ih s' h
  | emit e k ih => exact ih s _
  | turn k ih => exact ih _ _
  | await c k ih => exact ih _ _ _

theorem play_attempt (env : Env S Ev C R E) (x : Coro S Ev C R E α) (s : S)
    (h : List (Obs Ev C R E)) :
    x.attempt.play env s h =
      ⟨.ok (x.play env s h).result, (x.play env s h).state, (x.play env s h).trace⟩ := by
  induction x generalizing s h with
  | pure a => rfl
  | throw e => rfl
  | get k ih => exact ih s s h
  | set s' k ih => exact ih s' h
  | emit e k ih => exact ih s _
  | turn k ih => exact ih _ _
  | await c k ih => exact ih _ _ _

theorem play_lift (env : Env S Ev C R E) (r : Except E α) (s : S) (h : List (Obs Ev C R E)) :
    (lift r : Coro S Ev C R E α).play env s h = ⟨r, s, h⟩ := by
  cases r <;> rfl

theorem play_call (env : Env S Ev C R E) (c : C) (s : S) (h : List (Obs Ev C R E)) :
    (call c : Coro S Ev C R E (R c)).play env s h =
      ⟨env.answer h c, env.drift h s, h ++ [.reply c (env.answer h c)]⟩ :=
  play_lift env _ _ _

theorem play_call_bind_returns (env : Env S Ev C R E) (c : C) (f : R c → Coro S Ev C R E β)
    (s : S) (h : List (Obs Ev C R E)) :
    (((call c).bind f).play env s h).Returns ↔ ∃ a, env.answer h c = .ok a ∧
      ((f a).play env (env.drift h s) (h ++ [.reply c (.ok a)])).Returns := by
  rw [play_bind, Outcome.andThen_returns, play_call]
  refine exists_congr fun a => and_congr_right fun ha => ?_
  have hanswer : env.answer h c = .ok a := ha
  rw [hanswer]

theorem play_gather (env : Env S Ev C R E) (x : Coro S Ev C R E α) (y : Coro S Ev C R E β)
    (s : S) (h : List (Obs Ev C R E)) :
    (gather x y).play env s h =
      let o := x.play env (env.drift h s) (h ++ [.turn])
      let p := y.play env (env.drift o.trace o.state) (o.trace ++ [.turn])
      ⟨both o.result p.result, env.drift p.trace p.state, p.trace ++ [.turn]⟩ := by
  simp only [gather, bind_eq, yield, play_bind, play_attempt, play_lift, play, Outcome.andThen]

theorem play_gather3 {γ : Type} (env : Env S Ev C R E) (x : Coro S Ev C R E α)
    (y : Coro S Ev C R E β) (z : Coro S Ev C R E γ) (s : S) (h : List (Obs Ev C R E)) :
    (gather3 x y z).play env s h =
      let o := x.play env (env.drift h s) (h ++ [.turn])
      let p := y.play env (env.drift o.trace o.state) (o.trace ++ [.turn])
      let q := z.play env (env.drift p.trace p.state) (p.trace ++ [.turn])
      ⟨both o.result (both p.result q.result), env.drift q.trace q.state, q.trace ++ [.turn]⟩ := by
  simp only [gather3, bind_eq, yield, play_bind, play_attempt, play_lift, play, Outcome.andThen]

end Coro

/-! ### The event loop -/

/-- A reported event, with the task that reported it and the state it saw. -/
structure Entry (ι S Ev : Type) where
  task : ι
  state : S
  event : Ev

structure World (ι S Ev : Type) where
  state : S
  log : List (Entry ι S Ev)

def World.emit (w : World ι S Ev) (i : ι) (e : Ev) : World ι S Ev :=
  ⟨w.state, w.log ++ [⟨i, w.state, e⟩]⟩

def World.put (w : World ι S Ev) (s : S) : World ι S Ev := ⟨s, w.log⟩

@[simp] theorem World.emit_state (w : World ι S Ev) (i : ι) (e : Ev) :
    (w.emit i e).state = w.state := rfl

@[simp] theorem World.emit_log (w : World ι S Ev) (i : ι) (e : Ev) :
    (w.emit i e).log = w.log ++ [⟨i, w.state, e⟩] := rfl

@[simp] theorem World.put_state (w : World ι S Ev) (s : S) : (w.put s).state = s := rfl

@[simp] theorem World.put_log (w : World ι S Ev) (s : S) : (w.put s).log = w.log := rfl

inductive Slot (S Ev C : Type) (R : C → Type) (E : Type) : Type where
  | idle
  | ready (k : Coro S Ev C R E Unit)
  | waiting (c : C) (k : Except E (R c) → Coro S Ev C R E Unit)
  | failed (e : E)

structure Loop (ι S Ev C : Type) (R : C → Type) (E : Type) where
  world : World ι S Ev
  slots : ι → Slot S Ev C R E

def Loop.quiet (s : S) : Loop ι S Ev C R E := ⟨⟨s, []⟩, fun _ => .idle⟩

/-- What the outside world can do: which task an input starts in an idle slot,
how it replies to a pending call, and how it moves the state by itself. -/
structure Rules (ι S Ev C : Type) (R : C → Type) (E Inp : Type) where
  start : S → ι → Inp → Option (Coro S Ev C R E Unit)
  answer : S → (c : C) → Inp → Option (Except E (R c) × S)
  drift : S → Inp → Option S

inductive Choice (ι Inp : Type) : Type where
  | start (i : ι) (x : Inp)
  | turn (i : ι)
  | reply (i : ι) (x : Inp)
  | drift (x : Inp)

/-- Run a task up to its next suspension point. -/
def settle (i : ι) : Coro S Ev C R E Unit → World ι S Ev → World ι S Ev × Slot S Ev C R E
  | .pure _, w => (w, .idle)
  | .throw e, w => (w, .failed e)
  | .get k, w => settle i (k w.state) w
  | .set s k, w => settle i k (w.put s)
  | .emit e k, w => settle i k (w.emit i e)
  | .turn k, w => (w, .ready k)
  | .await c k, w => (w, .waiting c k)

variable [DecidableEq ι]

def Loop.occupy (L : Loop ι S Ev C R E) (i : ι) (r : World ι S Ev × Slot S Ev C R E) :
    Loop ι S Ev C R E :=
  ⟨r.1, Function.update L.slots i r.2⟩

def step (rules : Rules ι S Ev C R E Inp) (L : Loop ι S Ev C R E) :
    Choice ι Inp → Option (Loop ι S Ev C R E)
  | .start i x => match L.slots i with
    | .idle => (rules.start L.world.state i x).map fun c => L.occupy i (settle i c L.world)
    | _ => none
  | .turn i => match L.slots i with
    | .ready k => some (L.occupy i (settle i k L.world))
    | _ => none
  | .reply i x => match L.slots i with
    | .waiting c k => (rules.answer L.world.state c x).map fun a =>
        L.occupy i (settle i (k a.1) (L.world.put a.2))
    | _ => none
  | .drift x => (rules.drift L.world.state x).map fun s => ⟨L.world.put s, L.slots⟩

/-- Follow a schedule; `none` when one of its choices is not possible. -/
def run (rules : Rules ι S Ev C R E Inp) : Loop ι S Ev C R E → List (Choice ι Inp) →
    Option (Loop ι S Ev C R E)
  | L, [] => some L
  | L, ch :: chs => (step rules L ch).bind fun L' => run rules L' chs

/-- Every choice of the schedule meets `ok` in the world it is made in. -/
def Along (rules : Rules ι S Ev C R E Inp) (ok : World ι S Ev → Choice ι Inp → Prop) :
    Loop ι S Ev C R E → List (Choice ι Inp) → Prop
  | _, [] => True
  | L, ch :: chs => ok L.world ch ∧ ∀ L', step rules L ch = some L' → Along rules ok L' chs

instance decidableAlong (rules : Rules ι S Ev C R E Inp) (ok : World ι S Ev → Choice ι Inp → Prop)
    [∀ w ch, Decidable (ok w ch)] : ∀ L chs, Decidable (Along rules ok L chs)
  | _, [] => .isTrue trivial
  | L, ch :: chs =>
    match h : step rules L ch with
    | none => decidable_of_iff (ok L.world ch) (by simp [Along, h])
    | some L' =>
      have := decidableAlong rules ok L' chs
      decidable_of_iff (ok L.world ch ∧ Along rules ok L' chs) (by simp [Along, h])

end Coop
