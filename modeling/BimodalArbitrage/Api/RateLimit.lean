import BimodalArbitrage.Coop.Rely
import BimodalArbitrage.Python

/-!
# Token-bucket rate limiting (`backend/api/rate_limit.py`)

Threads are the tasks of a loop: the clock is read in one step, and the section under
the lock is another. Between the two any other thread may run.
-/

namespace BimodalArbitrage.Api
open Coop

structure Bucket (N : Type := ℚ) where
  tokens : N
  lastRefill : N

structure TokenBucketRateLimiter (N : Type := ℚ) where
  capacity : N
  refillPerSecond : N

/-- The buckets of the limiter and the monotonic clock of the machine. -/
structure LimiterState (N : Type := ℚ) where
  clock : N
  buckets : String → Option (Bucket N)

structure Answer (N : Type := ℚ) where
  key : String
  now : N
  granted : Bool
  deriving DecidableEq

abbrev ThreadProc (N α : Type) :=
  Coro (LimiterState N) (Answer N) Empty (fun _ => Unit) PyError α

section
variable {N : Type} [PyFloat N]

namespace TokenBucketRateLimiter

def refill (l : TokenBucketRateLimiter N) (bucket : Bucket N) (now : N) : Bucket N :=
  let elapsed := max 0 (now - bucket.lastRefill)
  ⟨min l.capacity (bucket.tokens + elapsed * l.refillPerSecond), now⟩

/-- The bucket of a key when its call has the lock: a full one if there is none. -/
def bucketAt (l : TokenBucketRateLimiter N) (now : N) : Option (Bucket N) → Bucket N
  | none => ⟨l.capacity, now⟩
  | some bucket => l.refill bucket now

def serve (l : TokenBucketRateLimiter N) (bucket : Option (Bucket N)) (now : N) :
    Bucket N × Bool :=
  let bucket := l.bucketAt now bucket
  if bucket.tokens ≥ 1 then (⟨bucket.tokens - 1, bucket.lastRefill⟩, true) else (bucket, false)

def allow (l : TokenBucketRateLimiter N) (key : String) : ThreadProc N Bool := do
  let now := (← Coro.state).clock
  Coro.yield
  let s ← Coro.state
  let served := l.serve (s.buckets key) now
  Coro.modify fun s => { s with buckets := Function.update s.buckets key (some served.1) }
  Coro.report ⟨key, now, served.2⟩
  pure served.2

def reset : ThreadProc N Unit := Coro.modify fun s => { s with buckets := fun _ => none }

end TokenBucketRateLimiter

inductive ThreadInput (N : Type := ℚ) where
  | allow (key : String)
  | reset
  | tick (now : N)

/-- Any thread may call the limiter at any time; the clock never goes back. -/
def threadRules (l : TokenBucketRateLimiter N) :
    Rules ℕ (LimiterState N) (Answer N) Empty (fun _ => Unit) PyError (ThreadInput N) where
  start _ _ x := match x with
    | .allow key => some ((l.allow key).bind fun _ => .pure ())
    | .reset => some TokenBucketRateLimiter.reset
    | .tick _ => none
  answer _ c := c.elim
  drift s x := match x with
    | .tick now => if s.clock ≤ now then some { s with clock := now } else none
    | _ => none

end

/-! ### Keys -/

section
variable {N : Type}

/-- The answers on a key, the latest first. -/
def answersOn (key : String) (log : List (Entry ℕ (LimiterState N) (Answer N))) :
    List (Answer N) :=
  ((log.map Entry.event).filter fun a => a.key = key).reverse

theorem answersOn_append (key : String) (log : List (Entry ℕ (LimiterState N) (Answer N)))
    (e : Entry ℕ (LimiterState N) (Answer N)) :
    answersOn key (log ++ [e]) =
      if e.event.key = key then e.event :: answersOn key log else answersOn key log := by
  by_cases h : e.event.key = key <;> simp [answersOn, h]

variable (P : Option (Bucket N) → List (Answer N) → Prop)

/-- `P` holds of every key; a reset may have to be ruled out. -/
def keyContract : Contract ℕ (LimiterState N) (Answer N) (ThreadInput N) where
  inv w := ∀ key, P (w.state.buckets key) (answersOn key w.log)
  rely _ _ _ := True
  guar _ _ _ := True
  allows _ ch := (∀ i, ch ≠ .start i .reset) ∨ ∀ bucket answers, P bucket answers → P none answers
  rely_refl _ _ := trivial
  rely_trans _ _ _ _ _ _ := trivial
  guar_rely _ _ _ _ _ _ := trivial

variable {P} [PyFloat N] {l : TokenBucketRateLimiter N}
  (hserve : ∀ bucket answers key now, P bucket answers →
    P (some (l.serve bucket now).1) (⟨key, now, (l.serve bucket now).2⟩ :: answers))
include hserve

theorem allow_keeps (i : ℕ) (key : String) {w : World ℕ (LimiterState N) (Answer N)}
    (hw : (keyContract P).inv w) :
    Keeps (threadRules l) (keyContract P) i ((l.allow key).bind fun _ => .pure ()) w w := by
  simp only [Keeps, TokenBucketRateLimiter.allow, Coro.bind_eq, Coro.pure_eq, wp_bind, wp_state,
    ends_ok, wp_yield, wp_modify, wp_report, wp_pure]
  refine ⟨⟨hw, trivial⟩, fun v _ hv _ => ⟨fun k => ?_, trivial⟩⟩
  simp only [World.emit_state, World.emit_log, World.put_state, World.put_log, answersOn_append]
  by_cases hk : key = k
  · subst hk
    rw [if_pos rfl, Function.update_self]
    exact hserve _ _ key _ (hv key)
  · rw [if_neg hk, Function.update_of_ne (Ne.symm hk)]
    exact hv k

theorem keys_sound : Sound (threadRules l) (keyContract P) where
  starts w i x c hw ha hs := by
    cases x with
    | allow key =>
      cases hs
      exact allow_keeps hserve i key hw
    | reset =>
      cases hs
      rcases ha with ha | ha
      · exact absurd rfl (ha i)
      · exact ⟨fun key => ha _ _ (hw key), trivial⟩
    | tick now => cases hs
  drifts w x s hw _ hs := by
    cases x with
    | tick now =>
      simp only [threadRules] at hs
      split at hs
      · cases hs
        exact ⟨hw, fun _ => trivial⟩
      · cases hs
    | allow key => cases hs
    | reset => cases hs

/-- What holds of a key that was never asked for, and is kept by every call on it, holds of
every key after every run; a reset only has to keep it where there is one. -/
theorem keys_run (hfresh : P none []) (clock : N) {chs : List (Choice ℕ (ThreadInput N))}
    (hreset : (∀ i, .start i .reset ∉ chs) ∨ ∀ bucket answers, P bucket answers → P none answers)
    {L : Loop ℕ (LimiterState N) (Answer N) Empty (fun _ => Unit) PyError}
    (hrun : run (threadRules l) (Loop.quiet ⟨clock, fun _ => none⟩) chs = some L) (key : String) :
    P (L.world.state.buckets key) (answersOn key L.world.log) := by
  have halong : Along (threadRules l) (keyContract P).allows
      (Loop.quiet ⟨clock, fun _ => none⟩) chs := by
    refine along_of_forall _ (fun ch hch _ => hreset.imp_left fun hnot i heq => ?_) _
    subst heq
    exact hnot i hch
  exact run_inv (keys_sound hserve) ⟨clock, fun _ => none⟩ (fun _ => hfresh) chs halong hrun key

end

end BimodalArbitrage.Api
