import BimodalArbitrage.Api.RateBound
import BimodalArbitrage.Coop.Hiding

/-!
# One key at a time
-/

namespace BimodalArbitrage.Api
open Coop

/-! ### The range of the buckets -/

def Bucket.InRange (l : TokenBucketRateLimiter) (b : Bucket) : Prop :=
  0 ≤ b.tokens ∧ b.tokens ≤ l.capacity

section
variable {l : TokenBucketRateLimiter}

theorem serve_inRange (hcap : 0 ≤ l.capacity) (hrate : 0 ≤ l.refillPerSecond)
    {bucket : Option Bucket} (hb : ∀ b ∈ bucket, b.InRange l) (now : ℚ) :
    (l.serve bucket now).1.InRange l := by
  obtain ⟨-, htaken, hnonneg⟩ := serve_spec (l := l) bucket now
  have hfull := bucketAt_tokens_le (l := l) bucket now
  have hlevel := bucketAt_tokens_nonneg hcap hrate (fun b h => (hb b h).1) now
  refine ⟨hnonneg hlevel, ?_⟩
  have htook : (0 : ℚ) ≤ if (l.serve bucket now).2 then 1 else 0 := by
    split
    · exact zero_le_one
    · exact le_refl 0
  linarith

end

/-! ### The calls on the other keys -/

namespace TokenBucketRateLimiter

/-- A call on a key that has read the clock and waits for the lock. -/
def locked (l : TokenBucketRateLimiter) (key : String) (now : ℚ) : ThreadProc ℚ Unit :=
  .get fun s =>
    .get fun s' =>
      .set { s' with
        buckets := Function.update s'.buckets key (some (l.serve (s.buckets key) now).1) } <|
      .emit ⟨key, now, (l.serve (s.buckets key) now).2⟩ (.pure ())

end TokenBucketRateLimiter

def ThreadInput.onOther (key : String) : ThreadInput → Bool
  | .allow k => k ≠ key
  | .reset => false
  | .tick _ => false

/-- The schedule without the calls on other keys. -/
def onlyKey (key : String) (chs : List (Choice ℕ ThreadInput)) : List (Choice ℕ ThreadInput) :=
  purge (ThreadInput.onOther key) (fun _ => false) chs

structure SameOn (key : String) (v w : World ℕ LimiterState Answer) : Prop where
  clock : v.state.clock = w.state.clock
  bucket : v.state.buckets key = w.state.buckets key
  answers : answersOn key v.log = answersOn key w.log

/-- The code of a call on a key, before and after its reading. -/
inductive CallOn (l : TokenBucketRateLimiter) (key : String) : ThreadProc ℚ Unit → Prop where
  | entered : CallOn l key ((l.allow key).bind fun _ => .pure ())
  | locked (now : ℚ) : CallOn l key (l.locked key now)

section
variable {l : TokenBucketRateLimiter} {key : String} {v w : World ℕ LimiterState Answer}

theorem settle_allow (i : ℕ) (k : String) (v : World ℕ LimiterState Answer) :
    settle i ((l.allow k).bind fun _ => .pure ()) v = (v, .ready (l.locked k v.state.clock)) := rfl

theorem settle_locked (i : ℕ) (k : String) (now : ℚ) (v : World ℕ LimiterState Answer) :
    settle i (l.locked k now) v =
      ((v.put { v.state with
          buckets := Function.update v.state.buckets k
            (some (l.serve (v.state.buckets k) now).1) }).emit i
        ⟨k, now, (l.serve (v.state.buckets k) now).2⟩, .idle) := rfl

theorem SameOn.settle_other (h : SameOn key v w) {i : ℕ} {k : String} (hk : k ≠ key)
    {c : ThreadProc ℚ Unit} (hc : CallOn l k c) :
    SameOn key (settle i c v).1 w ∧
      (settle i c v).2.GoesOn fun c => ∃ k, k ≠ key ∧ CallOn l k c := by
  cases hc with
  | entered => exact ⟨h, k, hk, .locked _⟩
  | locked now =>
    rw [settle_locked]
    refine ⟨⟨h.clock, ?_, ?_⟩, trivial⟩
    · exact (Function.update_of_ne (Ne.symm hk) _ _).trans h.bucket
    · simp only [World.emit_log, World.put_log, answersOn_append]
      rw [if_neg hk]
      exact h.answers

theorem SameOn.settle_key (h : SameOn key v w) {i : ℕ} {c : ThreadProc ℚ Unit}
    (hc : CallOn l key c) :
    SameOn key (settle i c v).1 (settle i c w).1 ∧ (settle i c v).2 = (settle i c w).2 ∧
      (settle i c v).2.GoesOn (CallOn l key) := by
  cases hc with
  | entered =>
    rw [settle_allow, settle_allow, h.clock]
    exact ⟨h, rfl, .locked _⟩
  | locked now =>
    rw [settle_locked, settle_locked, h.bucket]
    refine ⟨⟨h.clock, ?_, ?_⟩, rfl, trivial⟩
    · simp only [World.emit_state, World.put_state, Function.update_self]
    · simp only [World.emit_log, World.put_log, answersOn_append, h.answers]

theorem SameOn.settle_reset (h : SameOn key v w) (i : ℕ) :
    SameOn key (settle i TokenBucketRateLimiter.reset v).1
      (settle i TokenBucketRateLimiter.reset w).1 :=
  ⟨h.clock, rfl, h.answers⟩

end

def keyUnwinding (l : TokenBucketRateLimiter) (key : String) :
    Unwinding (threadRules l) (ThreadInput.onOther key) where
  same := SameOn key
  concealed c := ∃ k, k ≠ key ∧ CallOn l k c
  shown c := CallOn l key c ∨ c = TokenBucketRateLimiter.reset
  start_concealed {w i x c} hx hc := by
    cases x with
    | allow k =>
      cases hc
      exact ⟨k, of_decide_eq_true hx, .entered⟩
    | reset => cases hx
    | tick now => cases hx
  start_shown {v w i x c} hx _ hc := by
    cases x with
    | allow k =>
      obtain rfl : k = key := by simpa [ThreadInput.onOther] using hx
      cases hc
      exact ⟨rfl, .inl .entered⟩
    | reset =>
      cases hc
      exact ⟨rfl, .inr rfl⟩
    | tick now => cases hc
  settle_concealed hc h := by
    obtain ⟨k, hk, hcall⟩ := hc
    exact h.settle_other hk hcall
  settle_shown {v w i c} hc h := by
    obtain hcall | rfl := hc
    · obtain ⟨hsame, hslot, hgoes⟩ := h.settle_key (i := i) hcall
      exact ⟨hsame, hslot, hgoes.mono fun _ => .inl⟩
    · exact ⟨h.settle_reset i, rfl, trivial⟩
  answer_concealed {_ _ c} := c.elim
  answer_shown {_ _ c} := c.elim
  drift_concealed {v w x s} hx _ hs := by
    cases x with
    | allow k => cases hs
    | reset => cases hx
    | tick now => cases hx
  drift_shown {v w x s} _ h hs := by
    cases x with
    | tick now =>
      simp only [threadRules] at hs ⊢
      split at hs
      next hnow =>
        cases hs
        rw [h.clock] at hnow
        rw [if_pos hnow]
        exact ⟨_, rfl, rfl, h.bucket, h.answers⟩
      · cases hs
    | allow k => cases hs
    | reset => cases hs

theorem onlyKey_same (l : TokenBucketRateLimiter) (clock : ℚ) (chs : List (Choice ℕ ThreadInput))
    {L : Loop ℕ LimiterState Answer Empty (fun _ => Unit) PyError}
    (hrun : run (threadRules l) (Loop.quiet ⟨clock, fun _ => none⟩) chs = some L)
    (key : String) :
    ∃ M, run (threadRules l) (Loop.quiet ⟨clock, fun _ => none⟩) (onlyKey key chs) = some M ∧
      answersOn key M.world.log = answersOn key L.world.log := by
  have hquiet : SameOn key ⟨⟨clock, fun _ => none⟩, []⟩ ⟨⟨clock, fun _ => none⟩, []⟩ :=
    ⟨rfl, rfl, rfl⟩
  obtain ⟨M, hM, hsame⟩ := (keyUnwinding l key).run_purge _ hquiet chs hrun
  exact ⟨M, hM, hsame.answers.symm⟩

/-- What a run of the limiter leaves: its buckets are in range, and every key was answered
as in the run of its own calls alone. -/
structure KeysApart (l : TokenBucketRateLimiter) (clock : ℚ) (chs : List (Choice ℕ ThreadInput))
    (L : Loop ℕ LimiterState Answer Empty (fun _ => Unit) PyError) : Prop where
  inRange : ∀ key, ∀ b ∈ L.world.state.buckets key, 0 ≤ b.tokens ∧ b.tokens ≤ l.capacity
  alone : ∀ key, ∃ M, run (threadRules l) (Loop.quiet ⟨clock, fun _ => none⟩) (onlyKey key chs) =
    some M ∧ answersOn key M.world.log = answersOn key L.world.log

theorem keys_apart (l : TokenBucketRateLimiter) (hcap : 0 ≤ l.capacity)
    (hrate : 0 ≤ l.refillPerSecond) (clock : ℚ) (chs : List (Choice ℕ ThreadInput))
    (L : Loop ℕ LimiterState Answer Empty (fun _ => Unit) PyError)
    (hrun : run (threadRules l) (Loop.quiet ⟨clock, fun _ => none⟩) chs = some L) :
    KeysApart l clock chs L where
  inRange := by
    refine keys_run (P := fun bucket _ => ∀ b ∈ bucket, b.InRange l) ?_ ?_ clock ?_ hrun
    · intro bucket answers key now hb b hserved
      cases hserved
      exact serve_inRange hcap hrate hb now
    · exact fun _ hb => (Option.not_mem_none _ hb).elim
    · exact .inr fun _ _ _ _ hb => (Option.not_mem_none _ hb).elim
  alone := onlyKey_same l clock chs hrun

/-- The second thread asks on another key between the reading and the turn of the first. -/
def twoKeys : List (Choice ℕ ThreadInput) :=
  [.start 0 (.allow "a"), .start 1 (.allow "b"), .turn 1, .turn 0, .start 1 (.allow "a"), .turn 1]

theorem keys_apart_twoKeys :
    ∃ L, run (threadRules ⟨1, 1⟩) (Loop.quiet ⟨0, fun _ => none⟩) twoKeys = some L ∧
      answersOn "a" L.world.log = [⟨"a", 0, false⟩, ⟨"a", 0, true⟩] ∧
      KeysApart ⟨1, 1⟩ 0 twoKeys L := by
  have hanswers : (run (threadRules ⟨1, 1⟩) (Loop.quiet ⟨0, fun _ => none⟩) twoKeys).map
      (fun L => answersOn "a" L.world.log) = some [⟨"a", 0, false⟩, ⟨"a", 0, true⟩] := by
    decide +kernel
  obtain ⟨L, hL, hlog⟩ := Option.map_eq_some_iff.mp hanswers
  exact ⟨L, hL, hlog, keys_apart ⟨1, 1⟩ zero_le_one zero_le_one 0 twoKeys L hL⟩

end BimodalArbitrage.Api
