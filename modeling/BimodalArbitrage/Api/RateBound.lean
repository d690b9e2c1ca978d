import BimodalArbitrage.Api.RateLimit
import BimodalArbitrage.Quota.Meter

/-!
# The rate a key gets
-/

namespace BimodalArbitrage.Api
open Coop Quota

def grantedWithin (s t : ℚ) (answers : List Answer) : ℕ :=
  answers.countP fun a => a.granted && decide (s ≤ a.now ∧ a.now ≤ t)

/-- The calls on the key took the lock in the order of their clock readings. -/
def InReadingOrder (answers : List Answer) : Prop :=
  answers.Pairwise fun later earlier => earlier.now ≤ later.now

/-- The bucket and the answers a key got, the latest first. -/
inductive Served (l : TokenBucketRateLimiter) : Option Bucket → List Answer → Prop where
  | fresh : Served l none []
  | next {bucket : Option Bucket} {answers : List Answer} (h : Served l bucket answers)
      (key : String) (now : ℚ) :
      Served l (some (l.serve bucket now).1) (⟨key, now, (l.serve bucket now).2⟩ :: answers)

/-! ### Buckets as meters -/

def Answer.draw (a : Answer) (level : ℚ) : Draw ℚ := ⟨a.now, if a.granted then 1 else 0, level⟩

section
variable {l : TokenBucketRateLimiter}

theorem serve_spec (bucket : Option Bucket) (now : ℚ) :
    (l.serve bucket now).1.lastRefill = (l.bucketAt now bucket).lastRefill ∧
      (l.serve bucket now).1.tokens + (if (l.serve bucket now).2 then 1 else 0) =
        (l.bucketAt now bucket).tokens ∧
      (0 ≤ (l.bucketAt now bucket).tokens → 0 ≤ (l.serve bucket now).1.tokens) := by
  by_cases h : 1 ≤ (l.bucketAt now bucket).tokens
  · simp only [TokenBucketRateLimiter.serve, ge_iff_le, h, if_true]
    exact ⟨trivial, sub_add_cancel _ _, fun _ => sub_nonneg.mpr h⟩
  · simp [TokenBucketRateLimiter.serve, h]

theorem bucketAt_lastRefill (bucket : Option Bucket) (now : ℚ) :
    (l.bucketAt now bucket).lastRefill = now := by
  cases bucket <;> rfl

theorem bucketAt_tokens_le (bucket : Option Bucket) (now : ℚ) :
    (l.bucketAt now bucket).tokens ≤ l.capacity := by
  cases bucket with
  | none => exact le_refl _
  | some b => exact min_le_left _ _

theorem bucketAt_tokens_nonneg (hcap : 0 ≤ l.capacity) (hrate : 0 ≤ l.refillPerSecond)
    {bucket : Option Bucket} (hb : ∀ b ∈ bucket, 0 ≤ b.tokens) (now : ℚ) :
    0 ≤ (l.bucketAt now bucket).tokens := by
  cases bucket with
  | none => exact hcap
  | some b =>
    have htokens := hb b rfl
    have hgain : 0 ≤ max 0 (now - b.lastRefill) * l.refillPerSecond :=
      mul_nonneg (le_max_left _ _) hrate
    exact le_min hcap (by linarith)

theorem refill_tokens_le {b : Bucket} {now : ℚ} (h : b.lastRefill ≤ now) :
    (l.refill b now).tokens ≤ b.tokens + l.refillPerSecond * (now - b.lastRefill) := by
  have helapsed : max 0 (now - b.lastRefill) = now - b.lastRefill :=
    max_eq_right (sub_nonneg.mpr h)
  simp only [TokenBucketRateLimiter.refill, helapsed]
  rw [mul_comm l.refillPerSecond]
  exact min_le_right _ _

theorem served_metered (hcap : 0 ≤ l.capacity) (hrate : 0 ≤ l.refillPerSecond)
    {bucket : Option Bucket} {answers : List Answer} (h : Served l bucket answers)
    (horder : InReadingOrder answers) :
    ∃ draws : List (Draw ℚ), Metered l.capacity l.refillPerSecond draws ∧
      List.Forall₂ (fun (a : Answer) d => d = a.draw d.level) answers draws ∧
      ∀ b ∈ bucket, ∃ d ds, draws = d :: ds ∧ d.reading = b.lastRefill ∧ d.level = b.tokens := by
  induction h with
  | fresh => exact ⟨[], trivial, .nil, fun b hb => nomatch hb⟩
  | next h key now ih =>
    rename_i bucket answers
    obtain ⟨hnow, hrest⟩ := List.pairwise_cons.mp horder
    obtain ⟨draws, hmeter, hdraws, hlast⟩ := ih hrest
    obtain ⟨hlastRefill, htaken, hnonneg⟩ := serve_spec (l := l) bucket now
    have hb : ∀ b ∈ bucket, 0 ≤ b.tokens := by
      intro b hb
      obtain ⟨d, ds, rfl, -, hlevel⟩ := hlast b hb
      exact hlevel ▸ hmeter.head.1
    have hlevel := hnonneg (bucketAt_tokens_nonneg hcap hrate hb now)
    have hfull := bucketAt_tokens_le (l := l) bucket now
    rw [bucketAt_lastRefill] at hlastRefill
    refine ⟨(Answer.mk key now (l.serve bucket now).2).draw (l.serve bucket now).1.tokens :: draws,
      ?_, .cons rfl hdraws, ?_⟩
    · cases bucket with
      | none =>
        cases h
        cases hdraws
        exact ⟨hlevel, htaken.trans_le hfull⟩
      | some b =>
        obtain ⟨d, ds, rfl, hreading, hd⟩ := hlast b rfl
        have hle : d.reading ≤ now := by
          cases hdraws with
          | cons hdraw htail =>
            rw [hdraw]
            exact hnow _ (List.mem_cons_self ..)
        refine ⟨hlevel, htaken.trans_le hfull, hle, ?_, hmeter⟩
        rw [hreading] at hle ⊢
        rw [hd]
        exact htaken.trans_le (refill_tokens_le hle)
    · intro b hb
      cases hb
      exact ⟨_, _, rfl, hlastRefill.symm, rfl⟩

theorem drawnWithin_eq {answers : List Answer} {draws : List (Draw ℚ)} (s t : ℚ)
    (h : List.Forall₂ (fun (a : Answer) d => d = a.draw d.level) answers draws) :
    drawnWithin s t draws = grantedWithin s t answers := by
  induction h with
  | nil => rfl
  | @cons a d answers draws hd _ ih =>
    simp only [drawnWithin, grantedWithin, List.map_cons, List.sum_cons, List.countP_cons] at ih ⊢
    rw [ih, hd]
    by_cases hwin : s ≤ a.now ∧ a.now ≤ t
    · cases hg : a.granted <;> simp [Answer.draw, hwin, hg, add_comm]
    · simp [Answer.draw, hwin]

end

def inTurn : List (Choice ℕ ThreadInput) :=
  [.start 0 (.allow "k"), .turn 0, .drift (.tick 1), .start 1 (.allow "k"), .turn 1]

/-- The first thread reads the clock and is held up until the second was served; its
late turn moves the bucket's clock back, and the third is paid for that second again. -/
def heldUp : List (Choice ℕ ThreadInput) :=
  [.start 0 (.allow "k"), .drift (.tick 1), .start 1 (.allow "k"), .turn 1, .turn 0,
    .start 2 (.allow "k"), .turn 2]

end BimodalArbitrage.Api
