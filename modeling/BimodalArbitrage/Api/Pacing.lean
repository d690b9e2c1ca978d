import BimodalArbitrage.Api.RateLimit

/-!
# Callers that keep their pace
-/

namespace BimodalArbitrage.Api
open Coop Rounding

section
variable {N : Type} [PyFloat N]

/-- From one call to the next the refill is a whole token, as `_refill` computes it. -/
def Paced (l : TokenBucketRateLimiter N) (answers : List (Answer N)) : Prop :=
  answers.IsChain fun later earlier => 1 ≤ max 0 (later.now - earlier.now) * l.refillPerSecond

/-- All calls were granted, and the bucket was last refilled by the latest of them. -/
structure NeverThrottled (bucket : Option (Bucket N)) (answers : List (Answer N)) : Prop where
  granted : ∀ a ∈ answers, a.granted = true
  tokens : ∀ b ∈ bucket, 0 ≤ b.tokens
  refilled : ∀ b ∈ bucket, ∃ a ∈ answers.head?, a.now = b.lastRefill

end

theorem representable_one : binary64.Representable 1 := by decide +kernel

section
variable {l : TokenBucketRateLimiter Binary64} {bucket : Option (Bucket Binary64)}
  {answers : List (Answer Binary64)}

theorem one_le_refill (hcap : 1 ≤ l.capacity) {b : Bucket Binary64} (hb : 0 ≤ b.tokens)
    {now : Binary64} (hpace : 1 ≤ max 0 (now - b.lastRefill) * l.refillPerSecond) :
    1 ≤ (l.refill b now).tokens := by
  have hsum : 1 ≤ b.tokens + max 0 (now - b.lastRefill) * l.refillPerSecond :=
    Floating.le_add representable_one hb hpace
  simp only [TokenBucketRateLimiter.refill]
  exact Floating.le_min hcap hsum

theorem NeverThrottled.one_le_bucketAt (h : NeverThrottled bucket answers) (hcap : 1 ≤ l.capacity)
    {key : String} {now : Binary64} {granted : Bool}
    (hpaced : Paced l (⟨key, now, granted⟩ :: answers)) : 1 ≤ (l.bucketAt now bucket).tokens := by
  cases bucket with
  | none => exact hcap
  | some b =>
    obtain ⟨a, ha, hlast⟩ := h.refilled b rfl
    obtain ⟨rest, rfl⟩ := List.head?_eq_some_iff.mp ha
    have hpace := (List.isChain_cons_cons.mp hpaced).1
    rw [hlast] at hpace
    exact one_le_refill hcap (h.tokens b rfl) hpace

theorem NeverThrottled.serve (h : NeverThrottled bucket answers) (hcap : 1 ≤ l.capacity)
    {key : String} {now : Binary64}
    (hpaced : Paced l (⟨key, now, (l.serve bucket now).2⟩ :: answers)) :
    NeverThrottled (some (l.serve bucket now).1)
      (⟨key, now, (l.serve bucket now).2⟩ :: answers) := by
  have hfull := h.one_le_bucketAt hcap hpaced
  have hserve : l.serve bucket now =
      (⟨(l.bucketAt now bucket).tokens - 1, (l.bucketAt now bucket).lastRefill⟩, true) := by
    simp only [TokenBucketRateLimiter.serve, ge_iff_le, hfull, if_true]
  rw [hserve]
  refine ⟨fun a ha => ?_, fun b hb => ?_, fun b hb => ?_⟩
  · rcases List.mem_cons.mp ha with rfl | ha
    · rfl
    · exact h.granted a ha
  · cases hb
    exact Floating.zero_le_sub representable_one hfull
  · cases hb
    refine ⟨_, rfl, ?_⟩
    cases bucket <;> rfl

end

/-- Calls on a key whose refills are whole tokens are all granted. -/
theorem paced_granted (l : TokenBucketRateLimiter Binary64) (hcap : 1 ≤ l.capacity)
    (clock : Binary64) (chs : List (Choice ℕ (ThreadInput Binary64)))
    (L : Loop ℕ (LimiterState Binary64) (Answer Binary64) Empty (fun _ => Unit) PyError)
    (hrun : run (threadRules l) (Loop.quiet ⟨clock, fun _ => none⟩) chs = some L) (key : String)
    (hpaced : Paced l (answersOn key L.world.log)) :
    ∀ a ∈ answersOn key L.world.log, a.granted = true := by
  have hinv := keys_run
    (P := fun bucket answers => Paced l answers → NeverThrottled bucket answers)
    (fun _ _ _ _ h hpaced => (h hpaced.of_cons).serve hcap hpaced) (fun _ => ?_) clock
    (.inr fun bucket answers h hpaced => ?_) hrun key
  · exact (hinv hpaced).granted
  · exact ⟨fun _ ha => absurd ha List.not_mem_nil, fun b hb => (Option.not_mem_none b hb).elim,
      fun b hb => (Option.not_mem_none b hb).elim⟩
  · exact ⟨(h hpaced).granted, fun b hb => (Option.not_mem_none b hb).elim,
      fun b hb => (Option.not_mem_none b hb).elim⟩

/-- Two calls on `k` a second apart, between them another key that is throttled. -/
def besides : List (Choice ℕ (ThreadInput Binary64)) :=
  [.start 0 (.allow "k"), .turn 0, .start 1 (.allow "other"), .turn 1, .start 1 (.allow "other"),
    .drift (.tick 1), .start 0 (.allow "k"), .turn 0, .turn 1]

theorem paced_granted_besides :
    ∃ L, run (threadRules ⟨1, 1⟩) (Loop.quiet ⟨0, fun _ => none⟩) besides = some L ∧
      answersOn "other" L.world.log = [⟨"other", 0, false⟩, ⟨"other", 0, true⟩] ∧
      (answersOn "k" L.world.log).length = 2 ∧
      ∀ a ∈ answersOn "k" L.world.log, a.granted = true := by
  have hanswers : (run (threadRules ⟨1, 1⟩) (Loop.quiet ⟨0, fun _ => none⟩) besides).map
      (fun L => (answersOn "k" L.world.log, answersOn "other" L.world.log)) =
        some ([⟨"k", 1, true⟩, ⟨"k", 0, true⟩], [⟨"other", 0, false⟩, ⟨"other", 0, true⟩]) := by
    decide +kernel
  obtain ⟨L, hL, hlogs⟩ := Option.map_eq_some_iff.mp hanswers
  obtain ⟨hlog, hother⟩ := Prod.mk.inj hlogs
  have hpaced : Paced (⟨1, 1⟩ : TokenBucketRateLimiter Binary64) (answersOn "k" L.world.log) := by
    rw [hlog]
    exact .cons_cons (by decide +kernel) (.singleton _)
  exact ⟨L, hL, hother, congrArg List.length hlog,
    paced_granted ⟨1, 1⟩ (by decide +kernel) 0 besides L hL "k" hpaced⟩

/-- Two calls more than `1 / 13.4` apart. -/
def apart : List (Choice ℕ (ThreadInput Binary64)) :=
  [.start 0 (.allow "k"), .turn 0, .drift (.tick 0.07524619435645025), .start 0 (.allow "k"),
    .turn 0]

theorem paced_granted_apart :
    ∃ L : Loop ℕ (LimiterState Binary64) (Answer Binary64) Empty (fun _ => Unit) PyError,
      run (threadRules ⟨1, 13.4⟩) (Loop.quiet ⟨0.0006193286848084558, fun _ => none⟩) apart =
        some L ∧
      (1 : ℚ) / (13.4 : Binary64).value ≤
        (0.07524619435645025 : Binary64).value - (0.0006193286848084558 : Binary64).value ∧
      (answersOn "k" L.world.log).map Answer.granted = [false, true] := by
  have hanswers : (run (threadRules ⟨1, 13.4⟩)
      (Loop.quiet ⟨0.0006193286848084558, fun _ => none⟩) apart).map
      (fun L => (answersOn "k" L.world.log).map Answer.granted) = some [false, true] := by
    decide +kernel
  obtain ⟨L, hL, hlog⟩ := Option.map_eq_some_iff.mp hanswers
  exact ⟨L, hL, by decide +kernel, hlog⟩

end BimodalArbitrage.Api
