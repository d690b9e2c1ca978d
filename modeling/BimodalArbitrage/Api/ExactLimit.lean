import BimodalArbitrage.Api.RateBound
import BimodalArbitrage.Quota.Saturating

/-!
# The limiter refuses only what would break its bound
-/

namespace BimodalArbitrage.Api
open Coop Quota

section
variable {l : TokenBucketRateLimiter}

theorem serve_granted_iff (bucket : Option Bucket) (now : ℚ) :
    (l.serve bucket now).2 = true ↔ 1 ≤ (l.bucketAt now bucket).tokens := by
  by_cases h : 1 ≤ (l.bucketAt now bucket).tokens <;> simp [TokenBucketRateLimiter.serve, h]

theorem refill_tokens {b : Bucket} {now : ℚ} (h : b.lastRefill ≤ now) :
    (l.refill b now).tokens =
      min l.capacity (b.tokens + l.refillPerSecond * (now - b.lastRefill)) := by
  have helapsed : max 0 (now - b.lastRefill) = now - b.lastRefill :=
    max_eq_right (sub_nonneg.mpr h)
  simp only [TokenBucketRateLimiter.refill, helapsed, mul_comm]

/-- The bucket of a key is the meter of its answers. -/
structure MeterOf (l : TokenBucketRateLimiter) (bucket : Option Bucket) (answers : List Answer)
    (draws : List (Draw ℚ)) : Prop where
  saturating : Saturating l.capacity l.refillPerSecond draws
  drawn : List.Forall₂ (fun (a : Answer) d => d = a.draw d.level) answers draws
  available : ∀ now, (∀ d ∈ draws, d.reading ≤ now) →
    (l.bucketAt now bucket).tokens = available l.capacity l.refillPerSecond now draws

theorem MeterOf.reading_le {bucket : Option Bucket} {answers : List Answer}
    {draws : List (Draw ℚ)} (h : MeterOf l bucket answers draws) {now : ℚ}
    (hnow : ∀ a ∈ answers, a.now ≤ now) : ∀ d ∈ draws, d.reading ≤ now := by
  intro d hd
  obtain ⟨k, hk, rfl⟩ := List.getElem_of_mem hd
  have hlength := h.drawn.length_eq
  have hdraw := h.drawn.get (hlength ▸ hk) hk
  simp only [List.get_eq_getElem] at hdraw
  rw [hdraw]
  exact hnow _ (List.getElem_mem _)

theorem meterOf_served {bucket : Option Bucket} {answers : List Answer}
    (h : Served l bucket answers) (horder : InReadingOrder answers) :
    ∃ draws, MeterOf l bucket answers draws := by
  induction h with
  | fresh => exact ⟨[], trivial, .nil, fun _ _ => rfl⟩
  | @next bucket answers h key now ih =>
    obtain ⟨hnow, hrest⟩ := List.pairwise_cons.mp horder
    obtain ⟨draws, hmeter⟩ := ih hrest
    have hreadings := hmeter.reading_le hnow
    obtain ⟨hrefill, htaken, -⟩ := serve_spec (l := l) bucket now
    rw [bucketAt_lastRefill] at hrefill
    let draw := (Answer.mk key now (l.serve bucket now).2).draw (l.serve bucket now).1.tokens
    refine ⟨draw :: draws, ⟨?_, ?_, hreadings, hmeter.saturating⟩, .cons rfl hmeter.drawn,
      fun t ht => ?_⟩
    · cases hgranted : (l.serve bucket now).2 <;> simp [draw, Answer.draw, hgranted]
    · have hlevel : draw.level + draw.amount = (l.bucketAt now bucket).tokens := htaken
      exact eq_sub_of_add_eq (hlevel.trans (hmeter.available now hreadings))
    · have hle : (l.serve bucket now).1.lastRefill ≤ t :=
        hrefill.le.trans (ht draw (List.mem_cons_self ..))
      have htokens := refill_tokens (l := l) hle
      rw [hrefill] at htokens
      exact htokens

theorem served_suffix {bucket : Option Bucket} {later earlier : List Answer} {a : Answer}
    (h : Served l bucket (later ++ a :: earlier)) :
    ∃ before, Served l before earlier ∧ a.granted = (l.serve before a.now).2 := by
  induction later generalizing bucket with
  | nil =>
    cases h with
    | next h key now => exact ⟨_, h, rfl⟩
  | cons b later ih =>
    cases h with
    | next h key now => exact ih h

end

/-- A call is granted exactly when no window that ends with it would have more granted than
the capacity and what the window refills, in every run in which the calls on the key take
the lock in the order of their readings. -/
theorem granted_iff (l : TokenBucketRateLimiter) (hrate : 0 ≤ l.refillPerSecond) (clock : ℚ)
    (chs : List (Choice ℕ ThreadInput)) (hreset : ∀ i, .start i .reset ∉ chs)
    (L : Loop ℕ LimiterState Answer Empty (fun _ => Unit) PyError)
    (hrun : run (threadRules l) (Loop.quiet ⟨clock, fun _ => none⟩) chs = some L) (key : String)
    (horder : InReadingOrder (answersOn key L.world.log)) (later earlier : List Answer)
    (a : Answer) (hanswers : answersOn key L.world.log = later ++ a :: earlier) :
    a.granted = true ↔ ∀ s ≤ a.now,
      (grantedWithin s a.now earlier : ℚ) + 1 ≤ l.capacity + l.refillPerSecond * (a.now - s) := by
  have hserved := keys_run (P := Served l) (fun _ _ key now h => h.next key now) .fresh clock
    (.inl hreset) hrun key
  rw [hanswers] at hserved horder
  obtain ⟨bucket, hbefore, hgranted⟩ := served_suffix hserved
  obtain ⟨hnow, hearlier⟩ := List.pairwise_cons.mp (List.pairwise_append.mp horder).2.1
  obtain ⟨draws, hmeter⟩ := meterOf_served hbefore hearlier
  have hreadings := hmeter.reading_le hnow
  rw [hgranted, serve_granted_iff, hmeter.available a.now hreadings,
    le_available_iff hrate hmeter.saturating hreadings]
  refine forall₂_congr fun s _ => ?_
  rw [← drawnWithin_eq_drawnSince s hreadings, drawnWithin_eq s a.now hmeter.drawn]

/-- Two calls on a key in one instant, between two on another key a second apart. -/
def crowded : List (Choice ℕ ThreadInput) :=
  [.start 0 (.allow "k"), .turn 0, .start 1 (.allow "other"), .turn 1, .start 1 (.allow "other"),
    .drift (.tick 1), .start 0 (.allow "k"), .turn 0, .turn 1]

/-- The second call of one instant is refused: it would be one too many in that instant. -/
theorem granted_iff_crowded :
    ∃ L, run (threadRules ⟨1, 1⟩) (Loop.quiet ⟨0, fun _ => none⟩) crowded = some L ∧
      answersOn "other" L.world.log = [⟨"other", 0, false⟩, ⟨"other", 0, true⟩] ∧
      (false = true ↔ ∀ s ≤ (0 : ℚ),
        (grantedWithin s 0 [⟨"other", 0, true⟩] : ℚ) + 1 ≤ 1 + 1 * (0 - s)) := by
  have hanswers : (run (threadRules ⟨1, 1⟩) (Loop.quiet ⟨0, fun _ => none⟩) crowded).map
      (fun L => answersOn "other" L.world.log) =
        some [⟨"other", 0, false⟩, ⟨"other", 0, true⟩] := by
    decide +kernel
  obtain ⟨L, hL, hlog⟩ := Option.map_eq_some_iff.mp hanswers
  have horder : InReadingOrder (answersOn "other" L.world.log) := by
    rw [hlog]
    simp [InReadingOrder]
  exact ⟨L, hL, hlog, granted_iff ⟨1, 1⟩ zero_le_one 0 crowded (by simp [crowded]) L hL "other"
    horder [] [⟨"other", 0, true⟩] ⟨"other", 0, false⟩ hlog⟩

end BimodalArbitrage.Api
