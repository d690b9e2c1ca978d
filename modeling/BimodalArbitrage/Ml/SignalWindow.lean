import BimodalArbitrage.Ml.Signal
import BimodalArbitrage.Window.Suffix
import Mathlib.Algebra.Order.Field.Basic

/-!
# The signal as a statistic of the last ticks

Both deques of the estimator are the end of what it was fed, also by updates that raised,
so what an update does is a function of the last ticks and of nothing before them. It
raises where the square of a deviation is out of the range of floats.
-/

namespace BimodalArbitrage.Ml

/-- The arguments of one `update`. -/
structure Tick (N : Type) where
  netAlphaBps : N
  midPriceReturn : N
  depthLiquidityHazard : N

namespace HeuristicSignalEstimator

section
variable {N : Type} [PyFloat N]

def mean (xs : List N) : N := PyFloat.sum xs / (xs.length : N)

def populationVariance (xs : List N) : N := mean (xs.map fun x => (x - mean xs) * (x - mean xs))

/-- A single return deviates from nothing. -/
def populationStdevBps (sqrt : N → N) (returns : List N) : N :=
  if 2 ≤ returns.length then sqrt (populationVariance returns) * 10000 else 0

def batchSignal (sqrt : N → N) (config : HeuristicConfig N) (window : List (Tick N))
    (latest : Tick N) : ArbitrageSignal N where
  executionProbability := PyFloat.ratio ((window.map Tick.netAlphaBps).countP fun a => 0 < a)
    window.length
  expectedAlphaBps := latest.netAlphaBps
  adverseHazard := max
    (min 1 (populationStdevBps sqrt (window.map Tick.midPriceReturn) /
      config.volatilityHazardScaleBps))
    latest.depthLiquidityHazard

/-- The estimator after updates with `ticks`, whether they returned or raised. -/
def feed (config : HeuristicConfig N) (ticks : List (Tick N)) : HeuristicSignalEstimator N :=
  ticks.foldl (fun h t => h.remember config t.netAlphaBps t.midPriceReturn) initial

/-- What the update with the latest tick does when `past` was fed before it. -/
def signalAfter (sqrt : N → N) (config : HeuristicConfig N) (past : List (Tick N))
    (latest : Tick N) : Except PyError (ArbitrageSignal N) := do
  let (_, signal) ← (feed config past).update sqrt config latest.netAlphaBps latest.midPriceReturn
    latest.depthLiquidityHazard
  pure signal

theorem populationVariance_eq (xs : List N) :
    populationVariance xs =
      PyFloat.sum (xs.map fun x => (x - mean xs) * (x - mean xs)) / (xs.length : N) := by
  show PyFloat.sum (xs.map _) / ((xs.map _).length : N) = _
  rw [List.length_map]

omit [PyFloat N] in
theorem feed_snoc (config : HeuristicConfig N) (past : List (Tick N)) (latest : Tick N) :
    feed config (past ++ [latest]) =
      (feed config past).remember config latest.netAlphaBps latest.midPriceReturn := by
  rw [feed, List.foldl_append]
  rfl

omit [PyFloat N] in
theorem feed_eq (config : HeuristicConfig N) (ticks : List (Tick N)) :
    feed config ticks = ⟨(ticks.map Tick.netAlphaBps).rtake config.windowSize,
      (ticks.map Tick.midPriceReturn).rtake config.windowSize⟩ := by
  induction ticks using List.reverseRecOn with
  | nil =>
    simp only [List.map_nil, List.rtake_nil]
    rfl
  | append_singleton past latest ih =>
    rw [feed_snoc, ih, remember, pushBounded_rtake, pushBounded_rtake, List.map_append,
      List.map_append]
    rfl

/-- The update keeps what `feed` says, where it returns. -/
theorem update_feed {sqrt : N → N} {config : HeuristicConfig N} {past : List (Tick N)}
    {latest : Tick N} {h : HeuristicSignalEstimator N} {signal : ArbitrageSignal N}
    (hupdate : (feed config past).update sqrt config latest.netAlphaBps latest.midPriceReturn
      latest.depthLiquidityHazard = .ok (h, signal)) : h = feed config (past ++ [latest]) := by
  obtain ⟨stdev, -, hrest⟩ := bind_ok hupdate
  obtain ⟨volatility, -, hrest⟩ := bind_ok hrest
  cases hrest
  exact (feed_snoc config past latest).symm

end

/-! ### Machine numbers -/

/-- The square of a finite deviation from the mean is out of range. -/
def OutOfRange (returns : List Binary64) : Prop :=
  2 ≤ returns.length ∧ ∃ r ∈ returns, (r - mean returns).IsFinite ∧
    ¬((r - mean returns) * (r - mean returns)).IsFinite

instance (returns : List Binary64) : Decidable (OutOfRange returns) := by
  unfold OutOfRange
  infer_instance

/-- The batch statistic, or the exception of its squares. -/
def batchAnswer (sqrt : Binary64 → Binary64) (config : HeuristicConfig Binary64)
    (window : List (Tick Binary64)) (latest : Tick Binary64) :
    Except PyError (ArbitrageSignal Binary64) :=
  if OutOfRange (window.map Tick.midPriceReturn) then .error Binary64.overflowError
  else .ok (batchSignal sqrt config window latest)

section
variable {sqrt : Binary64 → Binary64} {config : HeuristicConfig Binary64}

theorem stdevBps_eq (sqrt : Binary64 → Binary64) (returns : List Binary64) :
    stdevBps sqrt returns.length returns =
      if OutOfRange returns then .error Binary64.overflowError
      else .ok (populationStdevBps sqrt returns) := by
  unfold stdevBps populationStdevBps OutOfRange
  split
  · next hmany =>
    have hlength : ¬((returns.length : Binary64) == 0) = true := Binary64.natCast_ne_zero (by omega)
    have hsquares := mapM_ite (f := fun r => PyFloat.square (r - mean returns))
      (g := fun r => (r - mean returns) * (r - mean returns))
      (P := fun r => (r - mean returns).IsFinite ∧
        ¬((r - mean returns) * (r - mean returns)).IsFinite)
      (e := Binary64.overflowError) (fun r => rfl) returns
    rw [pyDiv_of_not_beq hlength, ok_bind, ← mean, hsquares]
    by_cases hout : ∃ r ∈ returns, (r - mean returns).IsFinite ∧
        ¬((r - mean returns) * (r - mean returns)).IsFinite
    · rw [if_pos hout, if_pos ⟨hmany, hout⟩]
      rfl
    · rw [if_neg hout, if_neg fun h => hout h.2, ok_bind, pyDiv_of_not_beq hlength, ok_bind,
        populationVariance_eq]
      rfl
  · next hfew =>
    rw [if_neg fun h => hfew h.1]
    rfl

theorem persistence_ratio (alphas : List Binary64) :
    persistence alphas = PyFloat.ratio (alphas.countP fun a => 0 < a) alphas.length := by
  by_cases hlength : alphas.length = 0
  · obtain rfl := List.length_eq_zero_iff.mp hlength
    exact congrArg Rounding.Floating.ofRat (div_zero _).symm
  · exact if_neg hlength

theorem signalAfter_eq (hscale : 0 < config.volatilityHazardScaleBps)
    (past : List (Tick Binary64)) (latest : Tick Binary64) :
    signalAfter sqrt config past latest =
      batchAnswer sqrt config ((past ++ [latest]).rtake config.windowSize) latest := by
  have hscale' : ¬(config.volatilityHazardScaleBps == 0) = true :=
    not_beq_of_not_le (PyFloat.not_le_of_lt hscale)
  have hlength : ((past ++ [latest]).map Tick.netAlphaBps |>.rtake config.windowSize).length =
      ((past ++ [latest]).map Tick.midPriceReturn |>.rtake config.windowSize).length := by
    simp only [Window.length_rtake, List.length_map]
  rw [signalAfter, update, ← feed_snoc, feed_eq, hlength, stdevBps_eq, batchAnswer,
    ← Window.rtake_map]
  by_cases hout : OutOfRange (((past ++ [latest]).map Tick.midPriceReturn).rtake config.windowSize)
  · rw [if_pos hout, if_pos hout]
    rfl
  · rw [if_neg hout, if_neg hout, ok_bind, pyDiv_of_not_beq hscale', ok_bind, persistence_ratio,
      batchSignal]
    simp only [← Window.rtake_map, Window.length_rtake, List.length_map]
    rfl

theorem signalAfter_ok {past : List (Tick Binary64)} {latest : Tick Binary64}
    {signal : ArbitrageSignal Binary64} (hscale : 0 < config.volatilityHazardScaleBps)
    (hsignal : signalAfter sqrt config past latest = .ok signal) :
    signal = batchSignal sqrt config ((past ++ [latest]).rtake config.windowSize) latest := by
  rw [signalAfter_eq hscale, batchAnswer] at hsignal
  split at hsignal
  · cases hsignal
  · exact (Except.ok.inj hsignal).symm

/-- A share of a whole is in [0, 1], also rounded. -/
theorem ratio_mem {p q : ℕ} (h : p ≤ q) :
    (0 : Binary64) ≤ PyFloat.ratio p q ∧ PyFloat.ratio p q ≤ (1 : Binary64) := by
  have hcast : (p : ℚ) ≤ q := Nat.cast_le.mpr h
  have hnonneg : (0 : ℚ) ≤ p / q := div_nonneg (Nat.cast_nonneg p) (Nat.cast_nonneg q)
  have hle : (p : ℚ) / q ≤ 1 := div_le_one_of_le₀ hcast (Nat.cast_nonneg q)
  exact ⟨Rounding.Floating.ofRat_mono (by simpa using hnonneg),
    Rounding.Floating.ofRat_mono (by simpa using hle)⟩

theorem adverseHazard_mem (window : List (Tick Binary64)) {latest : Tick Binary64}
    (hhazard : 0 ≤ latest.depthLiquidityHazard) (hhazard' : latest.depthLiquidityHazard ≤ 1) :
    0 ≤ (batchSignal sqrt config window latest).adverseHazard ∧
      (batchSignal sqrt config window latest).adverseHazard ≤ 1 := by
  have hone : (1 : Binary64) ≠ .nan := Rounding.Floating.ofRat_ne_nan _
  have hvolatility := Rounding.Floating.min_le_left hone
    (b := populationStdevBps sqrt (window.map Tick.midPriceReturn) /
      config.volatilityHazardScaleBps)
  have hdepth := Rounding.Floating.le_max_right (Rounding.Floating.ne_nan_of_le hvolatility).1
    (Rounding.Floating.ne_nan_of_le hhazard').1
  exact ⟨Rounding.Floating.le_trans hhazard hdepth, Rounding.Floating.max_le hvolatility hhazard'⟩

end

/-- What the update with the latest tick does is `answer` of the last ticks; what it returns is
in [0, 1], and it forgets what came before them. -/
structure SlidingSignal (sqrt : Binary64 → Binary64) (config : HeuristicConfig Binary64)
    (answer : List (Tick Binary64) → Tick Binary64 → Except PyError (ArbitrageSignal Binary64)) :
    Prop where
  lengths : ∀ ticks, (feed config ticks).alphaHistory.length =
    (feed config ticks).returnHistory.length
  fed : ∀ past latest h signal, (feed config past).update sqrt config latest.netAlphaBps
    latest.midPriceReturn latest.depthLiquidityHazard = .ok (h, signal) →
      h = feed config (past ++ [latest])
  batch : ∀ past latest, signalAfter sqrt config past latest =
    answer ((past ++ [latest]).rtake config.windowSize) latest
  probabilities : ∀ past latest signal, 0 ≤ latest.depthLiquidityHazard →
    latest.depthLiquidityHazard ≤ 1 → signalAfter sqrt config past latest = .ok signal →
      (0 ≤ signal.executionProbability ∧ signal.executionProbability ≤ 1) ∧
        0 ≤ signal.adverseHazard ∧ signal.adverseHazard ≤ 1
  forgets : ∀ past past' recent latest, (recent ++ [latest]).length = config.windowSize →
    signalAfter sqrt config (past ++ recent) latest =
      signalAfter sqrt config (past' ++ recent) latest

theorem signal_slides (sqrt : Binary64 → Binary64) (config : HeuristicConfig Binary64)
    (hscale : 0 < config.volatilityHazardScaleBps) :
    SlidingSignal sqrt config (batchAnswer sqrt config) where
  lengths ticks := by
    simp only [feed_eq, Window.length_rtake, List.length_map]
  fed _ _ _ _ hupdate := update_feed hupdate
  batch past latest := signalAfter_eq hscale past latest
  probabilities past latest signal hhazard hhazard' hsignal := by
    rw [signalAfter_ok hscale hsignal]
    refine ⟨?_, adverseHazard_mem _ hhazard hhazard'⟩
    rw [batchSignal, ← List.length_map Tick.netAlphaBps]
    exact ratio_mem List.countP_le_length
  forgets past past' recent latest hlength := by
    rw [signalAfter_eq hscale, signalAfter_eq hscale, List.append_assoc, List.append_assoc,
      Window.rtake_forgets past past' hlength.ge]

/-- Of three ticks a window of two keeps the last two, and half of them are positive. -/
theorem signal_slides_two :
    SlidingSignal id ⟨2, 50⟩ (batchAnswer id ⟨2, 50⟩) ∧
      signalAfter (N := Binary64) id ⟨2, 50⟩ [⟨10, 0, 0⟩, ⟨-10, 0, 0⟩] ⟨10, 2, 0.25⟩ =
        .ok ⟨0.5, 10, 1⟩ :=
  ⟨signal_slides id ⟨2, 50⟩ (by decide +kernel), by decide +kernel⟩

/-- The square of half of 1e155 is out of range. -/
theorem signal_slides_overflow :
    ¬SlidingSignal id defaultHeuristicConfig fun window latest =>
      .ok (batchSignal id defaultHeuristicConfig window latest) := by
  intro h
  have hbatch := h.batch [⟨1, 0, 0⟩] ⟨1, 1e155, 0⟩
  have hraised : signalAfter (N := Binary64) id defaultHeuristicConfig [⟨1, 0, 0⟩] ⟨1, 1e155, 0⟩ =
      .error Binary64.overflowError := by decide +kernel
  exact nomatch hraised.symm.trans hbatch

end HeuristicSignalEstimator
end BimodalArbitrage.Ml
