import BimodalArbitrage.Schemas

/-!
# The signal of the runner (`backend/ml/heuristic.py`, `depth_signal.py`)
-/

namespace BimodalArbitrage.Ml

structure HeuristicConfig (N : Type := ℚ) where
  windowSize : ℕ
  volatilityHazardScaleBps : N

structure HeuristicSignalEstimator (N : Type := ℚ) where
  alphaHistory : List N
  returnHistory : List N

section
variable {N : Type} [PyFloat N]

/-- `HeuristicConfig()`. -/
def defaultHeuristicConfig : HeuristicConfig N := ⟨30, 50⟩

namespace HeuristicSignalEstimator

def initial : HeuristicSignalEstimator N := ⟨[], []⟩

/-- The fraction of remembered ticks with a positive net alpha. -/
def persistence (alphas : List N) : N :=
  let n := alphas.length
  if n = 0 then 0 else PyFloat.ratio (alphas.countP fun a => 0 < a) n

/-- Standard deviation of the remembered returns, in bps; `n` ticks are remembered. -/
def stdevBps (sqrt : N → N) (n : ℕ) (returns : List N) : Except PyError N :=
  if n ≥ 2 then do
    let meanReturn ← pyDiv (PyFloat.sum returns) (n : N)
    let squares ← returns.mapM fun r => PyFloat.square (r - meanReturn)
    let variance ← pyDiv (PyFloat.sum squares) (n : N)
    pure (sqrt variance * 10000)
  else pure 0

/-- The estimator once the latest tick is appended, which is before anything is computed. -/
def remember (config : HeuristicConfig N) (h : HeuristicSignalEstimator N)
    (netAlphaBps midPriceReturn : N) : HeuristicSignalEstimator N where
  alphaHistory := pushBounded config.windowSize h.alphaHistory netAlphaBps
  returnHistory := pushBounded config.windowSize h.returnHistory midPriceReturn

/-- Feed the latest tick; `sqrt` is the square root of floats. -/
def update (sqrt : N → N) (config : HeuristicConfig N) (h : HeuristicSignalEstimator N)
    (netAlphaBps midPriceReturn depthLiquidityHazard : N) :
    Except PyError (HeuristicSignalEstimator N × ArbitrageSignal N) := do
  let h' := h.remember config netAlphaBps midPriceReturn
  let persistence := persistence h'.alphaHistory
  let stdevBps ← stdevBps sqrt h'.alphaHistory.length h'.returnHistory
  let volatility ← pyDiv stdevBps config.volatilityHazardScaleBps
  let hazard := max (min 1 volatility) depthLiquidityHazard
  pure (h', ⟨persistence, netAlphaBps, hazard⟩)

/-- Every deviation of a remembered return from their mean has a square in range. -/
def SquaresFit (config : HeuristicConfig N) (h : HeuristicSignalEstimator N)
    (midPriceReturn : N) : Prop :=
  let n := min (h.alphaHistory.length + 1) config.windowSize
  let returns := pushBounded config.windowSize h.returnHistory midPriceReturn
  2 ≤ n → ∀ r ∈ returns, ∃ square, PyFloat.square (r - PyFloat.sum returns / (n : N)) = .ok square

section
variable (hcast : ∀ n : ℕ, 0 < n → ¬((n : N) == 0) = true)
include hcast

theorem stdevBps_returns_iff (sqrt : N → N) (n : ℕ) (returns : List N) :
    (∃ stdev, stdevBps sqrt n returns = .ok stdev) ↔
      (2 ≤ n → ∀ r ∈ returns, ∃ square,
        PyFloat.square (r - PyFloat.sum returns / (n : N)) = .ok square) := by
  unfold stdevBps
  split
  · next hmany =>
    have hn : ¬((n : N) == 0) = true := hcast n (by omega)
    rw [forall_prop_of_true hmany, pyDiv_of_not_beq hn, ok_bind, ← mapM_returns, bind_returns]
    refine exists_congr fun squares => and_iff_left ?_
    rw [pyDiv_of_not_beq hn, ok_bind]
    exact ⟨_, rfl⟩
  · next hfew => exact iff_of_true ⟨_, rfl⟩ fun hmany => absurd hmany hfew

/-- Nothing but a square out of range raises. -/
theorem update_returns_iff (sqrt : N → N) {config : HeuristicConfig N}
    (hscale : ¬(config.volatilityHazardScaleBps == 0) = true) (h : HeuristicSignalEstimator N)
    (netAlphaBps midPriceReturn depthLiquidityHazard : N) :
    (∃ r, h.update sqrt config netAlphaBps midPriceReturn depthLiquidityHazard = .ok r) ↔
      h.SquaresFit config midPriceReturn := by
  have hlength := length_pushBounded config.windowSize h.alphaHistory netAlphaBps
  have hstdev := stdevBps_returns_iff hcast sqrt
    (pushBounded config.windowSize h.alphaHistory netAlphaBps).length
    (pushBounded config.windowSize h.returnHistory midPriceReturn)
  rw [hlength] at hstdev
  rw [update, bind_returns, remember, hlength, SquaresFit, ← hstdev]
  refine exists_congr fun stdev => and_iff_left ?_
  rw [pyDiv_of_not_beq hscale, ok_bind]
  exact ⟨_, rfl⟩

end

end HeuristicSignalEstimator
end

namespace HeuristicSignalEstimator

def positiveShare (alphas : List ℚ) : ℚ := (alphas.countP fun a => 0 < a) / alphas.length

theorem persistence_eq (alphas : List ℚ) : persistence alphas = positiveShare alphas := by
  by_cases hlength : alphas.length = 0
  · obtain rfl := List.length_eq_zero_iff.mp hlength
    exact (zero_div _).symm
  · simp only [persistence, hlength, if_false]
    rfl

theorem update_ok {sqrt : ℚ → ℚ} {config : HeuristicConfig} {h h' : HeuristicSignalEstimator}
    {netAlphaBps midPriceReturn depthLiquidityHazard : ℚ} {signal : ArbitrageSignal ℚ}
    (hupdate : h.update sqrt config netAlphaBps midPriceReturn depthLiquidityHazard =
      .ok (h', signal)) :
    h'.alphaHistory = pushBounded config.windowSize h.alphaHistory netAlphaBps ∧
      signal.executionProbability = positiveShare h'.alphaHistory := by
  obtain ⟨stdev, -, hrest⟩ := bind_ok hupdate
  obtain ⟨volatility, -, hrest⟩ := bind_ok hrest
  cases hrest
  exact ⟨rfl, persistence_eq _⟩

end HeuristicSignalEstimator

def nearTouchBins : ℕ := 5

inductive BookSide where
  | ask
  | bid
  deriving DecidableEq

/-- How much of the resting liquidity near the touch `quantity` would consume. -/
def computeDepthLiquidityHazard {N : Type} [PyFloat N] (depthMatrix : DepthMatrix N) (quantity : N)
    (side : BookSide) : Except PyError N :=
  match depthMatrix.grid.getLast? with
  | none => pure 0
  | some row =>
    if quantity ≤ 0 then pure 0
    else
      let half := row.length / 2
      let bins := match side with
        | .ask => (row.drop half).take nearTouchBins
        | .bid => (row.take half).drop (half - nearTouchBins)
      let nearTouchLiquidity := PyFloat.sum bins
      if nearTouchLiquidity ≤ 0 then pure 1
      else do
        let share ← pyDiv quantity nearTouchLiquidity
        pure (min 1 share)

theorem computeDepthLiquidityHazard_total {N : Type} [PyFloat N] (depthMatrix : DepthMatrix N)
    (quantity : N) (side : BookSide) :
    ∃ hazard, computeDepthLiquidityHazard depthMatrix quantity side = .ok hazard := by
  have hshare (liquidity : N) : ∃ hazard : N, (if liquidity ≤ 0 then pure 1
      else do
        let share ← pyDiv quantity liquidity
        pure (min 1 share) : Except PyError N) = .ok hazard := by
    split
    · exact ⟨1, rfl⟩
    next hliquid =>
      rw [pyDiv_of_not_beq (not_beq_of_not_le hliquid)]
      exact ⟨_, rfl⟩
  unfold computeDepthLiquidityHazard
  split
  · exact ⟨0, rfl⟩
  · split
    · exact ⟨0, rfl⟩
    · exact hshare _

end BimodalArbitrage.Ml
