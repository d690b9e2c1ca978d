import BimodalArbitrage.Python

/-!
# Shared data contracts (`backend/schemas.py`)

Where no numbers are named they are exact.
-/

namespace BimodalArbitrage

inductive TradingMode where
  | testnet
  | live
  deriving DecidableEq, Repr

inductive ExecutionStatus where
  | SUCCESS
  | PARTIAL_FILL
  | HEDGED
  | REJECTED
  deriving DecidableEq, Repr

def ExecutionStatus.value : ExecutionStatus → String
  | .SUCCESS => "SUCCESS"
  | .PARTIAL_FILL => "PARTIAL_FILL"
  | .HEDGED => "HEDGED"
  | .REJECTED => "REJECTED"

structure OrderBookLevel (N : Type := ℚ) where
  price : N
  volume : N
  deriving DecidableEq

/-- L2 snapshot for one symbol on one exchange; `timestamp` in seconds. -/
structure OrderBookSnapshot (N : Type := ℚ) where
  exchange : String
  symbol : String
  timestamp : N
  bids : List (OrderBookLevel N)
  asks : List (OrderBookLevel N)
  deriving DecidableEq

structure TemporalFeatures (N : Type := ℚ) where
  window : List (List N)

def TemporalFeatures.FEATURE_COUNT : ℕ := 12
def TemporalFeatures.WINDOW_SIZE : ℕ := 100

structure DepthMatrix (N : Type := ℚ) where
  grid : List (List N)

def DepthMatrix.SIZE : ℕ := 50

structure ArbitrageSignal (N : Type) where
  executionProbability : N
  expectedAlphaBps : N
  adverseHazard : N
  deriving DecidableEq

structure RiskLimits (N : Type) where
  minAlphaBps : N
  minExecutionProbability : N
  maxAdverseHazard : N
  maxNotionalUsdPerTrade : N
  maxDailyNotionalUsd : N
  killSwitchEngaged : Bool

/-- `RiskLimits()`. -/
def defaultRiskLimits {N : Type} [PyFloat N] : RiskLimits N where
  minAlphaBps := 15
  minExecutionProbability := 0.85
  maxAdverseHazard := 0.20
  maxNotionalUsdPerTrade := 50
  maxDailyNotionalUsd := 500
  killSwitchEngaged := false

structure TradeExecutionResult (N : Type := ℚ) where
  status : ExecutionStatus
  buyExchange : String
  sellExchange : String
  symbol : String
  executedVolumeUsd : N
  grossSpreadPct : N
  netSpreadPct : N
  realizedPnlUsd : N
  mlConfidenceScore : N
  reason : Option String
  deriving DecidableEq

end BimodalArbitrage
