import BimodalArbitrage.Api.Contracts
import BimodalArbitrage.Execution.Decision
import BimodalArbitrage.Execution.BrokenLeg

/-!
# What an observer of the process sees

The events name the calls the program's promises are about. They are ghosts: no
code of the process reads them.
-/

namespace BimodalArbitrage.Runtime
open Execution Api

inductive MonitorId where
  | pair (k : ℕ)
  | triangle (k : ℕ)
  deriving DecidableEq

/-- A market data feed, named by the monitor it belongs to and its role there. -/
inductive Feed where
  | buy (k : ℕ)
  | sell (k : ℕ)
  | leg (k : ℕ) (market : TriangleMarket)
  deriving DecidableEq

def Feed.monitor : Feed → MonitorId
  | .buy k => .pair k
  | .sell k => .pair k
  | .leg k _ => .triangle k

inductive TaskId where
  | runForever
  | run (m : MonitorId)
  | feed (f : Feed)
  | request (n : ℕ)
  | dashboard (n : ℕ)
  deriving DecidableEq

/-- The arguments of a `should_execute` call; every caller passes a notional. -/
structure GateCall (N : Type := ℚ) where
  netAlphaBps : N
  signal : ArbitrageSignal N
  limits : RiskLimits N
  tradeNotionalUsd : N
  dailyNotionalUsedUsd : N

def GateCall.verdict {N : Type} [PyFloat N] (g : GateCall N) : Bool × String :=
  shouldExecute g.netAlphaBps g.signal g.limits (some g.tradeNotionalUsd) g.dailyNotionalUsedUsd

inductive GatePath (N : Type := ℚ) [PyFloat N] where
  | monitor (m : MonitorId)
  | intent (request : TradeSignalRequest N)

/-- What a pair monitor does with the books of its buy side. -/
inductive BookUse (N : Type := ℚ) where
  | temporalUpdate (snapshot : OrderBookSnapshot N)
  | depthUpdate (snapshot : OrderBookSnapshot N)
  | heuristicUpdate (buySnapshot : OrderBookSnapshot N) (temporal : TemporalFeatures N)
      (depth : DepthMatrix N)

inductive Event (N : Type := ℚ) [PyFloat N] where
  | evaluateOnce (m : MonitorId)
  | evaluationOver (m : MonitorId)
  | waitsForLock (f : Feed)
  | shouldExecute (path : GatePath N) (call : GateCall N)
  | executePairedOrders (k : ℕ) (asks : List (OrderBookLevel N)) (orders : PairedOrders N)
  | executeTriangle (k : ℕ) (quoteNotionalUsd : N)
  | dispatchOrders (request : TradeSignalRequest N) (signal : ArbitrageSignal N)
  | onMarket (market : TriangleMarket)
  | paperFill (m : MonitorId) (exchange symbol : String) (side : Side) (amount price : N)
  | executed (m : MonitorId) (result : TradeExecutionResult N)
  | runRaised (m : MonitorId)
  | book (k : ℕ) (use : BookUse N)

end BimodalArbitrage.Runtime
