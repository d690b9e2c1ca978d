import BimodalArbitrage.Runtime.State

/-!
# The gateway (`backend/api/main.py`)

The random tensors a request is evaluated on are left out: the model may return any
signal for them.
-/

namespace BimodalArbitrage.Api
open Coop Execution BimodalArbitrage.Runtime
variable {N : Type} [PyFloat N]

def targetPair (request : TradeSignalRequest N) : String :=
  request.exchangeBuy ++ "->" ++ request.exchangeSell ++ ":" ++ request.symbol

def signalMetrics (signal : ArbitrageSignal N) : List (String × MetricValue N) :=
  [("execution_probability", .number signal.executionProbability),
    ("expected_alpha_bps", .number signal.expectedAlphaBps),
    ("adverse_hazard", .number signal.adverseHazard)]

def gateCall (request : TradeSignalRequest N) (signal : ArbitrageSignal N) : GateCall N where
  netAlphaBps := signal.expectedAlphaBps
  signal := signal
  limits := { defaultRiskLimits with minAlphaBps := request.minAlphaBps }
  tradeNotionalUsd := request.capitalAllocationUsd
  dailyNotionalUsedUsd := 0

/-- None of the comparisons that refuse holds; an undefined number is in none. -/
structure Passes (request : TradeSignalRequest N) (signal : ArbitrageSignal N) : Prop where
  alpha : ¬signal.expectedAlphaBps ≤ request.minAlphaBps
  probability : ¬signal.executionProbability ≤ defaultRiskLimits.minExecutionProbability
  hazard : ¬defaultRiskLimits.maxAdverseHazard ≤ signal.adverseHazard
  capital : ¬defaultRiskLimits.maxNotionalUsdPerTrade < request.capitalAllocationUsd
  daily : ¬defaultRiskLimits.maxDailyNotionalUsd < 0 + request.capitalAllocationUsd

theorem gateCall_verdict_iff (request : TradeSignalRequest N) (signal : ArbitrageSignal N) :
    (gateCall request signal).verdict.1 = true ↔ Passes request signal := by
  rw [GateCall.verdict, shouldExecute_eq_true_iff]
  simp only [Refused, Option.mem_some_iff, exists_eq_left', not_or]
  constructor
  · rintro ⟨-, ha, hp, hh, hc, hd⟩
    exact ⟨ha, hp, hh, hc, hd⟩
  · intro h
    exact ⟨Bool.false_ne_true, h.alpha, h.probability, h.hazard, h.capital, h.daily⟩

def rejected (request : TradeSignalRequest N) (reason : String)
    (metrics : List (String × MetricValue N)) : TradeSignalResponse N where
  status := "SIGNAL_REJECTED"
  reason := some reason
  metrics := metrics
  allocatedCapital := none
  targetPair := some (targetPair request)

def dispatched (request : TradeSignalRequest N) (signal : ArbitrageSignal N)
    (executionResult : TradeExecutionResult N) : TradeSignalResponse N where
  status := "ORDER_DISPATCHED"
  reason := none
  metrics := signalMetrics signal ++
    [("execution_status", .status executionResult.status),
      ("net_spread_pct", .number executionResult.netSpreadPct),
      ("realized_pnl_usd", .number executionResult.realizedPnlUsd)]
  allocatedCapital := some request.capitalAllocationUsd
  targetPair := some (targetPair request)

def userMismatch : TradeSignalResponse N where
  status := "SIGNAL_REJECTED"
  reason := some "user_id mismatch between token and request body"
  metrics := []
  allocatedCapital := none
  targetPair := none

def processArbitrageIntent (request : TradeSignalRequest N) (userId : String) :
    Proc (TradeSignalResponse N) N := do
  if request.userId ≠ userId then pure userMismatch
  else do
    let signal ← Coro.call Call.evaluateSpread
    Coro.report (.shouldExecute (.intent request) (gateCall request signal))
    if !(gateCall request signal).verdict.1 then
      pure (rejected request (gateCall request signal).verdict.2 (signalMetrics signal))
    else do
      Coro.report (.dispatchOrders request signal)
      let executionResult ← (Coro.call (Call.dispatchOrders request signal)).attempt
      match executionResult with
      | .error _ => pure (rejected request "order dispatch failed" (signalMetrics signal))
      | .ok executionResult => pure (dispatched request signal executionResult)

/-- `broken_leg.dispatch_orders`, which is not wired to live trading. -/
def dispatchOrders (_ : TradeSignalRequest N) (_ : ArbitrageSignal N) :
    Except PyError (TradeExecutionResult N) :=
  .error ⟨.notImplementedError,
    "Live order dispatch is not wired yet: backend.execution.broken_leg.dispatch_orders " ++
    "needs a real ExchangeClient (from backend.security-issued credentials) and live " ++
    "prices (from backend.marketdata). See DEPLOY.md's pre-launch checklist."⟩

end BimodalArbitrage.Api
