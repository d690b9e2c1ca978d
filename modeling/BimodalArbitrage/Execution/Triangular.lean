import BimodalArbitrage.Execution.BrokenLeg
import BimodalArbitrage.Runtime.Trace

/-!
# Triangular execution (`backend/execution/triangular.py`)

Every order is announced by the market it is placed on: two markets of a
degenerate triangle may share one symbol, their roles stay apart.
-/

namespace BimodalArbitrage.Execution
open Coop BimodalArbitrage.Runtime
variable {S C : Type} {R : C → Type} {N : Type}

structure TriangularMitigator (S C : Type) (R : C → Type) (N : Type := ℚ) [PyFloat N] where
  client : ExchangeClient S (Event N) C R N

/-- The arguments of `execute_triangle`. -/
structure TriangleOrders (N : Type := ℚ) where
  triangle : TriangleConfig
  quoteNotionalUsd : N
  bridgeQuotePrice : N
  targetBridgePrice : N
  targetQuotePrice : N
  bridgeQty : N
  targetQty : N
  grossSpreadPct : N
  netSpreadPct : N
  mlConfidenceScore : N

namespace TriangularMitigator
variable [PyFloat N]

def placeLeg (m : TriangularMitigator S C R N) (t : TriangleConfig) (market : TriangleMarket)
    (side : Side) (amount price : N) : Coro S (Event N) C R PyError (LegResult N) := do
  Coro.report (.onMarket market)
  m.client.placeIocOrder t.exchange (t.symbolOf market) side amount price

/-- Sell `amount` at market; returns the proceeds. -/
def unwind (m : TriangularMitigator S C R N) (t : TriangleConfig) (market : TriangleMarket)
    (amount : N) : Coro S (Event N) C R PyError N := do
  Coro.report (.onMarket market)
  let unwind ← m.client.placeMarketOrder t.exchange (t.symbolOf market) .sell amount
  pure (unwind.filledAmount * unwind.avgPrice)

def report (o : TriangleOrders N) (status : ExecutionStatus)
    (executedVolumeUsd realizedPnlUsd : N) (reason : Option String) : TradeExecutionResult N where
  status := status
  buyExchange := o.triangle.exchange
  sellExchange := o.triangle.exchange
  symbol := o.triangle.label
  executedVolumeUsd := executedVolumeUsd
  grossSpreadPct := o.grossSpreadPct
  netSpreadPct := o.netSpreadPct
  realizedPnlUsd := realizedPnlUsd
  mlConfidenceScore := o.mlConfidenceScore
  reason := reason

def unwindNotional (m : TriangularMitigator S C R N) (t : TriangleConfig)
    (leg1 leg2 leg3 : LegResult N) : Coro S (Event N) C R PyError N :=
  if leg1.accepted && !leg2.accepted then
    m.unwind t .bridgeQuote leg1.filledAmount
  else if leg1.accepted && leg2.accepted && !leg3.accepted then
    m.unwind t .targetQuote leg2.filledAmount
  else pure 0

/-- What `execute_triangle` does once the three legs are answered. -/
def mitigate (m : TriangularMitigator S C R N) (o : TriangleOrders N)
    (leg1 leg2 leg3 : LegResult N) : Coro S (Event N) C R PyError (TradeExecutionResult N) :=
  if leg1.accepted && leg2.accepted && leg3.accepted then
    pure (report o .SUCCESS o.quoteNotionalUsd (o.quoteNotionalUsd * o.netSpreadPct) none)
  else if !leg1.accepted && !leg2.accepted && !leg3.accepted then
    pure (report o .REJECTED 0 0 (some ("all three legs rejected: " ++ pyStr leg1.reason ++ ", " ++
      pyStr leg2.reason ++ ", " ++ pyStr leg3.reason)))
  else do
    let unwindNotional ← m.unwindNotional o.triangle leg1 leg2 leg3
    let status : ExecutionStatus := if unwindNotional > 0 then .HEDGED else .PARTIAL_FILL
    pure (report o status unwindNotional 0 (some ("partial fill: leg1=" ++ pyBool leg1.accepted ++
      " leg2=" ++ pyBool leg2.accepted ++ " leg3=" ++ pyBool leg3.accepted)))

def executeTriangle (m : TriangularMitigator S C R N) (o : TriangleOrders N) :
    Coro S (Event N) C R PyError (TradeExecutionResult N) := do
  let (leg1, leg2, leg3) ← Coro.gather3
    (m.placeLeg o.triangle .bridgeQuote .buy o.bridgeQty o.bridgeQuotePrice)
    (m.placeLeg o.triangle .targetBridge .buy o.targetQty o.targetBridgePrice)
    (m.placeLeg o.triangle .targetQuote .sell o.targetQty o.targetQuotePrice)
  m.mitigate o leg1 leg2 leg3

end TriangularMitigator
end BimodalArbitrage.Execution
