import BimodalArbitrage.Coop.Coro
import BimodalArbitrage.Execution.Orders

/-!
# Broken leg mitigation (`backend/execution/broken_leg.py`)
-/

namespace BimodalArbitrage.Execution
open Coop
variable {S Ev C : Type} {R : C → Type} {N : Type}

structure ExchangeClient (S Ev C : Type) (R : C → Type) (N : Type := ℚ) where
  placeIocOrder (exchange symbol : String) (side : Side) (amount price : N) :
    Coro S Ev C R PyError (LegResult N)
  placeLimitOrder (exchange symbol : String) (side : Side) (amount price : N) :
    Coro S Ev C R PyError (LegResult N)
  placeMarketOrder (exchange symbol : String) (side : Side) (amount : N) :
    Coro S Ev C R PyError (LegResult N)
  bestBid (exchange symbol : String) : Coro S Ev C R PyError N

/-- A client that is nothing but its calls: every reply is the exchange's. -/
def remoteClient : ExchangeClient S Ev (ClientCall N) ClientCall.Reply N where
  placeIocOrder exchange symbol side amount price :=
    Coro.call (ClientCall.placeIocOrder exchange symbol side amount price)
  placeLimitOrder exchange symbol side amount price :=
    Coro.call (ClientCall.placeLimitOrder exchange symbol side amount price)
  placeMarketOrder exchange symbol side amount :=
    Coro.call (ClientCall.placeMarketOrder exchange symbol side amount)
  bestBid exchange symbol := Coro.call (ClientCall.bestBid exchange symbol)

structure BrokenLegMitigator (S Ev C : Type) (R : C → Type) (N : Type := ℚ) where
  client : ExchangeClient S Ev C R N
  maxRepegs : ℕ

/-- The arguments of `execute_paired_orders`. -/
structure PairedOrders (N : Type := ℚ) where
  buyExchange : String
  sellExchange : String
  symbol : String
  amount : N
  buyPrice : N
  sellPrice : N
  grossSpreadPct : N
  netSpreadPct : N
  mlConfidenceScore : N
  highVolatility : Bool

namespace BrokenLegMitigator
variable [PyFloat N]

/-- The re-peg loop over `range(n)`, from `remaining` still open and
`filledTotal` filled so far. -/
def repeg (m : BrokenLegMitigator S Ev C R N) (exchange symbol : String) (side : Side) :
    ℕ → N → N → Coro S Ev C R PyError (N × N)
  | 0, remaining, filledTotal => pure (remaining, filledTotal)
  | n + 1, remaining, filledTotal =>
    if remaining ≤ 0 then pure (remaining, filledTotal)
    else do
      let pegPrice ← m.client.bestBid exchange symbol
      let result ← m.client.placeLimitOrder exchange symbol side remaining pegPrice
      m.repeg exchange symbol side n (remaining - result.filledAmount)
        (filledTotal + result.filledAmount)

/-- Flatten `amount` of the open leg; returns the total filled amount. -/
def autoHedge (m : BrokenLegMitigator S Ev C R N) (exchange symbol : String) (side : Side)
    (amount : N) (highVolatility : Bool) : Coro S Ev C R PyError N :=
  if highVolatility then do
    let result ← m.client.placeMarketOrder exchange symbol side amount
    pure result.filledAmount
  else do
    let (remaining, filledTotal) ← m.repeg exchange symbol side m.maxRepegs amount 0
    if remaining > 0 then do
      let result ← m.client.placeMarketOrder exchange symbol side remaining
      pure (filledTotal + result.filledAmount)
    else pure filledTotal

structure OpenLeg (N : Type := ℚ) where
  exchange : String
  amount : N
  hedgeSide : Side
  brokenReason : String

def openLeg (o : PairedOrders N) (buyResult sellResult : LegResult N) : OpenLeg N :=
  if buyResult.accepted then
    ⟨o.buyExchange, buyResult.filledAmount, .sell, "sell leg rejected: " ++ pyStr sellResult.reason⟩
  else
    ⟨o.sellExchange, sellResult.filledAmount, .buy, "buy leg rejected: " ++ pyStr buyResult.reason⟩

def report (o : PairedOrders N) (status : ExecutionStatus) (executedVolumeUsd realizedPnlUsd : N)
    (reason : Option String) : TradeExecutionResult N where
  status := status
  buyExchange := o.buyExchange
  sellExchange := o.sellExchange
  symbol := o.symbol
  executedVolumeUsd := executedVolumeUsd
  grossSpreadPct := o.grossSpreadPct
  netSpreadPct := o.netSpreadPct
  realizedPnlUsd := realizedPnlUsd
  mlConfidenceScore := o.mlConfidenceScore
  reason := reason

/-- What `execute_paired_orders` does once both legs are answered. -/
def mitigate (m : BrokenLegMitigator S Ev C R N) (o : PairedOrders N)
    (buyResult sellResult : LegResult N) : Coro S Ev C R PyError (TradeExecutionResult N) :=
  if buyResult.accepted && sellResult.accepted then
    let executedVolumeUsd := min buyResult.filledAmount sellResult.filledAmount * o.buyPrice
    pure (report o .SUCCESS executedVolumeUsd (executedVolumeUsd * o.netSpreadPct) none)
  else if !buyResult.accepted && !sellResult.accepted then
    pure (report o .REJECTED 0 0 (some ("both legs rejected: buy=" ++ pyStr buyResult.reason ++
      ", sell=" ++ pyStr sellResult.reason)))
  else do
    let leg := openLeg o buyResult sellResult
    let breakEvenPrice := if leg.hedgeSide = .sell then o.buyPrice else o.sellPrice
    let hedgeFilled ← m.autoHedge leg.exchange o.symbol leg.hedgeSide leg.amount o.highVolatility
    let status : ExecutionStatus := if hedgeFilled ≥ leg.amount then .HEDGED else .PARTIAL_FILL
    pure (report o status (leg.amount * breakEvenPrice) 0 (some leg.brokenReason))

def executePairedOrders (m : BrokenLegMitigator S Ev C R N) (o : PairedOrders N) :
    Coro S Ev C R PyError (TradeExecutionResult N) := do
  let (buyResult, sellResult) ← Coro.gather
    (m.client.placeIocOrder o.buyExchange o.symbol .buy o.amount o.buyPrice)
    (m.client.placeIocOrder o.sellExchange o.symbol .sell o.amount o.sellPrice)
  m.mitigate o buyResult sellResult

end BrokenLegMitigator
end BimodalArbitrage.Execution
