import BimodalArbitrage.Coop.Frame
import BimodalArbitrage.Execution.PaperExchange
import BimodalArbitrage.Execution.Triangular

/-!
# Trades on the paper exchange

No order is refused and none raises, so both mitigators report a success for what
was asked.
-/

namespace BimodalArbitrage.Execution
open Coop BimodalArbitrage.Runtime
variable {S Ev C : Type} {R : C → Type} {N : Type} [PyFloat N]

def filledPair (o : PairedOrders N) : TradeExecutionResult N :=
  BrokenLegMitigator.report o .SUCCESS (min o.amount o.amount * o.buyPrice)
    (min o.amount o.amount * o.buyPrice * o.netSpreadPct) none

theorem filledPair_executedVolumeUsd (o : PairedOrders) :
    (filledPair o).executedVolumeUsd = o.amount * o.buyPrice := by
  simp only [filledPair, BrokenLegMitigator.report, min_self]

/-- The legs of a pair, each filled in a turn of its own. -/
def pairFills (p : PaperExchangeClient S Ev C R N) (o : PairedOrders N) :
    Coro S Ev C R PyError Unit := do
  Coro.yield
  Coro.report (p.paperFill o.buyExchange o.symbol .buy o.amount o.buyPrice)
  Coro.yield
  Coro.report (p.paperFill o.sellExchange o.symbol .sell o.amount o.sellPrice)
  Coro.yield

def filledTriangle (o : TriangleOrders N) : TradeExecutionResult N :=
  TriangularMitigator.report o .SUCCESS o.quoteNotionalUsd (o.quoteNotionalUsd * o.netSpreadPct)
    none

def triangleFills (p : PaperExchangeClient S (Event N) C R N) (o : TriangleOrders N) :
    Coro S (Event N) C R PyError Unit := do
  let leg (market : TriangleMarket) (side : Side) (amount price : N) := do
    Coro.yield
    Coro.report (.onMarket market)
    Coro.report (p.paperFill o.triangle.exchange (o.triangle.symbolOf market) side amount price)
  leg .bridgeQuote .buy o.bridgeQty o.bridgeQuotePrice
  leg .targetBridge .buy o.targetQty o.targetBridgePrice
  leg .targetQuote .sell o.targetQty o.targetQuotePrice
  Coro.yield

/-! ### Footprints -/

omit [PyFloat N] in
theorem acts_pairFills {T : S → S → Prop} {P : Ev → Prop} {p : PaperExchangeClient S Ev C R N}
    (hfill : ∀ exchange symbol side amount price, P (p.paperFill exchange symbol side amount price))
    (o : PairedOrders N) (s : S) : (pairFills p o).Acts T P s :=
  fun _ => ⟨hfill .., fun _ => ⟨hfill .., fun _ => trivial⟩⟩

theorem acts_triangleFills {T : S → S → Prop} {P : Event N → Prop}
    {p : PaperExchangeClient S (Event N) C R N}
    (hfill : ∀ exchange symbol side amount price, P (p.paperFill exchange symbol side amount price))
    (hmarket : ∀ market, P (.onMarket market)) (o : TriangleOrders N) (s : S) :
    (triangleFills p o).Acts T P s :=
  fun _ => ⟨hmarket _, hfill .., fun _ => ⟨hmarket _, hfill .., fun _ =>
    ⟨hmarket _, hfill .., fun _ => trivial⟩⟩⟩

end BimodalArbitrage.Execution
