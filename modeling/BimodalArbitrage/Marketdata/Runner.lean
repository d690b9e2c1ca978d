import BimodalArbitrage.Execution.Alpha
import BimodalArbitrage.Execution.PaperExchange
import BimodalArbitrage.Execution.Triangular
import BimodalArbitrage.Runtime.State

/-!
# The paper-trading monitors (`backend/marketdata/runner.py`)
-/

namespace BimodalArbitrage.Marketdata
open Coop Execution Ml BimodalArbitrage.Runtime
variable {N : Type} [PyFloat N]

def paperExchange (m : MonitorId) :
    PaperExchangeClient (AppState N) (Event N) (Call N) Call.Reply N :=
  ⟨cache, Event.paperFill m⟩

def paperClient (m : MonitorId) : ExchangeClient (AppState N) (Event N) (Call N) Call.Reply N :=
  (paperExchange m).toExchangeClient

/-! ### What both monitors do -/

/-- `self._heuristic.update(...)`. -/
def updateHeuristic (host : Host N) (m : MonitorId)
    (netAlphaBps midPriceReturn depthLiquidityHazard : N) : Proc (ArbitrageSignal N) N := do
  let s ← Coro.state
  let (heuristic, signal) ← Coro.lift ((s.monitors m).heuristic.update host.sqrt
    defaultHeuristicConfig netAlphaBps midPriceReturn depthLiquidityHazard)
  Coro.modify (AppState.onMonitor m fun st => { st with heuristic := heuristic })
  pure signal

/-- The arguments a monitor calls the gate with. -/
def monitorCall (s : AppState N) (m : MonitorId) (netAlphaBps : N) (signal : ArbitrageSignal N)
    (notional : N) : GateCall N where
  netAlphaBps := netAlphaBps
  signal := signal
  limits := s.killSwitch.apply defaultRiskLimits
  tradeNotionalUsd := notional
  dailyNotionalUsedUsd := (s.monitors m).dailyNotionalUsedUsd

/-- The risk gate and the record of its verdict: the record's id when approved. -/
def gate (m : MonitorId) (symbol exchangeBuy exchangeSell : String) (netAlphaBps : N)
    (signal : ArbitrageSignal N) (notional : N) : Proc (Option ℕ) N := do
  let s ← Coro.state
  let call := monitorCall s m netAlphaBps signal notional
  Coro.report (.shouldExecute (.monitor m) call)
  Coro.modify (AppState.recordSignal symbol exchangeBuy exchangeSell call)
  pure (if call.verdict.1 then some s.nextSignal else none)

def bookResult (m : MonitorId) (record : ℕ) (result : TradeExecutionResult N) : Proc Unit N := do
  Coro.modify (AppState.recordOutcome record result)
  Coro.modify (AppState.onMonitor m fun st =>
    { st with dailyNotionalUsedUsd := st.dailyNotionalUsedUsd + result.executedVolumeUsd })
  Coro.report (.executed m result)
  Coro.call (Call.recordExecution result)

def setLock (f : Feed) (holder : Option Feed) : AppState N → AppState N :=
  AppState.onMonitor f.monitor fun st => { st with evaluating := holder }

/-- Entering `async with`: a free lock is taken at once, a taken one is waited for. -/
def acquire (f : Feed) : Proc Unit N := do
  let s ← Coro.state
  if (s.monitors f.monitor).evaluating.isSome then do
    Coro.report (.waitsForLock f)
    Coro.call (Call.lockReleased f.monitor)
    Coro.modify (setLock f (some f))
  else Coro.modify (setLock f (some f))

/-- `_maybe_evaluate` once the monitor is ready: skip the tick when the lock is taken,
else hold it over the evaluation. -/
def underLock (f : Feed) (evaluateOnce : Proc Unit N) : Proc Unit N := do
  let s ← Coro.state
  if (s.monitors f.monitor).evaluating.isSome then pure ()
  else do
    acquire f
    evaluateOnce.ensuring do
      Coro.report (.evaluationOver f.monitor)
      Coro.modify (setLock f none)

/-! ### Pairs -/

structure PairMonitor (N : Type := ℚ) where
  host : Host N
  config : RunnerConfig N
  index : ℕ
  pair : PairConfig

structure PairQuote (N : Type := ℚ) where
  quantity : N
  vwapAskA : N
  vwapBidB : N
  netAlpha : N

namespace PairMonitor

def id (m : PairMonitor N) : MonitorId := .pair m.index

/-- Size and price a trade on two books; `none` where the evaluation gives up. -/
def quote (m : PairMonitor N) (bestAskPrice : N) (asks bids : List (OrderBookLevel N)) :
    Except PyError (Option (PairQuote N)) := do
  let quantity ← pyDiv m.config.notionalPerTradeUsd bestAskPrice
  let vwaps ← exceptValueError do
    let vwapAskA ← computeVwap asks quantity
    let vwapBidB ← computeVwap bids quantity
    pure (vwapAskA, vwapBidB)
  match vwaps with
  | none => pure none
  | some (vwapAskA, vwapBidB) =>
    let feeA ← getTakerFeeBps m.host m.pair.exchangeBuy m.config.defaultTakerFeeBps
    let feeB ← getTakerFeeBps m.host m.pair.exchangeSell m.config.defaultTakerFeeBps
    let netAlpha ← exceptValueError (computeNetAlpha vwapBidB (feeB / 10000) vwapAskA
      (feeA / 10000) 0.0005 0 m.config.notionalPerTradeUsd)
    pure (netAlpha.map fun netAlpha => ⟨quantity, vwapAskA, vwapBidB, netAlpha⟩)

def highVolatilityHazardThreshold : N := 0.5

def mitigator (m : PairMonitor N) :
    BrokenLegMitigator (AppState N) (Event N) (Call N) Call.Reply N where
  client := paperClient m.id
  maxRepegs := 3

def orders (m : PairMonitor N) (q : PairQuote N) (signal : ArbitrageSignal N)
    (grossSpreadPct : N) : PairedOrders N where
  buyExchange := m.pair.exchangeBuy
  sellExchange := m.pair.exchangeSell
  symbol := m.pair.symbol
  amount := q.quantity
  buyPrice := q.vwapAskA
  sellPrice := q.vwapBidB
  grossSpreadPct := grossSpreadPct
  netSpreadPct := q.netAlpha
  mlConfidenceScore := signal.executionProbability
  highVolatility := decide (signal.adverseHazard > highVolatilityHazardThreshold)

def trade (m : PairMonitor N) (asks : List (OrderBookLevel N)) (q : PairQuote N)
    (signal : ArbitrageSignal N) (record : ℕ) : Proc Unit N := do
  let grossSpreadPct ← Coro.lift (pyDiv (q.vwapBidB - q.vwapAskA) q.vwapAskA)
  let orders := m.orders q signal grossSpreadPct
  Coro.report (.executePairedOrders m.index asks orders)
  let result ← m.mitigator.executePairedOrders orders
  bookResult m.id record result

def gated (m : PairMonitor N) (asks : List (OrderBookLevel N)) (q : PairQuote N)
    (signal : ArbitrageSignal N) (netAlphaBps : N) : Proc Unit N := do
  let record ← gate m.id m.pair.symbol m.pair.exchangeBuy m.pair.exchangeSell netAlphaBps signal
    m.config.notionalPerTradeUsd
  match record with
  | none => pure ()
  | some record => m.trade asks q signal record

def logSample (m : PairMonitor N) (temporal : TemporalFeatures N) (depth : DepthMatrix N)
    (netAlphaBps : N) : Proc Unit N :=
  if m.config.sampleLoggingEnabled then
    Coro.call (Call.sampleLog m.pair temporal depth netAlphaBps)
  else pure ()

def decideOn (m : PairMonitor N) (buySnapshot : OrderBookSnapshot N) (q : PairQuote N)
    (temporal : TemporalFeatures N) (depth : DepthMatrix N) : Proc Unit N := do
  let netAlphaBps := q.netAlpha * 10000
  m.logSample temporal depth netAlphaBps
  let midPriceReturn := (temporal.window.getLast?.bind List.head?).getD 0
  let liquidityHazard ← Coro.lift (computeDepthLiquidityHazard depth q.quantity .ask)
  Coro.report (.book m.index (.heuristicUpdate buySnapshot temporal depth))
  let signal ← updateHeuristic m.host m.id netAlphaBps midPriceReturn liquidityHazard
  m.gated buySnapshot.asks q signal netAlphaBps

def evaluateBooks (m : PairMonitor N) (buySnapshot sellSnapshot : OrderBookSnapshot N) :
    Proc Unit N :=
  match buySnapshot.asks, sellSnapshot.bids with
  | bestAsk :: _, _ :: _ => do
    let s ← Coro.state
    match (s.temporalWindow m.index).toTemporalFeatures, (s.depthBuilder m.index).toDepthMatrix with
    | some temporal, some depth => do
      let q ← Coro.lift (m.quote bestAsk.price buySnapshot.asks sellSnapshot.bids)
      match q with
      | none => pure ()
      | some q => m.decideOn buySnapshot q temporal depth
    | _, _ => pure ()
  | _, _ => pure ()

def readBooks (m : PairMonitor N) :
    Proc (Option (OrderBookSnapshot N) × Option (OrderBookSnapshot N)) N := do
  let buySnapshot ← cache.getSnapshot m.pair.exchangeBuy m.pair.symbol
  let sellSnapshot ← cache.getSnapshot m.pair.exchangeSell m.pair.symbol
  pure (buySnapshot, sellSnapshot)

def evaluateOnce (m : PairMonitor N) : Proc Unit N := do
  Coro.report (.evaluateOnce m.id)
  let (buySnapshot, sellSnapshot) ← m.readBooks
  match buySnapshot, sellSnapshot with
  | some buySnapshot, some sellSnapshot => m.evaluateBooks buySnapshot sellSnapshot
  | _, _ => pure ()

def maybeEvaluate (m : PairMonitor N) : Proc Unit N := do
  let s ← Coro.state
  if (s.temporalWindow m.index).isReady && (s.depthBuilder m.index).isReady then
    underLock (.buy m.index) m.evaluateOnce
  else pure ()

def onBuySnapshot (m : PairMonitor N) (snapshot : OrderBookSnapshot N) : Proc Unit N := do
  cache.setSnapshot snapshot
  let s ← Coro.state
  let window ← Coro.lift ((s.temporalWindow m.index).update snapshot)
  Coro.modify fun s =>
    { s with temporalWindow := Function.update s.temporalWindow m.index window }
  Coro.report (.book m.index (.temporalUpdate snapshot))
  let s ← Coro.state
  let builder ← Coro.lift ((s.depthBuilder m.index).update snapshot)
  Coro.modify fun s => { s with depthBuilder := Function.update s.depthBuilder m.index builder }
  Coro.report (.book m.index (.depthUpdate snapshot))
  m.maybeEvaluate

def onSellSnapshot (_ : PairMonitor N) (snapshot : OrderBookSnapshot N) : Proc Unit N :=
  cache.setSnapshot snapshot

end PairMonitor

/-! ### Triangles -/

structure TriangleMonitor (N : Type := ℚ) where
  host : Host N
  config : RunnerConfig N
  index : ℕ
  triangle : TriangleConfig

/-- The three books of an evaluation, every side it reads non-empty. -/
structure TriangleBooks (N : Type := ℚ) where
  bridgeQuoteAsks : List (OrderBookLevel N)
  targetBridgeAsks : List (OrderBookLevel N)
  targetQuoteBids : List (OrderBookLevel N)
  bestBridgeQuoteAsk : OrderBookLevel N
  bestTargetBridgeAsk : OrderBookLevel N
  bestTargetQuoteBid : OrderBookLevel N
  bestTargetQuoteAsk : OrderBookLevel N

structure TriangleQuote (N : Type := ℚ) where
  vwapBridgeQuote : N
  vwapTargetBridge : N
  vwapTargetQuote : N
  alpha : TriangularAlpha N

def TriangleBooks.ofSnapshots (bridgeQuote targetBridge targetQuote : OrderBookSnapshot N) :
    Option (TriangleBooks N) :=
  match bridgeQuote.asks, targetBridge.asks, targetQuote.bids, targetQuote.asks with
  | bq :: _, tb :: _, tqBid :: _, tqAsk :: _ =>
    some ⟨bridgeQuote.asks, targetBridge.asks, targetQuote.bids, bq, tb, tqBid, tqAsk⟩
  | _, _, _, _ => none

namespace TriangleMonitor

def id (m : TriangleMonitor N) : MonitorId := .triangle m.index

/-- The VWAP of each leg, sized from its best price. -/
def vwaps (m : TriangleMonitor N) (b : TriangleBooks N) : Except PyError (N × N × N) := do
  let notional := m.config.notionalPerTradeUsd
  let bridgeQtyEst ← pyDiv notional b.bestBridgeQuoteAsk.price
  let vwapBridgeQuote ← computeVwap b.bridgeQuoteAsks bridgeQtyEst
  let bridgeQtyRough ← pyDiv notional vwapBridgeQuote
  let targetQtyEst ← pyDiv bridgeQtyRough b.bestTargetBridgeAsk.price
  let vwapTargetBridge ← computeVwap b.targetBridgeAsks targetQtyEst
  let targetQtyRough ← pyDiv bridgeQtyRough vwapTargetBridge
  let vwapTargetQuote ← computeVwap b.targetQuoteBids targetQtyRough
  pure (vwapBridgeQuote, vwapTargetBridge, vwapTargetQuote)

/-- Price the cycle; `none` where the evaluation gives up. -/
def quote (m : TriangleMonitor N) (b : TriangleBooks N) :
    Except PyError (Option (TriangleQuote N)) := do
  let vwaps ← exceptValueError (m.vwaps b)
  match vwaps with
  | none => pure none
  | some (vwapBridgeQuote, vwapTargetBridge, vwapTargetQuote) =>
    let fee ← getTakerFeeBps m.host m.triangle.exchange m.config.defaultTakerFeeBps
    let alpha ← exceptValueError (computeTriangularNetAlpha m.config.notionalPerTradeUsd
      vwapBridgeQuote vwapTargetBridge vwapTargetQuote (fee / 10000))
    pure (alpha.map fun alpha => ⟨vwapBridgeQuote, vwapTargetBridge, vwapTargetQuote, alpha⟩)

/-- `mid_price_return` against the mid of the evaluation before. -/
def midPriceReturn (prevMid : Option N) (mid : N) : Except PyError N :=
  match prevMid with
  | some prevMid => ratioOrZero (mid - prevMid) prevMid
  | none => pure 0

def mitigator (m : TriangleMonitor N) : TriangularMitigator (AppState N) (Call N) Call.Reply N where
  client := paperClient m.id

def orders (m : TriangleMonitor N) (q : TriangleQuote N) (signal : ArbitrageSignal N) :
    (TriangleOrders N) where
  triangle := m.triangle
  quoteNotionalUsd := m.config.notionalPerTradeUsd
  bridgeQuotePrice := q.vwapBridgeQuote
  targetBridgePrice := q.vwapTargetBridge
  targetQuotePrice := q.vwapTargetQuote
  bridgeQty := q.alpha.bridgeQty
  targetQty := q.alpha.targetQty
  grossSpreadPct := q.alpha.netAlpha
  netSpreadPct := q.alpha.netAlpha
  mlConfidenceScore := signal.executionProbability

def trade (m : TriangleMonitor N) (q : TriangleQuote N) (signal : ArbitrageSignal N)
    (record : ℕ) : Proc Unit N := do
  Coro.report (.executeTriangle m.index m.config.notionalPerTradeUsd)
  let result ← m.mitigator.executeTriangle (m.orders q signal)
  bookResult m.id record result

def gated (m : TriangleMonitor N) (q : TriangleQuote N) (signal : ArbitrageSignal N)
    (netAlphaBps : N) : Proc Unit N := do
  let record ← gate m.id m.triangle.label m.triangle.exchange m.triangle.exchange netAlphaBps
    signal m.config.notionalPerTradeUsd
  match record with
  | none => pure ()
  | some record => m.trade q signal record

def decideOn (m : TriangleMonitor N) (b : TriangleBooks N) (q : TriangleQuote N) :
    Proc Unit N := do
  let netAlphaBps := q.alpha.netAlpha * 10000
  let mid := (b.bestTargetQuoteBid.price + b.bestTargetQuoteAsk.price) / 2
  let s ← Coro.state
  let midPriceReturn ← Coro.lift (midPriceReturn (s.prevTargetQuoteMid m.index) mid)
  Coro.modify fun s =>
    { s with prevTargetQuoteMid := Function.update s.prevTargetQuoteMid m.index (some mid) }
  let signal ← updateHeuristic m.host m.id netAlphaBps midPriceReturn 0
  m.gated q signal netAlphaBps

def evaluateOnce (m : TriangleMonitor N) : Proc Unit N := do
  Coro.report (.evaluateOnce m.id)
  let bridgeQuote ← cache.getSnapshot m.triangle.exchange m.triangle.symbolBridgeQuote
  let targetBridge ← cache.getSnapshot m.triangle.exchange m.triangle.symbolTargetBridge
  let targetQuote ← cache.getSnapshot m.triangle.exchange m.triangle.symbolTargetQuote
  match bridgeQuote, targetBridge, targetQuote with
  | some bridgeQuote, some targetBridge, some targetQuote =>
    match TriangleBooks.ofSnapshots bridgeQuote targetBridge targetQuote with
    | none => pure ()
    | some books => do
      let q ← Coro.lift (m.quote books)
      match q with
      | none => pure ()
      | some q => m.decideOn books q
  | _, _, _ => pure ()

/-- The callback of all three feeds; `market` says which one delivered. -/
def onSnapshot (m : TriangleMonitor N) (market : TriangleMarket) (snapshot : OrderBookSnapshot N) :
    Proc Unit N := do
  cache.setSnapshot snapshot
  underLock (.leg m.index market) m.evaluateOnce

end TriangleMonitor
end BimodalArbitrage.Marketdata
