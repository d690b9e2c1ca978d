import BimodalArbitrage.Marketdata.Microstructure

/-!
# The model's inputs from a stream of books (`backend/marketdata/features.py`)
-/

namespace BimodalArbitrage.Marketdata
variable {N : Type} [PyFloat N]

/-- `levels[0]`. -/
def firstLevel : List (OrderBookLevel N) → Except PyError (OrderBookLevel N)
  | [] => .error ⟨.other, "list index out of range"⟩
  | level :: _ => .ok level

/-- `a / b if b > 0 else 0.0`. -/
def ratioOrZero (a b : N) : Except PyError N := if b > 0 then pyDiv a b else pure 0

structure PrevTick (N : Type := ℚ) where
  snapshot : OrderBookSnapshot N
  vwapBid : N
  vwapAsk : N
  microPrice : N
  totalVolume : N

/-- Rolling buffer of feature rows; the first tick has no predecessor. -/
structure TemporalFeatureWindow (N : Type := ℚ) where
  notionalQuantity : N
  prev : Option (PrevTick N)
  rows : List (List N)

namespace TemporalFeatureWindow

def initial : TemporalFeatureWindow N := ⟨1, none, []⟩

structure Deltas (N : Type := ℚ) where
  midPriceReturn : N
  ofi : N
  vwapBidDrift : N
  vwapAskDrift : N
  microPriceDrift : N
  volumeAccel : N

def deltas (prev : Option (PrevTick N)) (snapshot : OrderBookSnapshot N)
    (midPrice vwapBid vwapAsk microPrice totalVolume : N) : Except PyError (Deltas N) :=
  match prev with
  | none => pure ⟨0, 0, 0, 0, 0, 0⟩
  | some prev => do
    let prevBid ← firstLevel prev.snapshot.bids
    let prevAsk ← firstLevel prev.snapshot.asks
    let prevMid := (prevBid.price + prevAsk.price) / 2
    let midPriceReturn ← ratioOrZero (midPrice - prevMid) prevMid
    let ofi ← exceptValueError (computeOrderFlowImbalance prev.snapshot snapshot)
    pure {
      midPriceReturn := midPriceReturn
      ofi := ofi.getD 0
      vwapBidDrift := vwapBid - prev.vwapBid
      vwapAskDrift := vwapAsk - prev.vwapAsk
      microPriceDrift := microPrice - prev.microPrice
      volumeAccel := totalVolume - prev.totalVolume }

/-- Both VWAPs, or the best prices when one side is too thin. -/
def referenceVwaps (w : TemporalFeatureWindow N) (snapshot : OrderBookSnapshot N)
    (bestBid bestAsk : OrderBookLevel N) : Except PyError (N × N) := do
  let vwaps ← exceptValueError do
    let vwapBid ← computeVwap snapshot.bids w.notionalQuantity
    let vwapAsk ← computeVwap snapshot.asks w.notionalQuantity
    pure (vwapBid, vwapAsk)
  pure (vwaps.getD (bestBid.price, bestAsk.price))

def depthNotional (levels : List (OrderBookLevel N)) : N :=
  PyFloat.sum (levels.map fun level => level.price * level.volume)

def update (w : TemporalFeatureWindow N) (snapshot : OrderBookSnapshot N) :
    Except PyError (TemporalFeatureWindow N) :=
  match snapshot.bids, snapshot.asks with
  | bestBid :: _, bestAsk :: _ => do
    let midPrice := (bestBid.price + bestAsk.price) / 2
    let spreadPct ← ratioOrZero (bestAsk.price - bestBid.price) midPrice
    let (vwapBid, vwapAsk) ← w.referenceVwaps snapshot bestBid bestAsk
    let microPrice ← computeMicroPrice bestBid bestAsk
    let totalVolume := bestBid.volume + bestAsk.volume
    let volumeImbalance ← ratioOrZero (bestBid.volume - bestAsk.volume) totalVolume
    let d ← deltas w.prev snapshot midPrice vwapBid vwapAsk microPrice totalVolume
    let row := [d.midPriceReturn, spreadPct, d.vwapBidDrift, d.vwapAskDrift, d.microPriceDrift,
      d.ofi, bestBid.volume, bestAsk.volume, volumeImbalance, d.volumeAccel,
      depthNotional snapshot.bids, depthNotional snapshot.asks]
    pure { w with
      prev := some ⟨snapshot, vwapBid, vwapAsk, microPrice, totalVolume⟩
      rows := pushBounded TemporalFeatures.WINDOW_SIZE w.rows row }
  | _, _ => pure w

def isReady (w : TemporalFeatureWindow N) : Bool := w.rows.length == TemporalFeatures.WINDOW_SIZE

def toTemporalFeatures (w : TemporalFeatureWindow N) : Option (TemporalFeatures N) :=
  if w.isReady then some ⟨w.rows⟩ else none

end TemporalFeatureWindow

/-- Rolling depth heatmap, one row of price bins a tick. -/
structure DepthMatrixBuilder (N : Type := ℚ) where
  binWidthPct : N
  rows : List (List N)

namespace DepthMatrixBuilder

def initial : DepthMatrixBuilder N := ⟨0.0005, []⟩

/-- `row[idx] += volume` when the bin is on the grid. -/
def addToBin (row : List N) (idx : ℤ) (volume : N) : List N :=
  if 0 ≤ idx ∧ idx < DepthMatrix.SIZE then row.modify idx.toNat (· + volume) else row

def addBid (midPrice binWidth : N) (row : List N) (level : OrderBookLevel N) :
    Except PyError (List N) := do
  let ratio ← pyDiv (midPrice - level.price) binWidth
  let offset ← PyFloat.int ratio
  let half : ℤ := DepthMatrix.SIZE / 2
  pure (addToBin row (half - 1 - offset) level.volume)

def addAsk (midPrice binWidth : N) (row : List N) (level : OrderBookLevel N) :
    Except PyError (List N) := do
  let ratio ← pyDiv (level.price - midPrice) binWidth
  let offset ← PyFloat.int ratio
  let half : ℤ := DepthMatrix.SIZE / 2
  pure (addToBin row (half + offset) level.volume)

def update (b : DepthMatrixBuilder N) (snapshot : OrderBookSnapshot N) :
    Except PyError (DepthMatrixBuilder N) :=
  match snapshot.bids, snapshot.asks with
  | bestBid :: _, bestAsk :: _ => do
    let midPrice := (bestBid.price + bestAsk.price) / 2
    let binWidth := midPrice * b.binWidthPct
    if binWidth ≤ 0 then pure b
    else
      let row := List.replicate DepthMatrix.SIZE 0
      let row ← snapshot.bids.foldlM (addBid midPrice binWidth) row
      let row ← snapshot.asks.foldlM (addAsk midPrice binWidth) row
      pure { b with rows := pushBounded DepthMatrix.SIZE b.rows row }
  | _, _ => pure b

def isReady (b : DepthMatrixBuilder N) : Bool := b.rows.length == DepthMatrix.SIZE

def toDepthMatrix (b : DepthMatrixBuilder N) : Option (DepthMatrix N) :=
  if b.isReady then some ⟨b.rows⟩ else none

end DepthMatrixBuilder
end BimodalArbitrage.Marketdata
