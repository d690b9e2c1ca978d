import BimodalArbitrage.Schemas

/-!
# Microstructure metrics (`backend/marketdata/microstructure.py`)

The two figures in the message of an unfillable quantity are left out: every caller
drops the message.
-/

namespace BimodalArbitrage.Marketdata
variable {N : Type} [PyFloat N]

/-- The loop of `compute_vwap`: what is filled and what it costs. -/
def walk (quantity : N) : List (OrderBookLevel N) → N → N → N × N
  | [], filled, notional => (filled, notional)
  | level :: levels, filled, notional =>
    let remaining := quantity - filled
    if remaining ≤ 0 then (filled, notional)
    else
      let take := min level.volume remaining
      walk quantity levels (filled + take) (notional + level.price * take)

/-- VWAP to fill `quantity` walking `levels` in order, which must be best first. -/
def computeVwap (levels : List (OrderBookLevel N)) (quantity : N) : Except PyError N :=
  if quantity ≤ 0 then .error (valueError "quantity must be positive")
  else
    let (filled, notional) := walk quantity levels 0 0
    if filled < quantity then .error (valueError "insufficient depth to fill quantity")
    else pyDiv notional quantity

theorem computeVwap_cls {levels : List (OrderBookLevel N)} {quantity : N} {e : PyError}
    (h : computeVwap levels quantity = .error e) : e.cls = .valueError := by
  unfold computeVwap at h
  split at h
  · cases h
    rfl
  next hquantity =>
  dsimp only at h
  split at h
  · cases h
    rfl
  · rw [pyDiv_of_not_beq (not_beq_of_not_le hquantity)] at h
    cases h

def computeMicroPrice (bestBid bestAsk : OrderBookLevel N) : Except PyError N := do
  let totalVolume := bestBid.volume + bestAsk.volume
  if totalVolume ≤ 0 then
    .error (valueError "best_bid.volume + best_ask.volume must be positive")
  else
    let bidWeight ← pyDiv bestAsk.volume totalVolume
    let askWeight ← pyDiv bestBid.volume totalVolume
    pure (bestBid.price * bidWeight + bestAsk.price * askWeight)

def bestLevel : List (OrderBookLevel N) → Except PyError (OrderBookLevel N)
  | [] => .error (valueError "order book side has no levels")
  | level :: _ => .ok level

def bidContribution (prev curr : OrderBookLevel N) : N :=
  if curr.price > prev.price then curr.volume
  else if curr.price == prev.price then curr.volume - prev.volume
  else -curr.volume

def askContribution (prev curr : OrderBookLevel N) : N :=
  if curr.price > prev.price then -curr.volume
  else if curr.price == prev.price then curr.volume - prev.volume
  else curr.volume

def computeOrderFlowImbalance (prev curr : OrderBookSnapshot N) : Except PyError N := do
  let prevBid ← bestLevel prev.bids
  let currBid ← bestLevel curr.bids
  let prevAsk ← bestLevel prev.asks
  let currAsk ← bestLevel curr.asks
  pure (bidContribution prevBid currBid - askContribution prevAsk currAsk)

end BimodalArbitrage.Marketdata
