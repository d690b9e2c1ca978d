import BimodalArbitrage.Python

/-!
# Net alpha (`backend/execution/alpha.py`)
-/

namespace BimodalArbitrage.Execution

section
variable {N : Type} [PyFloat N]

def computeNetAlpha (vwapBidB tauB vwapAskA tauA slippageEst transferCost capitalUsd : N) :
    Except PyError N :=
  if capitalUsd ≤ 0 then .error (valueError "capital_usd must be strictly positive")
  else
    let denom := vwapAskA * (1 + tauA)
    if denom ≤ 0 then .error (valueError "vwap_ask_a*(1+tau_a) must be strictly positive")
    else do
      let gross ← pyDiv (vwapBidB * (1 - tauB) - denom) denom
      let transfer ← pyDiv transferCost capitalUsd
      pure (gross - slippageEst - transfer)

structure TriangularAlpha (N : Type := ℚ) where
  netAlpha : N
  bridgeQty : N
  targetQty : N

/-- Net alpha of a cycle quote -> bridge -> target -> quote, one taker fee a leg. -/
def computeTriangularNetAlpha
    (quoteNotional vwapBridgeQuote vwapTargetBridge vwapTargetQuote tau : N) :
    Except PyError (TriangularAlpha N) :=
  if quoteNotional ≤ 0 then .error (valueError "quote_notional must be strictly positive")
  else if vwapBridgeQuote ≤ 0 ∨ vwapTargetBridge ≤ 0 ∨ vwapTargetQuote ≤ 0 then
    .error (valueError "all three VWAPs must be strictly positive")
  else do
    let bridge ← pyDiv quoteNotional vwapBridgeQuote
    let bridgeQty := bridge * (1 - tau)
    let target ← pyDiv bridgeQty vwapTargetBridge
    let targetQty := target * (1 - tau)
    let quoteReceived := (targetQty * vwapTargetQuote) * (1 - tau)
    let netAlpha ← pyDiv (quoteReceived - quoteNotional) quoteNotional
    pure ⟨netAlpha, bridgeQty, targetQty⟩

end

theorem computeNetAlpha_ok
    {vwapBidB tauB vwapAskA tauA slippageEst transferCost capitalUsd alpha : ℚ}
    (h : computeNetAlpha vwapBidB tauB vwapAskA tauA slippageEst transferCost capitalUsd =
      .ok alpha) :
    0 < capitalUsd ∧ 0 < vwapAskA * (1 + tauA) ∧
      alpha = (vwapBidB * (1 - tauB) - vwapAskA * (1 + tauA)) / (vwapAskA * (1 + tauA)) -
        slippageEst - transferCost / capitalUsd := by
  unfold computeNetAlpha at h
  split at h
  · contradiction
  next hcapital =>
  dsimp only at h
  split at h
  · contradiction
  next hdenom =>
  obtain ⟨gross, hgross, h⟩ := bind_ok h
  obtain ⟨transfer, htransfer, h⟩ := bind_ok h
  cases h
  rw [(pyDiv_ok hgross).2, (pyDiv_ok htransfer).2]
  exact ⟨not_le.mp hcapital, not_le.mp hdenom, rfl⟩

theorem computeTriangularNetAlpha_of_pos {N : Type} [PyFloat N]
    {quoteNotional vwapBridgeQuote vwapTargetBridge vwapTargetQuote : N}
    (hnotional : 0 < quoteNotional) (hbridge : 0 < vwapBridgeQuote)
    (htarget : 0 < vwapTargetBridge) (hquote : 0 < vwapTargetQuote) (tau : N) :
    ∃ netAlpha, computeTriangularNetAlpha quoteNotional vwapBridgeQuote vwapTargetBridge
        vwapTargetQuote tau =
      .ok ⟨netAlpha, quoteNotional / vwapBridgeQuote * (1 - tau),
        quoteNotional / vwapBridgeQuote * (1 - tau) / vwapTargetBridge * (1 - tau)⟩ := by
  have hvwaps : ¬(vwapBridgeQuote ≤ 0 ∨ vwapTargetBridge ≤ 0 ∨ vwapTargetQuote ≤ 0) := by
    simp only [not_or]
    exact ⟨PyFloat.not_le_of_lt hbridge, PyFloat.not_le_of_lt htarget,
      PyFloat.not_le_of_lt hquote⟩
  unfold computeTriangularNetAlpha
  rw [if_neg (PyFloat.not_le_of_lt hnotional), if_neg hvwaps, pyDiv_of_pos hbridge]
  simp only [bind, Except.bind, pyDiv_of_pos htarget, pyDiv_of_pos hnotional]
  exact ⟨_, rfl⟩

end BimodalArbitrage.Execution
