import BimodalArbitrage.Marketdata.RoundedVwap
import BimodalArbitrage.Marketdata.Runner

/-!
# The sizes of a triangle's legs

The quantities of the alpha are what each leg leaves after its fee. Dispatched as the
sizes of the orders they stay inside the depth that was checked, but the last leg sells
what a fee has already been taken from.
-/

namespace BimodalArbitrage.Marketdata
open Execution Ml Rounding

/-! ### Fees -/

/-- What an order that fills in full takes from the balance it is paid with. -/
def spends : Side → ℚ → ℚ → ℚ
  | .buy, amount, price => amount * price
  | .sell, amount, _ => amount

def delivers (tau : ℚ) : Side → ℚ → ℚ → ℚ
  | .buy, amount, _ => (1 - tau) * amount
  | .sell, amount, price => (1 - tau) * (amount * price)

/-- Each leg has its means. What a leg takes and delivers is not rounded, its size is. -/
structure SelfFinancing (tau : Binary64) (o : TriangleOrders Binary64) : Prop where
  bridge : o.bridgeQty.IsFinite
  target : o.targetQty.IsFinite
  leg1 : spends .buy o.bridgeQty.value o.bridgeQuotePrice.value ≤ o.quoteNotionalUsd.value
  leg2 : spends .buy o.targetQty.value o.targetBridgePrice.value ≤
    delivers tau.value .buy o.bridgeQty.value o.bridgeQuotePrice.value
  leg3 : spends .sell o.targetQty.value o.targetQuotePrice.value ≤
    delivers tau.value .buy o.targetQty.value o.targetBridgePrice.value

def NotRoundedUp (a b : Binary64) : Prop := (a / b).IsFinite ∧ (a / b).value ≤ a.value / b.value

/-- Without a fee neither size is rounded up; with one, nothing is left to sell. -/
def Financed (notional vwapBridgeQuote vwapTargetBridge tau : Binary64) : Prop :=
  if tau = 0 then
    NotRoundedUp notional vwapBridgeQuote ∧
      NotRoundedUp (notional / vwapBridgeQuote) vwapTargetBridge
  else
    notional / vwapBridgeQuote * (1 - tau) / vwapTargetBridge * (1 - tau) = 0 ∧
      (notional / vwapBridgeQuote * (1 - tau)).IsFinite ∧
      (notional / vwapBridgeQuote * (1 - tau)).value * vwapBridgeQuote.value ≤ notional.value

section
variable {notional vwapBridgeQuote vwapTargetBridge tau : Binary64} {o : TriangleOrders Binary64}

theorem value_pos {x : Binary64} (h : 0 < x) (hfinite : x.IsFinite) : 0 < x.value := by
  rw [← not_le, ← zero_value, Floating.value_le_value hfinite zero_finite]
  exact Floating.not_le_of_lt h

theorem one_sub_zero_mul (x : Binary64) : x * (1 - 0) = x := by
  have hone : (1 : Binary64) - 0 = 1 := Floating.sub_ofRat_zero 1
  rw [hone]
  exact Floating.mul_ofRat_one (by decide +kernel) x

theorem selfFinancing_free (hbridge : 0 < vwapBridgeQuote.value)
    (htarget : 0 < vwapTargetBridge.value) (hnotional : o.quoteNotionalUsd = notional)
    (hprice : o.bridgeQuotePrice = vwapBridgeQuote)
    (hprice' : o.targetBridgePrice = vwapTargetBridge)
    (hqty : o.bridgeQty = notional / vwapBridgeQuote)
    (hqty' : o.targetQty = notional / vwapBridgeQuote / vwapTargetBridge) :
    SelfFinancing 0 o ↔ NotRoundedUp notional vwapBridgeQuote ∧
      NotRoundedUp (notional / vwapBridgeQuote) vwapTargetBridge := by
  have hfee : (1 : ℚ) - (0 : Binary64).value = 1 := by
    rw [zero_value, sub_zero]
  subst hnotional hprice hprice'
  constructor
  · rintro ⟨hfinite, hfinite', hleg1, hleg2, -⟩
    simp only [spends, delivers, hfee, one_mul] at hleg1 hleg2
    rw [hqty] at hfinite hleg1 hleg2
    rw [hqty'] at hfinite' hleg2
    exact ⟨⟨hfinite, (le_div_iff₀ hbridge).mpr hleg1⟩, hfinite', (le_div_iff₀ htarget).mpr hleg2⟩
  · rintro ⟨⟨hfinite, hbought⟩, hfinite', hbought'⟩
    refine ⟨hqty ▸ hfinite, hqty' ▸ hfinite', ?_, ?_, ?_⟩ <;>
      simp only [spends, delivers, hfee, one_mul]
    · rw [hqty]
      exact (le_div_iff₀ hbridge).mp hbought
    · rw [hqty, hqty']
      exact (le_div_iff₀ htarget).mp hbought'
    · exact le_rfl

/-- With a fee the third leg sells more than the second delivers, unless it sells nothing. -/
theorem selfFinancing_charged (htau : 0 < tau.value) (htau' : tau.value ≤ 1)
    (hbridge : 0 ≤ o.bridgeQty.value) (htarget : 0 ≤ o.targetQty.value) :
    SelfFinancing tau o ↔ o.targetQty = 0 ∧ o.bridgeQty.IsFinite ∧
      o.bridgeQty.value * o.bridgeQuotePrice.value ≤ o.quoteNotionalUsd.value := by
  constructor
  · intro h
    have hsold := h.leg3
    simp only [spends, delivers] at hsold
    have hnothing : o.targetQty.value = (0 : Binary64).value := by
      rw [zero_value]
      nlinarith
    exact ⟨(Floating.value_inj h.target zero_finite).mp hnothing, h.bridge, h.leg1⟩
  · rintro ⟨hnothing, hfinite, hspent⟩
    have hkept : 0 ≤ (1 - tau.value) * o.bridgeQty.value :=
      mul_nonneg (sub_nonneg.mpr htau') hbridge
    refine ⟨hfinite, hnothing ▸ zero_finite, hspent, ?_, ?_⟩ <;>
      simp only [spends, delivers, hnothing, zero_value, zero_mul, mul_zero, le_refl]
    exact hkept

end

/-- The legs finance each other without a fee where neither size is rounded up. -/
theorem triangle_selfFinancing_iff (m : TriangleMonitor Binary64)
    {vwapBridgeQuote vwapTargetBridge vwapTargetQuote tau : Binary64}
    (hnotional : 0 < m.config.notionalPerTradeUsd) (hbridge : 0 < vwapBridgeQuote)
    (hbridge' : vwapBridgeQuote.IsFinite) (htarget : 0 < vwapTargetBridge)
    (htarget' : vwapTargetBridge.IsFinite) (hquote : 0 < vwapTargetQuote) (htau : 0 ≤ tau)
    (htau' : tau < 1) :
    ∃ alpha, computeTriangularNetAlpha m.config.notionalPerTradeUsd vwapBridgeQuote
        vwapTargetBridge vwapTargetQuote tau = .ok alpha ∧
      ∀ signal, SelfFinancing tau
        (m.orders ⟨vwapBridgeQuote, vwapTargetBridge, vwapTargetQuote, alpha⟩ signal) ↔
          Financed m.config.notionalPerTradeUsd vwapBridgeQuote vwapTargetBridge tau := by
  obtain ⟨netAlpha, halpha⟩ := computeTriangularNetAlpha_of_pos hnotional hbridge htarget hquote tau
  refine ⟨_, halpha, fun signal => ?_⟩
  have hbridgePos := value_pos hbridge hbridge'
  have htargetPos := value_pos htarget htarget'
  unfold Financed
  split
  · next hfree =>
    subst hfree
    refine selfFinancing_free hbridgePos htargetPos rfl rfl rfl ?_ ?_ <;>
      simp only [TriangleMonitor.orders, one_sub_zero_mul]
  · next hcharged =>
    have hone : (1 : Binary64).IsFinite ∧ (1 : Binary64).value = 1 := by decide +kernel
    have hfinite : tau.IsFinite := hone.1.of_le htau (Floating.le_of_lt htau')
    have htauNonneg := (Floating.value_le_value zero_finite hfinite).mpr htau
    have htauOne := (Floating.value_le_value hfinite hone.1).mpr (Floating.le_of_lt htau')
    have htauPos : 0 < tau.value := by
      rw [zero_value] at htauNonneg
      refine lt_of_le_of_ne htauNonneg fun hzero => hcharged ?_
      exact (Floating.value_inj hfinite zero_finite).mp (hzero.symm.trans zero_value.symm)
    have hkept := Floating.value_sub_nonneg htauOne
    have hnonneg := Floating.value_nonneg (Floating.le_of_lt hnotional)
    have hbought := Floating.value_mul_nonneg
      (Floating.value_div_nonneg hnonneg hbridgePos.le) hkept
    have hsold := Floating.value_mul_nonneg (Floating.value_div_nonneg hbought htargetPos.le) hkept
    rw [hone.2] at htauOne
    exact selfFinancing_charged htauPos htauOne hbought hsold

def sampleTriangle {N : Type} [PyFloat N] (takerFeeBps : N) : TriangleMonitor N where
  host := ⟨id, fun _ => none, fun _ => .error (valueError "not a float")⟩
  config := ⟨[], [⟨"alpha", "USDT", "BTC", "ETH"⟩], 50, takerFeeBps, true, false⟩
  index := 0
  triangle := ⟨"alpha", "USDT", "BTC", "ETH"⟩

def sampleBooks {N : Type} [PyFloat N] : TriangleBooks N :=
  ⟨[⟨10, 1000⟩], [⟨0.1, 1000⟩], [⟨2, 1000⟩], ⟨10, 1000⟩, ⟨0.1, 1000⟩, ⟨2, 1000⟩, ⟨2, 1000⟩⟩

theorem triangle_selfFinancing_free :
    ∃ alpha, computeTriangularNetAlpha (sampleTriangle (0 : Binary64)).config.notionalPerTradeUsd
        10 0.5 2 0 = .ok alpha ∧
      ∀ signal, SelfFinancing 0
        ((sampleTriangle (0 : Binary64)).orders ⟨10, 0.5, 2, alpha⟩ signal) := by
  obtain ⟨alpha, halpha, hiff⟩ : ∃ alpha, computeTriangularNetAlpha
        (sampleTriangle (0 : Binary64)).config.notionalPerTradeUsd 10 0.5 2 0 = .ok alpha ∧
      ∀ signal, SelfFinancing 0
        ((sampleTriangle (0 : Binary64)).orders ⟨10, 0.5, 2, alpha⟩ signal) ↔
          Financed 50 10 0.5 0 :=
    triangle_selfFinancing_iff (sampleTriangle 0) (by decide +kernel) (by decide +kernel)
      (by decide +kernel) (by decide +kernel) (by decide +kernel) (by decide +kernel)
      (by decide +kernel) (by decide +kernel)
  refine ⟨alpha, halpha, fun signal => (hiff signal).mpr ?_⟩
  unfold Financed NotRoundedUp
  decide +kernel

theorem exists_quote {N β : Type} [PyFloat N] {m : TriangleMonitor N} {b : TriangleBooks N}
    {f : TriangleQuote N → β} {y : β}
    (h : (m.quote b).map (fun q => q.map f) = .ok (some y)) :
    ∃ q, m.quote b = .ok (some q) ∧ f q = y := by
  cases hresult : m.quote b with
  | error e =>
    rw [hresult] at h
    cases h
  | ok quote =>
    rw [hresult] at h
    obtain ⟨q, rfl, hq⟩ := Option.map_eq_some_iff.mp (Except.ok.inj h)
    exact ⟨q, rfl, hq⟩

/-- At 10 bps the second leg leaves 49.850149850 and the third sells 49.90005. -/
theorem triangle_selfFinancing_tenBps :
    ∃ q, (sampleTriangle (10 : Binary64)).quote sampleBooks = .ok (some q) ∧
      ∀ signal, ¬SelfFinancing (10 / 10000) ((sampleTriangle (10 : Binary64)).orders q signal) := by
  have hquote : ((sampleTriangle (10 : Binary64)).quote sampleBooks).map
      (fun q => q.map fun q => decide (0 < q.alpha.targetQty.value)) = .ok (some true) := by
    decide +kernel
  obtain ⟨q, hresult, hqty⟩ := exists_quote hquote
  have hqty : 0 < q.alpha.targetQty.value := of_decide_eq_true hqty
  have htau : 0 < (10 / 10000 : Binary64).value := by decide +kernel
  refine ⟨q, hresult, fun signal h => ?_⟩
  have hsold := h.leg3
  simp only [spends, delivers, TriangleMonitor.orders] at hsold
  nlinarith

/-! ### Depth -/

/-- The order stays within the quantities the depth was checked for, and the books fill
it at prices no worse than those it was priced with. -/
structure Conservative {N : Type} [PyFloat N] (m : TriangleMonitor N) (b : TriangleBooks N)
    (o : TriangleOrders N) : Prop where
  bridge_le : o.bridgeQty ≤ m.config.notionalPerTradeUsd / b.bestBridgeQuoteAsk.price
  target_le : o.targetQty ≤
    m.config.notionalPerTradeUsd / o.bridgeQuotePrice / b.bestTargetBridgeAsk.price
  sold_le : o.targetQty ≤ m.config.notionalPerTradeUsd / o.bridgeQuotePrice / o.targetBridgePrice
  bridgeQuote : ∃ v, computeVwap b.bridgeQuoteAsks o.bridgeQty = .ok v ∧ v ≤ o.bridgeQuotePrice
  targetBridge : ∃ v, computeVwap b.targetBridgeAsks o.targetQty = .ok v ∧ v ≤ o.targetBridgePrice
  targetQuote : ∃ v, computeVwap b.targetQuoteBids o.targetQty = .ok v ∧ o.targetQuotePrice ≤ v

section
variable {m : TriangleMonitor} {b : TriangleBooks}
  {vwapBridgeQuote vwapTargetBridge vwapTargetQuote : ℚ}

structure Verified (m : TriangleMonitor) (b : TriangleBooks)
    (vwapBridgeQuote vwapTargetBridge vwapTargetQuote : ℚ) : Prop where
  bridgeQuote : computeVwap b.bridgeQuoteAsks
    (m.config.notionalPerTradeUsd / b.bestBridgeQuoteAsk.price) = .ok vwapBridgeQuote
  targetBridge : computeVwap b.targetBridgeAsks
    (m.config.notionalPerTradeUsd / vwapBridgeQuote / b.bestTargetBridgeAsk.price) =
      .ok vwapTargetBridge
  targetQuote : computeVwap b.targetQuoteBids
    (m.config.notionalPerTradeUsd / vwapBridgeQuote / vwapTargetBridge) = .ok vwapTargetQuote

theorem verified_of_vwaps
    (h : m.vwaps b = .ok (vwapBridgeQuote, vwapTargetBridge, vwapTargetQuote)) :
    Verified m b vwapBridgeQuote vwapTargetBridge vwapTargetQuote := by
  obtain ⟨bridgeQtyEst, hbridgeQtyEst, h⟩ := bind_ok h
  obtain ⟨bridgeQuote, hbridgeQuote, h⟩ := bind_ok h
  obtain ⟨bridgeQtyRough, hbridgeQtyRough, h⟩ := bind_ok h
  obtain ⟨targetQtyEst, htargetQtyEst, h⟩ := bind_ok h
  obtain ⟨targetBridge, htargetBridge, h⟩ := bind_ok h
  obtain ⟨targetQtyRough, htargetQtyRough, h⟩ := bind_ok h
  obtain ⟨targetQuote, htargetQuote, h⟩ := bind_ok h
  cases h
  obtain rfl := (pyDiv_ok hbridgeQtyEst).2
  obtain rfl := (pyDiv_ok hbridgeQtyRough).2
  obtain rfl := (pyDiv_ok htargetQtyEst).2
  obtain rfl := (pyDiv_ok htargetQtyRough).2
  exact ⟨hbridgeQuote, htargetBridge, htargetQuote⟩

theorem quote_of_vwaps {fee : ℚ} {alpha : TriangularAlpha}
    (hvwaps : m.vwaps b = .ok (vwapBridgeQuote, vwapTargetBridge, vwapTargetQuote))
    (hfee : getTakerFeeBps m.host m.triangle.exchange m.config.defaultTakerFeeBps = .ok fee)
    (halpha : computeTriangularNetAlpha m.config.notionalPerTradeUsd vwapBridgeQuote
      vwapTargetBridge vwapTargetQuote (fee / 10000) = .ok alpha) :
    m.quote b = .ok (some ⟨vwapBridgeQuote, vwapTargetBridge, vwapTargetQuote, alpha⟩) := by
  simp only [TriangleMonitor.quote, hvwaps, hfee, halpha, exceptValueError, bind, Except.bind,
    pure, Except.pure, Option.map_some]

theorem ofSnapshots_heads {bridgeQuote targetBridge targetQuote : OrderBookSnapshot}
    (h : TriangleBooks.ofSnapshots bridgeQuote targetBridge targetQuote = some b) :
    b.bridgeQuoteAsks = bridgeQuote.asks ∧ b.targetBridgeAsks = targetBridge.asks ∧
      b.targetQuoteBids = targetQuote.bids ∧
      (∃ rest, bridgeQuote.asks = b.bestBridgeQuoteAsk :: rest) ∧
      ∃ rest, targetBridge.asks = b.bestTargetBridgeAsk :: rest := by
  unfold TriangleBooks.ofSnapshots at h
  split at h
  · next hbq htb htq _ =>
    cases h
    exact ⟨rfl, rfl, rfl, ⟨_, hbq⟩, ⟨_, htb⟩⟩
  · cases h

end

section
variable {notional best price tau bridge : ℚ}

theorem div_vwap_le (hnotional : 0 ≤ notional) (hbest : 0 < best) (hdear : best ≤ price) :
    notional / price ≤ notional / best :=
  div_le_div_of_nonneg_left hnotional hbest hdear

theorem afterFee_pos (hbridge : 0 < bridge) (htau : tau < 1) : 0 < bridge * (1 - tau) :=
  mul_pos hbridge (sub_pos.mpr htau)

theorem afterFee_le (hbridge : 0 ≤ bridge) (htau : 0 ≤ tau) : bridge * (1 - tau) ≤ bridge :=
  mul_le_of_le_one_right hbridge (sub_le_self _ htau)

end

/-- A cycle that passes its depth checks is quoted, and its orders are conservative. -/
theorem triangle_conservative (m : TriangleMonitor) {b : TriangleBooks}
    {bridgeQuote targetBridge targetQuote : OrderBookSnapshot}
    (hbooks : TriangleBooks.ofSnapshots bridgeQuote targetBridge targetQuote = some b)
    (hbridgeAsks : BestFirst (· ≤ ·) bridgeQuote.asks)
    (htargetAsks : BestFirst (· ≤ ·) targetBridge.asks)
    (htargetBids : BestFirst (· ≥ ·) targetQuote.bids) {fee : ℚ}
    (hfee : getTakerFeeBps m.host m.triangle.exchange m.config.defaultTakerFeeBps = .ok fee)
    (htau : 0 ≤ fee / 10000) (htau' : fee / 10000 < 1)
    {vwapBridgeQuote vwapTargetBridge vwapTargetQuote : ℚ}
    (hvwaps : m.vwaps b = .ok (vwapBridgeQuote, vwapTargetBridge, vwapTargetQuote)) :
    ∃ alpha, m.quote b = .ok (some ⟨vwapBridgeQuote, vwapTargetBridge, vwapTargetQuote, alpha⟩) ∧
      ∀ signal, Conservative m b
        (m.orders ⟨vwapBridgeQuote, vwapTargetBridge, vwapTargetQuote, alpha⟩ signal) := by
  obtain ⟨hasks, hasks', hbids, ⟨rest, hhead⟩, ⟨rest', hhead'⟩⟩ := ofSnapshots_heads hbooks
  obtain ⟨hvwap1, hvwap2, hvwap3⟩ := verified_of_vwaps hvwaps
  rw [hasks] at hvwap1
  rw [hasks'] at hvwap2
  rw [hbids] at hvwap3
  have hpos1 := computeVwap_pos hbridgeAsks hvwap1
  have hpos2 := computeVwap_pos htargetAsks hvwap2
  have hpos3 := computeVwap_pos htargetBids hvwap3
  have hbest1 : 0 < b.bestBridgeQuoteAsk.price :=
    hbridgeAsks.price_pos _ (hhead ▸ List.mem_cons_self ..)
  have hbest2 : 0 < b.bestTargetBridgeAsk.price :=
    htargetAsks.price_pos _ (hhead' ▸ List.mem_cons_self ..)
  have hdear1 : b.bestBridgeQuoteAsk.price ≤ vwapBridgeQuote := by
    rw [hhead] at hbridgeAsks hvwap1
    exact best_le_computeVwap hbridgeAsks hvwap1
  have hdear2 : b.bestTargetBridgeAsk.price ≤ vwapTargetBridge := by
    rw [hhead'] at htargetAsks hvwap2
    exact best_le_computeVwap htargetAsks hvwap2
  have hnotional : 0 < m.config.notionalPerTradeUsd :=
    (div_pos_iff_of_pos_right hbest1).mp (computeVwap_ok hvwap1).1
  obtain ⟨netAlpha, halpha⟩ :=
    computeTriangularNetAlpha_of_pos hnotional hpos1 hpos2 hpos3 (fee / 10000)
  refine ⟨_, quote_of_vwaps hvwaps hfee halpha, fun signal => ?_⟩
  -- every fee leaves less than what the depth was checked for
  have hbought := div_pos hnotional hpos1
  have hbridge := afterFee_pos hbought htau'
  have hbridgeLe := afterFee_le hbought.le htau
  have hbridgeDepth := hbridgeLe.trans (div_vwap_le hnotional.le hbest1 hdear1)
  have htarget := div_pos hbridge hpos2
  have htargetQty := afterFee_pos htarget htau'
  have hsold := (afterFee_le htarget.le htau).trans
    (div_le_div_of_nonneg_right hbridgeLe hpos2.le)
  have htargetDepth := hsold.trans (div_vwap_le hbought.le hbest2 hdear2)
  refine ⟨hbridgeDepth, htargetDepth, hsold, ?_, ?_, ?_⟩
  · rw [hasks]
    exact computeVwap_asks hbridgeAsks hvwap1 hbridge hbridgeDepth
  · rw [hasks']
    exact computeVwap_asks htargetAsks hvwap2 htargetQty htargetDepth
  · rw [hbids]
    exact computeVwap_bids htargetBids hvwap3 htargetQty hsold

def twoLevelBooks : TriangleBooks :=
  ⟨[⟨10, 4⟩, ⟨11, 4⟩], [⟨1 / 10, 1000⟩], [⟨2, 30⟩, ⟨1, 100⟩], ⟨10, 4⟩, ⟨1 / 10, 1000⟩, ⟨2, 30⟩,
    ⟨3, 1⟩⟩

theorem triangle_conservative_twoLevels :
    ∃ alpha, (sampleTriangle (10 : ℚ)).quote twoLevelBooks =
        .ok (some ⟨51 / 5, 1 / 10, 403 / 250, alpha⟩) ∧
      ∀ signal, Conservative (sampleTriangle 10) twoLevelBooks
        ((sampleTriangle 10).orders ⟨51 / 5, 1 / 10, 403 / 250, alpha⟩ signal) := by
  have hbooks : TriangleBooks.ofSnapshots
      ⟨"alpha", "BTC/USDT", 0, [], [⟨10, 4⟩, ⟨11, 4⟩]⟩
      ⟨"alpha", "ETH/BTC", 0, [], [⟨1 / 10, 1000⟩]⟩
      ⟨"alpha", "ETH/USDT", 0, [⟨2, 30⟩, ⟨1, 100⟩], [⟨3, 1⟩]⟩ = some twoLevelBooks := rfl
  have hfee : getTakerFeeBps (sampleTriangle (10 : ℚ)).host
      (sampleTriangle (10 : ℚ)).triangle.exchange
      (sampleTriangle (10 : ℚ)).config.defaultTakerFeeBps = .ok 10 := rfl
  exact triangle_conservative (sampleTriangle 10) hbooks
    ⟨by decide +kernel, by decide +kernel, by decide +kernel⟩
    ⟨by decide +kernel, by decide +kernel, by decide +kernel⟩
    ⟨by decide +kernel, by decide +kernel, by decide +kernel⟩ hfee
    (by decide +kernel) (by decide +kernel) (by decide +kernel)

/-- A bridge book whose first level is almost enough for 50 USD. -/
def shortBooks : TriangleBooks Binary64 :=
  ⟨[⟨1, 8.3⟩, ⟨1.01, 1000⟩], [⟨0.5, 1000⟩], [⟨2, 1000⟩], ⟨1, 8.3⟩, ⟨0.5, 1000⟩, ⟨2, 1000⟩,
    ⟨2, 1000⟩⟩

/-- The walk for 49.536862566197904 fills 49.5368625661979 and raises. -/
theorem triangle_conservative_shortfall :
    BestFirst (· ≤ ·) shortBooks.bridgeQuoteAsks ∧ BestFirst (· ≤ ·) shortBooks.targetBridgeAsks ∧
      BestFirst (· ≥ ·) shortBooks.targetQuoteBids ∧
      ∃ q, (sampleTriangle (10 : Binary64)).quote shortBooks = .ok (some q) ∧
        ∀ signal, ¬Conservative (sampleTriangle (10 : Binary64)) shortBooks
          ((sampleTriangle (10 : Binary64)).orders q signal) := by
  refine ⟨⟨by decide +kernel, by decide +kernel, by decide +kernel⟩,
    ⟨by decide +kernel, by decide +kernel, by decide +kernel⟩,
    ⟨by decide +kernel, by decide +kernel, by decide +kernel⟩, ?_⟩
  have hquote : ((sampleTriangle (10 : Binary64)).quote shortBooks).map (fun q => q.map fun q =>
      (computeVwap shortBooks.bridgeQuoteAsks q.alpha.bridgeQty).toOption.isSome) =
        .ok (some false) := by decide +kernel
  obtain ⟨q, hresult, hraises⟩ := exists_quote hquote
  refine ⟨q, hresult, fun signal h => ?_⟩
  obtain ⟨v, hv, -⟩ := h.bridgeQuote
  have hv : computeVwap shortBooks.bridgeQuoteAsks q.alpha.bridgeQty = .ok v := hv
  rw [hv] at hraises
  cases hraises

end BimodalArbitrage.Marketdata
