import BimodalArbitrage.Marketdata.PairCap

/-!
# The reported profit of a pair trade

The net alpha is a share of what the purchase costs with its fee, less the estimated
slippage. It is booked on the volume without the fee, so the report stays below the cash.
-/

namespace BimodalArbitrage.Marketdata
open Coop Execution Ml BimodalArbitrage.Runtime

/-- What both legs bring in at the dispatched prices, less the fees. -/
def cashGain (tauA tauB : ℚ) (o : PairedOrders) : ℚ :=
  o.amount * o.sellPrice * (1 - tauB) - o.amount * o.buyPrice * (1 + tauA)

theorem netAlpha_pos_of_verdict {call : GateCall} {engaged : Bool}
    (hlimits : call.limits = { defaultRiskLimits with killSwitchEngaged := engaged })
    (hverdict : call.verdict.1 = true) : 0 < call.netAlphaBps := by
  obtain ⟨-, halpha, -⟩ := (shouldExecute_iff _ _ _ _ _).mp hverdict
  rw [hlimits] at halpha
  have hfloor : (0 : ℚ) < 15 := by norm_num
  exact hfloor.trans halpha

section
variable {m : PairMonitor} {bestAskPrice feeA feeB : ℚ} {asks bids : List OrderBookLevel}
  {q : PairQuote}

theorem cashGain_eq (hquote : m.quote bestAskPrice asks bids = .ok (some q))
    (hfeeA : getTakerFeeBps m.host m.pair.exchangeBuy m.config.defaultTakerFeeBps = .ok feeA)
    (hfeeB : getTakerFeeBps m.host m.pair.exchangeSell m.config.defaultTakerFeeBps = .ok feeB)
    (signal : ArbitrageSignal ℚ) (gross : ℚ) :
    0 < q.vwapAskA * (1 + feeA / 10000) ∧
      cashGain (feeA / 10000) (feeB / 10000) (m.orders q signal gross) =
        q.quantity * (q.vwapAskA * (1 + feeA / 10000)) * (q.netAlpha + 0.0005) := by
  obtain ⟨feeA', feeB', hfeeA', hfeeB', halpha⟩ := (PairMonitor.quote_ok hquote).alpha
  obtain rfl := Except.ok.inj (hfeeA.symm.trans hfeeA')
  obtain rfl := Except.ok.inj (hfeeB.symm.trans hfeeB')
  obtain ⟨-, hdenom, hnet⟩ := computeNetAlpha_ok halpha
  refine ⟨hdenom, ?_⟩
  have hgross : (q.netAlpha + 0.0005) * (q.vwapAskA * (1 + feeA / 10000)) =
      q.vwapBidB * (1 - feeB / 10000) - q.vwapAskA * (1 + feeA / 10000) := by
    rw [hnet, zero_div, sub_zero, sub_add_cancel, div_mul_cancel₀ _ hdenom.ne']
  calc cashGain (feeA / 10000) (feeB / 10000) (m.orders q signal gross)
      = q.quantity *
          (q.vwapBidB * (1 - feeB / 10000) - q.vwapAskA * (1 + feeA / 10000)) := by
        simp only [cashGain, PairMonitor.orders]
        ring
    _ = q.quantity * (q.vwapAskA * (1 + feeA / 10000)) * (q.netAlpha + 0.0005) := by
        rw [← hgross]
        ring

theorem filledPair_pnl_le (hquote : m.quote bestAskPrice asks bids = .ok (some q))
    (hfeeA : getTakerFeeBps m.host m.pair.exchangeBuy m.config.defaultTakerFeeBps = .ok feeA)
    (hfeeB : getTakerFeeBps m.host m.pair.exchangeSell m.config.defaultTakerFeeBps = .ok feeB)
    (htauA : 0 ≤ feeA / 10000) (halpha : 0 < q.netAlpha) (signal : ArbitrageSignal ℚ)
    (gross : ℚ) :
    (filledPair (m.orders q signal gross)).realizedPnlUsd ≤
        cashGain (feeA / 10000) (feeB / 10000) (m.orders q signal gross) ∧
      0 < cashGain (feeA / 10000) (feeB / 10000) (m.orders q signal gross) := by
  obtain ⟨hdenom, hcash⟩ := cashGain_eq hquote hfeeA hfeeB signal gross
  obtain ⟨hquantity, -⟩ := computeVwap_ok (PairMonitor.quote_ok hquote).ask
  have hone : (1 : ℚ) ≤ 1 + feeA / 10000 := le_add_of_nonneg_right htauA
  have hvwap : 0 < q.vwapAskA := (mul_pos_iff_of_pos_right (one_pos.trans_le hone)).mp hdenom
  have hvolume : 0 < q.quantity * q.vwapAskA := mul_pos hquantity hvwap
  have hspent : q.quantity * q.vwapAskA ≤ q.quantity * (q.vwapAskA * (1 + feeA / 10000)) := by
    rw [← mul_assoc]
    exact le_mul_of_one_le_right hvolume.le hone
  have hmore : q.netAlpha ≤ q.netAlpha + 0.0005 := le_add_of_nonneg_right (by norm_num)
  have hpnl : (filledPair (m.orders q signal gross)).realizedPnlUsd =
      q.quantity * q.vwapAskA * q.netAlpha := by
    simp only [filledPair, BrokenLegMitigator.report, PairMonitor.orders, min_self]
  rw [hpnl, hcash]
  constructor
  · exact mul_le_mul hspent hmore halpha.le (hvolume.le.trans hspent)
  · exact mul_pos (hvolume.trans_le hspent) (halpha.trans_le hmore)

end

/-- An approved evaluation trades once, reports at most the cash it gains, and gains. -/
theorem paperPnl_le_cashGain (m : PairMonitor) (env : Env AppState Event Call Call.Reply PyError)
    (s : AppState) {feeA feeB : ℚ}
    (hfeeA : getTakerFeeBps m.host m.pair.exchangeBuy m.config.defaultTakerFeeBps = .ok feeA)
    (hfeeB : getTakerFeeBps m.host m.pair.exchangeSell m.config.defaultTakerFeeBps = .ok feeB)
    (htauA : 0 ≤ feeA / 10000) (happroved : Approved (m.evaluateOnce.play env s []).trace) :
    ∃ orders result, dispatchedPairs (m.evaluateOnce.play env s []).trace = [orders] ∧
      executedResults (m.evaluateOnce.play env s []).trace = [result] ∧
      result.realizedPnlUsd ≤ cashGain (feeA / 10000) (feeB / 10000) orders ∧
      0 < cashGain (feeA / 10000) (feeB / 10000) orders := by
  obtain ⟨t, htrace, htrades⟩ := PairMonitor.evaluateOnce_trades env m s []
  rw [List.nil_append] at htrace
  rw [htrace] at happroved ⊢
  obtain ⟨call, hcall, hverdict⟩ := happroved
  obtain ⟨q, ⟨bestAskPrice, asks, bids, hquote⟩, htraded⟩ := htrades call hcall hverdict
  obtain ⟨engaged, hlimits⟩ := htraded.limits
  obtain ⟨signal, gross, hdispatch, hexecuted⟩ := htraded.trade.resolve_left fun hzero =>
    PairMonitor.quote_vwap_ne hquote (beq_iff_eq.mp hzero.1)
  have hbps := netAlpha_pos_of_verdict hlimits hverdict
  rw [htraded.netAlphaBps] at hbps
  have halpha : 0 < q.netAlpha := (mul_pos_iff_of_pos_right (by norm_num)).mp hbps
  obtain ⟨hle, hpos⟩ := filledPair_pnl_le hquote hfeeA hfeeB htauA halpha signal gross
  exact ⟨_, _, hdispatch, hexecuted, hle, hpos⟩

/-- 60 USD buy what is sold for 150: 89.97 USD are reported of 90. -/
theorem paperPnl_le_cashGain_twoLevels :
    ∃ orders result, dispatchedPairs (sampleTrace [⟨10, 4⟩, ⟨20, 4⟩]) = [orders] ∧
      executedResults (sampleTrace [⟨10, 4⟩, ⟨20, 4⟩]) = [result] ∧
      result.realizedPnlUsd ≤ cashGain (0 / 10000) (0 / 10000) orders ∧
      0 < cashGain (0 / 10000) (0 / 10000) orders := by
  refine paperPnl_le_cashGain samplePair _ readyState rfl rfl (by decide +kernel) ?_
  show Approved (sampleTrace [⟨10, 4⟩, ⟨20, 4⟩])
  unfold Approved
  decide +kernel

end BimodalArbitrage.Marketdata
