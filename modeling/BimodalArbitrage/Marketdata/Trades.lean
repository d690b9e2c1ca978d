import BimodalArbitrage.Execution.PaperFills
import BimodalArbitrage.Marketdata.Depth
import BimodalArbitrage.Marketdata.Runner

/-!
# The trades of the monitors

What an approved trade consists of, and how its size relates to the notional the
gate was asked for.
-/

namespace BimodalArbitrage.Marketdata
open Coop Execution Ml BimodalArbitrage.Runtime

namespace PairMonitor

section
variable {N : Type} [PyFloat N] {m : PairMonitor N}

/-- A quote is sized with the best ask and priced with the walks through both books. -/
structure Quoted (m : PairMonitor N) (bestAskPrice : N) (asks bids : List (OrderBookLevel N))
    (q : PairQuote N) : Prop where
  sized : pyDiv m.config.notionalPerTradeUsd bestAskPrice = .ok q.quantity
  ask : computeVwap asks q.quantity = .ok q.vwapAskA
  bid : computeVwap bids q.quantity = .ok q.vwapBidB
  alpha : ∃ feeA feeB,
    getTakerFeeBps m.host m.pair.exchangeBuy m.config.defaultTakerFeeBps = .ok feeA ∧
    getTakerFeeBps m.host m.pair.exchangeSell m.config.defaultTakerFeeBps = .ok feeB ∧
    computeNetAlpha q.vwapBidB (feeB / 10000) q.vwapAskA (feeA / 10000) 0.0005 0
      m.config.notionalPerTradeUsd = .ok q.netAlpha

theorem quote_ok {bestAskPrice : N} {asks bids : List (OrderBookLevel N)} {q : PairQuote N}
    (h : m.quote bestAskPrice asks bids = .ok (some q)) : m.Quoted bestAskPrice asks bids q := by
  obtain ⟨quantity, hquantity, h⟩ := bind_ok h
  obtain ⟨vwaps, hvwaps, h⟩ := bind_ok h
  cases vwaps with
  | none => cases h
  | some vwaps =>
  obtain ⟨feeA, hfeeA, h⟩ := bind_ok h
  obtain ⟨feeB, hfeeB, h⟩ := bind_ok h
  obtain ⟨netAlpha, halpha, h⟩ := bind_ok h
  cases netAlpha with
  | none => cases h
  | some netAlpha =>
  cases h
  obtain ⟨vwapAskA, hask, hrest⟩ := bind_ok (exceptValueError_some hvwaps)
  obtain ⟨vwapBidB, hbid, hrest⟩ := bind_ok hrest
  cases hrest
  exact ⟨hquantity, hask, hbid, feeA, feeB, hfeeA, hfeeB, exceptValueError_some halpha⟩

theorem Quoted.quote {bestAskPrice : N} {asks bids : List (OrderBookLevel N)} {q : PairQuote N}
    (h : m.Quoted bestAskPrice asks bids q) : m.quote bestAskPrice asks bids = .ok (some q) := by
  obtain ⟨feeA, feeB, hfeeA, hfeeB, halpha⟩ := h.alpha
  simp only [PairMonitor.quote, h.sized, h.ask, h.bid, hfeeA, hfeeB, halpha, exceptValueError,
    ok_bind, pure, Except.pure, Option.map_some]

theorem trade_eq (m : PairMonitor N) (asks : List (OrderBookLevel N)) (q : PairQuote N)
    (signal : ArbitrageSignal N) (record : ℕ) :
    m.trade asks q signal record =
      (Coro.lift (pyDiv (q.vwapBidB - q.vwapAskA) q.vwapAskA)).bind fun gross =>
        (Coro.report (.executePairedOrders m.index asks (m.orders q signal gross))).bind fun _ =>
          (pairFills (paperExchange m.id) (m.orders q signal gross)).bind fun _ =>
            bookResult m.id record (filledPair (m.orders q signal gross)) := rfl

end

/-! ### Exact sizes -/

variable {m : PairMonitor}

theorem quote_notional {bestAskPrice : ℚ} {asks bids : List OrderBookLevel} {q : PairQuote}
    (h : m.quote bestAskPrice asks bids = .ok (some q)) :
    bestAskPrice * q.quantity = m.config.notionalPerTradeUsd := by
  obtain ⟨hne, hquantity⟩ := pyDiv_ok (quote_ok h).sized
  rw [hquantity, mul_div_cancel₀ _ hne]

theorem quote_covered {bestAskPrice : ℚ} {asks bids : List OrderBookLevel} {q : PairQuote}
    (h : m.quote bestAskPrice asks bids = .ok (some q))
    (hcovered : q.quantity ≤ touchDepth bestAskPrice asks) :
    q.quantity * q.vwapAskA = m.config.notionalPerTradeUsd := by
  rw [computeVwap_touch (quote_ok h).ask hcovered, quote_notional h]

theorem quote_vwap_ne {bestAskPrice : ℚ} {asks bids : List OrderBookLevel} {q : PairQuote}
    (h : m.quote bestAskPrice asks bids = .ok (some q)) : q.vwapAskA ≠ 0 := by
  obtain ⟨feeA, feeB, -, -, halpha⟩ := (quote_ok h).alpha
  obtain ⟨-, hdenom, -⟩ := computeNetAlpha_ok halpha
  exact left_ne_zero_of_mul hdenom.ne'

end PairMonitor

namespace TriangleMonitor

theorem trade_eq {N : Type} [PyFloat N] (m : TriangleMonitor N) (q : TriangleQuote N)
    (signal : ArbitrageSignal N) (record : ℕ) :
    m.trade q signal record =
      (Coro.report (.executeTriangle m.index m.config.notionalPerTradeUsd)).bind fun _ =>
        (triangleFills (paperExchange m.id) (m.orders q signal)).bind fun _ =>
          bookResult m.id record (filledTriangle (m.orders q signal)) := rfl

end TriangleMonitor
end BimodalArbitrage.Marketdata
