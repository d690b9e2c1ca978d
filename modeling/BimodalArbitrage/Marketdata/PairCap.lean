import BimodalArbitrage.Marketdata.PairTrade
import BimodalArbitrage.Marketdata.RoundedVwap

/-!
# The cap of one pair trade

A pair trade is sized with the best ask and valued at the VWAP, so the cap on what
is planned is a cap on what is executed only while the order rests at the touch and
the product of its size and its price is not rounded up.
-/

namespace BimodalArbitrage.Marketdata
open Coop Execution Ml Rounding BimodalArbitrage.Runtime

/-- Nothing executed exceeds the notional the gate approved, nor the cap on it. -/
def CapBinds {N : Type} [PyFloat N] (t : List (Seen N)) : Prop :=
  ∀ call ∈ gateCalls t, call.verdict.1 = true → ∀ result ∈ executedResults t,
    result.executedVolumeUsd ≤ call.tradeNotionalUsd ∧
      result.executedVolumeUsd ≤ call.limits.maxNotionalUsdPerTrade

def RestsAtTouch (notional : ℚ) (asks : List OrderBookLevel) : Prop :=
  ∃ best ∈ asks.head?, notional ≤ best.price * touchDepth best.price asks

/-- The size of an order at the best ask. -/
def orderSize (notional : Binary64) : List (OrderBookLevel Binary64) → Binary64
  | [] => 0
  | best :: _ => notional / best.price

/-- Neither the size of the order, nor the average of its walk, nor its volume is rounded. -/
structure SizedExactly (notional : Binary64) (asks : List (OrderBookLevel Binary64)) : Prop where
  finite : notional.IsFinite
  size : ∀ best ∈ asks.head?, Exactly (orderSize notional asks) (notional.value / best.price.value)
  average : AveragesExactly (orderSize notional asks) asks
  volume : ∀ vwap, computeVwap asks (orderSize notional asks) = .ok vwap →
    Exactly (orderSize notional asks * vwap) ((orderSize notional asks).value * vwap.value)

/-- One level covers the order and is not paid more than the notional after rounding, or
nothing is rounded and the best price covers it. -/
def StaysWithin (notional : Binary64) (asks : List (OrderBookLevel Binary64)) : Prop :=
  (∃ level, CoversAlone level (orderSize notional asks) asks ∧
    orderSize notional asks *
      (level.price * orderSize notional asks / orderSize notional asks) ≤ notional) ∨
  (SizedExactly notional asks ∧ RestsAtTouch notional.value (exactLevels asks))

section
variable {m : PairMonitor Binary64} {asks bids : List (OrderBookLevel Binary64)}
  {best : OrderBookLevel Binary64} {q : PairQuote Binary64} {notional size vwap : Binary64}

theorem PairMonitor.Traded.capBinds_iff {t : List (Seen Binary64)} {call : GateCall Binary64}
    (h : m.Traded t call q) (hverdict : call.verdict.1 = true) (hsize : q.quantity.IsFinite)
    (hnotional : 0 ≤ m.config.notionalPerTradeUsd) :
    CapBinds t ↔ q.quantity * q.vwapAskA ≤ m.config.notionalPerTradeUsd := by
  obtain ⟨engaged, hlimits⟩ := h.limits
  have hcap : ¬(50 : Binary64) < m.config.notionalPerTradeUsd := by
    have hpassed := shouldExecute_eq_true_iff.mp hverdict
    simp only [Refused, Option.mem_some_iff, exists_eq_left', not_or, hlimits, h.notional]
      at hpassed
    exact hpassed.2.2.2.2.1
  have hwithin : m.config.notionalPerTradeUsd ≤ 50 :=
    Floating.le_of_not_lt (Floating.ofRat_ne_nan 50) (Floating.ne_nan_of_le hnotional).2 hcap
  rcases h.trade with ⟨hzero, hnothing⟩ | ⟨signal, gross, -, hexecuted⟩
  · refine iff_of_true (fun call _ _ result hresult => ?_) ?_
    · rw [hnothing] at hresult
      cases hresult
    · have hvwap : q.vwapAskA = 0 := by
        obtain ⟨hle, hge⟩ := of_decide_eq_true hzero
        exact Floating.le_antisymm hle hge
      have hproduct : q.quantity * 0 = 0 := hsize.mul_ofRat_zero
      rwa [hvwap, hproduct]
  · have hvolume : (filledPair (m.orders q signal gross)).executedVolumeUsd =
        q.quantity * q.vwapAskA :=
      congrArg (· * q.vwapAskA) (Floating.min_eq_right (Floating.le_refl hsize.ne_nan))
    simp only [CapBinds, h.calls, hexecuted, List.mem_singleton, forall_eq, hverdict, true_implies,
      h.notional, hlimits, hvolume]
    exact ⟨And.left, fun hle => ⟨hle, Floating.le_trans hle hwithin⟩⟩

theorem within_of_coversAlone {level : OrderBookLevel Binary64}
    (hbook : BestFirst (· ≤ ·) asks) (hfinite : FiniteLevels asks)
    (hvwap : computeVwap asks (orderSize notional asks) = .ok vwap)
    (hcovers : CoversAlone level (orderSize notional asks) asks) :
    orderSize notional asks * vwap ≤ notional ↔
      orderSize notional asks *
        (level.price * orderSize notional asks / orderSize notional asks) ≤ notional := by
  rw [hcovers.vwap_eq hbook hfinite hvwap]

theorem within_of_sizedExactly (hbook : BestFirst (· ≤ ·) (best :: asks))
    (hfinite : FiniteLevels (best :: asks))
    (hvwap : computeVwap (best :: asks) (orderSize notional (best :: asks)) = .ok vwap)
    (hexact : SizedExactly notional (best :: asks)) :
    orderSize notional (best :: asks) * vwap ≤ notional ↔
      RestsAtTouch notional.value (exactLevels (best :: asks)) := by
  have hbookExact := hbook.exact_asks hfinite
  have hpos : 0 < best.price.value := hbookExact.price_pos _ (List.mem_cons_self ..)
  obtain ⟨-, hvwapExact⟩ := hexact.average.vwap vwap hvwap
  obtain ⟨-, hsize⟩ := Binary64.exactly_iff.mp (hexact.size best rfl)
  obtain ⟨hfiniteVolume, hvolume⟩ := Binary64.exactly_iff.mp (hexact.volume vwap hvwap)
  have hplanned : best.price.value * (orderSize notional (best :: asks)).value =
      notional.value := by
    rw [hsize, mul_div_cancel₀ _ hpos.ne']
  have htouch : (orderSize notional (best :: asks)).value * vwap.value ≤ notional.value ↔
      notional.value ≤
        best.price.value * touchDepth best.price.value (exactLevels (best :: asks)) := by
    rw [← hplanned, mul_le_mul_iff_right₀ hpos]
    exact computeVwap_le_iff hbookExact hvwapExact
  rw [← Floating.value_le_value hfiniteVolume hexact.finite, hvolume, htouch]
  constructor
  · exact fun h => ⟨_, rfl, h⟩
  · rintro ⟨_, hhead, h⟩
    obtain rfl := Option.mem_some_iff.mp hhead
    exact h

theorem staysWithin_iff {t : List (Seen Binary64)} {call : GateCall Binary64}
    (hbook : BestFirst (· ≤ ·) (best :: asks)) (hfinite : FiniteLevels (best :: asks))
    (hquoted : m.Quoted best.price (best :: asks) bids q) (htraded : m.Traded t call q)
    (hverdict : call.verdict.1 = true) :
    (StaysWithin m.config.notionalPerTradeUsd (best :: asks) → CapBinds t) ∧
    ((∃ level, CoversAlone level (orderSize m.config.notionalPerTradeUsd (best :: asks))
        (best :: asks)) ∨ SizedExactly m.config.notionalPerTradeUsd (best :: asks) →
      CapBinds t → StaysWithin m.config.notionalPerTradeUsd (best :: asks)) := by
  have hprice : 0 < best.price := hbook.price_pos best (List.mem_cons_self ..)
  have hsize : orderSize m.config.notionalPerTradeUsd (best :: asks) = q.quantity := by
    have hsized := hquoted.sized
    rw [pyDiv_of_not_beq (not_beq_of_not_le (Floating.not_le_of_lt hprice))] at hsized
    exact Except.ok.inj hsized
  have hvwap := hquoted.ask
  have hquantity := quantity_pos hvwap
  rw [← hsize] at hvwap hquantity
  have hiff : (orderSize m.config.notionalPerTradeUsd (best :: asks)).IsFinite →
      (CapBinds t ↔ orderSize m.config.notionalPerTradeUsd (best :: asks) * q.vwapAskA ≤
        m.config.notionalPerTradeUsd) := by
    intro hsizeFinite
    have hnotional := Floating.zero_le_of_div hprice hsizeFinite hquantity
    rw [hsize] at hsizeFinite ⊢
    exact htraded.capBinds_iff hverdict hsizeFinite hnotional
  have hcovered := fun level
      (hcovers : CoversAlone level (orderSize m.config.notionalPerTradeUsd (best :: asks)) _) =>
    (hiff (hcovers.finite hfinite hquantity)).trans
      (within_of_coversAlone hbook hfinite hvwap hcovers)
  have hexact := fun hexact : SizedExactly m.config.notionalPerTradeUsd (best :: asks) =>
    (hiff hexact.average.finite).trans (within_of_sizedExactly hbook hfinite hvwap hexact)
  constructor
  · rintro (⟨level, hcovers, hwithin⟩ | ⟨hsized, htouch⟩)
    · exact (hcovered level hcovers).mpr hwithin
    · exact (hexact hsized).mpr htouch
  · rintro (⟨level, hcovers⟩ | hsized) hbinds
    · exact .inl ⟨level, hcovers, (hcovered level hcovers).mp hbinds⟩
    · exact .inr ⟨hsized, (hexact hsized).mp hbinds⟩

end

section
variable {N : Type} [PyFloat N]

def samplePair : PairMonitor N where
  host := ⟨id, fun _ => none, fun _ => .error (valueError "not a float")⟩
  config := ⟨[⟨"BTC/USDT", "alpha", "beta"⟩], [], 50, 0, true, false⟩
  index := 0
  pair := ⟨"BTC/USDT", "alpha", "beta"⟩

def readyState : AppState N :=
  { AppState.initial with
    temporalWindow := fun _ => ⟨1, none, List.replicate 100 [0]⟩
    depthBuilder := fun _ => ⟨0.0005, List.replicate 50 (List.replicate 50 100)⟩ }

def sampleBuy (asks : List (OrderBookLevel N)) : OrderBookSnapshot N :=
  ⟨"alpha", "BTC/USDT", 0, [], asks⟩

def sampleSell : OrderBookSnapshot N := ⟨"beta", "BTC/USDT", 0, [⟨30, 100⟩], []⟩

/-- A server that holds the two books and confirms everything else. -/
def sampleServer (asks : List (OrderBookLevel N)) :
    Env (AppState N) (Event N) (Call N) Call.Reply PyError where
  answer _ c := match c with
    | .redisGet key => .ok (some (snapshotToJson
        (if key = cacheKey "alpha" "BTC/USDT" then sampleBuy asks else sampleSell)))
    | .recordExecution _ => .ok ()
    | .sampleLog .. => .ok ()
    | _ => .error ⟨.other, "not called"⟩
  drift _ s := s

def sampleTrace (asks : List (OrderBookLevel N)) : List (Seen N) :=
  (samplePair.evaluateOnce.play (sampleServer asks) readyState []).trace

end

end BimodalArbitrage.Marketdata
