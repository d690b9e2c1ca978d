import BimodalArbitrage.Execution.Hedging
import BimodalArbitrage.Execution.Triangular

/-!
# What a triangle leaves in the bridge and the target asset

The holdings are read off a run: each order is booked on the market it was
announced on, and a unit bought on target/bridge costs `target_bridge_price` of
the bridge asset.
-/

namespace BimodalArbitrage.Execution
open Coop BimodalArbitrage.Runtime
variable {S : Type}

structure Holdings where
  market : Option TriangleMarket
  bridge : ℚ
  target : ℚ

namespace Holdings

def fill (targetBridgePrice : ℚ) (hd : Holdings) (amount : ℚ) : Holdings :=
  match hd.market with
  | none => hd
  | some .bridgeQuote => { hd with bridge := hd.bridge + amount }
  | some .targetBridge => { hd with
      bridge := hd.bridge - amount * targetBridgePrice
      target := hd.target + amount }
  | some .targetQuote => { hd with target := hd.target + amount }

def observe (targetBridgePrice : ℚ) (hd : Holdings) : Seen Event → Holdings
  | .event (.onMarket market) => { hd with market := some market }
  | .reply c r => hd.fill targetBridgePrice (c.moved r)
  | _ => hd

end Holdings

def holdings (targetBridgePrice : ℚ) (t : List (Seen Event)) : Holdings :=
  t.foldl (Holdings.observe targetBridgePrice) ⟨none, 0, 0⟩

namespace TriangleOrders

def leg (o : TriangleOrders) : TriangleMarket → ClientCall
  | .bridgeQuote => .placeIocOrder o.triangle.exchange o.triangle.symbolBridgeQuote .buy o.bridgeQty
      o.bridgeQuotePrice
  | .targetBridge => .placeIocOrder o.triangle.exchange o.triangle.symbolTargetBridge .buy
      o.targetQty o.targetBridgePrice
  | .targetQuote => .placeIocOrder o.triangle.exchange o.triangle.symbolTargetQuote .sell
      o.targetQty o.targetQuotePrice

end TriangleOrders

/-- `execute_triangle` run to its end. -/
def triangleExecution (client : Client S Event) (o : TriangleOrders) (s : S) :
    Outcome S Event ClientCall ClientCall.Reply PyError TradeExecutionResult :=
  (TriangularMitigator.executeTriangle ⟨remoteClient⟩ o).play client s []

def triangleTrace (o : TriangleOrders) (r1 r2 r3 : Except PyError LegResult) : List (Seen Event) :=
  [.turn, .event (.onMarket .bridgeQuote), .reply (o.leg .bridgeQuote) r1,
    .turn, .event (.onMarket .targetBridge), .reply (o.leg .targetBridge) r2,
    .turn, .event (.onMarket .targetQuote), .reply (o.leg .targetQuote) r3, .turn]

def leg1Reply (client : Client S Event) (o : TriangleOrders) : Except PyError LegResult :=
  client.answer [.turn, .event (.onMarket .bridgeQuote)] (o.leg .bridgeQuote)

def leg2Reply (client : Client S Event) (o : TriangleOrders) : Except PyError LegResult :=
  client.answer [.turn, .event (.onMarket .bridgeQuote),
    .reply (o.leg .bridgeQuote) (leg1Reply client o), .turn, .event (.onMarket .targetBridge)]
    (o.leg .targetBridge)

def leg3Reply (client : Client S Event) (o : TriangleOrders) : Except PyError LegResult :=
  client.answer [.turn, .event (.onMarket .bridgeQuote),
    .reply (o.leg .bridgeQuote) (leg1Reply client o), .turn, .event (.onMarket .targetBridge),
    .reply (o.leg .targetBridge) (leg2Reply client o), .turn, .event (.onMarket .targetQuote)]
    (o.leg .targetQuote)

theorem triangleExecution_eq (client : Client S Event) (o : TriangleOrders) (s : S) :
    ∃ s', triangleExecution client o s =
      (Outcome.mk (Coro.both (leg1Reply client o) (Coro.both (leg2Reply client o)
        (leg3Reply client o))) s' (triangleTrace o (leg1Reply client o) (leg2Reply client o)
        (leg3Reply client o))).andThen
        fun p => (TriangularMitigator.mitigate ⟨remoteClient⟩ o p.1 p.2.1 p.2.2).play client := by
  simp only [triangleExecution, TriangularMitigator.executeTriangle, Coro.bind_eq, Coro.play_bind,
    Coro.play_gather3, TriangularMitigator.placeLeg, Coro.report, remoteClient, Coro.play_call,
    Coro.play, Outcome.andThen, List.nil_append]
  exact ⟨_, rfl⟩

/-- Accepted legs fill what they asked for, rejected ones nothing, market orders
in full, and no order raises. -/
structure FullOrNothing (client : Client S Event) : Prop where
  ioc : ∀ h exchange symbol side amount price, ∃ r,
    client.answer h (.placeIocOrder exchange symbol side amount price) = .ok r ∧
      r.filledAmount = if r.accepted then amount else 0
  market : ∀ h exchange symbol side amount, ∃ r,
    client.answer h (.placeMarketOrder exchange symbol side amount) = .ok r ∧
      r.filledAmount = amount

def unwoundBridge (leg1 leg2 : LegResult) : ℚ :=
  if leg1.accepted && !leg2.accepted then leg1.filledAmount else 0

def unwoundTarget (leg1 leg2 leg3 : LegResult) : ℚ :=
  if leg1.accepted && leg2.accepted && !leg3.accepted then leg2.filledAmount else 0

def Sells (targetBridgePrice bridge target : ℚ) (t : List (Seen Event)) : Prop :=
  ∀ hd, (t.foldl (Holdings.observe targetBridgePrice) hd).bridge = hd.bridge - bridge ∧
    (t.foldl (Holdings.observe targetBridgePrice) hd).target = hd.target - target

section
variable {client : Client S Event}

theorem unwind_shows (hc : FullOrNothing client) (t : TriangleConfig) (market : TriangleMarket)
    (amount : ℚ) :
    Coro.Shows client (TriangularMitigator.unwind ⟨remoteClient⟩ t market amount) fun r u =>
      (∃ x, r = .ok x) ∧ ∃ a, a.filledAmount = amount ∧ u = [.event (.onMarket market),
        .reply (.placeMarketOrder t.exchange (t.symbolOf market) .sell amount) (.ok a)] := by
  refine Coro.shows_report_bind (Coro.shows_call_bind fun hist => ?_)
  obtain ⟨r, hr, hfill⟩ := hc.market hist t.exchange (t.symbolOf market) .sell amount
  rw [hr, ends_ok]
  exact Coro.shows_pure _ ⟨⟨_, rfl⟩, r, hfill, rfl⟩

theorem unwindNotional_shows (hc : FullOrNothing client) (p : ℚ) (t : TriangleConfig)
    (leg1 leg2 leg3 : LegResult) :
    Coro.Shows client (TriangularMitigator.unwindNotional ⟨remoteClient⟩ t leg1 leg2 leg3)
      fun r u => (∃ x, r = .ok x) ∧
        Sells p (unwoundBridge leg1 leg2) (unwoundTarget leg1 leg2 leg3) u := by
  unfold TriangularMitigator.unwindNotional unwoundBridge unwoundTarget
  split
  · next h12 =>
    refine Coro.shows_mono (unwind_shows hc t .bridgeQuote leg1.filledAmount) ?_
    rintro r u ⟨hr, a, ha, rfl⟩
    refine ⟨hr, fun hd => ?_⟩
    have h2 : leg2.accepted = false := by simp_all
    simp [Holdings.observe, Holdings.fill, ClientCall.moved, Side.signed, ha, h2, sub_eq_add_neg]
  split
  · next h123 =>
    refine Coro.shows_mono (unwind_shows hc t .targetQuote leg2.filledAmount) ?_
    rintro r u ⟨hr, a, ha, rfl⟩
    refine ⟨hr, fun hd => ?_⟩
    simp [Holdings.observe, Holdings.fill, ClientCall.moved, Side.signed, ha, sub_eq_add_neg]
  · exact Coro.shows_pure _ ⟨⟨0, rfl⟩, fun hd => ⟨(sub_zero _).symm, (sub_zero _).symm⟩⟩

theorem sells_nil (p : ℚ) : Sells p 0 0 [] := fun _ => ⟨(sub_zero _).symm, (sub_zero _).symm⟩

theorem triangle_mitigate_shows (hc : FullOrNothing client) (p : ℚ) (o : TriangleOrders)
    (leg1 leg2 leg3 : LegResult) :
    Coro.Shows client (TriangularMitigator.mitigate ⟨remoteClient⟩ o leg1 leg2 leg3) fun r t =>
      (∃ result, r = .ok result) ∧
        Sells p (unwoundBridge leg1 leg2) (unwoundTarget leg1 leg2 leg3) t := by
  unfold TriangularMitigator.mitigate
  split
  · next hall =>
    simp only [Bool.and_eq_true] at hall
    refine Coro.shows_pure _ ⟨⟨_, rfl⟩, ?_⟩
    simpa [unwoundBridge, unwoundTarget, hall] using sells_nil p
  split
  · next hnone =>
    simp only [Bool.and_eq_true, Bool.not_eq_true'] at hnone
    refine Coro.shows_pure _ ⟨⟨_, rfl⟩, ?_⟩
    simpa [unwoundBridge, unwoundTarget, hnone] using sells_nil p
  · refine Coro.shows_bind (unwindNotional_shows hc p o.triangle leg1 leg2 leg3) ?_
    rintro r t ⟨⟨x, rfl⟩, hsells⟩
    rw [ends_ok]
    exact Coro.shows_pure _ ⟨⟨_, rfl⟩, by rwa [List.append_nil]⟩

/-! ### Every outcome of the legs -/

def TriangleOrders.quantity (o : TriangleOrders) : TriangleMarket → ℚ
  | .bridgeQuote => o.bridgeQty
  | .targetBridge => o.targetQty
  | .targetQuote => o.targetQty

def TriangleOrders.reply (o : TriangleOrders) (client : Client S Event) :
    TriangleMarket → Except PyError LegResult
  | .bridgeQuote => leg1Reply client o
  | .targetBridge => leg2Reply client o
  | .targetQuote => leg3Reply client o

def accepted : Except PyError LegResult → Bool
  | .ok r => r.accepted
  | .error _ => false

def PartialFill (client : Client S Event) (o : TriangleOrders) : Prop :=
  (∃ market, accepted (o.reply client market) = true) ∧
    ∃ market, accepted (o.reply client market) = false

def LeavesNothing (client : Client S Event) (o : TriangleOrders) (s : S) : Prop :=
  (∃ result, (triangleExecution client o s).result = .ok result) ∧
    (holdings o.targetBridgePrice (triangleExecution client o s).trace).bridge = 0 ∧
    (holdings o.targetBridgePrice (triangleExecution client o s).trace).target = 0

theorem reply_returns (hc : FullOrNothing client) (o : TriangleOrders) (market : TriangleMarket) :
    ∃ l, o.reply client market = .ok l ∧
      l.filledAmount = if l.accepted then o.quantity market else 0 := by
  cases market
  · exact hc.ioc ..
  · exact hc.ioc ..
  · exact hc.ioc ..

theorem triangleExecution_holdings (hc : FullOrNothing client) (o : TriangleOrders) (s : S)
    {l1 l2 l3 : LegResult} (h1 : o.reply client .bridgeQuote = .ok l1)
    (h2 : o.reply client .targetBridge = .ok l2) (h3 : o.reply client .targetQuote = .ok l3) :
    (∃ result, (triangleExecution client o s).result = .ok result) ∧
      (holdings o.targetBridgePrice (triangleExecution client o s).trace).bridge =
        l1.filledAmount - l2.filledAmount * o.targetBridgePrice - unwoundBridge l1 l2 ∧
      (holdings o.targetBridgePrice (triangleExecution client o s).trace).target =
        l2.filledAmount - l3.filledAmount - unwoundTarget l1 l2 l3 := by
  obtain ⟨s', hs⟩ := triangleExecution_eq client o s
  rw [show leg1Reply client o = .ok l1 from h1, show leg2Reply client o = .ok l2 from h2,
    show leg3Reply client o = .ok l3 from h3] at hs
  obtain ⟨t, htrace, hresult, hsells⟩ := triangle_mitigate_shows hc o.targetBridgePrice o
    l1 l2 l3 s' (triangleTrace o (.ok l1) (.ok l2) (.ok l3))
  simp only [Coro.both, Outcome.andThen] at hs
  rw [hs, htrace, holdings, List.foldl_append]
  refine ⟨hresult, ?_, ?_⟩
  · rw [(hsells _).1]
    simp [triangleTrace, TriangleOrders.leg, Holdings.observe, Holdings.fill, ClientCall.moved,
      Side.signed]
  · rw [(hsells _).2]
    simp [triangleTrace, TriangleOrders.leg, Holdings.observe, Holdings.fill, ClientCall.moved,
      Side.signed, sub_eq_add_neg]

/-- Only a triangle whose first leg was accepted and whose last leg was rejected is
unwound completely. -/
theorem triangle_unwound_iff (client : Client S Event) (hc : FullOrNothing client)
    (o : TriangleOrders) (hprice : 0 < o.targetBridgePrice) (htarget : 0 < o.targetQty)
    (hqty : o.bridgeQty = o.targetQty * o.targetBridgePrice) (s : S)
    (hmixed : PartialFill client o) :
    LeavesNothing client o s ↔ accepted (o.reply client .bridgeQuote) = true ∧
      accepted (o.reply client .targetQuote) = false := by
  obtain ⟨l1, h1, hf1⟩ := reply_returns hc o .bridgeQuote
  obtain ⟨l2, h2, hf2⟩ := reply_returns hc o .targetBridge
  obtain ⟨l3, h3, hf3⟩ := reply_returns hc o .targetQuote
  obtain ⟨hresult, hb, ht⟩ := triangleExecution_holdings hc o s h1 h2 h3
  obtain ⟨⟨m, hm⟩, ⟨m', hm'⟩⟩ := hmixed
  have hcost : o.targetQty * o.targetBridgePrice ≠ 0 := (mul_pos htarget hprice).ne'
  simp only [LeavesNothing, hresult, true_and, hb, ht, hf1, hf2, h1, h3, accepted, unwoundBridge,
    unwoundTarget, TriangleOrders.quantity, hqty]
  cases ha1 : l1.accepted with
  | false =>
    refine iff_of_false ?_ (by simp)
    cases ha2 : l2.accepted with
    | true => simp [hcost]
    | false =>
      have ha3 : l3.accepted = true := by
        cases m <;> simp_all [accepted]
      simp [hf3, ha3, htarget.ne', TriangleOrders.quantity]
  | true =>
    cases ha3 : l3.accepted with
    | true =>
      have ha2 : l2.accepted = false := by
        cases m' <;> simp_all [accepted]
      simp [hf3, ha2, ha3, htarget.ne', TriangleOrders.quantity]
    | false =>
      refine iff_of_true ?_ ⟨rfl, rfl⟩
      cases ha2 : l2.accepted <;> simp [hf3, ha3]

end

def sampleTriangle : TriangleOrders where
  triangle := ⟨"binance", "USDT", "BTC", "ETH"⟩
  quoteNotionalUsd := 50
  bridgeQuotePrice := 250
  targetBridgePrice := 1 / 10
  targetQuotePrice := 26
  bridgeQty := 1 / 5
  targetQty := 2
  grossSpreadPct := 1 / 25
  netSpreadPct := 1 / 25
  mlConfidenceScore := 1

theorem scripted_fullOrNothing {ioc : Side → ℚ → Except PyError LegResult}
    (bid : Except PyError ℚ) (h : ∀ side amount, ∃ r, ioc side amount = .ok r ∧
      r.filledAmount = if r.accepted then amount else 0) :
    FullOrNothing (scripted ioc bid) where
  ioc _ _ _ side amount _ := h side amount
  market _ _ _ _ _ := ⟨_, rfl, rfl⟩

theorem triangle_unwound_buyAlone :
    LeavesNothing (scripted buyAlone (.ok 99)) sampleTriangle () := by
  refine (triangle_unwound_iff _ (scripted_fullOrNothing _ ?_) sampleTriangle (by decide +kernel)
    (by decide +kernel) (by decide +kernel) () ⟨⟨.bridgeQuote, rfl⟩, ⟨.targetQuote, rfl⟩⟩).mpr
    ⟨rfl, rfl⟩
  rintro (_ | _) amount
  · exact ⟨_, rfl, rfl⟩
  · exact ⟨_, rfl, rfl⟩

def bridgeRejected : Side → ℚ → Except PyError LegResult
  | .buy, amount => .ok (if amount = 1 / 5 then rejected else filled amount)
  | .sell, amount => .ok (filled amount)

theorem triangle_unwound_bridgeRejected :
    FullOrNothing (scripted bridgeRejected (.ok 99)) ∧ 0 < sampleTriangle.targetBridgePrice ∧
      0 < sampleTriangle.targetQty ∧
      sampleTriangle.bridgeQty = sampleTriangle.targetQty * sampleTriangle.targetBridgePrice ∧
      PartialFill (scripted bridgeRejected (.ok 99)) sampleTriangle ∧
      ¬LeavesNothing (scripted bridgeRejected (.ok 99)) sampleTriangle () := by
  refine ⟨scripted_fullOrNothing _ ?_, by decide +kernel, by decide +kernel, by decide +kernel,
    ⟨⟨.targetQuote, rfl⟩, ⟨.bridgeQuote, by decide +kernel⟩⟩, fun h => ?_⟩
  · rintro (_ | _) amount
    · refine ⟨_, rfl, ?_⟩
      split <;> rfl
    · exact ⟨_, rfl, rfl⟩
  · exact absurd h.2.1 (by decide +kernel)

end BimodalArbitrage.Execution
