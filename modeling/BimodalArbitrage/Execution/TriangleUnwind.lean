import BimodalArbitrage.Execution.TrianglePosition

/-!
# What an unwound triangle reports

A triangle counts as hedged as soon as its unwind order brings in anything. Whether the
bridge and the target asset are flat again depends on what was unwound, and how much of it.
-/

namespace BimodalArbitrage.Execution
open Coop BimodalArbitrage.Runtime
variable {S : Type}

/-- The market of the unwind order and the quantity it sells. -/
def unwindLeg (leg1 leg2 leg3 : LegResult) : Option (TriangleMarket × ℚ) :=
  if leg1.accepted && !leg2.accepted then some (.bridgeQuote, leg1.filledAmount)
  else if leg1.accepted && leg2.accepted && !leg3.accepted then
    some (.targetQuote, leg2.filledAmount)
  else none

def TriangleOrders.unwindOrder (o : TriangleOrders) (u : TriangleMarket × ℚ) : ClientCall :=
  .placeMarketOrder o.triangle.exchange (o.triangle.symbolOf u.1) .sell u.2

def unwindReply (client : Client S Event) (o : TriangleOrders) (leg1 leg2 leg3 : LegResult)
    (u : TriangleMarket × ℚ) : Except PyError LegResult :=
  client.answer (triangleTrace o (.ok leg1) (.ok leg2) (.ok leg3) ++ [.event (.onMarket u.1)])
    (o.unwindOrder u)

/-- The report of a triangle that neither succeeds nor is rejected. -/
def unwindReport (o : TriangleOrders) (leg1 leg2 leg3 : LegResult) (unwindNotional : ℚ) :
    TradeExecutionResult :=
  TriangularMitigator.report o (if unwindNotional > 0 then .HEDGED else .PARTIAL_FILL)
    unwindNotional 0 (some ("partial fill: leg1=" ++ pyBool leg1.accepted ++ " leg2=" ++
      pyBool leg2.accepted ++ " leg3=" ++ pyBool leg3.accepted))

/-- The three legs are answered. -/
structure Answered (client : Client S Event) (o : TriangleOrders) (leg1 leg2 leg3 : LegResult) :
    Prop where
  leg1 : leg1Reply client o = .ok leg1
  leg2 : leg2Reply client o = .ok leg2
  leg3 : leg3Reply client o = .ok leg3

section
variable {client : Client S Event} {o : TriangleOrders} {leg1 leg2 leg3 : LegResult}

theorem answered_or_raises (client : Client S Event) (o : TriangleOrders) (s : S) :
    (∃ leg1 leg2 leg3, Answered client o leg1 leg2 leg3) ∨
      (∃ e, (triangleExecution client o s).result = .error e) ∧
        ∀ leg1 leg2 leg3, ¬Answered client o leg1 leg2 leg3 := by
  obtain ⟨s', hs⟩ := triangleExecution_eq client o s
  cases hboth : Coro.both (leg1Reply client o) (Coro.both (leg2Reply client o)
      (leg3Reply client o)) with
  | ok p =>
    obtain ⟨h1, h23⟩ := Coro.both_ok hboth
    obtain ⟨h2, h3⟩ := Coro.both_ok h23
    exact .inl ⟨_, _, _, h1, h2, h3⟩
  | error e =>
    rw [hboth] at hs
    refine .inr ⟨⟨e, by rw [hs]; rfl⟩, fun leg1 leg2 leg3 h => ?_⟩
    rw [h.leg1, h.leg2, h.leg3] at hboth
    cases hboth

theorem Answered.execution (h : Answered client o leg1 leg2 leg3) (s : S) :
    ∃ s', triangleExecution client o s =
      (TriangularMitigator.mitigate ⟨remoteClient⟩ o leg1 leg2 leg3).play client s'
        (triangleTrace o (.ok leg1) (.ok leg2) (.ok leg3)) := by
  obtain ⟨s', hs⟩ := triangleExecution_eq client o s
  rw [h.leg1, h.leg2, h.leg3] at hs
  exact ⟨s', hs⟩

theorem Answered.forall_iff {P : LegResult → LegResult → LegResult → Prop}
    (h : Answered client o leg1 leg2 leg3) :
    (∀ l1 l2 l3, Answered client o l1 l2 l3 → P l1 l2 l3) ↔ P leg1 leg2 leg3 := by
  refine ⟨fun hall => hall _ _ _ h, fun hP l1 l2 l3 h' => ?_⟩
  cases h.leg1.symm.trans h'.leg1
  cases h.leg2.symm.trans h'.leg2
  cases h.leg3.symm.trans h'.leg3
  exact hP

theorem unwindLeg_some {u : TriangleMarket × ℚ} (hu : unwindLeg leg1 leg2 leg3 = some u) :
    leg1.accepted = true ∧
      (leg2.accepted = false ∧ u = (.bridgeQuote, leg1.filledAmount) ∨
        leg2.accepted = true ∧ leg3.accepted = false ∧ u = (.targetQuote, leg2.filledAmount)) := by
  unfold unwindLeg at hu
  split at hu
  · next h12 =>
    simp only [Bool.and_eq_true, Bool.not_eq_true'] at h12
    exact ⟨h12.1, .inl ⟨h12.2, (Option.some.inj hu).symm⟩⟩
  split at hu
  · next h123 =>
    simp only [Bool.and_eq_true, Bool.not_eq_true'] at h123
    exact ⟨h123.1.1, .inr ⟨h123.1.2, h123.2, (Option.some.inj hu).symm⟩⟩
  · cases hu

theorem unwindNotional_eq (m : TriangularMitigator S ClientCall ClientCall.Reply)
    (t : TriangleConfig) (leg1 leg2 leg3 : LegResult) :
    m.unwindNotional t leg1 leg2 leg3 = match unwindLeg leg1 leg2 leg3 with
      | some u => m.unwind t u.1 u.2
      | none => pure 0 := by
  unfold TriangularMitigator.unwindNotional unwindLeg
  split
  · rfl
  split
  · rfl
  · rfl

/-- One of the legs is accepted and one is not. -/
def mixed (leg1 leg2 leg3 : LegResult) : Bool :=
  (leg1.accepted || leg2.accepted || leg3.accepted) &&
    !(leg1.accepted && leg2.accepted && leg3.accepted)

theorem mixed_of_unwindLeg {u : TriangleMarket × ℚ} (hu : unwindLeg leg1 leg2 leg3 = some u) :
    mixed leg1 leg2 leg3 = true := by
  obtain ⟨h1, ⟨h2, -⟩ | ⟨h2, h3, -⟩⟩ := unwindLeg_some hu
  · simp [mixed, h1, h2]
  · simp [mixed, h1, h2, h3]

theorem mitigate_mixed (m : TriangularMitigator S ClientCall ClientCall.Reply)
    (hmixed : mixed leg1 leg2 leg3 = true) :
    m.mitigate o leg1 leg2 leg3 = (m.unwindNotional o.triangle leg1 leg2 leg3).bind fun x =>
      .pure (unwindReport o leg1 leg2 leg3 x) := by
  have hall : (leg1.accepted && leg2.accepted && leg3.accepted) = false := by
    simp only [mixed, Bool.and_eq_true, Bool.not_eq_true'] at hmixed
    exact hmixed.2
  have hnone : (!leg1.accepted && !leg2.accepted && !leg3.accepted) = false := by
    simp only [mixed, Bool.and_eq_true] at hmixed
    rw [← Bool.not_or, ← Bool.not_or, hmixed.1, Bool.not_true]
  simp only [TriangularMitigator.mitigate, hall, hnone, Bool.false_eq_true, if_false,
    Coro.bind_eq, Coro.pure_eq, unwindReport]

theorem Answered.unwinds (h : Answered client o leg1 leg2 leg3) {u : TriangleMarket × ℚ}
    (hu : unwindLeg leg1 leg2 leg3 = some u) (s : S) :
    (triangleExecution client o s).result = (unwindReply client o leg1 leg2 leg3 u).map
        (fun r => unwindReport o leg1 leg2 leg3 (r.filledAmount * r.avgPrice)) ∧
      (triangleExecution client o s).trace = triangleTrace o (.ok leg1) (.ok leg2) (.ok leg3) ++
        [.event (.onMarket u.1),
          .reply (o.unwindOrder u) (unwindReply client o leg1 leg2 leg3 u)] := by
  obtain ⟨s', hs⟩ := h.execution s
  rw [hs, mitigate_mixed _ (mixed_of_unwindLeg hu), unwindNotional_eq, hu]
  simp only [TriangularMitigator.unwind, remoteClient, Coro.bind_eq, Coro.play_bind, Coro.report,
    Coro.play, Coro.play_call, Outcome.andThen]
  unfold unwindReply TriangleOrders.unwindOrder
  cases client.answer (triangleTrace o (.ok leg1) (.ok leg2) (.ok leg3) ++
      [.event (.onMarket u.1)]) (.placeMarketOrder o.triangle.exchange (o.triangle.symbolOf u.1)
        .sell u.2) with
  | error e => simp [Except.map]
  | ok r => simp [Except.map, Coro.play]

theorem Answered.keeps (h : Answered client o leg1 leg2 leg3)
    (hmixed : mixed leg1 leg2 leg3 = true) (hu : unwindLeg leg1 leg2 leg3 = none) (s : S) :
    (triangleExecution client o s).result = .ok (unwindReport o leg1 leg2 leg3 0) ∧
      (triangleExecution client o s).trace =
        triangleTrace o (.ok leg1) (.ok leg2) (.ok leg3) := by
  obtain ⟨s', hs⟩ := h.execution s
  rw [hs, mitigate_mixed _ hmixed, unwindNotional_eq, hu]
  exact ⟨rfl, rfl⟩

theorem agree_of_not_mixed (hmixed : mixed leg1 leg2 leg3 = false) :
    leg1.accepted = leg2.accepted ∧ leg2.accepted = leg3.accepted := by
  unfold mixed at hmixed
  cases h1 : leg1.accepted <;> cases h2 : leg2.accepted <;> cases h3 : leg3.accepted <;>
    simp_all

/-- The report of a triangle whose legs were all accepted, or none of them. -/
def settledReport (o : TriangleOrders) (leg1 leg2 leg3 : LegResult) : TradeExecutionResult :=
  if leg1.accepted then
    TriangularMitigator.report o .SUCCESS o.quoteNotionalUsd (o.quoteNotionalUsd * o.netSpreadPct)
      none
  else TriangularMitigator.report o .REJECTED 0 0 (some ("all three legs rejected: " ++
    pyStr leg1.reason ++ ", " ++ pyStr leg2.reason ++ ", " ++ pyStr leg3.reason))

theorem Answered.settles (h : Answered client o leg1 leg2 leg3)
    (hmixed : mixed leg1 leg2 leg3 = false) (s : S) :
    (triangleExecution client o s).result = .ok (settledReport o leg1 leg2 leg3) := by
  obtain ⟨s', hs⟩ := h.execution s
  obtain ⟨h12, h23⟩ := agree_of_not_mixed hmixed
  rw [hs, TriangularMitigator.mitigate, ← h23, ← h12, settledReport]
  cases leg1.accepted <;> rfl

/-! ### Is a hedged triangle flat? -/

/-- Accepted legs fill what they asked for and rejected ones nothing; a market order
fills any part of its quantity, at a positive price. -/
structure UnwindsInPart (client : Client S Event) : Prop where
  ioc : ∀ h exchange symbol side amount price r,
    client.answer h (.placeIocOrder exchange symbol side amount price) = .ok r →
      r.filledAmount = if r.accepted then amount else 0
  market : ∀ h exchange symbol side amount r,
    client.answer h (.placeMarketOrder exchange symbol side amount) = .ok r → 0 ≤ amount →
      0 ≤ r.filledAmount ∧ r.filledAmount ≤ amount ∧ (0 < r.filledAmount → 0 < r.avgPrice)

def HedgedIsFlat (client : Client S Event) (o : TriangleOrders) (s : S) : Prop :=
  ∀ result, (triangleExecution client o s).result = .ok result → result.status = .HEDGED →
    (holdings o.targetBridgePrice (triangleExecution client o s).trace).bridge = 0 ∧
      (holdings o.targetBridgePrice (triangleExecution client o s).trace).target = 0

/-- An unwind order that fills at all fills in full, and leaves no sold target asset open. -/
def UnwindsWhole (client : Client S Event) (o : TriangleOrders) : Prop :=
  ∀ leg1 leg2 leg3, Answered client o leg1 leg2 leg3 →
    ∀ u, unwindLeg leg1 leg2 leg3 = some u →
      ∀ r, unwindReply client o leg1 leg2 leg3 u = .ok r →
        r.filledAmount = 0 ∨ leg3.accepted = false ∧ r.filledAmount = u.2

theorem holdings_unwound (o : TriangleOrders) (leg1 leg2 leg3 r : LegResult)
    (u : TriangleMarket × ℚ) (hu : u.1 ≠ .targetBridge) :
    let hd := holdings o.targetBridgePrice (triangleTrace o (.ok leg1) (.ok leg2) (.ok leg3) ++
      [.event (.onMarket u.1), .reply (o.unwindOrder u) (.ok r)])
    hd.bridge = leg1.filledAmount - leg2.filledAmount * o.targetBridgePrice -
        (if u.1 = .bridgeQuote then r.filledAmount else 0) ∧
      hd.target = leg2.filledAmount - leg3.filledAmount -
        (if u.1 = .targetQuote then r.filledAmount else 0) := by
  obtain ⟨market, quantity⟩ := u
  cases market with
  | targetBridge => exact absurd rfl hu
  | bridgeQuote =>
    simp [holdings, triangleTrace, TriangleOrders.leg, TriangleOrders.unwindOrder,
      Holdings.observe, Holdings.fill, ClientCall.moved, Side.signed, sub_eq_add_neg]
  | targetQuote =>
    simp [holdings, triangleTrace, TriangleOrders.leg, TriangleOrders.unwindOrder,
      Holdings.observe, Holdings.fill, ClientCall.moved, Side.signed, sub_eq_add_neg]

theorem Answered.not_hedged (h : Answered client o leg1 leg2 leg3)
    (hu : unwindLeg leg1 leg2 leg3 = none) {s : S} {result : TradeExecutionResult}
    (hresult : (triangleExecution client o s).result = .ok result) : result.status ≠ .HEDGED := by
  cases hmixed : mixed leg1 leg2 leg3 with
  | true =>
    rw [(h.keeps hmixed hu s).1] at hresult
    cases hresult
    exact nofun
  | false =>
    rw [h.settles hmixed s, settledReport] at hresult
    split at hresult <;> cases hresult <;> exact nofun

theorem unwindReport_hedged (o : TriangleOrders) (leg1 leg2 leg3 : LegResult)
    (unwindNotional : ℚ) :
    (unwindReport o leg1 leg2 leg3 unwindNotional).status = .HEDGED ↔ 0 < unwindNotional := by
  rw [unwindReport, TriangularMitigator.report]
  split
  · next hpos => exact iff_of_true rfl hpos
  · next hzero => exact iff_of_false (fun h => nomatch h) hzero

theorem mul_pos_of_paid {fill price : ℚ} (hfill : 0 ≤ fill) (hpaid : 0 < fill → 0 < price) :
    0 < fill * price ↔ 0 < fill := by
  rcases hfill.lt_or_eq with hpos | rfl
  · exact iff_of_true (mul_pos hpos (hpaid hpos)) hpos
  · rw [zero_mul]

theorem UnwindsInPart.legFills (hc : UnwindsInPart client)
    (h : Answered client o leg1 leg2 leg3) :
    leg1.filledAmount = (if leg1.accepted then o.bridgeQty else 0) ∧
      leg2.filledAmount = (if leg2.accepted then o.targetQty else 0) ∧
      leg3.filledAmount = (if leg3.accepted then o.targetQty else 0) :=
  ⟨hc.ioc _ _ _ _ _ _ _ h.leg1, hc.ioc _ _ _ _ _ _ _ h.leg2, hc.ioc _ _ _ _ _ _ _ h.leg3⟩

theorem unwindLeg_nonneg (hc : UnwindsInPart client) (h : Answered client o leg1 leg2 leg3)
    {u : TriangleMarket × ℚ} (hu : unwindLeg leg1 leg2 leg3 = some u) (hbridge : 0 ≤ o.bridgeQty)
    (htarget : 0 ≤ o.targetQty) : 0 ≤ u.2 := by
  obtain ⟨hfill1, hfill2, -⟩ := hc.legFills h
  obtain ⟨h1, ⟨-, rfl⟩ | ⟨h2, -, rfl⟩⟩ := unwindLeg_some hu
  · simpa [hfill1, h1] using hbridge
  · simpa [hfill2, h2] using htarget

theorem flat_iff (hc : UnwindsInPart client) (h : Answered client o leg1 leg2 leg3)
    {u : TriangleMarket × ℚ} (hu : unwindLeg leg1 leg2 leg3 = some u) {r : LegResult}
    {t : List (Seen Event)} (htrace : t = triangleTrace o (.ok leg1) (.ok leg2) (.ok leg3) ++
      [.event (.onMarket u.1), .reply (o.unwindOrder u) (.ok r)])
    (htarget : 0 < o.targetQty) (hqty : o.bridgeQty = o.targetQty * o.targetBridgePrice) :
    (holdings o.targetBridgePrice t).bridge = 0 ∧ (holdings o.targetBridgePrice t).target = 0 ↔
      leg3.accepted = false ∧ r.filledAmount = u.2 := by
  subst htrace
  obtain ⟨hfill1, hfill2, hfill3⟩ := hc.legFills h
  obtain ⟨h1, ⟨h2, rfl⟩ | ⟨h2, h3, rfl⟩⟩ := unwindLeg_some hu
  · obtain ⟨hbridge, hassets⟩ := holdings_unwound o leg1 leg2 leg3 r
      (.bridgeQuote, leg1.filledAmount) (by simp)
    rw [hbridge, hassets, hfill2, hfill3]
    cases h3 : leg3.accepted <;> simp [h2, htarget.ne', sub_eq_zero, eq_comm]
  · obtain ⟨hbridge, hassets⟩ := holdings_unwound o leg1 leg2 leg3 r
      (.targetQuote, leg2.filledAmount) (by simp)
    rw [hbridge, hassets, hfill1, hfill2, hfill3]
    simp [h1, h2, h3, hqty, sub_eq_zero, eq_comm]

/-- A triangle that counts as hedged is flat only when its unwind order filled in full
and the last leg was rejected. -/
theorem hedgedIsFlat_iff (client : Client S Event) (hc : UnwindsInPart client)
    (o : TriangleOrders) (hprice : 0 < o.targetBridgePrice) (htarget : 0 < o.targetQty)
    (hqty : o.bridgeQty = o.targetQty * o.targetBridgePrice) (s : S) :
    HedgedIsFlat client o s ↔ UnwindsWhole client o := by
  rcases answered_or_raises client o s with ⟨leg1, leg2, leg3, h⟩ | ⟨⟨e, he⟩, hno⟩
  · rw [UnwindsWhole, h.forall_iff]
    cases hu : unwindLeg leg1 leg2 leg3 with
    | none =>
      refine iff_of_true (fun result hresult hstatus => ?_) nofun
      exact absurd hstatus (h.not_hedged hu hresult)
    | some u =>
      obtain ⟨hresult, htrace⟩ := h.unwinds hu s
      cases hr : unwindReply client o leg1 leg2 leg3 u with
      | error e =>
        rw [hr] at hresult
        refine iff_of_true (fun result hok => ?_) (fun u' hu' r hr' => ?_)
        · cases hresult.symm.trans hok
        · cases hu'
          cases hr.symm.trans hr'
      | ok r =>
        rw [hr] at hresult htrace
        have hbridge : 0 ≤ o.bridgeQty := hqty ▸ (mul_pos htarget hprice).le
        obtain ⟨hfill, -, hpaid⟩ := hc.market _ _ _ _ _ _ hr
          (unwindLeg_nonneg hc h hu hbridge htarget.le)
        have hflat := flat_iff hc h hu htrace htarget hqty
        have hhedged := (unwindReport_hedged o leg1 leg2 leg3 (r.filledAmount * r.avgPrice)).trans
          (mul_pos_of_paid hfill hpaid)
        constructor
        · rintro hhonest _ ⟨⟩ r' hr'
          cases hr.symm.trans hr'
          rcases hfill.lt_or_eq with hpos | hzero
          · exact .inr (hflat.mp (hhonest _ hresult (hhedged.mpr hpos)))
          · exact .inl hzero.symm
        · intro hwhole result hok hstatus
          cases hresult.symm.trans hok
          have hpos := hhedged.mp hstatus
          exact hflat.mpr ((hwhole u rfl r hr).resolve_left hpos.ne')
  · refine iff_of_true (fun result hok => ?_) fun leg1 leg2 leg3 h => absurd h (hno _ _ _)
    cases he.symm.trans hok

end

/-- A client whose market orders fill `part` of their quantity. -/
def unwinding (ioc : Side → ℚ → Except PyError LegResult) (part : ℚ) : Client Unit Event where
  answer _ c := match c with
    | .placeIocOrder _ _ side amount _ => ioc side amount
    | .placeLimitOrder _ _ _ amount price => .ok ⟨true, amount, price, none⟩
    | .placeMarketOrder _ _ _ amount => .ok ⟨true, part * amount, 250, none⟩
    | .bestBid _ _ => .ok 250
  drift _ s := s

theorem unwinding_inPart {ioc : Side → ℚ → Except PyError LegResult} {part : ℚ}
    (h : ∀ side amount r, ioc side amount = .ok r →
      r.filledAmount = if r.accepted then amount else 0)
    (hpart : 0 ≤ part) (hpart' : part ≤ 1) : UnwindsInPart (unwinding ioc part) where
  ioc _ _ _ side amount _ r hr := h side amount r hr
  market _ _ _ _ amount r hr hamount := by
    cases hr
    refine ⟨mul_nonneg hpart hamount, ?_, fun _ => by norm_num⟩
    exact mul_le_of_le_one_left hamount hpart'

def bridgeAlone : Side → ℚ → Except PyError LegResult
  | .buy, amount => .ok (if amount = 1 / 5 then filled amount else rejected)
  | .sell, _ => .ok rejected

theorem bridgeAlone_fills (side : Side) (amount : ℚ) (r : LegResult)
    (h : bridgeAlone side amount = .ok r) :
    r.filledAmount = if r.accepted then amount else 0 := by
  cases side with
  | sell =>
    cases h
    rfl
  | buy =>
    cases h
    split <;> rfl

theorem bridgeAlone_answered (part : ℚ) :
    Answered (unwinding bridgeAlone part) sampleTriangle (filled (1 / 5)) rejected rejected where
  leg1 := congrArg Except.ok (if_pos rfl)
  leg2 := congrArg Except.ok (if_neg (by decide +kernel))
  leg3 := rfl

theorem hedgedIsFlat_bridgeAlone : HedgedIsFlat (unwinding bridgeAlone 1) sampleTriangle () := by
  refine (hedgedIsFlat_iff _ (unwinding_inPart bridgeAlone_fills (by norm_num) le_rfl)
    sampleTriangle (by decide +kernel) (by decide +kernel) (by decide +kernel) ()).mpr ?_
  rw [UnwindsWhole, (bridgeAlone_answered 1).forall_iff]
  rintro u ⟨⟩ r ⟨⟩
  exact .inr ⟨rfl, one_mul _⟩

/-- Half of the bridge asset is still held, and the triangle counts as hedged. -/
theorem hedgedIsFlat_halfUnwound :
    UnwindsInPart (unwinding bridgeAlone (1 / 2)) ∧ 0 < sampleTriangle.targetBridgePrice ∧
      0 < sampleTriangle.targetQty ∧
      sampleTriangle.bridgeQty = sampleTriangle.targetQty * sampleTriangle.targetBridgePrice ∧
      ¬HedgedIsFlat (unwinding bridgeAlone (1 / 2)) sampleTriangle () := by
  refine ⟨unwinding_inPart bridgeAlone_fills (by norm_num) (by norm_num), by decide +kernel,
    by decide +kernel, by decide +kernel, fun h => ?_⟩
  have hflat := h (unwindReport sampleTriangle (filled (1 / 5)) rejected rejected 25)
    (by decide +kernel) (by decide +kernel)
  exact absurd hflat.1 (by decide +kernel)

end BimodalArbitrage.Execution
