import BimodalArbitrage.Execution.ExecutedVolume
import BimodalArbitrage.Execution.HedgeOrders

/-!
# The realized PnL of a hedge

A trade that was hedged is reported with a PnL of zero. Its orders leave no cash behind
only when the position was closed for exactly what it had cost.
-/

namespace BimodalArbitrage.Execution
open Coop BimodalArbitrage.Runtime
variable {S Ev : Type}

/-- What an order brings in of the quote asset: `filled_amount * avg_price`, spent by a
buy and received by a sell. -/
def ClientCall.cash : (c : ClientCall) → Except PyError c.Reply → ℚ
  | .placeIocOrder _ _ side _ _, .ok r => side.opposite.signed (r.filledAmount * r.avgPrice)
  | .placeLimitOrder _ _ side _ _, .ok r => side.opposite.signed (r.filledAmount * r.avgPrice)
  | .placeMarketOrder _ _ side _, .ok r => side.opposite.signed (r.filledAmount * r.avgPrice)
  | _, _ => 0

def ClientCall.symbol : ClientCall → String
  | .placeIocOrder _ symbol _ _ _ => symbol
  | .placeLimitOrder _ symbol _ _ _ => symbol
  | .placeMarketOrder _ symbol _ _ => symbol
  | .bestBid _ symbol => symbol

def cash (t : List (Seen Ev)) : ℚ := tally ClientCall.cash t

/-- The cash of the orders on the two symbols of a triangle that are quoted in its quote
asset. -/
def quoteCash (triangle : TriangleConfig) (t : List (Seen Ev)) : ℚ :=
  tally (fun c r => if c.symbol = triangle.symbolBridgeQuote ∨ c.symbol = triangle.symbolTargetQuote
    then c.cash r else 0) t

/-- A hedged trade reports the cash its orders left behind. -/
def PnlAccounts (cash : List (Seen Ev) → ℚ)
    (out : Outcome S Ev ClientCall ClientCall.Reply PyError TradeExecutionResult) : Prop :=
  ∀ result, out.result = .ok result → result.status = .HEDGED →
    result.realizedPnlUsd = cash out.trace

/-- Orders that close the whole of a leg that was filled alone bring in what it cost, or
cost what it brought in. -/
def ClosesAtCost (client : Client S Ev) (maxRepegs : ℕ) (o : PairedOrders) (s : S) : Prop :=
  ∀ b l t, buyReply client o = .ok b → sellReply client o = .ok l →
    (execution client maxRepegs o s).trace = legsTrace client o ++ t →
    b.accepted ≠ l.accepted → ¬Raised t →
    (BrokenLegMitigator.openLeg o b l).amount ≤ (fills t).sum →
      cash t = b.filledAmount * b.avgPrice - l.filledAmount * l.avgPrice

/-- An unwind order that sells something brings in what the legs cost. -/
def UnwindsAtCost (client : Client S Event) (o : TriangleOrders) : Prop :=
  ∀ leg1 leg2 leg3, Answered client o leg1 leg2 leg3 →
    ∀ u, unwindLeg leg1 leg2 leg3 = some u →
      ∀ r, unwindReply client o leg1 leg2 leg3 u = .ok r → 0 < r.filledAmount →
        r.filledAmount * r.avgPrice =
          -quoteCash o.triangle (triangleTrace o (.ok leg1) (.ok leg2) (.ok leg3))

/-! ### Pairs -/

section
variable {client : Client S Ev} {o : PairedOrders} {b l : LegResult}

theorem cash_legsTrace (hb : buyReply client o = .ok b) (hl : sellReply client o = .ok l)
    (t : List (Seen Ev)) :
    cash (legsTrace client o ++ t) =
      l.filledAmount * l.avgPrice - b.filledAmount * b.avgPrice + cash t := by
  rw [legsTrace, hb, hl]
  simp [cash, ClientCall.cash, PairedOrders.buyLeg, PairedOrders.sellLeg, Side.signed,
    Side.opposite]
  ring

theorem settled_not_hedged (hb : buyReply client o = .ok b) (hl : sellReply client o = .ok l)
    (hagree : b.accepted = l.accepted) {maxRepegs : ℕ} {s : S} {result : TradeExecutionResult}
    (hresult : (execution client maxRepegs o s).result = .ok result) :
    result.status ≠ .HEDGED := by
  cases hacc : b.accepted with
  | true =>
    rw [(execution_settled hb hl (mitigate_accepted maxRepegs o hacc (hagree ▸ hacc)) s).1]
      at hresult
    cases hresult
    exact nofun
  | false =>
    rw [(execution_settled hb hl (mitigate_rejected maxRepegs o hacc (hagree ▸ hacc)) s).1]
      at hresult
    cases hresult
    exact nofun

theorem paired_pnl_iff (hc : FillsWithin client) (maxRepegs : ℕ) (s : S) :
    PnlAccounts cash (execution client maxRepegs o s) ↔ ClosesAtCost client maxRepegs o s := by
  cases hboth : Coro.both (buyReply client o) (sellReply client o) with
  | error e =>
    refine iff_of_true (fun result hresult => ?_) fun b l t hb hl => ?_
    · cases (execution_raises hboth maxRepegs s).1.symm.trans hresult
    · rw [hb, hl] at hboth
      cases hboth
  | ok p =>
    obtain ⟨hb, hl⟩ := Coro.both_ok hboth
    by_cases hbroken : p.1.accepted = p.2.accepted
    · refine iff_of_true (fun result hresult hstatus => ?_) fun b l t hb' hl' _ hne => ?_
      · exact absurd hstatus (settled_not_hedged hb hl hbroken hresult)
      · cases hb.symm.trans hb'
        cases hl.symm.trans hl'
        exact absurd hbroken hne
    obtain ⟨t, htrace, hraises, -, -, hhedged⟩ := execution_mitigates hb hl
      (mitigate_hedged maxRepegs o hc hbroken) s
    have hcash := cash_legsTrace hb hl t
    constructor
    · intro hpnl b l t' hb' hl' htrace' _ hreturns hfull
      cases hb.symm.trans hb'
      cases hl.symm.trans hl'
      cases List.append_cancel_left (htrace.symm.trans htrace')
      cases hresult : (execution client maxRepegs o s).result with
      | error e =>
        rw [hresult] at hraises
        exact absurd hraises hreturns
      | ok result =>
        obtain ⟨hzero, hstatus, -⟩ := hhedged result hresult
        have haccounts := hpnl result hresult (hstatus.mpr hfull)
        rw [hzero, htrace, hcash] at haccounts
        linarith
    · intro hcost result hresult hstatus
      obtain ⟨hzero, hiff, -⟩ := hhedged result hresult
      rw [hresult] at hraises
      have hclosed := hcost p.1 p.2 t hb hl htrace hbroken hraises (hiff.mp hstatus)
      rw [hzero, htrace, hcash, hclosed]
      ring

end

/-! ### Triangles -/

section
variable {client : Client S Event} {o : TriangleOrders} {leg1 leg2 leg3 : LegResult}

theorem quoteCash_unwound {u : TriangleMarket × ℚ} (hu : unwindLeg leg1 leg2 leg3 = some u)
    (t : List (Seen Event)) (r : LegResult) :
    quoteCash o.triangle
        (t ++ [.event (.onMarket u.1), .reply (o.unwindOrder u) (.ok r)]) =
      quoteCash o.triangle t + r.filledAmount * r.avgPrice := by
  obtain ⟨-, ⟨-, rfl⟩ | ⟨-, -, rfl⟩⟩ := unwindLeg_some hu
  · simp [quoteCash, tally, TriangleOrders.unwindOrder, ClientCall.symbol, TriangleConfig.symbolOf,
      ClientCall.cash, Side.opposite, Side.signed]
  · simp [quoteCash, tally, TriangleOrders.unwindOrder, ClientCall.symbol, TriangleConfig.symbolOf,
      ClientCall.cash, Side.opposite, Side.signed]

theorem triangle_pnl_iff (hc : FillsWithin client) (hpaid : PaidFills client)
    (hbridge : 0 ≤ o.bridgeQty) (htarget : 0 ≤ o.targetQty) (s : S) :
    PnlAccounts (quoteCash o.triangle) (triangleExecution client o s) ↔
      UnwindsAtCost client o := by
  rcases answered_or_raises client o s with ⟨leg1, leg2, leg3, h⟩ | ⟨⟨e, he⟩, hno⟩
  · rw [UnwindsAtCost, h.forall_iff]
    cases hu : unwindLeg leg1 leg2 leg3 with
    | none =>
      refine iff_of_true (fun result hresult hstatus => ?_) nofun
      exact absurd hstatus (h.not_hedged hu hresult)
    | some u =>
      obtain ⟨hresult, htrace⟩ := h.unwinds hu s
      cases hr : unwindReply client o leg1 leg2 leg3 u with
      | error e =>
        rw [hr] at hresult
        refine iff_of_true (fun result hok => ?_) (fun u' hu' r hr' => ?_)
        · cases hresult.symm.trans hok
        · cases hu'
          cases hr.symm.trans hr'
      | ok r =>
        rw [hr] at hresult htrace
        have hhedged := (unwindReport_hedged o leg1 leg2 leg3 (r.filledAmount * r.avgPrice)).trans
          (proceeds_pos_iff hc hpaid h hbridge htarget hu hr)
        have hcash : quoteCash o.triangle (triangleExecution client o s).trace =
            quoteCash o.triangle (triangleTrace o (.ok leg1) (.ok leg2) (.ok leg3)) +
              r.filledAmount * r.avgPrice := by
          rw [htrace]
          exact quoteCash_unwound hu _ r
        constructor
        · rintro hpnl _ ⟨⟩ r' hr' hpos
          cases hr.symm.trans hr'
          have haccounts : 0 = quoteCash o.triangle (triangleExecution client o s).trace :=
            hpnl _ hresult (hhedged.mpr hpos)
          rw [hcash] at haccounts
          linarith
        · intro hcost result hok hstatus
          cases hresult.symm.trans hok
          rw [hcash, hcost u rfl r hr (hhedged.mp hstatus), add_neg_cancel]
          rfl
  · refine iff_of_true (fun result hok => ?_) fun leg1 leg2 leg3 h => absurd h (hno _ _ _)
    cases he.symm.trans hok

end

/-- The report of a hedge accounts for its cash only when the position was closed for what
it had cost. -/
theorem pnl_accounts_iff (client : Client S Event) (hc : FillsWithin client)
    (hpaid : PaidFills client) (maxRepegs : ℕ) (o : PairedOrders) (o' : TriangleOrders)
    (hbridge : 0 ≤ o'.bridgeQty) (htarget : 0 ≤ o'.targetQty) (s : S) :
    (PnlAccounts cash (execution client maxRepegs o s) ↔ ClosesAtCost client maxRepegs o s) ∧
      (PnlAccounts (quoteCash o'.triangle) (triangleExecution client o' s) ↔
        UnwindsAtCost client o') :=
  ⟨paired_pnl_iff hc maxRepegs s, triangle_pnl_iff hc hpaid hbridge htarget s⟩

def volatileOrders : PairedOrders := { sampleOrders with highVolatility := true }

/-- The bought leg is sold again at the price it was bought at. -/
theorem pnl_accounts_buyAlone :
    PnlAccounts cash
      (execution (scripted buyAlone (.ok 99) : Client Unit Event) 3 volatileOrders ()) := by
  refine (pnl_accounts_iff _ (scripted_fills _ buyAlone_within) (scripted_paid _ _) 3
    volatileOrders sampleTriangle (by decide +kernel) (by decide +kernel) ()).1.mpr ?_
  rintro b l t ⟨⟩ ⟨⟩ htrace - - -
  have hhedge : (execution (scripted buyAlone (.ok 99) : Client Unit Event) 3
      volatileOrders ()).trace = legsTrace (scripted buyAlone (.ok 99)) volatileOrders ++
        [.reply (.placeMarketOrder "binance" "BTC/USDT" .sell (1 / 2)) (.ok (filled (1 / 2)))] :=
    rfl
  cases List.append_cancel_left (htrace.symm.trans hhedge)
  decide +kernel

/-- The leg is sold at a loss of 1/2, and the report says 0. -/
theorem pnl_accounts_soldAtLoss :
    FillsWithin (scripted buyAlone (.ok 99) : Client Unit Event) ∧
      PaidFills (scripted buyAlone (.ok 99) : Client Unit Event) ∧ (0 : ℚ) < sampleOrders.amount ∧
      (0 : ℚ) < sampleOrders.buyPrice ∧ (0 : ℚ) < sampleOrders.sellPrice ∧
      ¬PnlAccounts cash
        (execution (scripted buyAlone (.ok 99) : Client Unit Event) 3 sampleOrders ()) := by
  refine ⟨scripted_fills _ buyAlone_within, scripted_paid _ _, by decide +kernel,
    by decide +kernel, by decide +kernel, fun h => ?_⟩
  have haccounts := h (BrokenLegMitigator.report sampleOrders .HEDGED 50 0
    (some "sell leg rejected: rejected")) (by decide +kernel) rfl
  exact absurd haccounts (by decide +kernel)

end BimodalArbitrage.Execution
