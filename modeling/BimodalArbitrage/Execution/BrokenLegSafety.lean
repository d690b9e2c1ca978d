import BimodalArbitrage.Execution.PairedOrders

/-!
# What is left open after a paired execution

What a status says of the base position is checked against the exact position, which the
numbers of the program reach by rounded sums.
-/

namespace BimodalArbitrage.Execution
open Coop
variable {S Ev N : Type}

/-! ### The position after an execution -/

section
variable [PyFloat N]

/-- The status tells whether the base position came back to zero. -/
def SettlesHonestly
    (out : Outcome S Ev (ClientCall N) ClientCall.Reply PyError (TradeExecutionResult N)) : Prop :=
  ∀ result, out.result = .ok result →
    (result.status = .SUCCESS ∨ result.status = .HEDGED ∨ result.status = .REJECTED →
      netBase out.trace = 0) ∧
    (netBase out.trace ≠ 0 ↔ result.status = .PARTIAL_FILL)

def UnevenFills (client : Client S Ev N) (o : PairedOrders N) : Prop :=
  ∃ b l, buyReply client o = .ok b ∧ sellReply client o = .ok l ∧
    b.accepted = true ∧ l.accepted = true ∧
      PyFloat.value b.filledAmount ≠ PyFloat.value l.filledAmount

/-- Added up as they came, the fills that close a leg which was filled alone reach its amount
just where they are exactly all of it. -/
def HedgeAddsUp (client : Client S Ev N) (maxRepegs : ℕ) (o : PairedOrders N) (s : S) : Prop :=
  ∀ b l t, buyReply client o = .ok b → sellReply client o = .ok l →
    (execution client maxRepegs o s).trace = legsTrace client o ++ t →
    b.accepted ≠ l.accepted → ¬Raised t →
      ((BrokenLegMitigator.openLeg o b l).amount ≤ PyFloat.sum (fills t) ↔
        exactSum (fills t) = PyFloat.value (BrokenLegMitigator.openLeg o b l).amount)

/-- Neither what that hedge leaves open nor what it has filled is ever rounded. -/
def HedgeUnrounded (client : Client S Ev N) (maxRepegs : ℕ) (o : PairedOrders N) (s : S) : Prop :=
  ∀ b l t, buyReply client o = .ok b → sellReply client o = .ok l →
    (execution client maxRepegs o s).trace = legsTrace client o ++ t →
    b.accepted ≠ l.accepted → ¬Raised t →
      Unrounded (BrokenLegMitigator.openLeg o b l).amount (fills t)

theorem settlesHonestly_iff
    {out : Outcome S Ev (ClientCall N) ClientCall.Reply PyError (TradeExecutionResult N)} :
    SettlesHonestly out ↔ ∀ result, out.result = .ok result →
      (netBase out.trace = 0 ↔ result.status ≠ .PARTIAL_FILL) := by
  refine forall_congr' fun result => imp_congr_right fun _ => ?_
  cases result.status <;> simp

theorem netBase_legsTrace {client : Client S Ev N} {o : PairedOrders N} {b l : LegResult N}
    (hb : buyReply client o = .ok b) (hl : sellReply client o = .ok l) (t : List (Seen Ev N)) :
    netBase (legsTrace client o ++ t) =
      PyFloat.value b.filledAmount - PyFloat.value l.filledAmount + netBase t := by
  rw [legsTrace, hb, hl]
  simp [netBase, ClientCall.moved, PairedOrders.buyLeg, PairedOrders.sellLeg, Side.signed]
  ring

end

section
variable {client : Client S Ev N} {o : PairedOrders N} {b l : LegResult N}

theorem buyReply_onFill {P : N → LegResult N → Prop}
    (h : ∀ hist (c : ClientCall N), c.OnFill P (client.answer hist c))
    (hb : buyReply client o = .ok b) : P o.amount b := onFill_ioc h hb

theorem sellReply_onFill {P : N → LegResult N → Prop}
    (h : ∀ hist (c : ClientCall N), c.OnFill P (client.answer hist c))
    (hl : sellReply client o = .ok l) : P o.amount l := onFill_ioc h hl

end

section
variable {client : Client S Ev Binary64} {o : PairedOrders Binary64} {b l : LegResult Binary64}

theorem unevenFills_iff (hb : buyReply client o = .ok b) (hl : sellReply client o = .ok l) :
    UnevenFills client o ↔ b.accepted = true ∧ l.accepted = true ∧
      PyFloat.value b.filledAmount ≠ PyFloat.value l.filledAmount := by
  constructor
  · rintro ⟨b', l', hb', hl', h⟩
    cases hb.symm.trans hb'
    cases hl.symm.trans hl'
    exact h
  · exact fun h => ⟨b, l, hb, hl, h⟩

theorem openLeg_position (hbroken : b.accepted ≠ l.accepted)
    (hb : b.accepted = false → b.filledAmount = 0) (hl : l.accepted = false → l.filledAmount = 0) :
    PyFloat.value b.filledAmount - PyFloat.value l.filledAmount =
      -(BrokenLegMitigator.openLeg o b l).hedgeSide.signed
        (PyFloat.value (BrokenLegMitigator.openLeg o b l).amount) := by
  unfold BrokenLegMitigator.openLeg
  cases hba : b.accepted with
  | true =>
    have hla : l.accepted = false := by simpa [hba] using hbroken.symm
    rw [hl hla, Binary64.value_zero]
    simp [Side.signed]
  | false =>
    rw [hb hba, Binary64.value_zero]
    simp [Side.signed]

theorem broken_settles_iff (hc : FillsWithin client) (hr : RejectsEmpty client)
    (hb : buyReply client o = .ok b) (hl : sellReply client o = .ok l)
    (hbroken : b.accepted ≠ l.accepted) (maxRepegs : ℕ) (s : S) :
    SettlesHonestly (execution client maxRepegs o s) ↔ HedgeAddsUp client maxRepegs o s := by
  obtain ⟨t, htrace, hraises, hnet, -, hstatus⟩ := execution_mitigates hb hl
    (mitigate_hedged maxRepegs o hc hbroken) s
  have hadds : HedgeAddsUp client maxRepegs o s ↔ (¬Raised t →
      ((BrokenLegMitigator.openLeg o b l).amount ≤ PyFloat.sum (fills t) ↔
        exactSum (fills t) = PyFloat.value (BrokenLegMitigator.openLeg o b l).amount)) := by
    constructor
    · exact fun h => h b l t hb hl htrace hbroken
    · intro h b' l' t' hb' hl' htrace' _
      cases hb.symm.trans hb'
      cases hl.symm.trans hl'
      cases List.append_cancel_left (htrace.symm.trans htrace')
      exact h
  have hposition : netBase (execution client maxRepegs o s).trace = 0 ↔
      exactSum (fills t) = PyFloat.value (BrokenLegMitigator.openLeg o b l).amount := by
    rw [htrace, netBase_legsTrace hb hl, hnet,
      openLeg_position hbroken (buyReply_onFill hr hb) (sellReply_onFill hr hl), neg_add_eq_zero]
    exact (signed_inj _).trans eq_comm
  rw [settlesHonestly_iff, hadds, hposition]
  unfold RaisesWithCalls at hraises
  cases hresult : (execution client maxRepegs o s).result with
  | error e =>
    rw [hresult] at hraises
    exact iff_of_true (fun result h => nomatch h) fun hreturns => absurd hraises hreturns
  | ok result =>
    rw [hresult] at hraises
    have hreturns : ¬Raised t := hraises
    simp only [Except.ok.injEq, forall_eq', hreturns, not_false_eq_true, forall_true_left]
    rw [ne_eq, (hstatus result hresult).2.2, not_not]
    exact Iff.comm

theorem hedgeAddsUp_of_agree (hb : buyReply client o = .ok b) (hl : sellReply client o = .ok l)
    (hagree : b.accepted = l.accepted) (maxRepegs : ℕ) (s : S) :
    HedgeAddsUp client maxRepegs o s := by
  intro b' l' t hb' hl' _ hbroken
  cases hb.symm.trans hb'
  cases hl.symm.trans hl'
  exact absurd hagree hbroken

theorem openLeg_nonneg (hc : FillsWithin client) (ho : 0 ≤ o.amount)
    (hb : buyReply client o = .ok b) (hl : sellReply client o = .ok l) :
    0 ≤ (BrokenLegMitigator.openLeg o b l).amount := by
  unfold BrokenLegMitigator.openLeg
  split
  · exact (buyReply_onFill hc hb ho).1
  · exact (sellReply_onFill hc hl ho).1

/-- The fills never exceed the leg, so an exact sum reaches it only as all of it. -/
theorem hedgeAddsUp_of_unrounded (hc : FillsWithin client) (ho : 0 ≤ o.amount) {maxRepegs : ℕ}
    {s : S} (h : HedgeUnrounded client maxRepegs o s) : HedgeAddsUp client maxRepegs o s := by
  intro b l t hb hl htrace hbroken hreturns
  obtain ⟨t', htrace', -, -, ⟨hedged, hrun⟩, -⟩ := execution_mitigates hb hl
    (mitigate_hedged maxRepegs o hc hbroken) s
  cases List.append_cancel_left (htrace.symm.trans htrace')
  have hunrounded := h b l t hb hl htrace hbroken hreturns
  have hbounded : exactSum (fills t) ≤ (BrokenLegMitigator.openLeg o b l).amount.value :=
    (hrun.conserves (openLeg_nonneg hc ho hb hl)).bounded hunrounded _ List.prefix_rfl
  obtain ⟨hfinite, hsum⟩ := (hunrounded _ List.prefix_rfl).2
  have hreached : (BrokenLegMitigator.openLeg o b l).amount ≤ PyFloat.sum (fills t) ↔
      (BrokenLegMitigator.openLeg o b l).amount.value ≤ exactSum (fills t) := by
    rw [← hsum]
    exact (Rounding.Floating.value_le_value hunrounded.amount_finite
      (of_decide_eq_true hfinite)).symm
  rw [hreached]
  exact ⟨hbounded.antisymm, fun hall => hall.ge⟩

/-- The position is the one the status reports, except after two accepted legs of different
fills, which are reported as a success, and after fills that only their rounded sum puts at
the amount of the leg, or below it. -/
theorem settlesHonestly_execution_iff (hc : FillsWithin client) (hr : RejectsEmpty client)
    (maxRepegs : ℕ) (o : PairedOrders Binary64) (s : S) :
    SettlesHonestly (execution client maxRepegs o s) ↔
      ¬UnevenFills client o ∧ HedgeAddsUp client maxRepegs o s := by
  cases hboth : Coro.both (buyReply client o) (sellReply client o) with
  | error e =>
    obtain ⟨hresult, -⟩ := execution_raises hboth maxRepegs s
    have hnone : ∀ b l, buyReply client o = .ok b → sellReply client o = .ok l → False := by
      intro b l hb hl
      rw [hb, hl] at hboth
      cases hboth
    refine iff_of_true (fun result h => ?_) ⟨?_, fun b l _ hb hl => (hnone b l hb hl).elim⟩
    · rw [hresult] at h
      cases h
    · exact fun ⟨b, l, hb, hl, _⟩ => hnone b l hb hl
  | ok p =>
    obtain ⟨hb, hl⟩ := Coro.both_ok hboth
    rw [unevenFills_iff hb hl]
    by_cases hbroken : p.1.accepted = p.2.accepted
    · rw [and_iff_left (hedgeAddsUp_of_agree hb hl hbroken maxRepegs s)]
      cases hacc : p.1.accepted with
      | true =>
        have hacc' : p.2.accepted = true := hbroken ▸ hacc
        obtain ⟨hresult, htrace⟩ := execution_settled hb hl
          (mitigate_accepted maxRepegs o hacc hacc') s
        rw [settlesHonestly_iff, hresult, htrace, netBase_legsTrace hb hl]
        simp [hacc', BrokenLegMitigator.report, netBase, sub_eq_zero]
      | false =>
        have hacc' : p.2.accepted = false := hbroken ▸ hacc
        obtain ⟨hresult, htrace⟩ := execution_settled hb hl
          (mitigate_rejected maxRepegs o hacc hacc') s
        rw [settlesHonestly_iff, hresult, htrace, netBase_legsTrace hb hl,
          buyReply_onFill hr hb hacc, sellReply_onFill hr hl hacc']
        simp [BrokenLegMitigator.report, netBase]
    · rw [broken_settles_iff hc hr hb hl hbroken maxRepegs s, iff_and_self]
      rintro - ⟨h1, h2, -⟩
      exact hbroken (h1.trans h2.symm)

end

def sampleOrders [PyFloat N] : PairedOrders N where
  buyExchange := "binance"
  sellExchange := "kraken"
  symbol := "BTC/USDT"
  amount := 1 / 2
  buyPrice := 100
  sellPrice := 101
  grossSpreadPct := 1 / 100
  netSpreadPct := 1 / 200
  mlConfidenceScore := 1
  highVolatility := false

def sellsHalf : Side → Binary64 → Except PyError (LegResult Binary64)
  | .buy, amount => .ok (filled amount)
  | .sell, amount => .ok (filled (min amount 0.25))

def PairedOrders.exchangeOf (o : PairedOrders) : Side → String
  | .buy => o.buyExchange
  | .sell => o.sellExchange

def legReply (client : Client S Ev) (o : PairedOrders) : Side → Except PyError LegResult
  | .buy => buyReply client o
  | .sell => sellReply client o

def Unfilled (reply : Except PyError LegResult) : Prop :=
  ∀ r, reply = .ok r → r.accepted = false ∧ r.filledAmount = 0

/-- The leg on `side` filled alone, and `r` is what the exchange said of it. -/
def FilledAlone (client : Client S Ev) (o : PairedOrders) (side : Side) (r : LegResult) : Prop :=
  legReply client o side = .ok r ∧ 0 < r.filledAmount ∧ Unfilled (legReply client o side.opposite)

/-- When the execution ends, closing orders for all of the open leg are submitted. -/
def ClosesOpenLeg (client : Client S Ev) (maxRepegs : ℕ) (o : PairedOrders) (s : S) : Prop :=
  ∀ side r, FilledAlone client o side r →
    r.filledAmount ≤ closingOrders (o.exchangeOf side) o.symbol side.opposite
      (execution client maxRepegs o s).trace

/-- The other leg is answered, and so is all that is asked to close what `r` left open. -/
def HedgeReturns (client : Client S Ev) (maxRepegs : ℕ) (o : PairedOrders) (side : Side)
    (r : LegResult) : Prop :=
  (∃ other, legReply client o side.opposite = .ok other) ∧
    (o.highVolatility = true ∨ RepegsReturn client (o.exchangeOf side) o.symbol side.opposite
      maxRepegs r.filledAmount (legsTrace client o))

theorem closingOrders_legsTrace (client : Client S Ev) (o : PairedOrders) (exchange symbol : String)
    (side : Side) (t : List (Seen Ev)) :
    closingOrders exchange symbol side (legsTrace client o ++ t) =
      closingOrders exchange symbol side t := by
  simp [closingOrders, legsTrace, ClientCall.closing, PairedOrders.buyLeg, PairedOrders.sellLeg]

section
variable {client : Client S Ev} {o : PairedOrders} {b l : LegResult}

theorem filledAlone_rejected {side : Side} {r : LegResult} (h : FilledAlone client o side r)
    (hb : buyReply client o = .ok b) (hl : sellReply client o = .ok l) (hr : r.accepted = false) :
    b.accepted = false ∧ l.accepted = false := by
  obtain ⟨hreply, -, hother⟩ := h
  cases side with
  | buy =>
    cases hb.symm.trans hreply
    exact ⟨hr, (hother l hl).1⟩
  | sell =>
    cases hl.symm.trans hreply
    exact ⟨(hother b hb).1, hr⟩

theorem filledAlone_openLeg {side : Side} {r : LegResult} (h : FilledAlone client o side r)
    (hb : buyReply client o = .ok b) (hl : sellReply client o = .ok l) (hr : r.accepted = true) :
    b.accepted ≠ l.accepted ∧ (BrokenLegMitigator.openLeg o b l).exchange = o.exchangeOf side ∧
      (BrokenLegMitigator.openLeg o b l).hedgeSide = side.opposite ∧
      (BrokenLegMitigator.openLeg o b l).amount = r.filledAmount := by
  obtain ⟨hreply, -, hother⟩ := h
  cases side with
  | buy =>
    cases hb.symm.trans hreply
    have hrej := (hother l hl).1
    simp [BrokenLegMitigator.openLeg, hr, hrej, PairedOrders.exchangeOf, Side.opposite]
  | sell =>
    cases hl.symm.trans hreply
    have hrej := (hother b hb).1
    simp [BrokenLegMitigator.openLeg, hr, hrej, PairedOrders.exchangeOf, Side.opposite]

theorem both_ok_of_filledAlone {side : Side} {r other : LegResult}
    (h : FilledAlone client o side r) (hother : legReply client o side.opposite = .ok other) :
    ∃ p, Coro.both (buyReply client o) (sellReply client o) = .ok p := by
  have hreply : legReply client o side = .ok r := h.1
  cases side with
  | buy =>
    simp only [legReply, Side.opposite] at hreply hother
    exact ⟨(r, other), by rw [hreply, hother]; rfl⟩
  | sell =>
    simp only [legReply, Side.opposite] at hreply hother
    exact ⟨(other, r), by rw [hreply, hother]; rfl⟩

theorem other_ok_of_both {p : LegResult × LegResult}
    (h : Coro.both (buyReply client o) (sellReply client o) = .ok p) (side : Side) :
    ∃ other, legReply client o side = .ok other := by
  obtain ⟨hb, hl⟩ := Coro.both_ok h
  cases side
  · exact ⟨_, hb⟩
  · exact ⟨_, hl⟩

theorem closesOpenLeg_iff_of_filledAlone (hc : FillsWithin client) (hm : MarketReturns client)
    (maxRepegs : ℕ) (s : S) {side : Side} {r : LegResult} (h : FilledAlone client o side r) :
    r.filledAmount ≤ closingOrders (o.exchangeOf side) o.symbol side.opposite
        (execution client maxRepegs o s).trace ↔
      r.accepted = true ∧ HedgeReturns client maxRepegs o side r := by
  have hpos : 0 < r.filledAmount := h.2.1
  cases hboth : Coro.both (buyReply client o) (sellReply client o) with
  | error e =>
    obtain ⟨-, htrace⟩ := execution_raises hboth maxRepegs s
    rw [htrace, ← List.append_nil (legsTrace client o), closingOrders_legsTrace]
    refine iff_of_false (not_le.mpr hpos) fun hreturns => ?_
    obtain ⟨-, ⟨other, hother⟩, -⟩ := hreturns
    obtain ⟨p, hp⟩ := both_ok_of_filledAlone h hother
    rw [hboth] at hp
    cases hp
  | ok p =>
    obtain ⟨hb, hl⟩ := Coro.both_ok hboth
    cases hr : r.accepted with
    | false =>
      obtain ⟨hbr, hlr⟩ := filledAlone_rejected h hb hl hr
      obtain ⟨-, htrace⟩ := execution_settled hb hl (mitigate_rejected maxRepegs o hbr hlr) s
      rw [htrace, closingOrders_legsTrace]
      exact iff_of_false (not_le.mpr hpos) (by simp)
    | true =>
      obtain ⟨hbroken, hex, hside, hamount⟩ := filledAlone_openLeg h hb hl hr
      obtain ⟨t, htrace, hend⟩ := execution_mitigates hb hl
        (mitigate_broken maxRepegs o hc hbroken (hamount ▸ hpos.le)) s
      have hreturns := execution_returns_iff maxRepegs o hm hb hl hbroken s
      dsimp only at hreturns
      rw [HedgeReturns, ← hex, ← hside, ← hamount, ← hreturns, htrace, closingOrders_legsTrace]
      cases hresult : (execution client maxRepegs o s).result with
      | error e =>
        rw [hresult] at hend
        refine iff_of_false (not_le.mpr (hend hm)) ?_
        rintro ⟨-, -, result, hok⟩
        rw [hresult] at hok
        cases hok
      | ok result =>
        rw [hresult] at hend
        obtain ⟨filled, ⟨-, -, hclosed⟩, -⟩ := hend
        exact iff_of_true hclosed ⟨rfl, other_ok_of_both hboth _, result, hresult⟩

/-- The open leg is closed in time unless the exchange reported it rejected, or the
other leg or a call of the hedge raised: nothing catches an exception on the way. -/
theorem execution_closes_iff (client : Client S Ev) (hc : FillsWithin client)
    (hm : MarketReturns client) (maxRepegs : ℕ) (o : PairedOrders) (s : S) :
    ClosesOpenLeg client maxRepegs o s ↔
      ∀ side r, FilledAlone client o side r →
        r.accepted = true ∧ HedgeReturns client maxRepegs o side r :=
  forall_congr' fun _ => forall_congr' fun _ => forall_congr' fun h =>
    closesOpenLeg_iff_of_filledAlone hc hm maxRepegs s h

end

abbrev script (ioc : Side → ℚ → Except PyError LegResult) (bid : Except PyError ℚ) :
    Client Unit Unit := scripted ioc bid

theorem script_marketReturns (ioc : Side → ℚ → Except PyError LegResult) (bid : Except PyError ℚ) :
    MarketReturns (script ioc bid) := fun _ _ _ _ _ => ⟨_, rfl⟩

theorem execution_closes_buyAlone :
    ClosesOpenLeg (script buyAlone (.ok 99)) 3 sampleOrders () := by
  refine (execution_closes_iff _ (scripted_fills _ buyAlone_within) (script_marketReturns _ _) 3
    sampleOrders ()).mpr ?_
  rintro (_ | _) r ⟨hr, hpos, -⟩ <;> cases hr
  · refine ⟨rfl, ⟨_, rfl⟩, .inr fun _ => ⟨99, _, rfl, rfl, fun hopen => ?_⟩⟩
    exact absurd hopen (by decide +kernel)
  · exact absurd hpos (lt_irrefl 0)

theorem execution_closes_expired :
    FillsWithin (script buyAlone (.error ⟨.runtimeError, "no cached bid"⟩)) ∧
      MarketReturns (script buyAlone (.error ⟨.runtimeError, "no cached bid"⟩)) ∧
      ¬ClosesOpenLeg (script buyAlone (.error ⟨.runtimeError, "no cached bid"⟩)) 3
        sampleOrders () := by
  refine ⟨scripted_fills _ buyAlone_within, script_marketReturns _ _, fun h => ?_⟩
  have hclosed := h .buy (filled (1 / 2)) ⟨rfl, by decide +kernel, fun r hr => by
    cases hr
    exact ⟨rfl, rfl⟩⟩
  exact absurd hclosed (by decide +kernel)

end BimodalArbitrage.Execution
