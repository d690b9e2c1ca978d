import BimodalArbitrage.Execution.HedgeOrders
import BimodalArbitrage.Execution.Hedging

/-!
# A paired execution against an honest client
-/

namespace BimodalArbitrage.Execution
open Coop
variable {S Ev N : Type}

def PairedOrders.buyLeg (o : PairedOrders N) : ClientCall N :=
  .placeIocOrder o.buyExchange o.symbol .buy o.amount o.buyPrice

def PairedOrders.sellLeg (o : PairedOrders N) : ClientCall N :=
  .placeIocOrder o.sellExchange o.symbol .sell o.amount o.sellPrice

def buyReply (client : Client S Ev N) (o : PairedOrders N) : Except PyError (LegResult N) :=
  client.answer [.turn] o.buyLeg

def sellReply (client : Client S Ev N) (o : PairedOrders N) : Except PyError (LegResult N) :=
  client.answer [.turn, .reply o.buyLeg (buyReply client o), .turn] o.sellLeg

def legsTrace (client : Client S Ev N) (o : PairedOrders N) : List (Seen Ev N) :=
  [.turn, .reply o.buyLeg (buyReply client o), .turn, .reply o.sellLeg (sellReply client o), .turn]

section
variable [PyFloat N]

/-- `execute_paired_orders` run to its end. -/
def execution (client : Client S Ev N) (maxRepegs : ℕ) (o : PairedOrders N) (s : S) :
    Outcome S Ev (ClientCall N) ClientCall.Reply PyError (TradeExecutionResult N) :=
  ((mitigator S Ev maxRepegs N).executePairedOrders o).play client s []

theorem execution_eq (client : Client S Ev N) (maxRepegs : ℕ) (o : PairedOrders N) (s : S) :
    ∃ s', execution client maxRepegs o s =
      (Outcome.mk (Coro.both (buyReply client o) (sellReply client o)) s'
        (legsTrace client o)).andThen
        fun p => ((mitigator S Ev maxRepegs N).mitigate o p.1 p.2).play client := by
  simp only [execution, BrokenLegMitigator.executePairedOrders, Coro.bind_eq, Coro.play_bind,
    Coro.play_gather, remoteClient, Coro.play_call, List.nil_append]
  exact ⟨_, rfl⟩

theorem execution_raises {client : Client S Ev N} {o : PairedOrders N} {e : PyError}
    (h : Coro.both (buyReply client o) (sellReply client o) = .error e) (maxRepegs : ℕ) (s : S) :
    (execution client maxRepegs o s).result = .error e ∧
      (execution client maxRepegs o s).trace = legsTrace client o := by
  obtain ⟨s', hs⟩ := execution_eq client maxRepegs o s
  rw [h] at hs
  rw [hs]
  exact ⟨rfl, rfl⟩

theorem execution_mitigates {client : Client S Ev N} {o : PairedOrders N} {b l : LegResult N}
    (hb : buyReply client o = .ok b) (hl : sellReply client o = .ok l) {maxRepegs : ℕ}
    {P : Except PyError (TradeExecutionResult N) → List (Seen Ev N) → Prop}
    (hP : Coro.Shows client ((mitigator S Ev maxRepegs N).mitigate o b l) P) (s : S) :
    ∃ t, (execution client maxRepegs o s).trace = legsTrace client o ++ t ∧
      P (execution client maxRepegs o s).result t := by
  obtain ⟨s', hs⟩ := execution_eq client maxRepegs o s
  rw [hb, hl] at hs
  rw [hs]
  exact hP s' (legsTrace client o)

theorem execution_settled {client : Client S Ev N} {o : PairedOrders N} {b l : LegResult N}
    (hb : buyReply client o = .ok b) (hl : sellReply client o = .ok l) {maxRepegs : ℕ}
    {result : TradeExecutionResult N}
    (h : (mitigator S Ev maxRepegs N).mitigate o b l = .pure result) (s : S) :
    (execution client maxRepegs o s).result = .ok result ∧
      (execution client maxRepegs o s).trace = legsTrace client o ++ [] := by
  have hshows : Coro.Shows client ((mitigator S Ev maxRepegs N).mitigate o b l)
      (fun r t => r = .ok result ∧ t = []) := by
    rw [h]
    exact Coro.shows_pure _ ⟨rfl, rfl⟩
  obtain ⟨t, htrace, hresult, rfl⟩ := execution_mitigates hb hl hshows s
  exact ⟨hresult, htrace⟩

/-! ### The three outcomes of the legs -/

section
variable (maxRepegs : ℕ) (o : PairedOrders N) {b l : LegResult N}

theorem mitigate_accepted (hb : b.accepted = true) (hl : l.accepted = true) :
    (mitigator S Ev maxRepegs N).mitigate o b l =
      .pure (BrokenLegMitigator.report o .SUCCESS (min b.filledAmount l.filledAmount * o.buyPrice)
        (min b.filledAmount l.filledAmount * o.buyPrice * o.netSpreadPct) none) := by
  simp [BrokenLegMitigator.mitigate, hb, hl]

theorem mitigate_rejected (hb : b.accepted = false) (hl : l.accepted = false) :
    (mitigator S Ev maxRepegs N).mitigate o b l =
      .pure (BrokenLegMitigator.report o .REJECTED 0 0 (some ("both legs rejected: buy=" ++
        pyStr b.reason ++ ", sell=" ++ pyStr l.reason))) := by
  simp [BrokenLegMitigator.mitigate, hb, hl]

theorem mitigate_openLeg (hbroken : b.accepted ≠ l.accepted) :
    let leg := BrokenLegMitigator.openLeg o b l
    let breakEvenPrice := if leg.hedgeSide = .sell then o.buyPrice else o.sellPrice
    (mitigator S Ev maxRepegs N).mitigate o b l =
      ((mitigator S Ev maxRepegs N).autoHedge leg.exchange o.symbol leg.hedgeSide leg.amount
        o.highVolatility).bind fun hedgeFilled => .pure (BrokenLegMitigator.report o
          (if hedgeFilled ≥ leg.amount then .HEDGED else .PARTIAL_FILL)
          (leg.amount * breakEvenPrice) 0 (some leg.brokenReason)) := by
  have hboth : (b.accepted && l.accepted) = false := by
    cases hb : b.accepted <;> cases hl : l.accepted <;> simp_all
  have hneither : (!b.accepted && !l.accepted) = false := by
    cases hb : b.accepted <;> cases hl : l.accepted <;> simp_all
  simp only [BrokenLegMitigator.mitigate, hboth, hneither, Bool.false_eq_true, if_false,
    Coro.bind_eq, Coro.pure_eq]

/-- A leg that was filled alone is reported as hedged where the fills of its hedge reach its
amount, and its orders move exactly these fills. -/
theorem mitigate_hedged {client : Client S Ev N} (hc : FillsWithin client)
    (hbroken : b.accepted ≠ l.accepted) :
    let leg := BrokenLegMitigator.openLeg o b l
    Coro.Shows client ((mitigator S Ev maxRepegs N).mitigate o b l) fun r t =>
      RaisesWithCalls r t ∧ netBase t = leg.hedgeSide.signed (exactSum (fills t)) ∧
        (∃ hedged, HedgeRun leg.exchange o.symbol leg.hedgeSide maxRepegs leg.amount
          o.highVolatility hedged t) ∧
        ∀ result, r = .ok result → result.realizedPnlUsd = 0 ∧
          (result.status = .HEDGED ↔ leg.amount ≤ PyFloat.sum (fills t)) ∧
          (result.status = .PARTIAL_FILL ↔ ¬leg.amount ≤ PyFloat.sum (fills t)) := by
  intro leg
  rw [mitigate_openLeg maxRepegs o hbroken]
  refine Coro.shows_bind (autoHedge_run hc maxRepegs leg.exchange o.symbol leg.hedgeSide leg.amount
    o.highVolatility) ?_
  intro r t hhedge
  cases r with
  | error e =>
    exact ⟨hhedge.raises, hhedge.netBase_eq, ⟨_, hhedge⟩, fun result h => nomatch h⟩
  | ok filled =>
    rw [ends_ok]
    refine Coro.shows_pure _ ?_
    rw [List.append_nil]
    refine ⟨hhedge.raises, hhedge.netBase_eq, ⟨_, hhedge⟩, ?_⟩
    rintro result ⟨⟩
    rw [← hhedge.returned, BrokenLegMitigator.report]
    refine ⟨rfl, ?_⟩
    split
    · next hfull => exact ⟨iff_of_true rfl hfull, iff_of_false nofun fun hshort => hshort hfull⟩
    · next hshort => exact ⟨iff_of_false nofun hshort, iff_of_true rfl hshort⟩

end
end

/-! ### Exact numbers -/

section
variable (maxRepegs : ℕ) (o : PairedOrders) {b l : LegResult}

theorem mitigate_broken {client : Client S Ev} (hc : FillsWithin client)
    (hbroken : b.accepted ≠ l.accepted)
    (hopen : 0 ≤ (BrokenLegMitigator.openLeg o b l).amount) :
    let leg := BrokenLegMitigator.openLeg o b l
    Coro.Shows client ((mitigator S Ev maxRepegs).mitigate o b l) fun r t =>
      Ends r
        (fun result => ∃ filled,
          Hedged client leg.exchange o.symbol leg.hedgeSide leg.amount (.ok filled) t ∧
            result.status = if filled ≥ leg.amount then .HEDGED else .PARTIAL_FILL)
        (fun e => Hedged client leg.exchange o.symbol leg.hedgeSide leg.amount (.error e) t) := by
  intro leg
  rw [mitigate_openLeg maxRepegs o hbroken]
  refine Coro.shows_bind (autoHedge_shows hc maxRepegs _ o.symbol _ hopen o.highVolatility) ?_
  intro r t hhedge
  cases r with
  | error e => exact hhedge
  | ok filled =>
    rw [ends_ok]
    exact Coro.shows_pure _ ⟨filled, by simpa using hhedge, rfl⟩

theorem execution_returns_iff {client : Client S Ev} (hm : MarketReturns client)
    (hb : buyReply client o = .ok b) (hl : sellReply client o = .ok l)
    (hbroken : b.accepted ≠ l.accepted) (s : S) :
    let leg := BrokenLegMitigator.openLeg o b l
    (execution client maxRepegs o s).Returns ↔ o.highVolatility = true ∨
      RepegsReturn client leg.exchange o.symbol leg.hedgeSide maxRepegs leg.amount
        (legsTrace client o) := by
  intro leg
  obtain ⟨s', hs⟩ := execution_eq client maxRepegs o s
  rw [hb, hl] at hs
  have hrun : execution client maxRepegs o s =
      ((mitigator S Ev maxRepegs).mitigate o b l).play client s' (legsTrace client o) := hs
  rw [hrun, mitigate_openLeg maxRepegs o hbroken, Coro.play_bind, Outcome.andThen_returns,
    ← autoHedge_returns_iff hm maxRepegs leg.exchange o.symbol leg.hedgeSide leg.amount
      o.highVolatility s' (legsTrace client o)]
  exact ⟨fun ⟨filled, hfilled, _⟩ => ⟨filled, hfilled⟩, fun ⟨filled, hfilled⟩ =>
    ⟨filled, hfilled, _, rfl⟩⟩

end

end BimodalArbitrage.Execution
