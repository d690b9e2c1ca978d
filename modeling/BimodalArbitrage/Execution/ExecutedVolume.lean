import BimodalArbitrage.Execution.BrokenLegSafety
import BimodalArbitrage.Execution.TriangleUnwind

/-!
# The volume a trade is booked with

A monitor adds the executed volume of a result to its daily notional, so a trade that
moved a position counts only if its volume is positive. Each outcome has a formula of its
own, and two of them vanish although a leg was filled.
-/

namespace BimodalArbitrage.Execution
open Coop BimodalArbitrage.Runtime
variable {S Ev : Type}

/-- What a market order sells, it sells at a positive price. -/
def PaidFills (client : Client S Ev) : Prop :=
  ∀ h exchange symbol side amount r,
    client.answer h (.placeMarketOrder exchange symbol side amount) = .ok r →
      0 < r.filledAmount → 0 < r.avgPrice

/-- Whenever an IOC leg was filled, the result books a positive volume. -/
def VolumeAccounts (legs : List (Except PyError LegResult))
    (out : Outcome S Ev ClientCall ClientCall.Reply PyError TradeExecutionResult) : Prop :=
  ∀ result, out.result = .ok result → (∃ leg, .ok leg ∈ legs ∧ 0 < leg.filledAmount) →
    0 < result.executedVolumeUsd

/-- Two accepted legs are both filled, or neither is. -/
def FillTogether (client : Client S Ev) (o : PairedOrders) : Prop :=
  ∀ b l, buyReply client o = .ok b → sellReply client o = .ok l →
    b.accepted = true → l.accepted = true → (0 < b.filledAmount ↔ 0 < l.filledAmount)

/-- When a leg of a triangle was filled, the triangle is unwound by an order that sells
something, or all its legs were accepted for a positive notional. -/
def UnwindCounts (client : Client S Event) (o : TriangleOrders) : Prop :=
  ∀ leg1 leg2 leg3, Answered client o leg1 leg2 leg3 →
    0 < leg1.filledAmount ∨ 0 < leg2.filledAmount ∨ 0 < leg3.filledAmount →
      if mixed leg1 leg2 leg3 then
        ∃ u, unwindLeg leg1 leg2 leg3 = some u ∧
          ∀ r, unwindReply client o leg1 leg2 leg3 u = .ok r → 0 < r.filledAmount
      else 0 < o.quoteNotionalUsd

/-! ### Pairs -/

section
variable {client : Client S Ev} {o : PairedOrders} {b l : LegResult}

theorem openLeg_volume (hb : buyReply client o = .ok b) (hl : sellReply client o = .ok l)
    (hbroken : b.accepted ≠ l.accepted) {maxRepegs : ℕ} {s : S} {result : TradeExecutionResult}
    (hresult : (execution client maxRepegs o s).result = .ok result) :
    let leg := BrokenLegMitigator.openLeg o b l
    result.executedVolumeUsd =
      leg.amount * if leg.hedgeSide = .sell then o.buyPrice else o.sellPrice := by
  intro leg
  obtain ⟨s', hs⟩ := execution_eq client maxRepegs o s
  rw [hb, hl] at hs
  have hrun : execution client maxRepegs o s =
      ((mitigator S Ev maxRepegs).mitigate o b l).play client s' (legsTrace client o) := hs
  rw [hrun] at hresult
  have honly : Coro.OnlyReturns (fun r : TradeExecutionResult => r.executedVolumeUsd =
      leg.amount * if leg.hedgeSide = .sell then o.buyPrice else o.sellPrice)
      ((mitigator S Ev maxRepegs).mitigate o b l) := by
    rw [mitigate_openLeg maxRepegs o hbroken]
    exact Coro.onlyReturns_bind _ fun hedgeFilled => rfl
  exact honly.result hresult

theorem openLeg_filled (hbroken : b.accepted ≠ l.accepted)
    (hb : b.accepted = false → b.filledAmount = 0) (hl : l.accepted = false → l.filledAmount = 0)
    (hfilled : 0 < b.filledAmount ∨ 0 < l.filledAmount) :
    0 < (BrokenLegMitigator.openLeg o b l).amount := by
  unfold BrokenLegMitigator.openLeg
  cases hacc : b.accepted with
  | true =>
    have hempty : l.filledAmount = 0 := hl (by simpa [hacc] using hbroken.symm)
    simpa [hempty] using hfilled
  | false => simpa [hb hacc] using hfilled

theorem mem_legs (hb : buyReply client o = .ok b) (hl : sellReply client o = .ok l) :
    (∃ leg, .ok leg ∈ [buyReply client o, sellReply client o] ∧ 0 < leg.filledAmount) ↔
      0 < b.filledAmount ∨ 0 < l.filledAmount := by
  simp [hb, hl, or_and_right, exists_or]

theorem fillTogether_iff (hb : buyReply client o = .ok b) (hl : sellReply client o = .ok l) :
    FillTogether client o ↔ (b.accepted = true → l.accepted = true →
      (0 < b.filledAmount ↔ 0 < l.filledAmount)) := by
  refine ⟨fun h => h b l hb hl, fun h b' l' hb' hl' => ?_⟩
  cases hb.symm.trans hb'
  cases hl.symm.trans hl'
  exact h

theorem volumeAccounts_of_result {legs : List (Except PyError LegResult)}
    {out : Outcome S Ev ClientCall ClientCall.Reply PyError TradeExecutionResult}
    {result : TradeExecutionResult} (hresult : out.result = .ok result) :
    VolumeAccounts legs out ↔ ((∃ leg, .ok leg ∈ legs ∧ 0 < leg.filledAmount) →
      0 < result.executedVolumeUsd) := by
  refine ⟨fun h => h result hresult, fun h result' hresult' => ?_⟩
  cases hresult.symm.trans hresult'
  exact h

theorem volumeAccounts_of_raised {legs : List (Except PyError LegResult)}
    {out : Outcome S Ev ClientCall ClientCall.Reply PyError TradeExecutionResult} {e : PyError}
    (hraised : out.result = .error e) : VolumeAccounts legs out := by
  intro result hresult
  cases hraised.symm.trans hresult

theorem either_min_pos_iff {b l price : ℚ} (hprice : 0 < price) :
    (0 < b ∨ 0 < l → 0 < min b l * price) ↔ (0 < b ↔ 0 < l) := by
  rw [mul_pos_iff_of_pos_right hprice, lt_min_iff]
  tauto

theorem paired_volume_iff (hr : RejectsEmpty client) (hbuy : 0 < o.buyPrice)
    (hsell : 0 < o.sellPrice) (maxRepegs : ℕ) (s : S) :
    VolumeAccounts [buyReply client o, sellReply client o] (execution client maxRepegs o s) ↔
      FillTogether client o := by
  cases hboth : Coro.both (buyReply client o) (sellReply client o) with
  | error e =>
    refine iff_of_true (volumeAccounts_of_raised (execution_raises hboth maxRepegs s).1) ?_
    intro b l hb hl
    rw [hb, hl] at hboth
    cases hboth
  | ok p =>
    obtain ⟨hb, hl⟩ := Coro.both_ok hboth
    have hempty := buyReply_onFill hr hb
    have hempty' := sellReply_onFill hr hl
    rw [fillTogether_iff hb hl]
    by_cases hbroken : p.1.accepted = p.2.accepted
    · cases hacc : p.1.accepted with
      | true =>
        have hacc' : p.2.accepted = true := hbroken ▸ hacc
        have hresult := (execution_settled hb hl (mitigate_accepted maxRepegs o hacc hacc') s).1
        rw [volumeAccounts_of_result hresult, mem_legs hb hl]
        simp only [hacc', forall_const]
        exact either_min_pos_iff hbuy
      | false =>
        have hacc' : p.2.accepted = false := hbroken ▸ hacc
        have hresult := (execution_settled hb hl (mitigate_rejected maxRepegs o hacc hacc') s).1
        rw [volumeAccounts_of_result hresult, mem_legs hb hl]
        refine iff_of_true (fun hfilled => ?_) (fun h => nomatch h)
        rw [hempty hacc, hempty' hacc'] at hfilled
        exact absurd hfilled (by simp)
    · refine iff_of_true (fun result hresult hfilled => ?_) fun hacc hacc' => ?_
      · rw [openLeg_volume hb hl hbroken hresult]
        have hopen := openLeg_filled (o := o) hbroken hempty hempty' ((mem_legs hb hl).mp hfilled)
        exact mul_pos hopen (by split <;> assumption)
      · exact absurd (hacc.trans hacc'.symm) hbroken

end

/-! ### Triangles -/

section
variable {client : Client S Event} {o : TriangleOrders} {leg1 leg2 leg3 : LegResult}

theorem Answered.mem_legs (h : Answered client o leg1 leg2 leg3) :
    (∃ leg, .ok leg ∈ [leg1Reply client o, leg2Reply client o, leg3Reply client o] ∧
        0 < leg.filledAmount) ↔
      0 < leg1.filledAmount ∨ 0 < leg2.filledAmount ∨ 0 < leg3.filledAmount := by
  simp [h.leg1, h.leg2, h.leg3, or_and_right, exists_or]

theorem Answered.onFill {P : ℚ → LegResult → Prop}
    (hP : ∀ hist (c : ClientCall), c.OnFill P (client.answer hist c))
    (h : Answered client o leg1 leg2 leg3) :
    P o.bridgeQty leg1 ∧ P o.targetQty leg2 ∧ P o.targetQty leg3 :=
  ⟨onFill_ioc hP h.leg1, onFill_ioc hP h.leg2, onFill_ioc hP h.leg3⟩

theorem proceeds_pos_iff (hc : FillsWithin client) (hpaid : PaidFills client)
    (h : Answered client o leg1 leg2 leg3) (hbridge : 0 ≤ o.bridgeQty) (htarget : 0 ≤ o.targetQty)
    {u : TriangleMarket × ℚ} (hu : unwindLeg leg1 leg2 leg3 = some u) {r : LegResult}
    (hr : unwindReply client o leg1 leg2 leg3 u = .ok r) :
    0 < r.filledAmount * r.avgPrice ↔ 0 < r.filledAmount := by
  obtain ⟨hfill1, hfill2, -⟩ := h.onFill hc
  have hopen : 0 ≤ u.2 := by
    obtain ⟨-, ⟨-, rfl⟩ | ⟨-, -, rfl⟩⟩ := unwindLeg_some hu
    · exact (hfill1 hbridge).1
    · exact (hfill2 htarget).1
  exact mul_pos_of_paid (onFill_market hc hr hopen).1 (hpaid _ _ _ _ _ _ hr)

theorem settled_volume_iff (hr : RejectsEmpty client) (h : Answered client o leg1 leg2 leg3)
    (hmixed : mixed leg1 leg2 leg3 = false)
    (hfilled : 0 < leg1.filledAmount ∨ 0 < leg2.filledAmount ∨ 0 < leg3.filledAmount) :
    0 < (settledReport o leg1 leg2 leg3).executedVolumeUsd ↔ 0 < o.quoteNotionalUsd := by
  obtain ⟨h12, h23⟩ := agree_of_not_mixed hmixed
  cases hacc : leg1.accepted with
  | true =>
    rw [settledReport, hacc]
    exact Iff.rfl
  | false =>
    obtain ⟨hempty1, hempty2, hempty3⟩ := h.onFill hr
    rw [hempty1 hacc, hempty2 (h12 ▸ hacc), hempty3 (h23 ▸ h12 ▸ hacc)] at hfilled
    exact absurd hfilled (by simp)

theorem unwound_volume_iff (hc : FillsWithin client) (hpaid : PaidFills client)
    (h : Answered client o leg1 leg2 leg3) (hbridge : 0 ≤ o.bridgeQty) (htarget : 0 ≤ o.targetQty)
    (hmixed : mixed leg1 leg2 leg3 = true) (s : S) :
    VolumeAccounts [leg1Reply client o, leg2Reply client o, leg3Reply client o]
        (triangleExecution client o s) ↔
      (0 < leg1.filledAmount ∨ 0 < leg2.filledAmount ∨ 0 < leg3.filledAmount →
        ∃ u, unwindLeg leg1 leg2 leg3 = some u ∧
          ∀ r, unwindReply client o leg1 leg2 leg3 u = .ok r → 0 < r.filledAmount) := by
  cases hu : unwindLeg leg1 leg2 leg3 with
  | none =>
    rw [volumeAccounts_of_result (h.keeps hmixed hu s).1, h.mem_legs]
    refine imp_congr_right fun _ => iff_of_false (lt_irrefl 0) ?_
    rintro ⟨u, hnone, -⟩
    cases hnone
  | some u =>
    obtain ⟨hresult, -⟩ := h.unwinds hu s
    cases hr : unwindReply client o leg1 leg2 leg3 u with
    | error e =>
      rw [hr] at hresult
      refine iff_of_true (volumeAccounts_of_raised hresult) fun _ => ⟨u, rfl, fun r hr' => ?_⟩
      cases hr.symm.trans hr'
    | ok r =>
      rw [hr] at hresult
      rw [volumeAccounts_of_result hresult, h.mem_legs]
      refine imp_congr_right fun _ => (proceeds_pos_iff hc hpaid h hbridge htarget hu hr).trans ?_
      constructor
      · intro hpos
        refine ⟨u, rfl, fun r' hr' => ?_⟩
        cases hr.symm.trans hr'
        exact hpos
      · rintro ⟨_, ⟨⟩, hpos⟩
        exact hpos r hr

theorem triangle_volume_iff (hc : FillsWithin client) (hr : RejectsEmpty client)
    (hpaid : PaidFills client) (hbridge : 0 ≤ o.bridgeQty) (htarget : 0 ≤ o.targetQty) (s : S) :
    VolumeAccounts [leg1Reply client o, leg2Reply client o, leg3Reply client o]
        (triangleExecution client o s) ↔ UnwindCounts client o := by
  rcases answered_or_raises client o s with ⟨leg1, leg2, leg3, h⟩ | ⟨⟨e, he⟩, hno⟩
  · rw [UnwindCounts, h.forall_iff]
    cases hmixed : mixed leg1 leg2 leg3 with
    | false =>
      rw [volumeAccounts_of_result (h.settles hmixed s), h.mem_legs]
      exact imp_congr_right fun hfilled => settled_volume_iff hr h hmixed hfilled
    | true => exact unwound_volume_iff hc hpaid h hbridge htarget hmixed s
  · refine iff_of_true (volumeAccounts_of_raised he) fun leg1 leg2 leg3 h => ?_
    exact absurd h (hno _ _ _)

end

/-- A filled leg is booked unless it filled beside an accepted leg that did not, or belongs
to a triangle whose unwind sells nothing. -/
theorem volume_accounts_iff (client : Client S Event) (hc : FillsWithin client)
    (hr : RejectsEmpty client) (hpaid : PaidFills client) (maxRepegs : ℕ) (o : PairedOrders)
    (hbuy : 0 < o.buyPrice) (hsell : 0 < o.sellPrice) (o' : TriangleOrders)
    (hbridge : 0 ≤ o'.bridgeQty) (htarget : 0 ≤ o'.targetQty) (s : S) :
    (VolumeAccounts [buyReply client o, sellReply client o] (execution client maxRepegs o s) ↔
        FillTogether client o) ∧
      (VolumeAccounts [leg1Reply client o', leg2Reply client o', leg3Reply client o']
          (triangleExecution client o' s) ↔ UnwindCounts client o') :=
  ⟨paired_volume_iff hr hbuy hsell maxRepegs s,
    triangle_volume_iff hc hr hpaid hbridge htarget s⟩

theorem scripted_paid (ioc : Side → ℚ → Except PyError LegResult) (bid : Except PyError ℚ) :
    PaidFills (scripted ioc bid : Client Unit Ev) := by
  intro h exchange symbol side amount r hr _
  cases hr
  norm_num [scripted]

theorem volume_accounts_buyAlone :
    VolumeAccounts [.ok (filled (1 / 2)), .ok rejected]
        (execution (scripted buyAlone (.ok 99) : Client Unit Event) 3 sampleOrders ()) ∧
      VolumeAccounts [.ok (filled (1 / 5)), .ok (filled 2), .ok rejected]
        (triangleExecution (scripted buyAlone (.ok 99)) sampleTriangle ()) := by
  obtain ⟨hpair, htriangle⟩ := volume_accounts_iff (scripted buyAlone (.ok 99))
    (scripted_fills _ buyAlone_within) (scripted_rejectsEmpty _ buyAlone_rejects)
    (scripted_paid _ _) 3 sampleOrders (by decide +kernel) (by decide +kernel) sampleTriangle
    (by decide +kernel) (by decide +kernel) ()
  constructor
  · refine hpair.mpr ?_
    rintro b l ⟨⟩ ⟨⟩ - hacc
    cases hacc
  · have hlegs : Answered (scripted buyAlone (.ok 99)) sampleTriangle (filled (1 / 5)) (filled 2)
        rejected := ⟨rfl, rfl, rfl⟩
    refine htriangle.mpr ?_
    rw [UnwindCounts, hlegs.forall_iff]
    refine fun _ => ⟨(.targetQuote, 2), rfl, ?_⟩
    rintro r ⟨⟩
    norm_num [filled]

/-- Two of the bridge's target units are bought and sold, and the volume is 0. -/
theorem volume_accounts_bridgeRejected :
    FillsWithin (scripted bridgeRejected (.ok 99) : Client Unit Event) ∧
      RejectsEmpty (scripted bridgeRejected (.ok 99) : Client Unit Event) ∧
      PaidFills (scripted bridgeRejected (.ok 99) : Client Unit Event) ∧
      0 < sampleTriangle.bridgeQty ∧ 0 < sampleTriangle.targetQty ∧
      0 < sampleTriangle.quoteNotionalUsd ∧
      ¬VolumeAccounts [leg1Reply (scripted bridgeRejected (.ok 99)) sampleTriangle,
          leg2Reply (scripted bridgeRejected (.ok 99)) sampleTriangle,
          leg3Reply (scripted bridgeRejected (.ok 99)) sampleTriangle]
        (triangleExecution (scripted bridgeRejected (.ok 99)) sampleTriangle ()) := by
  refine ⟨scripted_fills _ ?_, scripted_rejectsEmpty _ ?_, scripted_paid _ _, by decide +kernel,
    by decide +kernel, by decide +kernel, fun h => ?_⟩
  · rintro (_ | _) amount r hr <;> cases hr
    · split
      · exact fun ha => ⟨le_rfl, ha⟩
      · exact fun ha => ⟨ha, le_rfl⟩
    · exact fun ha => ⟨ha, le_rfl⟩
  · rintro (_ | _) amount r hr hacc <;> cases hr
    · split at hacc
      · rw [if_pos ‹_›]
        rfl
      · cases hacc
    · cases hacc
  · have hpos := h (unwindReport sampleTriangle rejected (filled 2) (filled 2) 0)
      (by decide +kernel) ⟨filled 2, by decide +kernel, by decide +kernel⟩
    exact absurd hpos (by decide +kernel)

end BimodalArbitrage.Execution
