import BimodalArbitrage.Marketdata.FeatureRows
import Mathlib.Tactic.NormNum

/-!
# Order flow imbalance

The named quantity counts what the best quotes gained by what rests there now, and what
they lost by what rested there before. The code counts both by what rests there now.
-/

namespace BimodalArbitrage.Marketdata

def indicator (p : Prop) [Decidable p] : ℚ := if p then 1 else 0

def contKukanovStoikov (prev curr : TwoSidedBook) : ℚ :=
  indicator (curr.bestBid.price ≥ prev.bestBid.price) * curr.bestBid.volume -
    indicator (curr.bestBid.price ≤ prev.bestBid.price) * prev.bestBid.volume -
    indicator (curr.bestAsk.price ≤ prev.bestAsk.price) * curr.bestAsk.volume +
    indicator (curr.bestAsk.price ≥ prev.bestAsk.price) * prev.bestAsk.volume

/-- What a fallen bid had more than it has now, and what a risen ask has more than it had. -/
def misdated (prev curr : TwoSidedBook) : ℚ :=
  (if curr.bestBid.price < prev.bestBid.price then
      prev.bestBid.volume - curr.bestBid.volume else 0) +
    if prev.bestAsk.price < curr.bestAsk.price then
      curr.bestAsk.volume - prev.bestAsk.volume else 0

section
variable (prev curr : TwoSidedBook)

theorem bidContribution_eq (prev curr : OrderBookLevel) :
    bidContribution prev curr =
      indicator (curr.price ≥ prev.price) * curr.volume -
        indicator (curr.price ≤ prev.price) * prev.volume +
        if curr.price < prev.price then prev.volume - curr.volume else 0 := by
  unfold bidContribution indicator
  rcases lt_trichotomy curr.price prev.price with h | h | h
  · simp [h.not_gt, h.ne, h, h.le, h.not_ge]
    ring
  · simp [h]
  · simp [h, h.le, h.not_gt, h.not_ge]

theorem askContribution_eq (prev curr : OrderBookLevel) :
    askContribution prev curr =
      indicator (curr.price ≤ prev.price) * curr.volume -
        indicator (curr.price ≥ prev.price) * prev.volume -
        if prev.price < curr.price then curr.volume - prev.volume else 0 := by
  unfold askContribution indicator
  rcases lt_trichotomy curr.price prev.price with h | h | h
  · simp [h.not_gt, h.ne, h.le, h.not_ge]
  · simp [h]
  · simp [h, h.le, h.not_ge]
    ring

theorem orderFlow_eq :
    computeOrderFlowImbalance prev.snapshot curr.snapshot =
      .ok (contKukanovStoikov prev curr + misdated prev curr) := by
  obtain ⟨prevBids, hprevBids⟩ := prev.bids_eq
  obtain ⟨prevAsks, hprevAsks⟩ := prev.asks_eq
  obtain ⟨currBids, hcurrBids⟩ := curr.bids_eq
  obtain ⟨currAsks, hcurrAsks⟩ := curr.asks_eq
  rw [computeOrderFlowImbalance, hprevBids, hprevAsks, hcurrBids, hcurrAsks]
  simp only [bestLevel, bind, Except.bind, pure, Except.pure, Except.ok.injEq]
  rw [bidContribution_eq, askContribution_eq, contKukanovStoikov, misdated]
  ring

theorem contKukanovStoikov_swap : contKukanovStoikov curr prev = -contKukanovStoikov prev curr := by
  unfold contKukanovStoikov
  ring

end

/-- The imbalance is the named quantity, and that of the reversed pair is its negative. -/
structure NamedOrderFlow (prev curr : TwoSidedBook) : Prop where
  formula : computeOrderFlowImbalance prev.snapshot curr.snapshot =
    .ok (contKukanovStoikov prev curr)
  reversal : ∃ ofi, computeOrderFlowImbalance prev.snapshot curr.snapshot = .ok ofi ∧
    computeOrderFlowImbalance curr.snapshot prev.snapshot = .ok (-ofi)

/-- The sides that get worse must have kept their volume, in both directions of time. -/
theorem namedOrderFlow_iff (prev curr : TwoSidedBook) :
    NamedOrderFlow prev curr ↔ misdated prev curr = 0 ∧ misdated curr prev = 0 := by
  have hforward := orderFlow_eq prev curr
  have hbackward := orderFlow_eq curr prev
  rw [contKukanovStoikov_swap] at hbackward
  constructor
  · rintro ⟨hformula, ofi, hofi, hreversed⟩
    have hnone : misdated prev curr = 0 := by
      have h := Except.ok.inj (hforward.symm.trans hformula)
      exact add_eq_left.mp h
    refine ⟨hnone, ?_⟩
    have h := Except.ok.inj (hbackward.symm.trans hreversed)
    rw [← Except.ok.inj (hformula.symm.trans hofi)] at h
    exact add_eq_left.mp h
  · rintro ⟨hprev, hcurr⟩
    rw [hprev, add_zero] at hforward
    rw [hcurr, add_zero] at hbackward
    exact ⟨hforward, _, hforward, hbackward⟩

/-- What the code returns of the two snapshots, in either order, and when that is the named
quantity. -/
theorem orderFlow_misdated (prev curr : TwoSidedBook) :
    computeOrderFlowImbalance prev.snapshot curr.snapshot =
        .ok (contKukanovStoikov prev curr + misdated prev curr) ∧
      computeOrderFlowImbalance curr.snapshot prev.snapshot =
        .ok (-contKukanovStoikov prev curr + misdated curr prev) ∧
      (NamedOrderFlow prev curr ↔ misdated prev curr = 0 ∧ misdated curr prev = 0) := by
  refine ⟨orderFlow_eq prev curr, ?_, namedOrderFlow_iff prev curr⟩
  rw [orderFlow_eq curr prev, contKukanovStoikov_swap prev curr]

/-- A bid of two falls and leaves a bid of one. -/
theorem orderFlow_named_fallenBid :
    ¬NamedOrderFlow ⟨⟨"alpha", "BTC/USDT", 0, [⟨100, 2⟩], [⟨101, 2⟩]⟩, ⟨100, 2⟩, ⟨101, 2⟩, rfl, rfl⟩
      ⟨⟨"alpha", "BTC/USDT", 1, [⟨99, 1⟩], [⟨101, 2⟩]⟩, ⟨99, 1⟩, ⟨101, 2⟩, rfl, rfl⟩ := by
  intro h
  have hcode : computeOrderFlowImbalance ⟨"alpha", "BTC/USDT", 0, [⟨100, 2⟩], [⟨101, 2⟩]⟩
      ⟨"alpha", "BTC/USDT", 1, [⟨99, 1⟩], [⟨101, 2⟩]⟩ = .ok (-1 : ℚ) := by decide +kernel
  have hnamed := Except.ok.inj (hcode.symm.trans h.formula)
  exact absurd hnamed (by norm_num [contKukanovStoikov, indicator])

end BimodalArbitrage.Marketdata
