import BimodalArbitrage.Marketdata.Vwap
import Mathlib.Data.List.Pairwise

/-!
# The documented VWAP

`compute_vwap` is the formula of its docstring, and says when it cannot be: the loop
stops early, the formula runs over the whole book. What it averages is the cheapest way
to take the quantity from the asks, and the dearest way to sell it into the bids.
-/

namespace BimodalArbitrage.Marketdata

def depth (levels : List OrderBookLevel) : ℚ := (levels.map OrderBookLevel.volume).sum

/-- `max(0, min(q_i, Q - sum_{j<i} q_j))`. -/
def taken (levels : List OrderBookLevel) (quantity : ℚ) (i : ℕ) (level : OrderBookLevel) : ℚ :=
  max 0 (min level.volume (quantity - depth (levels.take i)))

/-- `sum_i P_i * a_i`. -/
def notionalOf (fills : List ℚ) (levels : List OrderBookLevel) : ℚ :=
  (List.zipWith (fun fill level => level.price * fill) fills levels).sum

/-- `0 <= a_i <= q_i` for every level. -/
def Allocation (fills : List ℚ) (levels : List OrderBookLevel) : Prop :=
  List.Forall₂ (fun fill level => 0 ≤ fill ∧ fill ≤ level.volume) fills levels

section
variable {levels : List OrderBookLevel} {quantity vwap : ℚ} {fills : List ℚ}

theorem depth_eq (levels : List OrderBookLevel) :
    depth levels = Ladder.total (ladder levels) := (total_ladder levels).symm

theorem spent_ladder (fills : List ℚ) (levels : List OrderBookLevel) :
    Ladder.spent fills (ladder levels) = notionalOf fills levels := by
  rw [Ladder.spent, ladder, List.zipWith_map_right, notionalOf]

theorem Allocation.offered (h : Allocation fills levels) : Ladder.Fills fills (ladder levels) :=
  List.forall₂_map_right_iff.mpr h

@[simp] theorem depth_mirrored (levels : List OrderBookLevel) :
    depth (mirrored levels) = depth levels := by
  rw [depth_eq, ladder_mirrored, Ladder.total_mirror, depth_eq]

theorem notionalOf_mirrored (fills : List ℚ) (levels : List OrderBookLevel) :
    notionalOf fills (mirrored levels) = -notionalOf fills levels := by
  rw [← spent_ladder, ladder_mirrored, Ladder.spent_mirror, spent_ladder]

theorem Allocation.mirrored (h : Allocation fills levels) : Allocation fills (mirrored levels) :=
  List.forall₂_map_right_iff.mpr h

theorem Allocation.volume_nonneg (h : Allocation fills levels) :
    ∀ level ∈ levels, 0 ≤ level.volume :=
  fun _ hlevel => h.offered.size_nonneg _ (List.mem_map_of_mem hlevel)

theorem mapIdx_ladder {β : Type} (f : ℕ → Ladder.Rung ℚ → β) (levels : List OrderBookLevel) :
    (ladder levels).mapIdx f = levels.mapIdx fun i level => f i ⟨level.price, level.volume⟩ := by
  simp [ladder, List.mapIdx_eq_zipIdx_map, List.zipIdx_map]

theorem share_ladder (levels : List OrderBookLevel) (quantity : ℚ) (i : ℕ)
    (level : OrderBookLevel) :
    Ladder.share (ladder levels) quantity i ⟨level.price, level.volume⟩ =
      taken levels quantity i level := by
  have hfront : (ladder levels).take i = ladder (levels.take i) := List.map_take.symm
  rw [Ladder.share, hfront, ← depth_eq, taken]

theorem sum_taken (hvolume : ∀ level ∈ levels, 0 ≤ level.volume) (hquantity : 0 ≤ quantity)
    (hdepth : quantity ≤ depth levels) :
    (levels.mapIdx fun i level => taken levels quantity i level).sum = quantity := by
  rw [depth_eq] at hdepth
  have hsum := Ladder.sum_shares (ladder_size_nonneg hvolume) hquantity hdepth
  rw [mapIdx_ladder] at hsum
  simp only [share_ladder] at hsum
  exact hsum

theorem cost_eq_sum_taken (hvolume : ∀ level ∈ levels, 0 ≤ level.volume)
    (hquantity : 0 ≤ quantity) :
    Ladder.cost (ladder levels) quantity =
      (levels.mapIdx fun i level => level.price * taken levels quantity i level).sum := by
  rw [Ladder.cost_eq_sum_shares (ladder_size_nonneg hvolume) hquantity, mapIdx_ladder]
  simp only [share_ladder]

theorem computeVwap_of_cost (hvolume : ∀ level ∈ levels, 0 ≤ level.volume)
    (hquantity : 0 < quantity) (hdepth : quantity ≤ depth levels) :
    computeVwap levels quantity = .ok (Ladder.cost (ladder levels) quantity / quantity) := by
  rw [depth_eq] at hdepth
  have hcost := (div_mul_cancel₀ (Ladder.cost (ladder levels) quantity) hquantity.ne').symm
  exact (computeVwap_iff hvolume).mpr ⟨hquantity, hdepth, hcost⟩

theorem computeVwap_raises_iff (hvolume : ∀ level ∈ levels, 0 ≤ level.volume) :
    (∃ e, computeVwap levels quantity = .error e) ↔ quantity ≤ 0 ∨ depth levels < quantity := by
  constructor
  · rintro ⟨e, he⟩
    by_contra hfillable
    rw [not_or, not_le, not_lt] at hfillable
    rw [computeVwap_of_cost hvolume hfillable.1 hfillable.2] at he
    cases he
  · intro hunfillable
    cases h : computeVwap levels quantity with
    | error e => exact ⟨e, rfl⟩
    | ok vwap =>
      obtain ⟨hpos, htotal, -⟩ := (computeVwap_iff hvolume).mp h
      rw [← depth_eq] at htotal
      rcases hunfillable with hneg | hshort
      · exact absurd hneg (not_le.mpr hpos)
      · exact absurd hshort (not_lt.mpr htotal)

/-- The early exit of the loop is the `max` of the formula. -/
theorem computeVwap_formula (levels : List OrderBookLevel) (quantity : ℚ)
    (hvolume : ∀ level ∈ levels, 0 ≤ level.volume) :
    ((∃ e, computeVwap levels quantity = .error e ∧ e.cls = .valueError) ↔
        quantity ≤ 0 ∨ depth levels < quantity) ∧
      (0 < quantity → quantity ≤ depth levels →
        computeVwap levels quantity = .ok
          ((levels.mapIdx fun i level => level.price * taken levels quantity i level).sum /
            quantity) ∧
        (levels.mapIdx fun i level => taken levels quantity i level).sum = quantity) := by
  constructor
  · constructor
    · rintro ⟨e, he, -⟩
      exact (computeVwap_raises_iff hvolume).mp ⟨e, he⟩
    · intro hunfillable
      obtain ⟨e, he⟩ := (computeVwap_raises_iff hvolume).mpr hunfillable
      exact ⟨e, he, computeVwap_cls he⟩
  · intro hpos hdepth
    refine ⟨?_, sum_taken hvolume hpos.le hdepth⟩
    rw [← cost_eq_sum_taken hvolume hpos.le]
    exact computeVwap_of_cost hvolume hpos hdepth

end

def sampleAsks : List OrderBookLevel := [⟨100, 2⟩, ⟨101, 0⟩, ⟨103, 4⟩]

theorem sampleAsks_volume : ∀ level ∈ sampleAsks, 0 ≤ level.volume := by decide +kernel

/-- The last level is taken in part, past one that offers nothing. -/
theorem computeVwap_formula_sample :
    computeVwap sampleAsks 3 = .ok 101 ∧
      ∃ e, computeVwap sampleAsks 7 = .error e ∧ e.cls = .valueError := by
  obtain ⟨hvwap, -⟩ := (computeVwap_formula sampleAsks 3 sampleAsks_volume).2
    (by decide +kernel) (by decide +kernel)
  constructor
  · rw [hvwap]
    decide +kernel
  · exact (computeVwap_formula sampleAsks 7 sampleAsks_volume).1.mpr (by decide +kernel)

/-! ### Bounds -/

/-- The VWAPs of two quantities lie in this order between the first price and the last. -/
def Bracketed (better : ℚ → ℚ → Prop) (levels : List OrderBookLevel) (q q' : ℚ) : Prop :=
  ∃ best worst vwap vwap', levels.head? = some best ∧ worst ∈ levels ∧
    (∀ level ∈ levels, better best.price level.price ∧ better level.price worst.price) ∧
    computeVwap levels q = .ok vwap ∧ computeVwap levels q' = .ok vwap' ∧
    better best.price vwap ∧ better vwap vwap' ∧ better vwap' worst.price

section
variable {levels : List OrderBookLevel} {quantity quantity' : ℚ} {fills : List ℚ}

theorem exists_best_worst (hne : levels ≠ [])
    (hsorted : levels.Pairwise fun a b => a.price ≤ b.price) :
    ∃ best worst, levels.head? = some best ∧ worst ∈ levels ∧
      ∀ level ∈ levels, best.price ≤ level.price ∧ level.price ≤ worst.price := by
  refine ⟨levels.head hne, levels.getLast hne, List.head?_eq_some_head hne,
    List.getLast_mem hne, fun level hlevel => ?_⟩
  exact ⟨hsorted.rel_head_of_rel_head_head hlevel le_rfl,
    hsorted.rel_getLast_of_rel_getLast_getLast hlevel le_rfl⟩

theorem bracketed_asks (hsorted : levels.Pairwise fun a b => a.price ≤ b.price)
    (hvolume : ∀ level ∈ levels, 0 ≤ level.volume) (hpos : 0 < quantity)
    (hle : quantity ≤ quantity') (hdepth : quantity' ≤ depth levels) :
    Bracketed (· ≤ ·) levels quantity quantity' := by
  have hne : levels ≠ [] := by
    rintro rfl
    exact absurd (hle.trans hdepth) (not_le.mpr hpos)
  obtain ⟨best, worst, hbest, hworst, hbetween⟩ := exists_best_worst hne hsorted
  have hvwap := computeVwap_of_cost hvolume hpos (hle.trans hdepth)
  have hvwap' := computeVwap_of_cost hvolume (hpos.trans_le hle) hdepth
  exact ⟨best, worst, _, _, hbest, hworst, hbetween, hvwap, hvwap',
    le_vwap hvwap hvolume fun level hlevel => (hbetween level hlevel).1,
    vwap_mono hvwap hvwap' hsorted hvolume hle,
    vwap_le hvwap' hvolume fun level hlevel => (hbetween level hlevel).2⟩

theorem Bracketed.mirrored (h : Bracketed (· ≤ ·) (mirrored levels) quantity quantity')
    (hvolume : ∀ level ∈ levels, 0 ≤ level.volume) :
    Bracketed (· ≥ ·) levels quantity quantity' := by
  obtain ⟨best, worst, vwap, vwap', hbest, hworst, hbetween, hvwap, hvwap', hlow, hmono, hhigh⟩ := h
  rw [Marketdata.mirrored, List.head?_map, Option.map_eq_some_iff] at hbest
  obtain ⟨bid, hbid, rfl⟩ := hbest
  obtain ⟨last, hlast, rfl⟩ := List.mem_map.mp hworst
  rw [← neg_neg vwap, computeVwap_mirrored hvolume] at hvwap
  rw [← neg_neg vwap', computeVwap_mirrored hvolume] at hvwap'
  have hbids : ∀ level ∈ levels, bid.price ≥ level.price ∧ level.price ≥ last.price := by
    intro level hlevel
    obtain ⟨hfirst, hsecond⟩ := hbetween _ (List.mem_map_of_mem hlevel)
    exact ⟨neg_le_neg_iff.mp hfirst, neg_le_neg_iff.mp hsecond⟩
  exact ⟨bid, last, -vwap, -vwap', hbid, hlast, hbids, hvwap, hvwap', neg_le.mp hlow,
    neg_le_neg hmono, le_neg.mp hhigh⟩

theorem computeVwap_bracketed (levels : List OrderBookLevel) (quantity quantity' : ℚ)
    (hvolume : ∀ level ∈ levels, 0 ≤ level.volume) (hpos : 0 < quantity)
    (hle : quantity ≤ quantity') (hdepth : quantity' ≤ depth levels) :
    ((levels.Pairwise fun a b => a.price ≤ b.price) →
      Bracketed (· ≤ ·) levels quantity quantity') ∧
    ((levels.Pairwise fun a b => a.price ≥ b.price) →
      Bracketed (· ≥ ·) levels quantity quantity') := by
  constructor
  · intro hsorted
    exact bracketed_asks hsorted hvolume hpos hle hdepth
  · intro hsorted
    have hdepth' : quantity' ≤ depth (mirrored levels) := by rwa [depth_mirrored]
    exact (bracketed_asks (mirrored_sorted hsorted) (mirrored_volume hvolume) hpos hle
      hdepth').mirrored hvolume

theorem computeVwap_bracketed_sample : Bracketed (· ≤ ·) sampleAsks 1 5 :=
  (computeVwap_bracketed sampleAsks 1 5 sampleAsks_volume (by decide +kernel) (by decide +kernel)
    (by decide +kernel)).1 (by decide +kernel)

/-! ### Every other fill -/

theorem vwap_mul_le (hsorted : levels.Pairwise fun a b => a.price ≤ b.price)
    (hfills : Allocation fills levels) {vwap : ℚ}
    (h : computeVwap levels fills.sum = .ok vwap) :
    fills.sum * vwap ≤ notionalOf fills levels := by
  have hvolume := hfills.volume_nonneg
  have hcost := Ladder.cost_le_spent (ascending_ladder hsorted hvolume) hfills.offered
  rwa [vwap_eq h hvolume, spent_ladder, mul_comm] at hcost

/-- No other way to fill the quantity buys for less or sells for more. -/
theorem computeVwap_optimal (levels : List OrderBookLevel) (quantity : ℚ) (fills : List ℚ)
    (hpos : 0 < quantity) (hfills : Allocation fills levels) (hsum : fills.sum = quantity) :
    ∃ vwap, computeVwap levels quantity = .ok vwap ∧
      ((levels.Pairwise fun a b => a.price ≤ b.price) →
        quantity * vwap ≤ notionalOf fills levels) ∧
      ((levels.Pairwise fun a b => a.price ≥ b.price) →
        notionalOf fills levels ≤ quantity * vwap) := by
  subst hsum
  have hvolume := hfills.volume_nonneg
  have hdepth : fills.sum ≤ depth levels := by
    rw [depth_eq]
    exact hfills.offered.sum_le
  have hvwap := computeVwap_of_cost hvolume hpos hdepth
  refine ⟨_, hvwap, fun hsorted => vwap_mul_le hsorted hfills hvwap, fun hsorted => ?_⟩
  have hmirror := vwap_mul_le (mirrored_sorted hsorted) hfills.mirrored
    ((computeVwap_mirrored hvolume).mpr hvwap)
  rw [notionalOf_mirrored, mul_neg] at hmirror
  exact neg_le_neg_iff.mp hmirror

/-- Taking all of it from the dearer levels. -/
theorem computeVwap_optimal_sample :
    ∃ vwap, computeVwap sampleAsks 3 = .ok vwap ∧ 3 * vwap ≤ notionalOf [0, 0, 3] sampleAsks := by
  obtain ⟨vwap, hvwap, hasks, -⟩ := computeVwap_optimal sampleAsks 3 [0, 0, 3]
    (by decide +kernel) (by unfold Allocation; decide +kernel) (by decide +kernel)
  exact ⟨vwap, hvwap, hasks (by decide +kernel)⟩

end
end BimodalArbitrage.Marketdata
