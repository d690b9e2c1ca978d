import BimodalArbitrage.Ladder.Greedy
import BimodalArbitrage.Marketdata.Depth

/-!
# VWAPs as average prices

A walk through one side of a book buys from a ladder, so what holds of average prices
holds of VWAPs: they only get better for a smaller quantity. Bids are walked downwards
and are the mirror image of a ladder.
-/

namespace BimodalArbitrage.Marketdata

def ladder (levels : List OrderBookLevel) : List (Ladder.Rung ℚ) :=
  levels.map fun level => ⟨level.price, level.volume⟩

section
variable {levels : List OrderBookLevel} {quantity quantity' vwap : ℚ}

theorem total_ladder (levels : List OrderBookLevel) :
    Ladder.total (ladder levels) = (levels.map OrderBookLevel.volume).sum := by
  rw [Ladder.total, ladder, List.map_map]
  rfl

theorem ladder_size_nonneg (hvolume : ∀ level ∈ levels, 0 ≤ level.volume) :
    ∀ r ∈ ladder levels, 0 ≤ r.size := by
  intro r hr
  obtain ⟨level, hlevel, rfl⟩ := List.mem_map.mp hr
  exact hvolume level hlevel

theorem ascending_ladder (hsorted : levels.Pairwise fun a b => a.price ≤ b.price)
    (hvolume : ∀ level ∈ levels, 0 ≤ level.volume) : Ladder.Ascending (ladder levels) where
  sorted := List.pairwise_map.mpr hsorted
  size_nonneg := ladder_size_nonneg hvolume

theorem BestFirst.ascending (h : BestFirst (· ≤ ·) levels) : Ladder.Ascending (ladder levels) :=
  ascending_ladder h.sorted h.volume_nonneg

/-- What is bid at falling prices is asked at rising negative ones. -/
def mirrored (levels : List OrderBookLevel) : List OrderBookLevel :=
  levels.map fun level => ⟨-level.price, level.volume⟩

theorem ladder_mirrored (levels : List OrderBookLevel) :
    ladder (mirrored levels) = Ladder.mirror (ladder levels) := by
  simp only [ladder, mirrored, Ladder.mirror, List.map_map]
  rfl

theorem mirrored_volume (hvolume : ∀ level ∈ levels, 0 ≤ level.volume) :
    ∀ level ∈ mirrored levels, 0 ≤ level.volume := by
  intro level hlevel
  obtain ⟨bid, hbid, rfl⟩ := List.mem_map.mp hlevel
  exact hvolume bid hbid

theorem mirrored_sorted (hsorted : levels.Pairwise fun a b => a.price ≥ b.price) :
    (mirrored levels).Pairwise fun a b => a.price ≤ b.price :=
  List.pairwise_map.mpr (hsorted.imp fun hab => neg_le_neg hab)

theorem BestFirst.descending (h : BestFirst (· ≥ ·) levels) :
    Ladder.Ascending (Ladder.mirror (ladder levels)) := by
  rw [← ladder_mirrored]
  exact ascending_ladder (mirrored_sorted h.sorted) (mirrored_volume h.volume_nonneg)

theorem min_add_min {volume rest remaining : ℚ} (hrest : 0 ≤ rest) :
    min volume remaining + min rest (remaining - min volume remaining) =
      min (volume + rest) remaining := by
  rcases le_total volume remaining with h | h
  · rw [min_eq_left h, ← min_add_add_left, add_sub_cancel]
  · have hcovered : remaining ≤ volume + rest := by linarith
    rw [min_eq_right h, sub_self, min_eq_right hrest, min_eq_right hcovered, add_zero]

theorem walk_eq_cost (hvolume : ∀ level ∈ levels, 0 ≤ level.volume) {filled : ℚ}
    (hfilled : filled ≤ quantity) (notional : ℚ) :
    walk quantity levels filled notional =
      (filled + min (Ladder.total (ladder levels)) (quantity - filled),
        notional + Ladder.cost (ladder levels) (quantity - filled)) := by
  induction levels generalizing filled notional with
  | nil =>
    have hnothing : min 0 (quantity - filled) = 0 := min_eq_left (sub_nonneg.mpr hfilled)
    simp [walk, ladder, Ladder.cost, hnothing]
  | cons level levels ih =>
    have hrest : ∀ l ∈ levels, 0 ≤ l.volume := fun l hl => hvolume l (List.mem_cons_of_mem _ hl)
    have htotal := Ladder.total_nonneg (ladder_size_nonneg hrest)
    have hladder : ladder (level :: levels) = ⟨level.price, level.volume⟩ :: ladder levels := rfl
    rw [hladder, Ladder.total_cons, Ladder.cost, ← min_add_min htotal]
    rcases hfilled.lt_or_eq with hopen | rfl
    · rw [walk_cons quantity level levels hopen, ih hrest (filled_add_min_le ..),
        sub_add_eq_sub_sub, add_assoc, add_assoc]
    · -- nothing is open: neither the walk nor the ladder goes on
      have hskip : min level.volume 0 = 0 := min_eq_right (hvolume level (List.mem_cons_self ..))
      rw [walk_done filled _ le_rfl, sub_self, hskip, mul_zero, sub_zero, min_eq_right htotal,
        Ladder.cost_zero (ladder_size_nonneg hrest)]
      simp

theorem computeVwap_iff (hvolume : ∀ level ∈ levels, 0 ≤ level.volume) :
    computeVwap levels quantity = .ok vwap ↔ 0 < quantity ∧
      quantity ≤ Ladder.total (ladder levels) ∧
        Ladder.cost (ladder levels) quantity = vwap * quantity := by
  unfold computeVwap
  split
  · next hquantity =>
    constructor
    · intro h
      cases h
    · intro h
      exact absurd h.1 (not_lt.mpr hquantity)
  next hquantity =>
  have hpos : 0 < quantity := not_le.mp hquantity
  rw [walk_eq_cost hvolume hpos.le, sub_zero, zero_add, zero_add]
  dsimp only
  split
  · next hshort =>
    constructor
    · intro h
      cases h
    · rintro ⟨-, hdepth, -⟩
      rw [min_eq_right hdepth] at hshort
      exact absurd hshort (lt_irrefl _)
  · next hfull =>
    have hdepth : quantity ≤ Ladder.total (ladder levels) := (le_min_iff.mp (not_lt.mp hfull)).1
    rw [pyDiv_of_ne hpos.ne', Except.ok.injEq, div_eq_iff hpos.ne']
    exact ⟨fun h => ⟨hpos, hdepth, h⟩, fun h => h.2.2⟩

theorem vwap_eq (h : computeVwap levels quantity = .ok vwap)
    (hvolume : ∀ level ∈ levels, 0 ≤ level.volume) :
    Ladder.cost (ladder levels) quantity = vwap * quantity :=
  ((computeVwap_iff hvolume).mp h).2.2

theorem le_depth (h : computeVwap levels quantity = .ok vwap)
    (hvolume : ∀ level ∈ levels, 0 ≤ level.volume) :
    0 < quantity ∧ quantity ≤ Ladder.total (ladder levels) := by
  obtain ⟨hpos, htotal, -⟩ := (computeVwap_iff hvolume).mp h
  exact ⟨hpos, htotal⟩

theorem le_vwap (h : computeVwap levels quantity = .ok vwap)
    (hvolume : ∀ level ∈ levels, 0 ≤ level.volume) {price : ℚ}
    (hprice : ∀ level ∈ levels, price ≤ level.price) : price ≤ vwap := by
  obtain ⟨hpos, htotal⟩ := le_depth h hvolume
  have hbelow : ∀ r ∈ ladder levels, r.price < price → r.size = 0 := by
    intro r hr hlt
    obtain ⟨level, hlevel, rfl⟩ := List.mem_map.mp hr
    exact absurd hlt (not_lt.mpr (hprice level hlevel))
  have hcost := Ladder.mul_le_cost (ladder_size_nonneg hvolume) hbelow hpos.le htotal
  rw [vwap_eq h hvolume] at hcost
  exact le_of_mul_le_mul_right hcost hpos

theorem vwap_le (h : computeVwap levels quantity = .ok vwap)
    (hvolume : ∀ level ∈ levels, 0 ≤ level.volume) {price : ℚ}
    (hprice : ∀ level ∈ levels, level.price ≤ price) : vwap ≤ price := by
  obtain ⟨hpos, htotal⟩ := le_depth h hvolume
  have habove : ∀ r ∈ ladder levels, r.price ≤ price := by
    intro r hr
    obtain ⟨level, hlevel, rfl⟩ := List.mem_map.mp hr
    exact hprice level hlevel
  have hcost := Ladder.cost_le_mul (ladder_size_nonneg hvolume) habove hpos.le htotal
  rw [vwap_eq h hvolume] at hcost
  exact le_of_mul_le_mul_right hcost hpos

theorem vwap_mono {vwap' : ℚ} (h : computeVwap levels quantity = .ok vwap)
    (h' : computeVwap levels quantity' = .ok vwap')
    (hsorted : levels.Pairwise fun a b => a.price ≤ b.price)
    (hvolume : ∀ level ∈ levels, 0 ≤ level.volume) (hle : quantity ≤ quantity') :
    vwap ≤ vwap' := by
  obtain ⟨hpos, -⟩ := le_depth h hvolume
  obtain ⟨hpos', htotal'⟩ := le_depth h' hvolume
  have haverage := Ladder.cost_average (ascending_ladder hsorted hvolume) hpos.le hle htotal'
  rw [vwap_eq h hvolume, vwap_eq h' hvolume, mul_right_comm vwap', mul_assoc, mul_assoc]
    at haverage
  exact le_of_mul_le_mul_right haverage (mul_pos hpos hpos')

theorem computeVwap_mirrored (hvolume : ∀ level ∈ levels, 0 ≤ level.volume) :
    computeVwap (mirrored levels) quantity = .ok (-vwap) ↔
      computeVwap levels quantity = .ok vwap := by
  rw [computeVwap_iff (mirrored_volume hvolume), computeVwap_iff hvolume, ladder_mirrored,
    Ladder.total_mirror, Ladder.cost_mirror, neg_mul, neg_inj]

theorem computeVwap_pos {better : ℚ → ℚ → Prop} (hbook : BestFirst better levels)
    (h : computeVwap levels quantity = .ok vwap) : 0 < vwap := by
  obtain ⟨hpos, htotal, hcost⟩ := (computeVwap_iff hbook.volume_nonneg).mp h
  have hprice : ∀ r ∈ ladder levels, 0 < r.price := by
    intro r hr
    obtain ⟨level, hlevel, rfl⟩ := List.mem_map.mp hr
    exact hbook.price_pos level hlevel
  have hcostPos := Ladder.cost_pos (ladder_size_nonneg hbook.volume_nonneg) hprice hpos htotal
  rw [hcost] at hcostPos
  exact (mul_pos_iff_of_pos_right hpos).mp hcostPos

theorem best_le_computeVwap {best : OrderBookLevel}
    (hbook : BestFirst (· ≤ ·) (best :: levels))
    (h : computeVwap (best :: levels) quantity = .ok vwap) : best.price ≤ vwap :=
  le_vwap h hbook.volume_nonneg (head_le_of_sorted hbook.sorted)

theorem computeVwap_part (hvolume : ∀ level ∈ levels, 0 ≤ level.volume)
    (h : computeVwap levels quantity' = .ok vwap) (hpos : 0 < quantity)
    (hle : quantity ≤ quantity') : ∃ v, computeVwap levels quantity = .ok v := by
  obtain ⟨-, htotal⟩ := le_depth h hvolume
  have hcost := (div_mul_cancel₀ (Ladder.cost (ladder levels) quantity) hpos.ne').symm
  exact ⟨_, (computeVwap_iff hvolume).mpr ⟨hpos, hle.trans htotal, hcost⟩⟩

theorem computeVwap_asks (hbook : BestFirst (· ≤ ·) levels)
    (h : computeVwap levels quantity' = .ok vwap) (hpos : 0 < quantity)
    (hle : quantity ≤ quantity') : ∃ v, computeVwap levels quantity = .ok v ∧ v ≤ vwap := by
  obtain ⟨v, hv⟩ := computeVwap_part hbook.volume_nonneg h hpos hle
  exact ⟨v, hv, vwap_mono hv h hbook.sorted hbook.volume_nonneg hle⟩

theorem computeVwap_bids (hbook : BestFirst (· ≥ ·) levels)
    (h : computeVwap levels quantity' = .ok vwap) (hpos : 0 < quantity)
    (hle : quantity ≤ quantity') : ∃ v, computeVwap levels quantity = .ok v ∧ vwap ≤ v := by
  have hvolume := hbook.volume_nonneg
  obtain ⟨v, hv⟩ := computeVwap_part hvolume h hpos hle
  have hmono := vwap_mono ((computeVwap_mirrored hvolume).mpr hv)
    ((computeVwap_mirrored hvolume).mpr h) (mirrored_sorted hbook.sorted)
    (mirrored_volume hvolume) hle
  exact ⟨v, hv, neg_le_neg_iff.mp hmono⟩

end
end BimodalArbitrage.Marketdata
