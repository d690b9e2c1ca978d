import BimodalArbitrage.Marketdata.Microstructure
import Mathlib.Algebra.Order.BigOperators.Group.List
import Mathlib.Tactic.Linarith

/-!
# What a walk through a book costs

A walk that stays at the touch costs the best price for every unit. On a book that
is sorted best first any other walk costs more.
-/

namespace BimodalArbitrage.Marketdata

/-- The volume that rests at `price` in front of every other price. -/
def touchDepth (price : ℚ) (levels : List OrderBookLevel) : ℚ :=
  ((levels.takeWhile fun level => level.price = price).map OrderBookLevel.volume).sum

structure BestFirst {N : Type} [PyFloat N] (better : N → N → Prop)
    (levels : List (OrderBookLevel N)) : Prop where
  sorted : levels.Pairwise fun a b => better a.price b.price
  price_pos : ∀ level ∈ levels, 0 < level.price
  volume_nonneg : ∀ level ∈ levels, 0 ≤ level.volume

@[simp] theorem touchDepth_nil (price : ℚ) : touchDepth price [] = 0 := rfl

theorem touchDepth_cons (price : ℚ) (level : OrderBookLevel) (levels : List OrderBookLevel) :
    touchDepth price (level :: levels) =
      if level.price = price then level.volume + touchDepth price levels else 0 := by
  by_cases h : level.price = price <;> simp [touchDepth, h]

theorem touchDepth_nonneg (price : ℚ) {levels : List OrderBookLevel}
    (hvolume : ∀ level ∈ levels, 0 ≤ level.volume) : 0 ≤ touchDepth price levels := by
  refine List.sum_nonneg fun v hv => ?_
  obtain ⟨level, hlevel, rfl⟩ := List.mem_map.mp hv
  exact hvolume level ((List.takeWhile_sublist _).subset hlevel)

theorem walk_cons (quantity : ℚ) (level : OrderBookLevel) (levels : List OrderBookLevel)
    {filled : ℚ} (hopen : filled < quantity) (notional : ℚ) :
    walk quantity (level :: levels) filled notional =
      walk quantity levels (filled + min level.volume (quantity - filled))
        (notional + level.price * min level.volume (quantity - filled)) := by
  have hremaining : ¬quantity - filled ≤ 0 := not_le.mpr (sub_pos.mpr hopen)
  simp only [walk, hremaining, if_false]

theorem walk_done (quantity : ℚ) (levels : List OrderBookLevel) {filled : ℚ}
    (hdone : quantity ≤ filled) (notional : ℚ) :
    walk quantity levels filled notional = (filled, notional) := by
  cases levels with
  | nil => rfl
  | cons level levels =>
    have hremaining : quantity - filled ≤ 0 := sub_nonpos.mpr hdone
    simp only [walk, hremaining, if_true]

theorem filled_add_min_le (quantity filled volume : ℚ) :
    filled + min volume (quantity - filled) ≤ quantity := by
  have hmin := min_le_right volume (quantity - filled)
  linarith

theorem walk_filled_le (quantity : ℚ) (levels : List OrderBookLevel) {filled : ℚ}
    (hfilled : filled ≤ quantity) (notional : ℚ) :
    (walk quantity levels filled notional).1 ≤ quantity := by
  induction levels generalizing filled notional with
  | nil => exact hfilled
  | cons level levels ih =>
    rcases hfilled.lt_or_eq with hopen | hdone
    · rw [walk_cons quantity level levels hopen]
      exact ih (filled_add_min_le ..) _
    · rw [walk_done quantity _ hdone.ge]
      exact hfilled

theorem walk_touch (price quantity : ℚ) (levels : List OrderBookLevel) {filled : ℚ}
    (hfilled : filled ≤ quantity) (htouch : quantity - filled ≤ touchDepth price levels)
    (notional : ℚ) :
    walk quantity levels filled notional = (quantity, notional + price * (quantity - filled)) := by
  induction levels generalizing filled notional with
  | nil =>
    rw [touchDepth_nil] at htouch
    have hdone : filled = quantity := by linarith
    simp [walk, hdone]
  | cons level levels ih =>
    rcases hfilled.lt_or_eq with hopen | hdone
    · rw [touchDepth_cons] at htouch
      split at htouch
      · next hprice =>
        rw [walk_cons quantity level levels hopen]
        -- what is left after this level is still covered by the levels behind it
        have hrest : quantity - (filled + min level.volume (quantity - filled)) ≤
            touchDepth price levels ∨ quantity ≤ filled + min level.volume (quantity - filled) := by
          rcases le_total level.volume (quantity - filled) with hle | hle
          · rw [min_eq_left hle]
            left
            linarith
          · rw [min_eq_right hle]
            right
            linarith
        rcases hrest with hrest | hdone
        · rw [ih (filled_add_min_le ..) hrest, hprice]
          congr 1
          ring
        · have hall : min level.volume (quantity - filled) = quantity - filled :=
            le_antisymm (min_le_right ..) (by linarith)
          rw [walk_done quantity levels hdone, hall, hprice]
          congr 1
          ring
      · linarith
    · rw [walk_done quantity _ hdone.ge, hdone, sub_self, mul_zero, add_zero]

theorem walk_cost_ge {price : ℚ} (quantity : ℚ) (levels : List OrderBookLevel)
    (hprice : ∀ level ∈ levels, price ≤ level.price)
    (hvolume : ∀ level ∈ levels, 0 ≤ level.volume) {filled : ℚ} (hfilled : filled ≤ quantity)
    (notional : ℚ) :
    notional + price * ((walk quantity levels filled notional).1 - filled) ≤
      (walk quantity levels filled notional).2 := by
  induction levels generalizing filled notional with
  | nil => simp [walk]
  | cons level levels ih =>
    rcases hfilled.lt_or_eq with hopen | hdone
    · rw [walk_cons quantity level levels hopen]
      have hrest := ih (fun l hl => hprice l (List.mem_cons_of_mem _ hl))
        (fun l hl => hvolume l (List.mem_cons_of_mem _ hl))
        (filled_add_min_le quantity filled level.volume)
        (notional + level.price * min level.volume (quantity - filled))
      have htake : 0 ≤ min level.volume (quantity - filled) :=
        le_min (hvolume level (List.mem_cons_self ..)) (sub_nonneg.mpr hfilled)
      have hlevel : price * min level.volume (quantity - filled) ≤
          level.price * min level.volume (quantity - filled) :=
        mul_le_mul_of_nonneg_right (hprice level (List.mem_cons_self ..)) htake
      linarith
    · simp [walk_done quantity _ hdone.ge]

theorem head_le_of_sorted {best : OrderBookLevel} {levels : List OrderBookLevel}
    (hsorted : (best :: levels).Pairwise fun a b => a.price ≤ b.price) :
    ∀ level ∈ best :: levels, best.price ≤ level.price := by
  intro level hlevel
  rcases List.mem_cons.mp hlevel with rfl | hlevel
  · exact le_rfl
  · exact (List.pairwise_cons.mp hsorted).1 level hlevel

theorem walk_cost_gt {price : ℚ} (quantity : ℚ) (levels : List OrderBookLevel)
    (hsorted : levels.Pairwise fun a b => a.price ≤ b.price)
    (hprice : ∀ level ∈ levels, price ≤ level.price)
    (hvolume : ∀ level ∈ levels, 0 ≤ level.volume) {filled notional : ℚ}
    (hfull : (walk quantity levels filled notional).1 = quantity)
    (htouch : touchDepth price levels < quantity - filled) :
    notional + price * (quantity - filled) < (walk quantity levels filled notional).2 := by
  induction levels generalizing filled notional with
  | nil =>
    simp only [walk] at hfull
    simp only [touchDepth_nil, hfull, sub_self, lt_irrefl] at htouch
  | cons level levels ih =>
    have hdepth := touchDepth_nonneg price hvolume
    have hopen : filled < quantity := by linarith
    rw [touchDepth_cons] at htouch
    have hrestSorted := (List.pairwise_cons.mp hsorted).2
    by_cases hsame : level.price = price
    · rw [if_pos hsame] at htouch
      rw [walk_cons quantity level levels hopen] at hfull ⊢
      have hmin := min_le_left level.volume (quantity - filled)
      have hrest := ih hrestSorted (fun l hl => hprice l (List.mem_cons_of_mem _ hl))
        (fun l hl => hvolume l (List.mem_cons_of_mem _ hl)) hfull (by linarith)
      rw [hsame] at hrest ⊢
      linarith
    · -- every level is dearer than the touch
      have hdearer : price < level.price :=
        lt_of_le_of_ne (hprice level (List.mem_cons_self ..)) (Ne.symm hsame)
      have hall := head_le_of_sorted hsorted
      have hcost := walk_cost_ge quantity (level :: levels) hall hvolume hopen.le notional
      rw [hfull] at hcost
      have hmore := mul_lt_mul_of_pos_right hdearer (sub_pos.mpr hopen)
      linarith

/-! ### VWAP -/

theorem computeVwap_ok {levels : List OrderBookLevel} {quantity vwap : ℚ}
    (h : computeVwap levels quantity = .ok vwap) :
    0 < quantity ∧ (walk quantity levels 0 0).1 = quantity ∧
      quantity * vwap = (walk quantity levels 0 0).2 := by
  unfold computeVwap at h
  split at h
  · contradiction
  next hquantity =>
  have hpos : 0 < quantity := not_le.mp hquantity
  simp only at h
  split at h
  · contradiction
  next hfull =>
  have hle := walk_filled_le quantity levels hpos.le 0
  obtain ⟨hne, rfl⟩ := pyDiv_ok h
  exact ⟨hpos, le_antisymm hle (not_lt.mp hfull), mul_div_cancel₀ _ hne⟩

theorem computeVwap_touch {levels : List OrderBookLevel} {price quantity vwap : ℚ}
    (h : computeVwap levels quantity = .ok vwap) (htouch : quantity ≤ touchDepth price levels) :
    quantity * vwap = price * quantity := by
  obtain ⟨hpos, -, hcost⟩ := computeVwap_ok h
  rw [hcost, walk_touch price quantity levels hpos.le (by simpa using htouch)]
  simp

section
variable {best : OrderBookLevel} {levels : List OrderBookLevel} {quantity vwap : ℚ}

theorem computeVwap_le_iff (hbook : BestFirst (· ≤ ·) (best :: levels))
    (h : computeVwap (best :: levels) quantity = .ok vwap) :
    quantity * vwap ≤ best.price * quantity ↔
      quantity ≤ touchDepth best.price (best :: levels) := by
  constructor
  · intro hle
    by_contra htouch
    obtain ⟨-, hfull, hcost⟩ := computeVwap_ok h
    have hmore := walk_cost_gt quantity (best :: levels) hbook.sorted
      (head_le_of_sorted hbook.sorted) hbook.volume_nonneg hfull (by simpa using htouch)
    rw [← hcost] at hmore
    linarith
  · exact fun htouch => (computeVwap_touch h htouch).le

end

end BimodalArbitrage.Marketdata
