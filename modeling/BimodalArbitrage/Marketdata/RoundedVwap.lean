import BimodalArbitrage.Marketdata.Vwap

/-!
# VWAPs that are rounded

Where the first level that offers anything covers the quantity, the VWAP is the price of
that level times the quantity, divided by the quantity again. A walk through more levels
is compared with the one that rounds nothing.
-/

namespace BimodalArbitrage.Marketdata
open Rounding

def FiniteLevels (levels : List (OrderBookLevel Binary64)) : Prop :=
  ∀ level ∈ levels, level.price.IsFinite ∧ level.volume.IsFinite

/-- The very numbers of a book. -/
def exactLevels (levels : List (OrderBookLevel Binary64)) : List OrderBookLevel :=
  levels.map fun level => ⟨level.price.value, level.volume.value⟩

/-- `level` is the first that offers anything, and covers the quantity. -/
structure CoversAlone (level : OrderBookLevel Binary64) (quantity : Binary64)
    (levels : List (OrderBookLevel Binary64)) : Prop where
  first : levels.find? (fun level => 0 < level.volume) = some level
  covers : quantity ≤ level.volume

/-- The average a walk for `quantity` returns is the exact one. -/
structure AveragesExactly (quantity : Binary64) (levels : List (OrderBookLevel Binary64)) :
    Prop where
  finite : quantity.IsFinite
  vwap : ∀ vwap, computeVwap levels quantity = .ok vwap →
    vwap.IsFinite ∧ computeVwap (exactLevels levels) quantity.value = .ok vwap.value

section
variable {level : OrderBookLevel Binary64} {levels : List (OrderBookLevel Binary64)}
  {quantity vwap : Binary64} {better : Binary64 → Binary64 → Prop} {better' : ℚ → ℚ → Prop}

theorem zero_finite : (0 : Binary64).IsFinite := by decide +kernel

theorem zero_value : (0 : Binary64).value = 0 := Binary64.value_zero

theorem BestFirst.volume_value_nonneg (hbook : BestFirst better levels)
    (hfinite : FiniteLevels levels) : ∀ level ∈ levels, 0 ≤ level.volume.value := by
  intro level hlevel
  rw [← zero_value, Floating.value_le_value zero_finite (hfinite level hlevel).2]
  exact hbook.volume_nonneg level hlevel

theorem BestFirst.exact (hbook : BestFirst better levels) (hfinite : FiniteLevels levels)
    (hbetter : ∀ x y : Binary64, x.IsFinite → y.IsFinite → better x y → better' x.value y.value) :
    BestFirst better' (exactLevels levels) where
  sorted := List.pairwise_map.mpr (hbook.sorted.imp_of_mem fun ha hb hab =>
    hbetter _ _ (hfinite _ ha).1 (hfinite _ hb).1 hab)
  price_pos := by
    intro level hlevel
    obtain ⟨source, hsource, rfl⟩ := List.mem_map.mp hlevel
    have hpos := hbook.price_pos source hsource
    rw [← not_le, ← zero_value, Floating.value_le_value (hfinite _ hsource).1 zero_finite]
    exact Floating.not_le_of_lt hpos
  volume_nonneg := by
    intro level hlevel
    obtain ⟨source, hsource, rfl⟩ := List.mem_map.mp hlevel
    exact hbook.volume_value_nonneg hfinite source hsource

theorem BestFirst.exact_asks (hbook : BestFirst (· ≤ ·) levels) (hfinite : FiniteLevels levels) :
    BestFirst (· ≤ ·) (exactLevels levels) :=
  hbook.exact hfinite fun _ _ hx hy => (Floating.value_le_value hx hy).mpr

theorem BestFirst.exact_bids (hbook : BestFirst (· ≥ ·) levels) (hfinite : FiniteLevels levels) :
    BestFirst (· ≥ ·) (exactLevels levels) :=
  hbook.exact hfinite fun _ _ hx hy => (Floating.value_le_value hy hx).mpr

theorem quantity_pos (h : computeVwap levels quantity = .ok vwap) : ¬quantity ≤ 0 := by
  unfold computeVwap at h
  split at h
  · cases h
  · assumption

theorem walk_nothing (hprice : level.price.IsFinite) (hquantity : ¬quantity ≤ 0)
    (hvolume : level.volume = 0) :
    walk quantity (level :: levels) 0 0 = walk quantity levels 0 0 := by
  have hremaining : quantity - 0 = quantity := Floating.sub_ofRat_zero quantity
  have htake : min 0 quantity = (0 : Binary64) :=
    if_neg fun hlt => hquantity (Floating.le_of_lt hlt)
  have hcost : level.price * 0 = 0 := hprice.mul_ofRat_zero
  simp only [walk, hremaining, hquantity, if_false, hvolume, htake, hcost, PyFloat.zero_add]

theorem walk_covering (hfinite : quantity.IsFinite) (hquantity : ¬quantity ≤ 0)
    (hcovers : quantity ≤ level.volume) :
    walk quantity (level :: levels) 0 0 = (quantity, level.price * quantity) := by
  have hremaining : quantity - 0 = quantity := Floating.sub_ofRat_zero quantity
  have htake : min level.volume quantity = quantity := Floating.min_eq_right hcovers
  have hnothing : quantity - quantity ≤ 0 := by
    rw [hfinite.sub_self]
    exact Floating.le_refl (Floating.ofRat_ne_nan 0)
  cases levels <;> simp only [walk, hremaining, hquantity, if_false, htake, PyFloat.zero_add,
    hnothing, if_true]

/-- What is not positive is nothing. -/
theorem eq_zero_of_not_pos {volume : Binary64} (h : 0 ≤ volume) (hpos : ¬0 < volume) :
    volume = 0 :=
  Floating.le_antisymm (Floating.le_of_not_lt (Floating.ofRat_ne_nan 0)
    (Floating.ne_nan_of_le h).2 hpos) h

theorem walk_coversAlone (hbook : BestFirst better levels) (hfinite : FiniteLevels levels)
    (hquantity : ¬quantity ≤ 0) (h : CoversAlone level quantity levels) :
    walk quantity levels 0 0 = (quantity, level.price * quantity) := by
  induction levels with
  | nil => cases h.first
  | cons head levels ih =>
    have hfirst := h.first
    rw [List.find?_cons] at hfirst
    by_cases hpos : 0 < head.volume
    · simp only [hpos, decide_true, Option.some.injEq] at hfirst
      subst hfirst
      have hhead := (hfinite head (List.mem_cons_self ..)).2
      have hlower : 0 ≤ quantity := Floating.le_of_not_le (Floating.ne_nan_of_le h.covers).1
        (Floating.ofRat_ne_nan 0) hquantity
      exact walk_covering (hhead.of_le hlower h.covers) hquantity h.covers
    · simp only [hpos, decide_false] at hfirst
      have hnothing := eq_zero_of_not_pos (hbook.volume_nonneg head (List.mem_cons_self ..)) hpos
      rw [walk_nothing (hfinite head (List.mem_cons_self ..)).1 hquantity hnothing]
      exact ih
        ⟨(List.pairwise_cons.mp hbook.sorted).2,
          fun l hl => hbook.price_pos l (List.mem_cons_of_mem _ hl),
          fun l hl => hbook.volume_nonneg l (List.mem_cons_of_mem _ hl)⟩
        (fun l hl => hfinite l (List.mem_cons_of_mem _ hl)) ⟨hfirst, h.covers⟩

theorem CoversAlone.finite (h : CoversAlone level quantity levels)
    (hfinite : FiniteLevels levels) (hquantity : ¬quantity ≤ 0) : quantity.IsFinite :=
  (hfinite level (List.mem_of_find?_eq_some h.first)).2.of_le
    (Floating.le_of_not_le (Floating.ne_nan_of_le h.covers).1 (Floating.ofRat_ne_nan 0) hquantity)
    h.covers

theorem CoversAlone.vwap_eq (h : CoversAlone level quantity levels)
    (hbook : BestFirst better levels) (hfinite : FiniteLevels levels)
    (hvwap : computeVwap levels quantity = .ok vwap) :
    vwap = level.price * quantity / quantity := by
  have hquantity := quantity_pos hvwap
  have hfull : ¬quantity < quantity := fun hlt =>
    Floating.not_le_of_lt hlt (Floating.le_of_lt hlt)
  rw [computeVwap, if_neg hquantity, walk_coversAlone hbook hfinite hquantity h] at hvwap
  dsimp only at hvwap
  rw [if_neg hfull, pyDiv_of_not_beq (not_beq_of_not_le hquantity)] at hvwap
  exact (Except.ok.inj hvwap).symm

end
end BimodalArbitrage.Marketdata
