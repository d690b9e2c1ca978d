import BimodalArbitrage.Ladder.Cost
import Mathlib.Data.List.Forall2

/-!
# Filling from a ladder

What each rung contributes has a closed form in the sizes in front of it. On an
ascending ladder no other way to take the same quantity from the rungs is cheaper.
-/

namespace Ladder
variable {K : Type} [CommRing K] [LinearOrder K]

/-- What rung `i` contributes: as much as the rungs in front of it leave open. -/
def share (rungs : List (Rung K)) (quantity : K) (i : ℕ) (r : Rung K) : K :=
  max 0 (min r.size (quantity - total (rungs.take i)))

/-- What `fills` cost, one from each rung. -/
def spent (fills : List K) (rungs : List (Rung K)) : K :=
  (List.zipWith (fun fill r => r.price * fill) fills rungs).sum

/-- One fill for each rung, and no more than it offers. -/
def Fills (fills : List K) (rungs : List (Rung K)) : Prop :=
  List.Forall₂ (fun fill r => 0 ≤ fill ∧ fill ≤ r.size) fills rungs

section
variable [IsStrictOrderedRing K] {r : Rung K} {rungs : List (Rung K)}
  {fills : List K} {price quantity : K}

omit [IsStrictOrderedRing K] in
theorem share_zero (hsize : 0 ≤ r.size) (hquantity : 0 ≤ quantity) :
    share rungs quantity 0 r = min r.size quantity := by
  rw [share, List.take_zero, total_nil, sub_zero, max_eq_right (le_min hsize hquantity)]

theorem share_nothing (hsize : ∀ r ∈ rungs, 0 ≤ r.size) (hquantity : quantity ≤ 0) (i : ℕ)
    (r : Rung K) : share rungs quantity i r = 0 := by
  have hfront : 0 ≤ total (rungs.take i) :=
    total_nonneg fun q hq => hsize q (List.mem_of_mem_take hq)
  have hopen : min r.size (quantity - total (rungs.take i)) ≤ 0 :=
    (min_le_right ..).trans (sub_nonpos.mpr (hquantity.trans hfront))
  rw [share, max_eq_left hopen]

theorem share_succ (hsize : ∀ q ∈ r :: rungs, 0 ≤ q.size) (i : ℕ) :
    share (r :: rungs) quantity (i + 1) = share rungs (quantity - min r.size quantity) i := by
  funext s
  have hrest : ∀ q ∈ rungs, 0 ≤ q.size := fun q hq => hsize q (List.mem_cons_of_mem _ hq)
  rcases le_total r.size quantity with hfirst | hfirst
  · rw [share, share, List.take_succ_cons, total_cons, min_eq_left hfirst, sub_add_eq_sub_sub]
  · -- the first rung covers all of it
    have hfront : 0 ≤ total (rungs.take i) :=
      total_nonneg fun q hq => hrest q (List.mem_of_mem_take hq)
    have hopen : quantity - (r.size + total (rungs.take i)) ≤ 0 := by linarith
    rw [min_eq_right hfirst, sub_self, share_nothing hrest le_rfl, share, List.take_succ_cons,
      total_cons, max_eq_left ((min_le_right ..).trans hopen)]

theorem sum_shares (hsize : ∀ r ∈ rungs, 0 ≤ r.size) (hquantity : 0 ≤ quantity)
    (htotal : quantity ≤ total rungs) : (rungs.mapIdx (share rungs quantity)).sum = quantity := by
  induction rungs generalizing quantity with
  | nil => exact le_antisymm hquantity htotal
  | cons r rs ih =>
    have hrest : ∀ q ∈ rs, 0 ≤ q.size := fun q hq => hsize q (List.mem_cons_of_mem _ hq)
    rw [total_cons] at htotal
    have htail := ih hrest (rest_nonneg r.size quantity) (rest_le (total_nonneg hrest) htotal)
    simp only [List.mapIdx_cons, List.sum_cons, share_succ hsize]
    rw [share_zero (hsize r (List.mem_cons_self ..)) hquantity, htail]
    ring

theorem cost_eq_sum_shares (hsize : ∀ r ∈ rungs, 0 ≤ r.size) (hquantity : 0 ≤ quantity) :
    cost rungs quantity =
      (rungs.mapIdx fun i r => r.price * share rungs quantity i r).sum := by
  induction rungs generalizing quantity with
  | nil => rfl
  | cons r rs ih =>
    have hrest : ∀ q ∈ rs, 0 ≤ q.size := fun q hq => hsize q (List.mem_cons_of_mem _ hq)
    have htail := ih hrest (rest_nonneg r.size quantity)
    simp only [List.mapIdx_cons, List.sum_cons, share_succ hsize]
    rw [share_zero (hsize r (List.mem_cons_self ..)) hquantity, ← htail, cost]

/-! ### Any other fill -/

omit [IsStrictOrderedRing K] in
theorem Fills.size_nonneg (h : Fills fills rungs) : ∀ r ∈ rungs, 0 ≤ r.size := by
  induction h with
  | nil => simp
  | cons hfill _ ih =>
    intro r hr
    rcases List.mem_cons.mp hr with rfl | hr
    · exact hfill.1.trans hfill.2
    · exact ih r hr

theorem Fills.sum_nonneg (h : Fills fills rungs) : 0 ≤ fills.sum := by
  induction h with
  | nil => exact le_rfl
  | cons hfill _ ih =>
    rw [List.sum_cons]
    exact add_nonneg hfill.1 ih

theorem Fills.sum_le (h : Fills fills rungs) : fills.sum ≤ total rungs := by
  induction h with
  | nil => exact le_rfl
  | cons hfill _ ih =>
    rw [List.sum_cons, total_cons]
    exact add_le_add hfill.2 ih

/-- Best first is cheapest: what another fill leaves on the first rung it must take
from dearer ones. -/
theorem cost_le_spent (h : Ascending rungs) (hfills : Fills fills rungs) :
    cost rungs fills.sum ≤ spent fills rungs := by
  induction hfills with
  | nil => exact le_rfl
  | @cons fill r fills rs hfill hrest ih =>
    have hrest : Fills fills rs := hrest
    have htail := ih h.tail
    have htake : fill ≤ min r.size (fill + fills.sum) :=
      le_min hfill.2 (le_add_of_nonneg_right hrest.sum_nonneg)
    have hopen : fill + fills.sum - min r.size (fill + fills.sum) ≤ fills.sum := by linarith
    have hprices : ∀ q ∈ rs, q.price < r.price → q.size = 0 := fun q hq hlt =>
      absurd hlt (not_lt.mpr (h.head_le q hq))
    have hgain := cost_gain h.tail.size_nonneg hprices (rest_nonneg r.size (fill + fills.sum))
      hopen hrest.sum_le
    calc cost (r :: rs) (fill + fills.sum)
        = r.price * min r.size (fill + fills.sum) +
            cost rs (fill + fills.sum - min r.size (fill + fills.sum)) := rfl
      _ ≤ r.price * fill + cost rs fills.sum := by linarith
      _ ≤ r.price * fill + spent fills rs := by linarith
      _ = spent (fill :: fills) (r :: rs) := by simp [spent]

/-! ### The other side -/

omit [LinearOrder K] [IsStrictOrderedRing K] in
theorem spent_mirror (fills : List K) (rungs : List (Rung K)) :
    spent fills (mirror rungs) = -spent fills rungs := by
  induction fills generalizing rungs with
  | nil => simp [spent]
  | cons fill fills ih =>
    cases rungs with
    | nil => simp [spent, mirror]
    | cons r rs =>
      have htail : spent fills (rs.map fun r => ⟨-r.price, r.size⟩) = -spent fills rs := ih rs
      simp only [spent, mirror, List.map_cons, List.zipWith_cons_cons, List.sum_cons] at htail ⊢
      rw [htail]
      ring

theorem cost_le_mul (hsize : ∀ r ∈ rungs, 0 ≤ r.size) (hprice : ∀ r ∈ rungs, r.price ≤ price)
    (hquantity : 0 ≤ quantity) (htotal : quantity ≤ total rungs) :
    cost rungs quantity ≤ price * quantity := by
  have hsize' : ∀ r ∈ mirror rungs, 0 ≤ r.size := by
    intro r hr
    obtain ⟨s, hs, rfl⟩ := List.mem_map.mp hr
    exact hsize s hs
  have hprice' : ∀ r ∈ mirror rungs, r.price < -price → r.size = 0 := by
    intro r hr hlt
    obtain ⟨s, hs, rfl⟩ := List.mem_map.mp hr
    exact absurd (neg_lt_neg_iff.mp hlt) (not_lt.mpr (hprice s hs))
  have hge := mul_le_cost hsize' hprice' hquantity (htotal.trans (total_mirror rungs).ge)
  rw [cost_mirror, neg_mul] at hge
  exact neg_le_neg_iff.mp hge

end
end Ladder
