import Mathlib.Algebra.Order.BigOperators.Group.List
import Mathlib.Algebra.Order.Ring.Defs
import Mathlib.Tactic.Linarith
import Mathlib.Tactic.Ring

/-!
# Buying from a price ladder

A ladder offers its rungs one after the other, each with a size and a price for every
unit of it. On an ascending ladder the average price grows with the quantity, and it
covers the whole quantity only where all of it is bought at one price.
-/

namespace Ladder
variable {K : Type} [CommRing K] [LinearOrder K]

structure Rung (K : Type) where
  price : K
  size : K

/-- What `quantity` units cost, or as much of them as the ladder offers. -/
def cost : List (Rung K) → K → K
  | [], _ => 0
  | r :: rs, quantity =>
    r.price * min r.size quantity + cost rs (quantity - min r.size quantity)

def total (rungs : List (Rung K)) : K := (rungs.map Rung.size).sum

/-- What is offered at `price` or better. -/
def within (price : K) (rungs : List (Rung K)) : K :=
  total (rungs.filter fun r => r.price ≤ price)

def atPrice (price : K) (rungs : List (Rung K)) : K :=
  total (rungs.filter fun r => r.price = price)

structure Ascending (rungs : List (Rung K)) : Prop where
  sorted : rungs.Pairwise fun a b => a.price ≤ b.price
  size_nonneg : ∀ r ∈ rungs, 0 ≤ r.size

/-- Nothing is offered below `price`, and `quantity` is offered there. -/
structure OnePrice (price quantity : K) (rungs : List (Rung K)) : Prop where
  below : ∀ r ∈ rungs, r.price < price → r.size = 0
  covers : quantity ≤ atPrice price rungs

section
variable {r : Rung K} {rungs : List (Rung K)} {price quantity : K}

theorem Ascending.tail (h : Ascending (r :: rungs)) : Ascending rungs where
  sorted := (List.pairwise_cons.mp h.sorted).2
  size_nonneg q hq := h.size_nonneg q (List.mem_cons_of_mem _ hq)

theorem Ascending.head_nonneg (h : Ascending (r :: rungs)) : 0 ≤ r.size :=
  h.size_nonneg r (List.mem_cons_self ..)

theorem Ascending.head_le (h : Ascending (r :: rungs)) : ∀ q ∈ rungs, r.price ≤ q.price :=
  (List.pairwise_cons.mp h.sorted).1

omit [LinearOrder K] in
@[simp] theorem total_nil : total ([] : List (Rung K)) = 0 := rfl

omit [LinearOrder K] in
@[simp] theorem total_cons (r : Rung K) (rungs : List (Rung K)) :
    total (r :: rungs) = r.size + total rungs := List.sum_cons

theorem within_cons (price : K) (r : Rung K) (rungs : List (Rung K)) :
    within price (r :: rungs) =
      if r.price ≤ price then r.size + within price rungs else within price rungs := by
  by_cases h : r.price ≤ price <;> simp [within, h]

theorem atPrice_cons (price : K) (r : Rung K) (rungs : List (Rung K)) :
    atPrice price (r :: rungs) =
      if r.price = price then r.size + atPrice price rungs else atPrice price rungs := by
  by_cases h : r.price = price <;> simp [atPrice, h]

end

section
variable [IsStrictOrderedRing K] {r : Rung K} {rungs : List (Rung K)}
  {price quantity quantity' : K}

theorem total_nonneg (hsize : ∀ r ∈ rungs, 0 ≤ r.size) : 0 ≤ total rungs := by
  refine List.sum_nonneg fun size hmem => ?_
  obtain ⟨r, hr, rfl⟩ := List.mem_map.mp hmem
  exact hsize r hr

theorem rest_le {size bound : K} (hbound : 0 ≤ bound) (hquantity : quantity ≤ size + bound) :
    quantity - min size quantity ≤ bound := by
  rcases le_total size quantity with h | h
  · rw [min_eq_left h]
    linarith
  · rw [min_eq_right h, sub_self]
    exact hbound

theorem rest_nonneg (size quantity : K) : 0 ≤ quantity - min size quantity :=
  sub_nonneg.mpr (min_le_right ..)

theorem cost_gain (hsize : ∀ r ∈ rungs, 0 ≤ r.size)
    (hprice : ∀ r ∈ rungs, r.price < price → r.size = 0) (hquantity : 0 ≤ quantity)
    (hle : quantity ≤ quantity') (htotal : quantity' ≤ total rungs) :
    price * (quantity' - quantity) ≤ cost rungs quantity' - cost rungs quantity := by
  induction rungs generalizing quantity quantity' with
  | nil =>
    have hzero : quantity' = quantity := le_antisymm (htotal.trans hquantity) hle
    simp [cost, hzero]
  | cons r rs ih =>
    rw [total_cons] at htotal
    have hrest : ∀ r ∈ rs, 0 ≤ r.size := fun q hq => hsize q (List.mem_cons_of_mem _ hq)
    have htake : min r.size quantity ≤ min r.size quantity' := min_le_min_left _ hle
    have hopen : quantity - min r.size quantity ≤ quantity' - min r.size quantity' := by
      rcases le_total r.size quantity with h | h
      · rw [min_eq_left h, min_eq_left (h.trans hle)]
        linarith
      · rw [min_eq_right h, sub_self]
        exact rest_nonneg ..
    have htail := ih hrest (fun q hq => hprice q (List.mem_cons_of_mem _ hq))
      (rest_nonneg r.size quantity) hopen (rest_le (total_nonneg hrest) htotal)
    have hhead : price * (min r.size quantity' - min r.size quantity) ≤
        r.price * (min r.size quantity' - min r.size quantity) := by
      rcases lt_or_ge r.price price with h | h
      · -- an empty rung takes nothing of either quantity
        have hempty := hprice r (List.mem_cons_self ..) h
        rw [hempty, min_eq_left hquantity, min_eq_left (hquantity.trans hle), sub_self, mul_zero,
          mul_zero]
      · exact mul_le_mul_of_nonneg_right h (sub_nonneg.mpr htake)
    simp only [cost]
    linarith

omit [IsStrictOrderedRing K] in
theorem cost_zero (hsize : ∀ r ∈ rungs, 0 ≤ r.size) : cost rungs 0 = 0 := by
  induction rungs with
  | nil => rfl
  | cons r rs ih =>
    have hempty : min r.size 0 = 0 := min_eq_right (hsize r (List.mem_cons_self ..))
    simp only [cost, hempty, mul_zero, sub_zero, zero_add]
    exact ih fun q hq => hsize q (List.mem_cons_of_mem _ hq)

theorem mul_le_cost (hsize : ∀ r ∈ rungs, 0 ≤ r.size)
    (hprice : ∀ r ∈ rungs, r.price < price → r.size = 0) (hquantity : 0 ≤ quantity)
    (htotal : quantity ≤ total rungs) : price * quantity ≤ cost rungs quantity := by
  have hgain := cost_gain hsize hprice le_rfl hquantity htotal
  rwa [cost_zero hsize, sub_zero, sub_zero] at hgain

theorem cost_pos (hsize : ∀ r ∈ rungs, 0 ≤ r.size) (hprice : ∀ r ∈ rungs, 0 < r.price)
    (hquantity : 0 < quantity) (htotal : quantity ≤ total rungs) : 0 < cost rungs quantity := by
  induction rungs with
  | nil => exact absurd htotal (not_le.mpr hquantity)
  | cons r rs ih =>
    rw [total_cons] at htotal
    have hsizes : ∀ q ∈ rs, 0 ≤ q.size := fun q hq => hsize q (List.mem_cons_of_mem _ hq)
    have hprices : ∀ q ∈ rs, 0 < q.price := fun q hq => hprice q (List.mem_cons_of_mem _ hq)
    simp only [cost]
    rcases (hsize r (List.mem_cons_self ..)).lt_or_eq with hoffered | hempty
    · have hhead := mul_pos (hprice r (List.mem_cons_self ..)) (lt_min hoffered hquantity)
      have htail := mul_le_cost hsizes
        (fun q hq hlt => absurd hlt (hprices q hq).not_gt) (rest_nonneg r.size quantity)
        (rest_le (total_nonneg hsizes) htotal)
      linarith
    · have hskip : min r.size quantity = 0 := by
        rw [← hempty]
        exact min_eq_left hquantity.le
      rw [hskip, mul_zero, zero_add, sub_zero]
      rw [← hempty, zero_add] at htotal
      exact ih hsizes hprices htotal

theorem cost_average (h : Ascending rungs) (hquantity : 0 ≤ quantity)
    (hle : quantity ≤ quantity') (htotal : quantity' ≤ total rungs) :
    cost rungs quantity * quantity' ≤ cost rungs quantity' * quantity := by
  induction rungs generalizing quantity quantity' with
  | nil => simp [cost]
  | cons r rs ih =>
    rcases le_total quantity r.size with hfirst | hfirst
    · -- the smaller quantity is bought at the best price
      have hbest : cost (r :: rs) quantity = r.price * quantity := by
        simp only [cost, min_eq_right hfirst, sub_self, cost_zero h.tail.size_nonneg, add_zero]
      have hprices : ∀ q ∈ r :: rs, q.price < r.price → q.size = 0 := by
        intro q hq hlt
        rcases List.mem_cons.mp hq with rfl | hq
        · exact absurd hlt (lt_irrefl _)
        · exact absurd hlt (not_lt.mpr (h.head_le q hq))
      have hmore := mul_le_cost h.size_nonneg hprices (hquantity.trans hle) htotal
      calc cost (r :: rs) quantity * quantity' = r.price * quantity' * quantity := by
            rw [hbest]
            ring
        _ ≤ cost (r :: rs) quantity' * quantity := mul_le_mul_of_nonneg_right hmore hquantity
    · -- both take the first rung, and what they take behind it is dearer
      have hfirst' : r.size ≤ quantity' := hfirst.trans hle
      rw [total_cons] at htotal
      have hprices : ∀ q ∈ rs, q.price < r.price → q.size = 0 := fun q hq hlt =>
        absurd hlt (not_lt.mpr (h.head_le q hq))
      have hgain := cost_gain h.tail.size_nonneg hprices (sub_nonneg.mpr hfirst)
        (sub_le_sub_right hle r.size) (by linarith : quantity' - r.size ≤ total rs)
      have htail := ih h.tail (sub_nonneg.mpr hfirst) (sub_le_sub_right hle r.size)
        (by linarith : quantity' - r.size ≤ total rs)
      have hscaled := mul_le_mul_of_nonneg_left hgain h.head_nonneg
      simp only [cost, min_eq_left hfirst, min_eq_left hfirst']
      linarith

/-! ### What the average price covers -/

theorem within_nonneg (hsize : ∀ r ∈ rungs, 0 ≤ r.size) (price : K) : 0 ≤ within price rungs :=
  total_nonneg fun r hr => hsize r (List.mem_of_mem_filter hr)

omit [IsStrictOrderedRing K] in
theorem within_above (hprice : ∀ r ∈ rungs, price < r.price) : within price rungs = 0 := by
  have hnone : (rungs.filter fun r => r.price ≤ price) = [] :=
    List.filter_eq_nil_iff.mpr fun r hr => by simpa using hprice r hr
  rw [within, hnone, total_nil]

theorem cost_le_within (h : Ascending rungs) (hquantity : 0 ≤ quantity)
    (hwithin : quantity ≤ within price rungs) : cost rungs quantity ≤ price * quantity := by
  induction rungs generalizing quantity with
  | nil =>
    have hzero : quantity = 0 := le_antisymm hwithin hquantity
    simp [cost, hzero]
  | cons r rs ih =>
    rw [within_cons] at hwithin
    split at hwithin
    · next hprice =>
      have htail := ih h.tail (rest_nonneg r.size quantity)
        (rest_le (within_nonneg h.tail.size_nonneg price) hwithin)
      have hhead := mul_le_mul_of_nonneg_right hprice (le_min h.head_nonneg hquantity)
      simp only [cost]
      linarith
    · next hprice =>
      have hnone := within_above fun q hq => (not_le.mp hprice).trans_le (h.head_le q hq)
      have hzero : quantity = 0 := le_antisymm (hwithin.trans hnone.le) hquantity
      rw [hzero, cost_zero h.size_nonneg, mul_zero]

theorem cost_lt_within (h : Ascending rungs) (hquantity : 0 < quantity)
    (hwithin : quantity ≤ within price rungs) {cheap : Rung K} (hmem : cheap ∈ rungs)
    (hcheap : cheap.price < price) (hsize : cheap.size ≠ 0) :
    cost rungs quantity < price * quantity := by
  induction rungs generalizing quantity with
  | nil => cases hmem
  | cons r rs ih =>
    have hhead : r.price ≤ cheap.price := by
      rcases List.mem_cons.mp hmem with rfl | hmem
      · exact le_rfl
      · exact h.head_le cheap hmem
    have hprice : r.price < price := hhead.trans_lt hcheap
    rw [within_cons, if_pos hprice.le] at hwithin
    have hrest := rest_le (within_nonneg h.tail.size_nonneg price) hwithin
    have htail := cost_le_within h.tail (rest_nonneg r.size quantity) hrest
    simp only [cost]
    rcases h.head_nonneg.lt_or_eq with hoffered | hempty
    · -- the first rung is cheap itself
      have htake := mul_lt_mul_of_pos_right hprice (lt_min hoffered hquantity)
      linarith
    · have hskip : min r.size quantity = 0 := by
        rw [← hempty]
        exact min_eq_left hquantity.le
      rw [hskip, sub_zero] at hrest
      rw [hskip, sub_zero, mul_zero, zero_add]
      rcases List.mem_cons.mp hmem with rfl | hmem
      · exact absurd hempty.symm hsize
      · exact ih h.tail hquantity hrest hmem

theorem atPrice_le_within (hsize : ∀ r ∈ rungs, 0 ≤ r.size) (price : K) :
    atPrice price rungs ≤ within price rungs := by
  induction rungs with
  | nil => rfl
  | cons r rs ih =>
    have htail := ih fun q hq => hsize q (List.mem_cons_of_mem _ hq)
    have hhead := hsize r (List.mem_cons_self ..)
    rw [within_cons, atPrice_cons]
    rcases lt_trichotomy r.price price with hlt | heq | hgt
    · rw [if_pos hlt.le, if_neg hlt.ne]
      linarith
    · rw [if_pos heq.le, if_pos heq]
      linarith
    · rw [if_neg hgt.not_ge, if_neg hgt.ne']
      exact htail

omit [IsStrictOrderedRing K] in
theorem within_eq_atPrice (hbelow : ∀ r ∈ rungs, r.price < price → r.size = 0) :
    within price rungs = atPrice price rungs := by
  induction rungs with
  | nil => rfl
  | cons r rs ih =>
    have htail := ih fun q hq => hbelow q (List.mem_cons_of_mem _ hq)
    rw [within_cons, atPrice_cons, htail]
    rcases lt_trichotomy r.price price with hlt | heq | hgt
    · rw [if_pos hlt.le, if_neg hlt.ne, hbelow r (List.mem_cons_self ..) hlt, zero_add]
    · rw [if_pos heq.le, if_pos heq]
    · rw [if_neg hgt.not_ge, if_neg hgt.ne']

theorem OnePrice.cost_eq (h : Ascending rungs) (hquantity : 0 ≤ quantity)
    (htotal : quantity ≤ total rungs) (hone : OnePrice price quantity rungs) :
    cost rungs quantity = price * quantity := by
  apply le_antisymm
  · exact cost_le_within h hquantity (hone.covers.trans (atPrice_le_within h.size_nonneg price))
  · exact mul_le_cost h.size_nonneg hone.below hquantity htotal

/-- The average price covers the quantity only where it is the price of every unit. -/
theorem average_covers_iff (h : Ascending rungs) {average : K} (hquantity : 0 < quantity)
    (htotal : quantity ≤ total rungs) (haverage : cost rungs quantity = average * quantity) :
    quantity ≤ within average rungs ↔ ∃ price, OnePrice price quantity rungs := by
  constructor
  · intro hwithin
    have hbelow : ∀ r ∈ rungs, r.price < average → r.size = 0 := by
      intro r hr hcheap
      by_contra hsize
      have hless := cost_lt_within h hquantity hwithin hr hcheap hsize
      exact absurd haverage hless.ne
    exact ⟨average, hbelow, hwithin.trans (within_eq_atPrice hbelow).le⟩
  · rintro ⟨price, hone⟩
    have hcost := hone.cost_eq h hquantity.le htotal
    have hsame : average = price :=
      mul_right_cancel₀ hquantity.ne' (haverage.symm.trans hcost)
    rw [hsame]
    exact hone.covers.trans (atPrice_le_within h.size_nonneg price)

/-! ### What costs nothing -/

/-! ### The other side -/

/-- What is sold into falling prices is bought at rising negative ones. -/
def mirror (rungs : List (Rung K)) : List (Rung K) := rungs.map fun r => ⟨-r.price, r.size⟩

omit [LinearOrder K] [IsStrictOrderedRing K] in
@[simp] theorem total_mirror (rungs : List (Rung K)) : total (mirror rungs) = total rungs := by
  induction rungs with
  | nil => rfl
  | cons r rs ih => rw [mirror, List.map_cons, total_cons, ← mirror, ih, total_cons]

omit [IsStrictOrderedRing K] in
@[simp] theorem cost_mirror (rungs : List (Rung K)) (quantity : K) :
    cost (mirror rungs) quantity = -cost rungs quantity := by
  induction rungs generalizing quantity with
  | nil => simp [mirror, cost]
  | cons r rs ih =>
    have htail : cost (rs.map fun r => ⟨-r.price, r.size⟩) (quantity - min r.size quantity) =
        -cost rs (quantity - min r.size quantity) := ih _
    simp only [mirror, List.map_cons, cost, htail]
    ring

end
end Ladder
