import BimodalArbitrage.Marketdata.PairCap

/-!
# The limit prices of a pair trade

The depth of both books is checked for the whole quantity, and both legs are then
dispatched at the VWAP of the walk. An average price is a limit that covers the
quantity only where all of it rests at one price.
-/

namespace BimodalArbitrage.Marketdata
open Coop Execution Ml Rounding BimodalArbitrage.Runtime

/-- The volume at the prices that are `within` one. -/
def volumeWithin {N : Type} [PyFloat N] (within : N → N → Prop) [DecidableRel within] (price : N)
    (levels : List (OrderBookLevel N)) : ℚ :=
  ((levels.filter fun level => within level.price price).map fun level =>
    PyFloat.value level.volume).sum

/-- Both orders can be filled in full by the books they were priced on. -/
structure Marketable {N : Type} [PyFloat N] (asks bids : List (OrderBookLevel N))
    (o : PairedOrders N) : Prop where
  amount : PyFloat.isFinite o.amount = true
  buy : PyFloat.value o.amount ≤ volumeWithin (· ≤ ·) o.buyPrice asks
  sell : PyFloat.value o.amount ≤ volumeWithin (· ≥ ·) o.sellPrice bids

/-- One price covers the quantity, and nothing rests at a better one. -/
def RestsAtOnePrice (better : ℚ → ℚ → Prop) (quantity : ℚ) (levels : List OrderBookLevel) : Prop :=
  ∃ price, (∀ level ∈ levels, better level.price price → level.volume = 0) ∧
    quantity ≤ ((levels.filter fun level => level.price = price).map OrderBookLevel.volume).sum

/-- One level covers the quantity, and its price is within what rounding makes of it; or the
average is not rounded and one price covers the quantity. -/
def PricedWithin (within : Binary64 → Binary64 → Prop) (better : ℚ → ℚ → Prop)
    (quantity : Binary64) (levels : List (OrderBookLevel Binary64)) : Prop :=
  (∃ level, CoversAlone level quantity levels ∧
    within level.price (level.price * quantity / quantity)) ∨
  (AveragesExactly quantity levels ∧
    RestsAtOnePrice better quantity.value (exactLevels levels))

/-! ### Exact averages -/

section
variable {levels : List OrderBookLevel} {quantity vwap : ℚ}

theorem within_ladder (price : ℚ) (asks : List OrderBookLevel) :
    Ladder.within price (ladder asks) = volumeWithin (· ≤ ·) price asks := by
  have htotal : volumeWithin (· ≤ ·) price asks =
      ((asks.filter fun level => level.price ≤ price).map OrderBookLevel.volume).sum := rfl
  rw [htotal, ← total_ladder, Ladder.within, ladder, List.filter_map]
  rfl

theorem within_mirror (price : ℚ) (bids : List OrderBookLevel) :
    Ladder.within (-price) (Ladder.mirror (ladder bids)) = volumeWithin (· ≥ ·) price bids := by
  have hfilter : (bids.filter fun level => -level.price ≤ -price) =
      bids.filter fun level => level.price ≥ price := by
    simp only [neg_le_neg_iff, ge_iff_le]
  have htotal : volumeWithin (· ≥ ·) price bids =
      ((bids.filter fun level => level.price ≥ price).map OrderBookLevel.volume).sum := rfl
  rw [htotal, ← hfilter, ← total_ladder, ← Ladder.total_mirror, Ladder.within,
    Ladder.mirror, ladder, List.map_map, List.filter_map, Ladder.mirror, ladder, List.map_map]
  rfl

theorem onePrice_ladder (price : ℚ) :
    Ladder.OnePrice price quantity (ladder levels) ↔
      (∀ level ∈ levels, level.price < price → level.volume = 0) ∧
        quantity ≤ ((levels.filter fun level => level.price = price).map
          OrderBookLevel.volume).sum := by
  have hat : Ladder.atPrice price (ladder levels) =
      ((levels.filter fun level => level.price = price).map OrderBookLevel.volume).sum := by
    rw [← total_ladder, Ladder.atPrice, ladder, List.filter_map]
    rfl
  constructor
  · intro h
    exact ⟨fun level hlevel => h.below _ (List.mem_map_of_mem hlevel), hat ▸ h.covers⟩
  · rintro ⟨hbelow, hcovers⟩
    refine ⟨fun r hr hlt => ?_, hat ▸ hcovers⟩
    obtain ⟨level, hlevel, rfl⟩ := List.mem_map.mp hr
    exact hbelow level hlevel hlt

theorem onePrice_mirror (price : ℚ) :
    Ladder.OnePrice (-price) quantity (Ladder.mirror (ladder levels)) ↔
      (∀ level ∈ levels, level.price > price → level.volume = 0) ∧
        quantity ≤ ((levels.filter fun level => level.price = price).map
          OrderBookLevel.volume).sum := by
  rw [← ladder_mirrored, mirrored, onePrice_ladder, List.forall_mem_map, List.filter_map,
    List.map_map]
  simp only [neg_lt_neg_iff, gt_iff_lt, Function.comp_def, neg_inj]

theorem asks_marketable_iff (hbook : BestFirst (· ≤ ·) levels)
    (h : computeVwap levels quantity = .ok vwap) :
    quantity ≤ volumeWithin (· ≤ ·) vwap levels ↔ RestsAtOnePrice (· < ·) quantity levels := by
  obtain ⟨hpos, htotal, hcost⟩ := (computeVwap_iff hbook.volume_nonneg).mp h
  rw [← within_ladder, Ladder.average_covers_iff hbook.ascending hpos htotal hcost]
  exact exists_congr fun price => onePrice_ladder price

theorem bids_marketable_iff (hbook : BestFirst (· ≥ ·) levels)
    (h : computeVwap levels quantity = .ok vwap) :
    quantity ≤ volumeWithin (· ≥ ·) vwap levels ↔ RestsAtOnePrice (· > ·) quantity levels := by
  obtain ⟨hpos, htotal, hcost⟩ := (computeVwap_iff hbook.volume_nonneg).mp h
  have hcost' : Ladder.cost (Ladder.mirror (ladder levels)) quantity = -vwap * quantity := by
    rw [Ladder.cost_mirror, hcost, neg_mul]
  rw [← Ladder.total_mirror] at htotal
  rw [← within_mirror, Ladder.average_covers_iff hbook.descending hpos htotal hcost']
  constructor
  · rintro ⟨price, hone⟩
    exact ⟨-price, (onePrice_mirror (-price)).mp (by rwa [neg_neg])⟩
  · rintro ⟨price, hone⟩
    exact ⟨-price, (onePrice_mirror price).mpr hone⟩

end

/-! ### Rounded averages -/

section
variable {level : OrderBookLevel Binary64} {levels : List (OrderBookLevel Binary64)}
  {quantity price vwap : Binary64} {within : Binary64 → Binary64 → Prop} [DecidableRel within]

/-- Whatever is within a price that the covering level is not within comes before that level,
where nothing rests. -/
theorem CoversAlone.within_iff (h : CoversAlone level quantity levels)
    (htrans : ∀ {x y z}, within x y → within y z → within x z)
    (hbook : BestFirst within levels) (hfinite : FiniteLevels levels) (hquantity : ¬quantity ≤ 0) :
    quantity.value ≤ volumeWithin within price levels ↔ within level.price price := by
  have hmem := List.mem_of_find?_eq_some h.first
  have hnonneg := hbook.volume_value_nonneg hfinite
  have hsize := h.finite hfinite hquantity
  constructor
  · intro hle
    by_contra hout
    obtain ⟨-, before, after, rfl, hbefore⟩ := List.find?_eq_some_iff_append.mp h.first
    have hnothing : volumeWithin within price (before ++ level :: after) = 0 := by
      refine List.sum_eq_zero fun v hv => ?_
      obtain ⟨other, hother, rfl⟩ := List.mem_map.mp hv
      obtain ⟨hother, hin⟩ := List.mem_filter.mp hother
      have hin : within other.price price := of_decide_eq_true hin
      rcases List.mem_append.mp hother with hbetter | hother
      · have hempty := hbefore other hbetter
        simp only [Bool.not_eq_true', decide_eq_false_iff_not] at hempty
        rw [eq_zero_of_not_pos (hbook.volume_nonneg other (List.mem_append_left _ hbetter)) hempty]
        exact zero_value
      · rcases List.mem_cons.mp hother with rfl | hworse
        · exact absurd hin hout
        · have hsorted := (List.pairwise_append.mp hbook.sorted).2.1
          exact absurd (htrans ((List.pairwise_cons.mp hsorted).1 other hworse) hin) hout
    rw [hnothing, ← zero_value, Floating.value_le_value hsize zero_finite] at hle
    exact hquantity hle
  · intro hin
    have hcovers := (Floating.value_le_value hsize (hfinite level hmem).2).mpr h.covers
    refine hcovers.trans (List.single_le_sum ?_ _ ?_)
    · intro v hv
      obtain ⟨other, hother, rfl⟩ := List.mem_map.mp hv
      exact hnonneg other (List.mem_filter.mp hother).1
    · exact List.mem_map_of_mem (List.mem_filter.mpr ⟨hmem, decide_eq_true hin⟩)

theorem volumeWithin_exact {within' : ℚ → ℚ → Prop} [DecidableRel within']
    (hwithin : ∀ {x y : Binary64}, x.IsFinite → y.IsFinite →
      (within x y ↔ within' x.value y.value))
    (hfinite : FiniteLevels levels) (hprice : price.IsFinite) :
    volumeWithin within price levels = volumeWithin within' price.value (exactLevels levels) := by
  have hfilter : (levels.filter fun level => within level.price price) =
      levels.filter fun level => within' level.price.value price.value :=
    List.filter_congr fun level hlevel =>
      decide_eq_decide.mpr (hwithin (hfinite level hlevel).1 hprice)
  rw [volumeWithin, hfilter, volumeWithin, exactLevels, List.filter_map, List.map_map]
  rfl

variable (within) in
/-- One side of a book, where one level covers the order or nothing is rounded. -/
theorem side_iff (within' better : ℚ → ℚ → Prop) [DecidableRel within']
    (htrans : ∀ {x y z}, within x y → within y z → within x z)
    (hwithin : ∀ {x y : Binary64}, x.IsFinite → y.IsFinite →
      (within x y ↔ within' x.value y.value))
    (hexact : ∀ {v}, computeVwap (exactLevels levels) quantity.value = .ok v →
      (quantity.value ≤ volumeWithin within' v (exactLevels levels) ↔
        RestsAtOnePrice better quantity.value (exactLevels levels)))
    (hbook : BestFirst within levels) (hfinite : FiniteLevels levels)
    (hvwap : computeVwap levels quantity = .ok vwap) :
    (PricedWithin within better quantity levels →
      quantity.IsFinite ∧ quantity.value ≤ volumeWithin within vwap levels) ∧
    ((∃ level, CoversAlone level quantity levels) ∨ AveragesExactly quantity levels →
      quantity.value ≤ volumeWithin within vwap levels →
        PricedWithin within better quantity levels) := by
  have hquantity := quantity_pos hvwap
  have hcovered : ∀ level, CoversAlone level quantity levels →
      (quantity.value ≤ volumeWithin within vwap levels ↔
        within level.price (level.price * quantity / quantity)) := by
    intro level hcovers
    rw [← hcovers.vwap_eq hbook hfinite hvwap]
    exact hcovers.within_iff htrans hbook hfinite hquantity
  have hunrounded : AveragesExactly quantity levels →
      (quantity.value ≤ volumeWithin within vwap levels ↔
        RestsAtOnePrice better quantity.value (exactLevels levels)) := by
    intro haverage
    obtain ⟨hvwapFinite, hvwapExact⟩ := haverage.vwap vwap hvwap
    rw [volumeWithin_exact hwithin hfinite hvwapFinite]
    exact hexact hvwapExact
  constructor
  · rintro (⟨level, hcovers, hin⟩ | ⟨haverage, hprice⟩)
    · exact ⟨hcovers.finite hfinite hquantity, (hcovered level hcovers).mpr hin⟩
    · exact ⟨haverage.finite, (hunrounded haverage).mpr hprice⟩
  · rintro (⟨level, hcovers⟩ | haverage) hle
    · exact .inl ⟨level, hcovers, (hcovered level hcovers).mp hle⟩
    · exact .inr ⟨haverage, (hunrounded haverage).mp hle⟩

end

/-- The dispatched orders are marketable where each is priced within what covers it. Where one
level covers an order or its average is not rounded, they are only then. -/
theorem limitPrices_marketable_iff (m : PairMonitor Binary64) (q : PairQuote Binary64)
    {asks bids : List (OrderBookLevel Binary64)} (hasks : BestFirst (· ≤ ·) asks)
    (hbids : BestFirst (· ≥ ·) bids) (hasksFinite : FiniteLevels asks)
    (hbidsFinite : FiniteLevels bids) (hask : computeVwap asks q.quantity = .ok q.vwapAskA)
    (hbid : computeVwap bids q.quantity = .ok q.vwapBidB) (signal : ArbitrageSignal Binary64)
    (grossSpreadPct : Binary64) :
    (PricedWithin (· ≤ ·) (· < ·) q.quantity asks ∧ PricedWithin (· ≥ ·) (· > ·) q.quantity bids →
      Marketable asks bids (m.orders q signal grossSpreadPct)) ∧
    (((∃ level, CoversAlone level q.quantity asks) ∨ AveragesExactly q.quantity asks) ∧
        ((∃ level, CoversAlone level q.quantity bids) ∨ AveragesExactly q.quantity bids) →
      Marketable asks bids (m.orders q signal grossSpreadPct) →
        PricedWithin (· ≤ ·) (· < ·) q.quantity asks ∧
          PricedWithin (· ≥ ·) (· > ·) q.quantity bids) := by
  obtain ⟨hbuyEnough, hbuyOnly⟩ := side_iff (· ≤ ·) (· ≤ ·) (· < ·)
    Floating.le_trans (fun hx hy => (Floating.value_le_value hx hy).symm)
    (asks_marketable_iff (hasks.exact_asks hasksFinite)) hasks hasksFinite hask
  obtain ⟨hsellEnough, hsellOnly⟩ := side_iff (· ≥ ·) (· ≥ ·) (· > ·)
    (fun hxy hyz => Floating.le_trans hyz hxy)
    (fun hx hy => (Floating.value_le_value hy hx).symm)
    (bids_marketable_iff (hbids.exact_bids hbidsFinite)) hbids hbidsFinite hbid
  constructor
  · rintro ⟨hbuy, hsell⟩
    exact ⟨decide_eq_true (hbuyEnough hbuy).1, (hbuyEnough hbuy).2, (hsellEnough hsell).2⟩
  · rintro ⟨hbuySettled, hsellSettled⟩ h
    exact ⟨hbuyOnly hbuySettled h.buy, hsellOnly hsellSettled h.sell⟩

theorem limitPrices_marketable_oneLevel :
    Marketable [⟨10, 8⟩] sampleSell.bids
      ((samplePair (N := Binary64)).orders ⟨5, 10, 30, 1.9995⟩ ⟨1, 19995, 0⟩ 2) := by
  refine (limitPrices_marketable_iff samplePair ⟨5, 10, 30, 1.9995⟩
    ⟨by decide +kernel, by decide +kernel, by decide +kernel⟩
    ⟨by decide +kernel, by decide +kernel, by decide +kernel⟩ ?_ ?_ (by decide +kernel)
    (by decide +kernel) _ _).1 ⟨.inl ⟨⟨10, 8⟩, ⟨by decide +kernel, by decide +kernel⟩, ?_⟩,
      .inl ⟨⟨30, 100⟩, ⟨by decide +kernel, by decide +kernel⟩, ?_⟩⟩
  · unfold FiniteLevels
    decide +kernel
  · unfold FiniteLevels
    decide +kernel
  · decide +kernel
  · decide +kernel

/-- The buy order for 5 units goes out at 12, where 4 units rest at 10 and the next
one at 20. -/
theorem limitPrices_marketable_twoLevels :
    BestFirst (· ≤ ·) (sampleBuy (N := Binary64) [⟨10, 4⟩, ⟨20, 4⟩]).asks ∧
      BestFirst (· ≥ ·) (sampleSell (N := Binary64)).bids ∧
      ∃ orders ∈ dispatchedPairs (sampleTrace (N := Binary64) [⟨10, 4⟩, ⟨20, 4⟩]),
        computeVwap (sampleBuy [⟨10, 4⟩, ⟨20, 4⟩]).asks orders.amount = .ok orders.buyPrice ∧
        computeVwap sampleSell.bids orders.amount = .ok orders.sellPrice ∧
        ¬Marketable (sampleBuy [⟨10, 4⟩, ⟨20, 4⟩]).asks sampleSell.bids orders := by
  have hdispatched : (dispatchedPairs (sampleTrace (N := Binary64) [⟨10, 4⟩, ⟨20, 4⟩])).map
      (fun o => (o.amount, o.buyPrice, o.sellPrice)) = [(5, 12, 30)] := by decide +kernel
  refine ⟨⟨by decide +kernel, by decide +kernel, by decide +kernel⟩,
    ⟨by decide +kernel, by decide +kernel, by decide +kernel⟩, ?_⟩
  obtain ⟨orders, hmem, heq⟩ := List.mem_map.mp (hdispatched ▸ List.mem_singleton_self _)
  obtain ⟨hamount, hprices⟩ := Prod.mk.inj heq
  obtain ⟨hbuy, hsell⟩ := Prod.mk.inj hprices
  refine ⟨orders, hmem, ?_, ?_, fun h => ?_⟩
  · rw [hamount, hbuy]
    decide +kernel
  · rw [hamount, hsell]
    decide +kernel
  · have hshort := h.buy
    rw [hamount, hbuy] at hshort
    exact absurd hshort (by decide +kernel)

end BimodalArbitrage.Marketdata
