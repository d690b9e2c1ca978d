import BimodalArbitrage.Marketdata.DepthRows
import BimodalArbitrage.Ml.Signal

/-!
# What the hazard reads in the depth matrix

The builder and the reader lay the two sides of a book out apart. Read back, the bins near
the middle are the volume near the mid price of the book that came last.
-/

namespace BimodalArbitrage.Ml
open Histogram BimodalArbitrage.Marketdata

/-- The share of the liquidity that `quantity` takes; without any it takes all. -/
def consumed (liquidity quantity : ℚ) : ℚ :=
  if liquidity = 0 then 1 else min 1 (quantity / liquidity)

section
variable {liquidity liquidity' quantity quantity' : ℚ}

theorem consumed_le_one (liquidity quantity : ℚ) : consumed liquidity quantity ≤ 1 := by
  unfold consumed
  split
  · exact le_refl 1
  · exact min_le_left _ _

theorem consumed_nonneg (hliquidity : 0 ≤ liquidity) (hquantity : 0 ≤ quantity) :
    0 ≤ consumed liquidity quantity := by
  unfold consumed
  split
  · exact zero_le_one
  · exact le_min zero_le_one (div_nonneg hquantity hliquidity)

theorem consumed_mono (hliquidity : 0 ≤ liquidity) (h : quantity ≤ quantity') :
    consumed liquidity quantity ≤ consumed liquidity quantity' := by
  unfold consumed
  split
  · exact le_refl 1
  · exact min_le_min_left 1 (div_le_div_of_nonneg_right h hliquidity)

theorem consumed_anti (hliquidity : 0 ≤ liquidity) (h : liquidity ≤ liquidity')
    (hquantity : 0 ≤ quantity) : consumed liquidity' quantity ≤ consumed liquidity quantity := by
  by_cases hzero : liquidity = 0
  · have hall : consumed liquidity quantity = 1 := if_pos hzero
    rw [hall]
    exact consumed_le_one _ _
  · have hpos : 0 < liquidity := lt_of_le_of_ne hliquidity (Ne.symm hzero)
    have hpos' : 0 < liquidity' := hpos.trans_le h
    rw [consumed, consumed, if_neg hzero, if_neg hpos'.ne']
    exact min_le_min_left 1 (div_le_div_of_nonneg_left hquantity hpos h)

end

/-! ### The bins near the touch -/

/-- The volume of one side within the bins near the touch. -/
def touchVolume (c : CenteredBook) (binWidth : ℚ) : BookSide → ℚ
  | .ask => c.askVolume fun d => d < nearTouchBins * binWidth
  | .bid => c.bidVolume fun d => d < nearTouchBins * binWidth

def sideLevels (snapshot : OrderBookSnapshot) : BookSide → List OrderBookLevel
  | .ask => snapshot.asks
  | .bid => snapshot.bids

section
variable {pct : ℚ} {c : CenteredBook}

theorem ask_bins (hpct : 0 < pct) :
    (((c.depthRow pct).drop halfSize).take nearTouchBins).sum =
      touchVolume c (c.midPrice * pct) .ask := by
  have hslice := CenteredBook.ask_slice (c := c) hpct (Nat.zero_le nearTouchBins) (by decide)
  rwa [CenteredBook.askVolume_from_zero] at hslice

theorem bid_bins (hpct : 0 < pct) :
    (((c.depthRow pct).take halfSize).drop (halfSize - nearTouchBins)).sum =
      touchVolume c (c.midPrice * pct) .bid := by
  have hslice := CenteredBook.bid_slice (c := c) hpct (Nat.zero_le nearTouchBins) (by decide)
  rw [CenteredBook.bidVolume_from_zero] at hslice
  rw [List.drop_take]
  exact hslice

theorem touchVolume_nonneg {side : BookSide}
    (h : ∀ level ∈ sideLevels c.snapshot side, 0 ≤ level.volume) (binWidth : ℚ) :
    0 ≤ touchVolume c binWidth side := by
  cases side with
  | ask => exact total_nonneg h
  | bid => exact total_nonneg h

theorem hazard_eq (hpct : 0 < pct) {depth : DepthMatrix}
    (hrow : depth.grid.getLast? = some (c.depthRow pct)) {side : BookSide}
    (hvolume : ∀ level ∈ sideLevels c.snapshot side, 0 ≤ level.volume) {quantity : ℚ}
    (hquantity : 0 < quantity) :
    computeDepthLiquidityHazard depth quantity side =
      .ok (consumed (touchVolume c (c.midPrice * pct) side) quantity) := by
  have hhalf : (c.depthRow pct).length / 2 = halfSize := by
    rw [CenteredBook.length_depthRow, halfSize]
  have hnonneg := touchVolume_nonneg hvolume (c.midPrice * pct)
  have hshare (liquidity : ℚ) (h : liquidity = touchVolume c (c.midPrice * pct) side) :
      (if liquidity ≤ 0 then pure 1
        else do
          let share ← pyDiv quantity liquidity
          pure (min 1 share)) =
        (.ok (consumed (touchVolume c (c.midPrice * pct) side) quantity) : Except PyError ℚ) := by
    subst h
    by_cases hzero : touchVolume c (c.midPrice * pct) side = 0
    · rw [consumed, if_pos hzero.le, if_pos hzero]
      rfl
    · have hpos : ¬touchVolume c (c.midPrice * pct) side ≤ 0 :=
        not_le.mpr (lt_of_le_of_ne hnonneg (Ne.symm hzero))
      rw [consumed, if_neg hpos, if_neg hzero, pyDiv_of_ne hzero]
      rfl
  unfold computeDepthLiquidityHazard
  simp only [hrow, not_le.mpr hquantity, if_false, hhalf]
  cases side with
  | ask => exact hshare _ (ask_bins hpct)
  | bid => exact hshare _ (bid_bins hpct)

end

/-! ### Deeper books -/

/-- The same price with volume added. -/
def Deeper (level level' : OrderBookLevel) : Prop :=
  level.price = level'.price ∧ level.volume ≤ level'.volume

/-- The same snapshot with volume added to some of its levels. -/
def AddsVolume (snapshot snapshot' : OrderBookSnapshot) : Prop :=
  ∀ side, List.Forall₂ Deeper (sideLevels snapshot side) (sideLevels snapshot' side)

structure DeeperBook (t t' : TwoSidedBook) : Prop where
  adds : AddsVolume t.snapshot t'.snapshot
  mid : t.midPrice = t'.midPrice

section
variable {pct : ℚ} {snapshots snapshots' : List OrderBookSnapshot}
  {snapshot snapshot' : OrderBookSnapshot} {levels levels' : List OrderBookLevel}

theorem Deeper.mem (h : List.Forall₂ Deeper levels levels') {level' : OrderBookLevel}
    (hlevel : level' ∈ levels') : ∃ level ∈ levels, Deeper level level' := by
  induction h with
  | nil => cases hlevel
  | @cons x x' xs xs' hx _ ih =>
    rcases List.mem_cons.mp hlevel with rfl | hrest
    · exact ⟨x, List.mem_cons_self .., hx⟩
    · obtain ⟨level, hmem, hdeeper⟩ := ih hrest
      exact ⟨level, List.mem_cons_of_mem _ hmem, hdeeper⟩

theorem AddsVolume.book (h : AddsVolume snapshot snapshot') {t : TwoSidedBook}
    (ht : t.snapshot = snapshot) :
    ∃ t' : TwoSidedBook, t'.snapshot = snapshot' ∧ DeeperBook t t' := by
  subst ht
  obtain ⟨bids, hbids⟩ := t.bids_eq
  obtain ⟨asks, hasks⟩ := t.asks_eq
  have hbid := h .bid
  have hask := h .ask
  rw [sideLevels, hbids] at hbid
  rw [sideLevels, hasks] at hask
  obtain ⟨bid, bids', hbidPrice, -, hbids'⟩ := List.forall₂_cons_left_iff.mp hbid
  obtain ⟨ask, asks', haskPrice, -, hasks'⟩ := List.forall₂_cons_left_iff.mp hask
  simp only [sideLevels] at hbids' hasks'
  refine ⟨⟨snapshot', bid, ask, hbids' ▸ rfl, hasks' ▸ rfl⟩, rfl, h, ?_⟩
  simp only [TwoSidedBook.midPrice, hbidPrice.1, haskPrice.1]

theorem AddsVolume.oneSided (h : AddsVolume snapshot snapshot')
    (hnone : TwoSidedBook.ofSnapshot snapshot = none) :
    TwoSidedBook.ofSnapshot snapshot' = none := by
  cases hsome : TwoSidedBook.ofSnapshot snapshot' with
  | none => rfl
  | some t =>
    have ht := TwoSidedBook.ofSnapshot_eq_some.mp hsome
    subst ht
    obtain ⟨bids, hbids⟩ := t.bids_eq
    obtain ⟨asks, hasks⟩ := t.asks_eq
    have hbid := h .bid
    have hask := h .ask
    simp only [sideLevels] at hbid hask
    rcases TwoSidedBook.oneSided_of_none hnone with hnil | hnil
    · rw [hnil, hbids] at hbid
      cases hbid
    · rw [hnil, hasks] at hask
      cases hask

theorem ofSnapshot_rel (h : AddsVolume snapshot snapshot') :
    Option.Rel DeeperBook (TwoSidedBook.ofSnapshot snapshot)
      (TwoSidedBook.ofSnapshot snapshot') := by
  cases hbook : TwoSidedBook.ofSnapshot snapshot with
  | none =>
    rw [h.oneSided hbook]
    exact .none
  | some t =>
    obtain ⟨t', ht', hdeeper⟩ := h.book (TwoSidedBook.ofSnapshot_eq_some.mp hbook)
    rw [TwoSidedBook.ofSnapshot_eq_some.mpr ht']
    exact .some hdeeper

theorem priced_rel (h : List.Forall₂ AddsVolume snapshots snapshots') :
    List.Forall₂ DeeperBook (TwoSidedBook.priced snapshots) (TwoSidedBook.priced snapshots') := by
  have hbooks : List.Forall₂ DeeperBook (TwoSidedBook.books snapshots)
      (TwoSidedBook.books snapshots') :=
    List.rel_filterMap (fun _ _ hadds => ofSnapshot_rel hadds) h
  refine List.rel_filter (fun t t' hdeeper => ?_) hbooks
  simp only [decide_eq_true_iff, hdeeper.mid]

theorem getLast?_rel {α : Type} {R : α → α → Prop} {xs ys : List α} (h : List.Forall₂ R xs ys)
    {x : α} (hx : xs.getLast? = some x) : ∃ y, ys.getLast? = some y ∧ R x y := by
  have hreverse := List.forall₂_reverse_iff.mpr h
  rw [List.getLast?_eq_head?_reverse] at hx ⊢
  obtain ⟨rest, hrest⟩ := List.head?_eq_some_iff.mp hx
  rw [hrest] at hreverse
  obtain ⟨y, rest', hxy, -, hys⟩ := List.forall₂_cons_left_iff.mp hreverse
  exact ⟨y, hys ▸ rfl, hxy⟩

theorem DeeperBook.centered {c : CenteredBook} {t' : TwoSidedBook}
    (h : DeeperBook c.toTwoSidedBook t') : ∃ c' : CenteredBook, c'.toTwoSidedBook = t' := by
  refine ⟨⟨t', h.mid ▸ c.mid_pos, fun bid' hbid' => ?_, fun ask' hask' => ?_⟩, rfl⟩
  · obtain ⟨bid, hbid, hdeeper⟩ := Deeper.mem (h.adds .bid) hbid'
    rw [← h.mid, ← hdeeper.1]
    exact c.bids_le bid hbid
  · obtain ⟨ask, hask, hdeeper⟩ := Deeper.mem (h.adds .ask) hask'
    rw [← h.mid, ← hdeeper.1]
    exact c.asks_ge ask hask

theorem DeeperBook.touchVolume_le {c c' : CenteredBook}
    (h : DeeperBook c.toTwoSidedBook c'.toTwoSidedBook) (binWidth : ℚ) (side : BookSide) :
    touchVolume c binWidth side ≤ touchVolume c' binWidth side := by
  have hadds := h.adds side
  cases side with
  | ask =>
    simp only [touchVolume, CenteredBook.askVolume, ← h.mid]
    exact total_mono (hadds.imp fun _ _ hdeeper => ⟨by rw [hdeeper.1], hdeeper.2⟩)
  | bid =>
    simp only [touchVolume, CenteredBook.bidVolume, ← h.mid]
    exact total_mono (hadds.imp fun _ _ hdeeper => ⟨by rw [hdeeper.1], hdeeper.2⟩)

theorem AddsVolume.nonneg (h : AddsVolume snapshot snapshot') {side : BookSide}
    (hvolume : ∀ level ∈ sideLevels snapshot side, 0 ≤ level.volume) :
    ∀ level ∈ sideLevels snapshot' side, 0 ≤ level.volume := by
  intro level' hlevel'
  obtain ⟨level, hlevel, hdeeper⟩ := Deeper.mem (h side) hlevel'
  exact (hvolume level hlevel).trans hdeeper.2

/-! ### What is read after a stream -/

theorem toDepthMatrix_of_fed {ts : List TwoSidedBook} {depth : DepthMatrix}
    (h : (DepthMatrixBuilder.fed pct ts).toDepthMatrix = some depth) :
    DepthMatrix.SIZE ≤ ts.length ∧
      depth.grid.getLast? = (ts.map (TwoSidedBook.depthRow pct)).getLast? := by
  rw [DepthMatrixBuilder.fed_toDepthMatrix] at h
  split at h
  next hsize =>
    cases h
    exact ⟨hsize, Window.getLast?_rtake (by decide) _⟩
  · cases h

theorem ready_of_length (pct : ℚ) {ts : List TwoSidedBook} (h : DepthMatrix.SIZE ≤ ts.length) :
    ∃ depth, (DepthMatrixBuilder.fed pct ts).toDepthMatrix = some depth := by
  rw [DepthMatrixBuilder.fed_toDepthMatrix, if_pos h]
  exact ⟨_, rfl⟩

theorem getLast?_priced (snapshots : List OrderBookSnapshot) (c : CenteredBook) :
    (TwoSidedBook.priced (snapshots ++ [c.snapshot])).getLast? = some c.toTwoSidedBook := by
  have hbook : TwoSidedBook.ofSnapshot c.snapshot = some c.toTwoSidedBook :=
    TwoSidedBook.ofSnapshot_eq_some.mpr rfl
  have hmid : decide (0 < c.toTwoSidedBook.midPrice) = true := decide_eq_true c.mid_pos
  rw [DepthMatrixBuilder.priced_concat, hbook, Option.toList_some, List.filter_singleton, hmid]
  exact List.getLast?_concat

theorem hazard_fed (hpct : 0 < pct) {ts : List TwoSidedBook} {depth : DepthMatrix}
    (h : (DepthMatrixBuilder.fed pct ts).toDepthMatrix = some depth) {c : CenteredBook}
    (hlast : ts.getLast? = some c.toTwoSidedBook) {side : BookSide}
    (hvolume : ∀ level ∈ sideLevels c.snapshot side, 0 ≤ level.volume) {quantity : ℚ}
    (hquantity : 0 < quantity) :
    computeDepthLiquidityHazard depth quantity side =
      .ok (consumed (touchVolume c (c.midPrice * pct) side) quantity) := by
  refine hazard_eq hpct ?_ hvolume hquantity
  rw [(toDepthMatrix_of_fed h).2, List.getLast?_map, hlast, Option.map_some]

end

/-- What the hazard of a quantity says when `c` was the last of the books that made
`depth`. -/
structure ReadsTouch (pct : ℚ) (snapshots : List OrderBookSnapshot) (depth : DepthMatrix)
    (c : CenteredBook) : Prop where
  value : ∀ side quantity, 0 < quantity → computeDepthLiquidityHazard depth quantity side =
    .ok (if touchVolume c (c.midPrice * pct) side = 0 then 1
      else min 1 (quantity / touchVolume c (c.midPrice * pct) side))
  range : ∀ side quantity, 0 < quantity → ∀ hazard,
    computeDepthLiquidityHazard depth quantity side = .ok hazard → 0 ≤ hazard ∧ hazard ≤ 1
  quantity : ∀ side quantity quantity', 0 < quantity → quantity ≤ quantity' →
    ∀ hazard hazard', computeDepthLiquidityHazard depth quantity side = .ok hazard →
      computeDepthLiquidityHazard depth quantity' side = .ok hazard' → hazard ≤ hazard'
  volume : ∀ snapshots', List.Forall₂ AddsVolume snapshots snapshots' →
    ∃ b depth', (DepthMatrixBuilder.create pct).feed snapshots' = .ok b ∧
      b.toDepthMatrix = some depth' ∧ ∀ side quantity, 0 < quantity → ∃ hazard hazard',
        computeDepthLiquidityHazard depth quantity side = .ok hazard ∧
          computeDepthLiquidityHazard depth' quantity side = .ok hazard' ∧ hazard' ≤ hazard

theorem reads_touch (pct : ℚ) (hpct : 0 < pct) (snapshots : List OrderBookSnapshot)
    (hvolume : ∀ snapshot ∈ snapshots, ∀ side, ∀ level ∈ sideLevels snapshot side,
      0 ≤ level.volume)
    (b : DepthMatrixBuilder) (hfeed : (DepthMatrixBuilder.create pct).feed snapshots = .ok b)
    (depth : DepthMatrix) (hready : b.toDepthMatrix = some depth) (c : CenteredBook)
    (hlast : (TwoSidedBook.priced snapshots).getLast? = some c.toTwoSidedBook) :
    ReadsTouch pct snapshots depth c := by
  rw [DepthMatrixBuilder.feed_eq hpct] at hfeed
  cases hfeed
  have hmem := TwoSidedBook.mem_priced (List.mem_of_getLast? hlast)
  have hside (side : BookSide) := hvolume _ hmem side
  have hnonneg (side : BookSide) := touchVolume_nonneg (hside side) (c.midPrice * pct)
  have hread (side : BookSide) {quantity : ℚ} (hquantity : 0 < quantity) :=
    hazard_fed hpct hready hlast (hside side) hquantity
  refine ⟨fun side quantity hq => hread side hq, ?_, ?_, ?_⟩
  · intro side quantity hq h hh
    cases (hread side hq).symm.trans hh
    exact ⟨consumed_nonneg (hnonneg side) hq.le, consumed_le_one _ _⟩
  · intro side quantity quantity' hq hle h h' hh hh'
    cases (hread side hq).symm.trans hh
    cases (hread side (hq.trans_le hle)).symm.trans hh'
    exact consumed_mono (hnonneg side) hle
  · intro snapshots' hadds
    have hpriced := priced_rel hadds
    obtain ⟨t', hlast', hdeeper⟩ := getLast?_rel hpriced hlast
    obtain ⟨c', rfl⟩ := hdeeper.centered
    have hsize := (toDepthMatrix_of_fed hready).1.trans_eq hpriced.length_eq
    obtain ⟨depth', hready'⟩ := ready_of_length pct hsize
    refine ⟨_, depth', DepthMatrixBuilder.feed_eq hpct snapshots', hready', ?_⟩
    intro side quantity hq
    have hread' := hazard_fed hpct hready' hlast' (hdeeper.adds.nonneg (hside side)) hq
    refine ⟨_, _, hread side hq, hread', ?_⟩
    rw [← hdeeper.mid]
    exact consumed_anti (hnonneg side) (hdeeper.touchVolume_le _ side) hq.le

/-- The same book all the time: the far ask is out of reach. -/
def threeLevelTicks : List OrderBookSnapshot :=
  List.replicate 49 threeLevels.snapshot ++ [threeLevels.snapshot]

theorem reads_touch_threeLevels :
    ∃ b depth, (DepthMatrixBuilder.create (1 / 2000)).feed threeLevelTicks = .ok b ∧
      b.toDepthMatrix = some depth ∧ ReadsTouch (1 / 2000) threeLevelTicks depth threeLevels ∧
      computeDepthLiquidityHazard depth (1 / 4) .ask = .ok (1 / 4) := by
  have hpct : (0 : ℚ) < 1 / 2000 := by norm_num
  have hsize : DepthMatrix.SIZE ≤ (TwoSidedBook.priced threeLevelTicks).length := by decide +kernel
  have hfeed := DepthMatrixBuilder.feed_eq hpct threeLevelTicks
  obtain ⟨depth, hready⟩ := ready_of_length (1 / 2000) hsize
  have hreads := reads_touch (1 / 2000) hpct threeLevelTicks
    (fun snapshot hsnapshot side => by
      have hsame : snapshot = threeLevels.snapshot := by
        rcases List.mem_append.mp hsnapshot with hmem | hmem
        · exact List.eq_of_mem_replicate hmem
        · exact List.mem_singleton.mp hmem
      rw [hsame]
      cases side <;> decide +kernel)
    _ hfeed depth hready threeLevels (getLast?_priced _ threeLevels)
  refine ⟨_, depth, hfeed, hready, hreads, (hreads.value .ask (1 / 4) (by norm_num)).trans ?_⟩
  decide +kernel

end BimodalArbitrage.Ml
