import BimodalArbitrage.Histogram.Bins
import BimodalArbitrage.Marketdata.FeatureRows
import Mathlib.Tactic.NormNum

/-!
# The rows of the depth matrix

A row of the builder is a tally of the two sides of a book, the bids from the middle of
the row down and the asks from there up.
-/

namespace BimodalArbitrage.Marketdata
open Histogram OrderBookLevel

theorem pyInt_of_nonneg {x : ℚ} (h : 0 ≤ x) : pyInt x = ⌊x⌋ := if_pos h

section
variable {d w : ℚ}

theorem le_pyInt_div (hd : 0 ≤ d) (hw : 0 < w) (k : ℤ) : k ≤ pyInt (d / w) ↔ k * w ≤ d := by
  rw [pyInt_of_nonneg (div_nonneg hd hw.le), Int.le_floor, le_div_iff₀ hw]

theorem pyInt_div_lt (hd : 0 ≤ d) (hw : 0 < w) (k : ℤ) : pyInt (d / w) < k ↔ d < k * w := by
  rw [pyInt_of_nonneg (div_nonneg hd hw.le), Int.floor_lt, div_lt_iff₀ hw]

theorem pyInt_div_nonneg (hd : 0 ≤ d) (hw : 0 < w) : 0 ≤ pyInt (d / w) := by
  rw [le_pyInt_div hd hw, Int.cast_zero, zero_mul]
  exact hd

end

/-! ### The row of a book -/

def halfSize : ℕ := DepthMatrix.SIZE / 2

def bidIndex (midPrice binWidth : ℚ) (level : OrderBookLevel) : ℤ :=
  halfSize - 1 - pyInt ((midPrice - level.price) / binWidth)

def askIndex (midPrice binWidth : ℚ) (level : OrderBookLevel) : ℤ :=
  halfSize + pyInt ((level.price - midPrice) / binWidth)

namespace TwoSidedBook

def depthRow (binWidthPct : ℚ) (b : TwoSidedBook) : List ℚ :=
  let binWidth := b.midPrice * binWidthPct
  tally (askIndex b.midPrice binWidth) volume
    (tally (bidIndex b.midPrice binWidth) volume (List.replicate DepthMatrix.SIZE 0)
      b.snapshot.bids) b.snapshot.asks

def priced (snapshots : List OrderBookSnapshot) : List TwoSidedBook :=
  (books snapshots).filter fun b => 0 < b.midPrice

theorem mem_priced {snapshots : List OrderBookSnapshot} {b : TwoSidedBook}
    (h : b ∈ priced snapshots) : b.snapshot ∈ snapshots := by
  obtain ⟨snapshot, hmem, hbook⟩ := List.mem_filterMap.mp (List.mem_of_mem_filter h)
  rwa [ofSnapshot_eq_some.mp hbook]

end TwoSidedBook

namespace DepthMatrixBuilder

theorem addToBin_eq {row : List ℚ} (h : row.length = DepthMatrix.SIZE) (idx : ℤ) (v : ℚ) :
    addToBin row idx v = deposit row idx v := by
  rw [addToBin, deposit, h]

theorem foldlM_tally {f : List ℚ → OrderBookLevel → Except PyError (List ℚ)}
    {idx : OrderBookLevel → ℤ}
    (hf : ∀ row level, f row level = .ok (addToBin row (idx level) level.volume))
    (levels : List OrderBookLevel) {row : List ℚ} (h : row.length = DepthMatrix.SIZE) :
    levels.foldlM f row = .ok (tally idx volume row levels) := by
  induction levels generalizing row with
  | nil => rfl
  | cons level levels ih =>
    have hlength : (deposit row (idx level) level.volume).length = DepthMatrix.SIZE :=
      (length_deposit ..).trans h
    rw [List.foldlM_cons, hf, addToBin_eq h]
    exact ih hlength

section
variable {b : DepthMatrixBuilder} {t : TwoSidedBook} {midPrice binWidth : ℚ}

theorem addBid_eq (h : binWidth ≠ 0) (row : List ℚ) (level : OrderBookLevel) :
    addBid midPrice binWidth row level =
      .ok (addToBin row (bidIndex midPrice binWidth level) level.volume) := by
  rw [addBid, pyDiv_of_ne h]
  rfl

theorem addAsk_eq (h : binWidth ≠ 0) (row : List ℚ) (level : OrderBookLevel) :
    addAsk midPrice binWidth row level =
      .ok (addToBin row (askIndex midPrice binWidth level) level.volume) := by
  rw [addAsk, pyDiv_of_ne h]
  rfl

theorem update_book (h : 0 < t.midPrice * b.binWidthPct) :
    b.update t.snapshot = .ok { b with
      rows := pushBounded DepthMatrix.SIZE b.rows (t.depthRow b.binWidthPct) } := by
  obtain ⟨bids, hbids⟩ := t.bids_eq
  obtain ⟨asks, hasks⟩ := t.asks_eq
  have hempty := List.length_replicate (n := DepthMatrix.SIZE) (a := (0 : ℚ))
  have hbidRow := foldlM_tally (f := addBid t.midPrice (t.midPrice * b.binWidthPct))
    (addBid_eq h.ne') t.snapshot.bids hempty
  have hlength : (tally (bidIndex t.midPrice (t.midPrice * b.binWidthPct)) volume
      (List.replicate DepthMatrix.SIZE 0) t.snapshot.bids).length = DepthMatrix.SIZE :=
    (length_tally _ _).trans hempty
  have haskRow := foldlM_tally (f := addAsk t.midPrice (t.midPrice * b.binWidthPct))
    (addAsk_eq h.ne') t.snapshot.asks hlength
  unfold update
  split
  next bestBid _ bestAsk _ hbids' hasks' =>
    cases hbids.symm.trans hbids'
    cases hasks.symm.trans hasks'
    have hwidth : ¬(t.bestBid.price + t.bestAsk.price) / 2 * b.binWidthPct ≤ 0 := not_le.mpr h
    dsimp only
    rw [if_neg hwidth]
    simp only [TwoSidedBook.midPrice] at hbidRow haskRow
    rw [hbidRow]
    simp only [bind, Except.bind]
    rw [haskRow]
    rfl
  next hone => exact absurd hasks (hone _ _ _ _ hbids)

theorem update_flat (h : t.midPrice * b.binWidthPct ≤ 0) : b.update t.snapshot = .ok b := by
  obtain ⟨bids, hbids⟩ := t.bids_eq
  obtain ⟨asks, hasks⟩ := t.asks_eq
  unfold update
  split
  next bestBid _ bestAsk _ hbids' hasks' =>
    cases hbids.symm.trans hbids'
    cases hasks.symm.trans hasks'
    exact if_pos h
  next hone => exact absurd hasks (hone _ _ _ _ hbids)

theorem update_oneSided {snapshot : OrderBookSnapshot}
    (h : TwoSidedBook.ofSnapshot snapshot = none) : b.update snapshot = .ok b := by
  unfold update
  split
  next hbids hasks =>
    rcases TwoSidedBook.oneSided_of_none h with hnil | hnil
    · cases hbids.symm.trans hnil
    · cases hasks.symm.trans hnil
  · rfl

end

/-! ### The matrix of a stream -/

/-- `DepthMatrixBuilder(bin_width_pct)`. -/
def create (binWidthPct : ℚ) : DepthMatrixBuilder := ⟨binWidthPct, []⟩

def feed (b : DepthMatrixBuilder) (snapshots : List OrderBookSnapshot) :
    Except PyError DepthMatrixBuilder :=
  snapshots.foldlM update b

/-- The builder after the priced books of a stream. -/
def fed (binWidthPct : ℚ) (ts : List TwoSidedBook) : DepthMatrixBuilder :=
  ⟨binWidthPct, (ts.map (TwoSidedBook.depthRow binWidthPct)).rtake DepthMatrix.SIZE⟩

section
variable {binWidthPct : ℚ} {ts : List TwoSidedBook} {t : TwoSidedBook}

theorem feed_concat (b : DepthMatrixBuilder) (snapshots : List OrderBookSnapshot)
    (snapshot : OrderBookSnapshot) :
    b.feed (snapshots ++ [snapshot]) = b.feed snapshots >>= fun b' => b'.update snapshot := by
  rw [feed, List.foldlM_append, feed]
  simp only [List.foldlM_cons, List.foldlM_nil, bind_pure]

theorem fed_update (hpct : 0 < binWidthPct) (t : TwoSidedBook) :
    (fed binWidthPct ts).update t.snapshot =
      .ok (fed binWidthPct (ts ++ if 0 < t.midPrice then [t] else [])) := by
  by_cases hmid : 0 < t.midPrice
  · rw [update_book (mul_pos hmid hpct), if_pos hmid]
    simp only [fed, pushBounded_rtake, List.map_append, List.map_singleton]
  · rw [update_flat (mul_nonpos_of_nonpos_of_nonneg (not_lt.mp hmid) hpct.le), if_neg hmid,
      List.append_nil]

theorem priced_concat (snapshots : List OrderBookSnapshot) (snapshot : OrderBookSnapshot) :
    TwoSidedBook.priced (snapshots ++ [snapshot]) =
      TwoSidedBook.priced snapshots ++
        (TwoSidedBook.ofSnapshot snapshot).toList.filter fun t => 0 < t.midPrice := by
  rw [TwoSidedBook.priced, TwoSidedBook.books_concat, List.filter_append, TwoSidedBook.priced]

theorem feed_eq (hpct : 0 < binWidthPct) (snapshots : List OrderBookSnapshot) :
    (create binWidthPct).feed snapshots =
      .ok (fed binWidthPct (TwoSidedBook.priced snapshots)) := by
  induction snapshots using List.reverseRecOn with
  | nil => rfl
  | append_singleton snapshots snapshot ih =>
    rw [feed_concat, ih, priced_concat]
    cases hbook : TwoSidedBook.ofSnapshot snapshot with
    | none =>
      rw [Option.toList_none, List.filter_nil, List.append_nil]
      exact update_oneSided hbook
    | some t =>
      have hsnapshot := TwoSidedBook.ofSnapshot_eq_some.mp hbook
      rw [Option.toList_some, ← hsnapshot, List.filter_singleton]
      refine (fed_update hpct t).trans ?_
      by_cases hmid : 0 < t.midPrice <;> simp [hmid]

theorem fed_toDepthMatrix :
    (fed binWidthPct ts).toDepthMatrix =
      if DepthMatrix.SIZE ≤ ts.length then
        some ⟨(ts.map (TwoSidedBook.depthRow binWidthPct)).rtake DepthMatrix.SIZE⟩
      else none := by
  have hready : (fed binWidthPct ts).isReady = true ↔ DepthMatrix.SIZE ≤ ts.length := by
    rw [isReady, beq_iff_eq, fed, Window.length_rtake, List.length_map, min_eq_left_iff]
  rw [toDepthMatrix]
  exact if_congr hready rfl rfl

end
end DepthMatrixBuilder

/-! ### What a row shows -/

/-- A book with a positive mid price between its bids and its asks. -/
structure CenteredBook extends TwoSidedBook where
  mid_pos : 0 < toTwoSidedBook.midPrice
  bids_le : ∀ bid ∈ snapshot.bids, bid.price ≤ toTwoSidedBook.midPrice
  asks_ge : ∀ ask ∈ snapshot.asks, toTwoSidedBook.midPrice ≤ ask.price

namespace CenteredBook
variable (c : CenteredBook)

def bidVolume (within : ℚ → Prop) [DecidablePred within] : ℚ :=
  total volume (fun bid => within (c.midPrice - bid.price)) c.snapshot.bids

def askVolume (within : ℚ → Prop) [DecidablePred within] : ℚ :=
  total volume (fun ask => within (ask.price - c.midPrice)) c.snapshot.asks

/-- The bins of a row are `w` wide; the bids go down from the middle, the asks go up. -/
structure ShownBy (w : ℚ) (row : List ℚ) : Prop where
  length : row.length = DepthMatrix.SIZE
  bids : ∀ k < DepthMatrix.SIZE / 2, row[DepthMatrix.SIZE / 2 - 1 - k]? =
    some (c.bidVolume fun d => k * w ≤ d ∧ d < (k + 1) * w)
  asks : ∀ k < DepthMatrix.SIZE / 2, row[DepthMatrix.SIZE / 2 + k]? =
    some (c.askVolume fun d => k * w ≤ d ∧ d < (k + 1) * w)
  sum : row.sum = c.bidVolume (fun d => d < (DepthMatrix.SIZE / 2 : ℕ) * w) +
    c.askVolume fun d => d < (DepthMatrix.SIZE / 2 : ℕ) * w

section
variable {c} {pct : ℚ}

theorem width_pos (hpct : 0 < pct) : 0 < c.midPrice * pct := mul_pos c.mid_pos hpct

theorem bidIndex_iff (hpct : 0 < pct) {bid : OrderBookLevel} (hbid : bid ∈ c.snapshot.bids)
    (lo hi : ℤ) :
    (halfSize - hi ≤ bidIndex c.midPrice (c.midPrice * pct) bid ∧
        bidIndex c.midPrice (c.midPrice * pct) bid < halfSize - lo) ↔
      lo * (c.midPrice * pct) ≤ c.midPrice - bid.price ∧
        c.midPrice - bid.price < hi * (c.midPrice * pct) := by
  have hdist := sub_nonneg.mpr (c.bids_le bid hbid)
  rw [← le_pyInt_div hdist (width_pos hpct), ← pyInt_div_lt hdist (width_pos hpct), bidIndex]
  omega

theorem bidIndex_lt (hpct : 0 < pct) {bid : OrderBookLevel} (hbid : bid ∈ c.snapshot.bids) :
    bidIndex c.midPrice (c.midPrice * pct) bid < halfSize := by
  have hdist := sub_nonneg.mpr (c.bids_le bid hbid)
  have hbin := pyInt_div_nonneg hdist (width_pos (c := c) hpct)
  rw [bidIndex]
  omega

theorem askIndex_iff (hpct : 0 < pct) {ask : OrderBookLevel} (hask : ask ∈ c.snapshot.asks)
    (lo hi : ℤ) :
    (halfSize + lo ≤ askIndex c.midPrice (c.midPrice * pct) ask ∧
        askIndex c.midPrice (c.midPrice * pct) ask < halfSize + hi) ↔
      lo * (c.midPrice * pct) ≤ ask.price - c.midPrice ∧
        ask.price - c.midPrice < hi * (c.midPrice * pct) := by
  have hdist := sub_nonneg.mpr (c.asks_ge ask hask)
  rw [← le_pyInt_div hdist (width_pos hpct), ← pyInt_div_lt hdist (width_pos hpct), askIndex]
  omega

theorem le_askIndex (hpct : 0 < pct) {ask : OrderBookLevel} (hask : ask ∈ c.snapshot.asks) :
    halfSize ≤ askIndex c.midPrice (c.midPrice * pct) ask := by
  have hdist := sub_nonneg.mpr (c.asks_ge ask hask)
  have hbin := pyInt_div_nonneg hdist (width_pos (c := c) hpct)
  rw [askIndex]
  omega

theorem length_depthRow (t : TwoSidedBook) : (t.depthRow pct).length = DepthMatrix.SIZE := by
  rw [TwoSidedBook.depthRow, length_tally, length_tally, List.length_replicate]

theorem slice_depthRow (t : TwoSidedBook) {a n : ℕ} (h : a + n ≤ DepthMatrix.SIZE) :
    (((t.depthRow pct).drop a).take n).sum =
      total volume (fun bid => a ≤ bidIndex t.midPrice (t.midPrice * pct) bid ∧
        bidIndex t.midPrice (t.midPrice * pct) bid < a + n) t.snapshot.bids +
      total volume (fun ask => a ≤ askIndex t.midPrice (t.midPrice * pct) ask ∧
        askIndex t.midPrice (t.midPrice * pct) ask < a + n) t.snapshot.asks := by
  have hempty : a + n ≤ (List.replicate DepthMatrix.SIZE (0 : ℚ)).length := by
    rwa [List.length_replicate]
  have hbids : a + n ≤ (tally (bidIndex t.midPrice (t.midPrice * pct)) volume
      (List.replicate DepthMatrix.SIZE 0) t.snapshot.bids).length := by
    rwa [length_tally]
  have hzero : (((List.replicate DepthMatrix.SIZE (0 : ℚ)).drop a).take n).sum = 0 := by
    rw [List.drop_replicate, List.take_replicate, List.sum_replicate, nsmul_zero]
  rw [TwoSidedBook.depthRow, slice_tally hbids, slice_tally hempty, hzero, zero_add]

theorem bid_slice (hpct : 0 < pct) {lo hi : ℕ} (hlo : lo ≤ hi) (hhi : hi ≤ halfSize) :
    (((c.depthRow pct).drop (halfSize - hi)).take (hi - lo)).sum =
      c.bidVolume fun d => lo * (c.midPrice * pct) ≤ d ∧ d < hi * (c.midPrice * pct) := by
  have hfits : halfSize - hi + (hi - lo) ≤ DepthMatrix.SIZE := by
    have hsize : halfSize ≤ DepthMatrix.SIZE := Nat.div_le_self ..
    omega
  rw [slice_depthRow c.toTwoSidedBook hfits, CenteredBook.bidVolume]
  have hasks : total volume (fun ask =>
      (halfSize - hi : ℕ) ≤ askIndex c.midPrice (c.midPrice * pct) ask ∧
        askIndex c.midPrice (c.midPrice * pct) ask < (halfSize - hi : ℕ) + (hi - lo : ℕ))
      c.snapshot.asks = 0 := by
    refine total_none fun ask hask hin => ?_
    have hup := le_askIndex hpct hask
    omega
  rw [hasks, add_zero]
  refine total_congr fun bid hbid => ?_
  have hiff := bidIndex_iff hpct hbid lo hi
  rw [Int.cast_natCast, Int.cast_natCast] at hiff
  rw [← hiff]
  omega

theorem ask_slice (hpct : 0 < pct) {lo hi : ℕ} (hlo : lo ≤ hi) (hhi : hi ≤ halfSize) :
    (((c.depthRow pct).drop (halfSize + lo)).take (hi - lo)).sum =
      c.askVolume fun d => lo * (c.midPrice * pct) ≤ d ∧ d < hi * (c.midPrice * pct) := by
  have hfits : halfSize + lo + (hi - lo) ≤ DepthMatrix.SIZE := by
    have hsize : halfSize + halfSize = DepthMatrix.SIZE := rfl
    omega
  rw [slice_depthRow c.toTwoSidedBook hfits, CenteredBook.askVolume]
  have hbids : total volume (fun bid =>
      (halfSize + lo : ℕ) ≤ bidIndex c.midPrice (c.midPrice * pct) bid ∧
        bidIndex c.midPrice (c.midPrice * pct) bid < (halfSize + lo : ℕ) + (hi - lo : ℕ))
      c.snapshot.bids = 0 := by
    refine total_none fun bid hbid hin => ?_
    have hdown := bidIndex_lt hpct hbid
    omega
  rw [hbids, zero_add]
  refine total_congr fun ask hask => ?_
  have hiff := askIndex_iff hpct hask lo hi
  rw [Int.cast_natCast, Int.cast_natCast] at hiff
  rw [← hiff]
  omega

theorem bidVolume_from_zero (w : ℚ) (hi : ℕ) :
    c.bidVolume (fun d => (0 : ℕ) * w ≤ d ∧ d < hi * w) = c.bidVolume fun d => d < hi * w := by
  refine total_congr fun bid hbid => ?_
  have hdist := sub_nonneg.mpr (c.bids_le bid hbid)
  rw [Nat.cast_zero, zero_mul]
  exact and_iff_right hdist

theorem askVolume_from_zero (w : ℚ) (hi : ℕ) :
    c.askVolume (fun d => (0 : ℕ) * w ≤ d ∧ d < hi * w) = c.askVolume fun d => d < hi * w := by
  refine total_congr fun ask hask => ?_
  have hdist := sub_nonneg.mpr (c.asks_ge ask hask)
  rw [Nat.cast_zero, zero_mul]
  exact and_iff_right hdist

theorem entry_of_slice {row : List ℚ} {i : ℕ} (h : i < row.length) :
    row[i]? = some ((row.drop i).take 1).sum := by
  rw [slice_succ h, List.take_zero, List.sum_nil, zero_add, List.getD_eq_getElem?_getD,
    List.getElem?_eq_getElem h, add_zero, List.getElem?_eq_getElem h, Option.getD_some]

theorem shownBy (hpct : 0 < pct) : c.ShownBy (c.midPrice * pct) (c.depthRow pct) where
  length := length_depthRow c.toTwoSidedBook
  bids k hk := by
    have hslice := bid_slice (c := c) hpct (Nat.le_add_right k 1) hk
    have hbin : halfSize - (k + 1) = DepthMatrix.SIZE / 2 - 1 - k := by
      rw [halfSize]
      omega
    rw [hbin, Nat.add_sub_cancel_left, Nat.cast_add_one] at hslice
    rw [← hslice]
    exact entry_of_slice (by rw [length_depthRow]; omega)
  asks k hk := by
    have hslice := ask_slice (c := c) hpct (Nat.le_add_right k 1) hk
    rw [Nat.add_sub_cancel_left, Nat.cast_add_one] at hslice
    rw [← hslice]
    exact entry_of_slice (by rw [length_depthRow]; omega)
  sum := by
    have hbids := bid_slice (c := c) hpct (Nat.zero_le halfSize) (le_refl _)
    have hasks := ask_slice (c := c) hpct (Nat.zero_le halfSize) (le_refl _)
    have hrest : ((c.depthRow pct).drop halfSize).length ≤ halfSize := by
      rw [List.length_drop, length_depthRow]
      exact le_refl _
    rw [bidVolume_from_zero, Nat.sub_self, List.drop_zero, Nat.sub_zero] at hbids
    rw [askVolume_from_zero, Nat.add_zero, Nat.sub_zero, List.take_of_length_le hrest] at hasks
    rw [← List.sum_take_add_sum_drop _ halfSize, hbids, hasks]
    rfl

end
end CenteredBook

/-- What a builder with bins of this width does with a book, what the row of a book shows,
and what it makes of a stream. -/
structure DepthBinning (pct : ℚ) : Prop where
  appends : ∀ (b : DepthMatrixBuilder) (t : TwoSidedBook), b.binWidthPct = pct → 0 < t.midPrice →
    b.update t.snapshot =
      .ok { b with rows := pushBounded DepthMatrix.SIZE b.rows (t.depthRow pct) }
  row : ∀ c : CenteredBook, c.ShownBy (c.midPrice * pct) (c.depthRow pct)
  matrix : ∀ snapshots, ∃ b, (DepthMatrixBuilder.create pct).feed snapshots = .ok b ∧
    b.toDepthMatrix =
      if DepthMatrix.SIZE ≤ (TwoSidedBook.priced snapshots).length then
        some ⟨((TwoSidedBook.priced snapshots).map (TwoSidedBook.depthRow pct)).rtake
          DepthMatrix.SIZE⟩
      else none

theorem depth_binning (pct : ℚ) (hpct : 0 < pct) : DepthBinning pct where
  appends b t hwidth hmid := by
    subst hwidth
    exact DepthMatrixBuilder.update_book (mul_pos hmid hpct)
  row _ := CenteredBook.shownBy hpct
  matrix snapshots :=
    ⟨_, DepthMatrixBuilder.feed_eq hpct snapshots, DepthMatrixBuilder.fed_toDepthMatrix⟩

/-- The second ask is too far out for the row. -/
def threeLevels : CenteredBook where
  snapshot := ⟨"alpha", "BTC/USDT", 0, [⟨999, 3⟩], [⟨1001, 1⟩, ⟨2000, 5⟩]⟩
  bestBid := ⟨999, 3⟩
  bestAsk := ⟨1001, 1⟩
  bids_head := rfl
  asks_head := rfl
  mid_pos := by decide +kernel
  bids_le := by decide +kernel
  asks_ge := by decide +kernel

theorem depth_binning_threeLevels :
    DepthBinning (1 / 2000) ∧ threeLevels.ShownBy (1 / 2) (threeLevels.depthRow (1 / 2000)) := by
  have hbinning := depth_binning (1 / 2000) (by norm_num)
  have hwidth : threeLevels.midPrice * (1 / 2000) = 1 / 2 := by decide +kernel
  exact ⟨hbinning, hwidth ▸ hbinning.row threeLevels⟩

end BimodalArbitrage.Marketdata
