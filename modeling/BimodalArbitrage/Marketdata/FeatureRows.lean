import BimodalArbitrage.Marketdata.Features
import BimodalArbitrage.Marketdata.VwapFormula
import BimodalArbitrage.Window.Suffix

/-!
# The rows of the temporal window

A row is a function of a book with two sides and of the one before it. The window does
not keep that one: it remembers its figures, and a bounded end of the rows.
-/

namespace BimodalArbitrage.Marketdata

/-- A snapshot with both sides, and its touch. -/
structure TwoSidedBook where
  snapshot : OrderBookSnapshot
  bestBid : OrderBookLevel
  bestAsk : OrderBookLevel
  bids_head : snapshot.bids.head? = some bestBid
  asks_head : snapshot.asks.head? = some bestAsk

namespace TwoSidedBook

def ofSnapshot (snapshot : OrderBookSnapshot) : Option TwoSidedBook :=
  match hbids : snapshot.bids.head?, hasks : snapshot.asks.head? with
  | some bestBid, some bestAsk => some ⟨snapshot, bestBid, bestAsk, hbids, hasks⟩
  | _, _ => none

def books (snapshots : List OrderBookSnapshot) : List TwoSidedBook :=
  snapshots.filterMap ofSnapshot

section
variable (quantity : ℚ) (b : TwoSidedBook)

def midPrice : ℚ := (b.bestBid.price + b.bestAsk.price) / 2

def spreadPct : ℚ :=
  if 0 < b.midPrice then (b.bestAsk.price - b.bestBid.price) / b.midPrice else 0

/-- Both VWAPs of the reference quantity, or the best prices. -/
def referencePrices : ℚ × ℚ :=
  match computeVwap b.snapshot.bids quantity, computeVwap b.snapshot.asks quantity with
  | .ok vwapBid, .ok vwapAsk => (vwapBid, vwapAsk)
  | _, _ => (b.bestBid.price, b.bestAsk.price)

def totalVolume : ℚ := b.bestBid.volume + b.bestAsk.volume

def microPrice : ℚ :=
  b.bestBid.price * (b.bestAsk.volume / b.totalVolume) +
    b.bestAsk.price * (b.bestBid.volume / b.totalVolume)

def volumeImbalance : ℚ := (b.bestBid.volume - b.bestAsk.volume) / b.totalVolume

def deltas : Option TwoSidedBook → TemporalFeatureWindow.Deltas
  | none => ⟨0, 0, 0, 0, 0, 0⟩
  | some p => {
      midPriceReturn := if 0 < p.midPrice then (b.midPrice - p.midPrice) / p.midPrice else 0
      ofi := bidContribution p.bestBid b.bestBid - askContribution p.bestAsk b.bestAsk
      vwapBidDrift := (b.referencePrices quantity).1 - (p.referencePrices quantity).1
      vwapAskDrift := (b.referencePrices quantity).2 - (p.referencePrices quantity).2
      microPriceDrift := b.microPrice - p.microPrice
      volumeAccel := b.totalVolume - p.totalVolume }

/-- The features of a book, in the order of `FEATURE_NAMES`. -/
def featureRow (prev : Option TwoSidedBook) : List ℚ :=
  let d := b.deltas quantity prev
  [d.midPriceReturn, b.spreadPct, d.vwapBidDrift, d.vwapAskDrift, d.microPriceDrift, d.ofi,
    b.bestBid.volume, b.bestAsk.volume, b.volumeImbalance, d.volumeAccel,
    TemporalFeatureWindow.depthNotional b.snapshot.bids,
    TemporalFeatureWindow.depthNotional b.snapshot.asks]

/-- What the window remembers of a book. -/
def tick : PrevTick :=
  ⟨b.snapshot, (b.referencePrices quantity).1, (b.referencePrices quantity).2, b.microPrice,
    b.totalVolume⟩

end

/-- The rows of a stream of books, each from its book and the book before. -/
def batchRows (quantity : ℚ) : Option TwoSidedBook → List TwoSidedBook → List (List ℚ)
  | _, [] => []
  | prev, b :: bs => b.featureRow quantity prev :: batchRows quantity (some b) bs

section
variable {quantity : ℚ} {prev : Option TwoSidedBook} {b : TwoSidedBook} {bs : List TwoSidedBook}

theorem batchRows_concat :
    batchRows quantity prev (bs ++ [b]) =
      batchRows quantity prev bs ++ [b.featureRow quantity (bs.getLast?.or prev)] := by
  induction bs generalizing prev with
  | nil => rfl
  | cons c cs ih =>
    have hlast : (c :: cs).getLast?.or prev = cs.getLast?.or (some c) := by
      rw [List.getLast?_cons]
      cases cs.getLast? <;> rfl
    rw [List.cons_append, batchRows, ih, hlast, batchRows, List.cons_append]

theorem batchRows_length : (batchRows quantity prev bs).length = bs.length := by
  induction bs generalizing prev with
  | nil => rfl
  | cons c cs ih => rw [batchRows, List.length_cons, ih, List.length_cons]

theorem featureRow_length :
    (b.featureRow quantity prev).length = TemporalFeatures.FEATURE_COUNT := rfl

theorem length_of_mem_batchRows {row : List ℚ} (h : row ∈ batchRows quantity prev bs) :
    row.length = TemporalFeatures.FEATURE_COUNT := by
  induction bs generalizing prev with
  | nil => cases h
  | cons c cs ih =>
    rcases List.mem_cons.mp h with rfl | h
    · exact featureRow_length
    · exact ih h

end

theorem bids_eq (b : TwoSidedBook) : ∃ bids, b.snapshot.bids = b.bestBid :: bids :=
  List.head?_eq_some_iff.mp b.bids_head

theorem asks_eq (b : TwoSidedBook) : ∃ asks, b.snapshot.asks = b.bestAsk :: asks :=
  List.head?_eq_some_iff.mp b.asks_head

theorem ofSnapshot_eq_some {snapshot : OrderBookSnapshot} {b : TwoSidedBook} :
    ofSnapshot snapshot = some b ↔ b.snapshot = snapshot := by
  constructor
  · intro h
    unfold ofSnapshot at h
    split at h
    · cases h
      rfl
    · cases h
  · rintro rfl
    unfold ofSnapshot
    split
    next bestBid bestAsk hbids hasks =>
      cases b.bids_head.symm.trans hbids
      cases b.asks_head.symm.trans hasks
      rfl
    next hone => exact absurd b.asks_head (hone _ _ b.bids_head)

theorem oneSided_of_none {snapshot : OrderBookSnapshot} (h : ofSnapshot snapshot = none) :
    snapshot.bids = [] ∨ snapshot.asks = [] := by
  rcases hbids : snapshot.bids with _ | ⟨bestBid, bids⟩
  · exact .inl rfl
  rcases hasks : snapshot.asks with _ | ⟨bestAsk, asks⟩
  · exact .inr rfl
  have hbid : snapshot.bids.head? = some bestBid := hbids ▸ rfl
  have hask : snapshot.asks.head? = some bestAsk := hasks ▸ rfl
  have hsome := (ofSnapshot_eq_some (b := ⟨snapshot, bestBid, bestAsk, hbid, hask⟩)).mpr rfl
  cases h.symm.trans hsome

theorem books_concat (snapshots : List OrderBookSnapshot) (snapshot : OrderBookSnapshot) :
    books (snapshots ++ [snapshot]) = books snapshots ++ (ofSnapshot snapshot).toList := by
  rw [books, List.filterMap_append, books]
  cases h : ofSnapshot snapshot <;> simp [h]

end TwoSidedBook

/-! ### The window computes them -/

theorem ratioOrZero_eq (a b : ℚ) : ratioOrZero a b = .ok (if 0 < b then a / b else 0) := by
  unfold ratioOrZero
  split
  · next hb => exact pyDiv_of_ne hb.ne'
  · rfl

theorem computeMicroPrice_of_pos {bestBid bestAsk : OrderBookLevel}
    (h : 0 < bestBid.volume + bestAsk.volume) :
    computeMicroPrice bestBid bestAsk =
      .ok (bestBid.price * (bestAsk.volume / (bestBid.volume + bestAsk.volume)) +
        bestAsk.price * (bestBid.volume / (bestBid.volume + bestAsk.volume))) := by
  rw [computeMicroPrice, if_neg (not_le.mpr h), pyDiv_of_ne h.ne', pyDiv_of_ne h.ne']
  rfl

namespace TemporalFeatureWindow

/-- `TemporalFeatureWindow(notional_quantity)`. -/
def create (notionalQuantity : ℚ) : TemporalFeatureWindow := ⟨notionalQuantity, none, []⟩

def feed (w : TemporalFeatureWindow) (snapshots : List OrderBookSnapshot) :
    Except PyError TemporalFeatureWindow :=
  snapshots.foldlM update w

section
variable {w : TemporalFeatureWindow} {prev : Option TwoSidedBook} {b : TwoSidedBook}

theorem referenceVwaps_eq :
    w.referenceVwaps b.snapshot b.bestBid b.bestAsk =
      .ok (b.referencePrices w.notionalQuantity) := by
  unfold referenceVwaps TwoSidedBook.referencePrices
  cases hbid : computeVwap b.snapshot.bids w.notionalQuantity with
  | error e => simp [bind, Except.bind, exceptValueError, computeVwap_cls hbid, pure, Except.pure]
  | ok vwapBid =>
    cases hask : computeVwap b.snapshot.asks w.notionalQuantity with
    | error e => simp [bind, Except.bind, exceptValueError, computeVwap_cls hask, pure, Except.pure]
    | ok vwapAsk => rfl

theorem deltas_eq (prev : Option TwoSidedBook) (quantity : ℚ) :
    deltas (prev.map (TwoSidedBook.tick quantity)) b.snapshot b.midPrice
        (b.referencePrices quantity).1 (b.referencePrices quantity).2 b.microPrice b.totalVolume =
      .ok (b.deltas quantity prev) := by
  cases prev with
  | none => rfl
  | some p =>
    obtain ⟨bids, hbids⟩ := b.bids_eq
    obtain ⟨asks, hasks⟩ := b.asks_eq
    obtain ⟨prevBids, hprevBids⟩ := p.bids_eq
    obtain ⟨prevAsks, hprevAsks⟩ := p.asks_eq
    simp only [Option.map_some, deltas, TwoSidedBook.tick, computeOrderFlowImbalance, hbids, hasks,
      hprevBids, hprevAsks, firstLevel, bestLevel, ratioOrZero_eq]
    rfl

theorem update_book (hprev : w.prev = prev.map (TwoSidedBook.tick w.notionalQuantity))
    (hvolume : 0 < b.totalVolume) :
    w.update b.snapshot = .ok { w with
      prev := some (b.tick w.notionalQuantity)
      rows := pushBounded TemporalFeatures.WINDOW_SIZE w.rows
        (b.featureRow w.notionalQuantity prev) } := by
  obtain ⟨bids, hbids⟩ := b.bids_eq
  obtain ⟨asks, hasks⟩ := b.asks_eq
  have hmicro := computeMicroPrice_of_pos hvolume
  have hvwaps := referenceVwaps_eq (w := w) (b := b)
  have hdeltas := deltas_eq (b := b) prev w.notionalQuantity
  rw [← hprev] at hdeltas
  unfold update
  split
  next bestBid _ bestAsk _ hbids' hasks' =>
    cases hbids.symm.trans hbids'
    cases hasks.symm.trans hasks'
    simp only [TwoSidedBook.midPrice, TwoSidedBook.microPrice, TwoSidedBook.totalVolume]
      at hdeltas hvolume
    simp only [ratioOrZero_eq, hvwaps, hmicro, hdeltas, hvolume, if_true, bind, Except.bind]
    rfl
  next hone => exact absurd hasks (hone _ _ _ _ hbids)

theorem update_weightless (hvolume : b.totalVolume ≤ 0) :
    ∃ e, w.update b.snapshot = .error e := by
  obtain ⟨bids, hbids⟩ := b.bids_eq
  obtain ⟨asks, hasks⟩ := b.asks_eq
  have hmicro : computeMicroPrice b.bestBid b.bestAsk =
      .error (valueError "best_bid.volume + best_ask.volume must be positive") := if_pos hvolume
  have hvwaps := referenceVwaps_eq (w := w) (b := b)
  unfold update
  split
  next bestBid _ bestAsk _ hbids' hasks' =>
    cases hbids.symm.trans hbids'
    cases hasks.symm.trans hasks'
    simp only [ratioOrZero_eq, hvwaps, hmicro, bind, Except.bind]
    exact ⟨_, rfl⟩
  next hone => exact absurd hasks (hone _ _ _ _ hbids)

theorem update_skips {snapshot : OrderBookSnapshot} (h : TwoSidedBook.ofSnapshot snapshot = none) :
    w.update snapshot = .ok w := by
  unfold update
  split
  next hbids hasks =>
    rcases TwoSidedBook.oneSided_of_none h with hnil | hnil
    · cases hbids.symm.trans hnil
    · cases hasks.symm.trans hnil
  · rfl

end

/-- The window after the books of a stream. -/
def fed (quantity : ℚ) (bs : List TwoSidedBook) : TemporalFeatureWindow where
  notionalQuantity := quantity
  prev := bs.getLast?.map (TwoSidedBook.tick quantity)
  rows := (TwoSidedBook.batchRows quantity none bs).rtake TemporalFeatures.WINDOW_SIZE

section
variable {quantity : ℚ} {snapshots : List OrderBookSnapshot} {b : TwoSidedBook}
  {bs : List TwoSidedBook}

theorem fed_update (hvolume : 0 < b.totalVolume) :
    (fed quantity bs).update b.snapshot = .ok (fed quantity (bs ++ [b])) := by
  rw [update_book rfl hvolume]
  simp only [fed, pushBounded_rtake, TwoSidedBook.batchRows_concat, List.getLast?_concat,
    Option.or_none, Option.map_some]

theorem feed_concat (w : TemporalFeatureWindow) (snapshots : List OrderBookSnapshot)
    (snapshot : OrderBookSnapshot) :
    w.feed (snapshots ++ [snapshot]) = w.feed snapshots >>= fun w' => w'.update snapshot := by
  rw [feed, List.foldlM_append, feed]
  simp only [List.foldlM_cons, List.foldlM_nil, bind_pure]

theorem feed_of_weighed (quantity : ℚ) (h : ∀ b ∈ TwoSidedBook.books snapshots, 0 < b.totalVolume) :
    (create quantity).feed snapshots = .ok (fed quantity (TwoSidedBook.books snapshots)) := by
  induction snapshots using List.reverseRecOn with
  | nil => rfl
  | append_singleton snapshots snapshot ih =>
    rw [TwoSidedBook.books_concat] at h ⊢
    rw [feed_concat, ih fun b hb => h b (List.mem_append_left _ hb)]
    cases hbook : TwoSidedBook.ofSnapshot snapshot with
    | none =>
      rw [Option.toList_none, List.append_nil]
      exact update_skips hbook
    | some b =>
      have hsnapshot := TwoSidedBook.ofSnapshot_eq_some.mp hbook
      rw [Option.toList_some, ← hsnapshot]
      exact fed_update (h b (List.mem_append_right _ (by simp [hbook])))

theorem weighed_of_feed {w : TemporalFeatureWindow}
    (h : (create quantity).feed snapshots = .ok w) :
    ∀ b ∈ TwoSidedBook.books snapshots, 0 < b.totalVolume := by
  induction snapshots using List.reverseRecOn generalizing w with
  | nil =>
    intro b hb
    cases hb
  | append_singleton snapshots snapshot ih =>
    rw [feed_concat] at h
    obtain ⟨w', hw', hupdate⟩ := bind_ok h
    intro b hb
    rw [TwoSidedBook.books_concat] at hb
    rcases List.mem_append.mp hb with hb | hb
    · exact ih hw' b hb
    · have hsnapshot := TwoSidedBook.ofSnapshot_eq_some.mp (Option.mem_toList.mp hb)
      by_contra hweightless
      obtain ⟨e, he⟩ := update_weightless (w := w') (not_lt.mp hweightless)
      rw [← hsnapshot, he] at hupdate
      cases hupdate

theorem fed_isReady :
    (fed quantity bs).isReady = true ↔ TemporalFeatures.WINDOW_SIZE ≤ bs.length := by
  rw [isReady, beq_iff_eq, fed, Window.length_rtake, TwoSidedBook.batchRows_length, min_eq_left_iff]

end

/-- The rolling window is the end of the batch of rows. -/
theorem window_eq_batch (quantity : ℚ) (snapshots : List OrderBookSnapshot)
    (w : TemporalFeatureWindow) (h : (create quantity).feed snapshots = .ok w) :
    (w.isReady = true ↔
        TemporalFeatures.WINDOW_SIZE ≤ (TwoSidedBook.books snapshots).length) ∧
      (w.isReady = false → w.toTemporalFeatures = none) ∧
      (w.isReady = true → w.toTemporalFeatures = some
        ⟨(TwoSidedBook.batchRows quantity none (TwoSidedBook.books snapshots)).rtake
          TemporalFeatures.WINDOW_SIZE⟩) ∧
      ∀ features, w.toTemporalFeatures = some features →
        features.window.length = TemporalFeatures.WINDOW_SIZE ∧
          ∀ row ∈ features.window, row.length = TemporalFeatures.FEATURE_COUNT := by
  have hfed := feed_of_weighed quantity (weighed_of_feed h)
  cases h.symm.trans hfed
  refine ⟨fed_isReady, fun hready => ?_, fun hready => ?_, fun features hfeatures => ?_⟩
  · rw [toTemporalFeatures, hready]
    rfl
  · rw [toTemporalFeatures, hready]
    rfl
  · unfold toTemporalFeatures at hfeatures
    split at hfeatures
    next hready =>
      cases hfeatures
      refine ⟨beq_iff_eq.mp hready, fun row hrow => ?_⟩
      exact TwoSidedBook.length_of_mem_batchRows (Window.mem_of_mem_rtake hrow)
    · cases hfeatures

/-- A book without bids among a hundred others. -/
def sampleTicks : List OrderBookSnapshot :=
  List.replicate 60 ⟨"alpha", "BTC/USDT", 0, [⟨10, 2⟩], [⟨11, 1⟩]⟩ ++
    [⟨"alpha", "BTC/USDT", 1, [], [⟨11, 1⟩]⟩] ++
      List.replicate 40 ⟨"alpha", "BTC/USDT", 2, [⟨10, 3⟩, ⟨9, 0⟩], [⟨11, 0⟩]⟩

theorem window_eq_batch_sampleTicks :
    ∃ w, (create 1).feed sampleTicks = .ok w ∧ w.isReady = true := by
  have hweighed : ∀ b ∈ TwoSidedBook.books sampleTicks, 0 < b.totalVolume := by decide +kernel
  have hfed := feed_of_weighed 1 hweighed
  exact ⟨_, hfed, (window_eq_batch 1 sampleTicks _ hfed).1.mpr (by decide +kernel)⟩

end TemporalFeatureWindow

end BimodalArbitrage.Marketdata
