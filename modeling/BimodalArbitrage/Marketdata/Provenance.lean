import BimodalArbitrage.Coop.History
import BimodalArbitrage.Marketdata.DepthRows
import BimodalArbitrage.Runtime.Trace
import Mathlib.Tactic.NormNum

/-!
# Where the rows of a decision come from

A monitor keeps rows and forgets the books they were computed from. `Provenance` is
told by the events which books these were.
-/

namespace BimodalArbitrage.Marketdata
open Coop BimodalArbitrage.Runtime

/-- The temporal window takes a book that has both sides. -/
def twoSided (snapshot : OrderBookSnapshot) : Bool :=
  !snapshot.bids.isEmpty && !snapshot.asks.isEmpty

/-- The depth builder takes a book whose mid price is positive as well. -/
def midPositive (snapshot : OrderBookSnapshot) : Bool :=
  match snapshot.bids, snapshot.asks with
  | bestBid :: _, bestAsk :: _ => decide (0 < (bestBid.price + bestAsk.price) / 2)
  | _, _ => false

section
variable {snapshot : OrderBookSnapshot}

theorem TemporalFeatureWindow.update_oneSided (w : TemporalFeatureWindow)
    (h : twoSided snapshot = false) : w.update snapshot = .ok w := by
  unfold update
  split
  next bestBid bids bestAsk asks hbids hasks => simp [twoSided, hbids, hasks] at h
  · rfl

namespace DepthMatrixBuilder
variable {b : DepthMatrixBuilder}

theorem update_skips (hwidth : 0 < b.binWidthPct) (h : midPositive snapshot = false) :
    b.update snapshot = .ok b := by
  unfold update
  split
  next bestBid bids bestAsk asks hbids hasks =>
    simp only [midPositive, hbids, hasks, decide_eq_false_iff_not, not_lt] at h
    exact if_pos (mul_nonpos_of_nonpos_of_nonneg h hwidth.le)
  · rfl

theorem update_ok (b : DepthMatrixBuilder) (snapshot : OrderBookSnapshot) :
    ∃ b', b.update snapshot = .ok b' ∧ b'.binWidthPct = b.binWidthPct := by
  cases hbook : TwoSidedBook.ofSnapshot snapshot with
  | none => exact ⟨b, update_oneSided hbook, rfl⟩
  | some t =>
    rw [← TwoSidedBook.ofSnapshot_eq_some.mp hbook]
    rcases le_or_gt (t.midPrice * b.binWidthPct) 0 with hflat | hwidth
    · exact ⟨b, update_flat hflat, rfl⟩
    · exact ⟨_, update_book hwidth, rfl⟩

end DepthMatrixBuilder
end

/-! ### Provenance -/

/-- The book that was delivered last, the books that the last rows were computed from, and
whether the estimator was fed since the last temporal row. -/
structure Provenance where
  delivered : Option OrderBookSnapshot
  temporal : Option OrderBookSnapshot
  depth : Option OrderBookSnapshot
  fed : Bool

namespace Provenance

def initial : Provenance := ⟨none, none, none, false⟩

def step (p : Provenance) : BookUse → Provenance
  | .temporalUpdate snapshot =>
    if twoSided snapshot then
      { p with delivered := some snapshot, temporal := some snapshot, fed := false }
    else { p with delivered := some snapshot }
  | .depthUpdate snapshot => if midPositive snapshot then { p with depth := some snapshot } else p
  | .heuristicUpdate .. => { p with fed := true }

end Provenance

def provenance (uses : List BookUse) : Provenance := uses.foldl Provenance.step .initial

theorem provenance_snoc (uses : List BookUse) (use : BookUse) :
    provenance (uses ++ [use]) = (provenance uses).step use := by
  rw [provenance, List.foldl_append]
  rfl

theorem twoSided_of_midPositive {snapshot : OrderBookSnapshot} (h : midPositive snapshot = true) :
    twoSided snapshot = true := by
  unfold midPositive at h
  split at h
  next bestBid bids bestAsk asks hbids hasks => simp [twoSided, hbids, hasks]
  · cases h

/-- The rows that are kept are those of the books that `p` names. -/
structure RowsOf (p : Provenance) (w : TemporalFeatureWindow) (b : DepthMatrixBuilder) : Prop where
  temporal : ∀ x ∈ p.temporal, ∃ w₀ : TemporalFeatureWindow, w₀.update x = .ok w
  depth : ∀ x ∈ p.depth, ∃ b₀ : DepthMatrixBuilder, b₀.update x = .ok b
  width : 0 < b.binWidthPct
  aligned : ∀ x ∈ p.temporal, midPositive x = true → p.depth = some x
  positive : ∀ x ∈ p.depth, midPositive x = true

/-- Nothing was fed since a delivery that made a temporal row. -/
def Provenance.Fresh (p : Provenance) : Prop :=
  ∀ y ∈ p.delivered, twoSided y = true → p.fed = false

section
variable {p : Provenance} {w w' : TemporalFeatureWindow} {b b' : DepthMatrixBuilder}
  {snapshot : OrderBookSnapshot}

theorem rowsOf_initial : RowsOf .initial .initial .initial where
  temporal _ h := by cases h
  depth _ h := by cases h
  width := by norm_num [DepthMatrixBuilder.initial]
  aligned _ h := by cases h
  positive _ h := by cases h

theorem RowsOf.deliver (h : RowsOf p w b) (hwindow : w.update snapshot = .ok w')
    (hbuilder : b.update snapshot = .ok b') :
    RowsOf ((p.step (.temporalUpdate snapshot)).step (.depthUpdate snapshot)) w' b' := by
  have hwidth : 0 < b'.binWidthPct := by
    obtain ⟨b'', hb'', heq⟩ := b.update_ok snapshot
    rw [hbuilder] at hb''
    cases hb''
    rw [heq]
    exact h.width
  by_cases htwo : twoSided snapshot = true
  · by_cases hmid : midPositive snapshot = true
    · simp only [Provenance.step, htwo, hmid, if_true]
      refine ⟨?_, ?_, hwidth, ?_, ?_⟩ <;> simp only [Option.mem_def, Option.some.injEq, forall_eq']
      · exact ⟨w, hwindow⟩
      · exact ⟨b, hbuilder⟩
      · exact fun _ => trivial
      · exact hmid
    · simp only [Provenance.step, htwo, hmid, if_true, Bool.false_eq_true, if_false]
      rw [DepthMatrixBuilder.update_skips h.width (by simpa using hmid)] at hbuilder
      cases hbuilder
      refine ⟨?_, h.depth, hwidth, ?_, h.positive⟩ <;>
        simp only [Option.mem_def, Option.some.injEq, forall_eq']
      · exact ⟨w, hwindow⟩
      · exact fun hpos => absurd hpos hmid
  · have hmid : ¬midPositive snapshot = true := fun hpos => htwo (twoSided_of_midPositive hpos)
    simp only [Provenance.step, htwo, hmid, Bool.false_eq_true, if_false]
    rw [DepthMatrixBuilder.update_skips h.width (by simpa using hmid)] at hbuilder
    rw [TemporalFeatureWindow.update_oneSided w (by simpa using htwo)] at hwindow
    cases hbuilder
    cases hwindow
    exact ⟨h.temporal, h.depth, hwidth, h.aligned, h.positive⟩

theorem fresh_deliver :
    ((p.step (.temporalUpdate snapshot)).step (.depthUpdate snapshot)).Fresh := by
  intro y hy htwo
  by_cases hsides : twoSided snapshot = true
  · by_cases hmid : midPositive snapshot = true <;> simp [Provenance.step, hsides, hmid]
  · have hmid : ¬midPositive snapshot = true := fun hpos => hsides (twoSided_of_midPositive hpos)
    simp only [Provenance.step, hsides, hmid, Bool.false_eq_true, if_false, Option.mem_def,
      Option.some.injEq] at hy
    exact absurd (hy ▸ htwo) hsides

theorem RowsOf.feed (h : RowsOf p w b) (buySnapshot : OrderBookSnapshot)
    (temporal : TemporalFeatures) (depth : DepthMatrix) :
    RowsOf (p.step (.heuristicUpdate buySnapshot temporal depth)) w b :=
  ⟨h.temporal, h.depth, h.width, h.aligned, h.positive⟩

end

/-! ### Decisions -/

section
variable (p : Provenance) (buySnapshot : OrderBookSnapshot) (temporal : TemporalFeatures)
  (depth : DepthMatrix)

/-- The rows are those of the book that was read, and no estimate was made of them before. -/
structure UsesOneBook : Prop where
  temporal_book : p.temporal = some buySnapshot
  depth_book : p.depth = some buySnapshot
  once : p.fed = false
  temporal_rows : ∃ w₀ w : TemporalFeatureWindow, w₀.update buySnapshot = .ok w ∧
    temporal.window = w.rows
  depth_rows : ∃ b₀ b : DepthMatrixBuilder, b₀.update buySnapshot = .ok b ∧ depth.grid = b.rows

/-- The book that was read is the last two-sided one delivered, its mid price is positive,
and the delivery that led here was two-sided or is the first to come to an estimate since. -/
structure ReadsLastTwoSided : Prop where
  last : p.temporal = some buySnapshot
  positive : midPositive buySnapshot = true
  first : (∃ y ∈ p.delivered, twoSided y = true) ∨ p.fed = false

/-- What holds wherever an estimate is made. -/
structure Known : Prop where
  aligned : ∀ x ∈ p.temporal, midPositive x = true → p.depth = some x
  positive : ∀ x ∈ p.depth, midPositive x = true
  fresh : p.Fresh
  temporal_rows : ∀ x ∈ p.temporal, ∃ w₀ w : TemporalFeatureWindow, w₀.update x = .ok w ∧
    temporal.window = w.rows
  depth_rows : ∀ x ∈ p.depth, ∃ b₀ b : DepthMatrixBuilder, b₀.update x = .ok b ∧ depth.grid = b.rows

end

section
variable {p : Provenance} {buySnapshot : OrderBookSnapshot} {temporal : TemporalFeatures}
  {depth : DepthMatrix}

theorem Known.usesOneBook_iff (h : Known p temporal depth) :
    UsesOneBook p buySnapshot temporal depth ↔ ReadsLastTwoSided p buySnapshot := by
  constructor
  · intro huses
    exact ⟨huses.temporal_book, h.positive _ huses.depth_book, .inr huses.once⟩
  · rintro ⟨hlast, hpositive, hfirst⟩
    have hdepth := h.aligned _ hlast hpositive
    refine ⟨hlast, hdepth, ?_, h.temporal_rows _ hlast, h.depth_rows _ hdepth⟩
    rcases hfirst with ⟨y, hy, htwo⟩ | hfed
    · exact h.fresh y hy htwo
    · exact hfed

theorem RowsOf.known {w : TemporalFeatureWindow} {b : DepthMatrixBuilder} (h : RowsOf p w b)
    (hfresh : p.Fresh) (htemporal : w.toTemporalFeatures = some temporal)
    (hdepth : b.toDepthMatrix = some depth) : Known p temporal depth where
  aligned := h.aligned
  positive := h.positive
  fresh := hfresh
  temporal_rows x hx := by
    obtain ⟨w₀, hw₀⟩ := h.temporal x hx
    refine ⟨w₀, w, hw₀, ?_⟩
    unfold TemporalFeatureWindow.toTemporalFeatures at htemporal
    split at htemporal
    · cases htemporal
      rfl
    · cases htemporal
  depth_rows x hx := by
    obtain ⟨b₀, hb₀⟩ := h.depth x hx
    refine ⟨b₀, b, hb₀, ?_⟩
    unfold DepthMatrixBuilder.toDepthMatrix at hdepth
    split at hdepth
    · cases hdepth
      rfl
    · cases hdepth

end
end BimodalArbitrage.Marketdata
