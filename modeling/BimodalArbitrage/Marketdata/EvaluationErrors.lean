import BimodalArbitrage.Coop.Play
import BimodalArbitrage.Marketdata.Trades

/-!
# Exceptions of an evaluation

An evaluation divides by prices of the books and by average prices, and squares what it
remembers. `except ValueError` stops the exceptions of thin books, not those of a division
by zero or of a square out of range.
-/

namespace BimodalArbitrage.Marketdata
open Coop Execution Ml BimodalArbitrage.Runtime
variable {N : Type} [PyFloat N]

/-- The override of an exchange's fee is a number, if there is one. -/
def FeeReadable (host : Host N) (exchangeId : String) : Prop :=
  ∀ override, host.environ ("EXCHANGE_TAKER_FEE_BPS_" ++ pyUpper exchangeId) = some override →
    ∃ fee, host.float override = .ok fee

theorem getTakerFeeBps_ok (host : Host N) (exchangeId : String) (defaultFeeBps : N) :
    (∃ fee, getTakerFeeBps host exchangeId defaultFeeBps = .ok fee) ↔
      FeeReadable host exchangeId := by
  unfold getTakerFeeBps FeeReadable
  cases host.environ ("EXCHANGE_TAKER_FEE_BPS_" ++ pyUpper exchangeId) with
  | none =>
    constructor
    · intro _ override h
      cases h
    · intro _
      exact ⟨_, rfl⟩
  | some override =>
    constructor
    · intro h override' heq
      cases heq
      exact h
    · intro h
      exact h override rfl

theorem orValueError_computeVwap {levels : List (OrderBookLevel N)} {quantity : N}
    {P : N → Prop} :
    OrValueError P (computeVwap levels quantity) ↔
      ∀ vwap, computeVwap levels quantity = .ok vwap → P vwap := by
  cases hvwap : computeVwap levels quantity with
  | ok vwap =>
    constructor
    · intro h vwap' heq
      cases heq
      exact h
    · intro h
      exact h vwap rfl
  | error e =>
    refine iff_of_true (computeVwap_cls hvwap) fun vwap heq => ?_
    cases heq

/-! ### Pairs -/

theorem orValueError_computeNetAlpha
    (vwapBidB tauB vwapAskA tauA slippageEst transferCost capitalUsd : N) :
    OrValueError (fun _ => True)
      (computeNetAlpha vwapBidB tauB vwapAskA tauA slippageEst transferCost capitalUsd) := by
  unfold computeNetAlpha
  split
  · exact rfl
  next hcapital =>
  dsimp only
  split
  · exact rfl
  next hdenom =>
  rw [orValueError_bind, orValueError_pyDiv]
  refine ⟨not_beq_of_not_le hdenom, ?_⟩
  rw [orValueError_bind, orValueError_pyDiv]
  exact ⟨not_beq_of_not_le hcapital, trivial⟩

namespace PairMonitor
variable {m : PairMonitor N} {asks bids : List (OrderBookLevel N)} {bestAskPrice : N}

/-- The best ask has a price, and where both sides fill the quantity, the fees are numbers. -/
def Quotable (m : PairMonitor N) (bestAskPrice : N) (asks bids : List (OrderBookLevel N)) :
    Prop :=
  let quantity := m.config.notionalPerTradeUsd / bestAskPrice
  ¬(bestAskPrice == 0) = true ∧
    ∀ vwapAskA, computeVwap asks quantity = .ok vwapAskA →
      ∀ vwapBidB, computeVwap bids quantity = .ok vwapBidB →
        FeeReadable m.host m.pair.exchangeBuy ∧ FeeReadable m.host m.pair.exchangeSell

theorem quote_ok_iff :
    (∃ q, m.quote bestAskPrice asks bids = .ok q) ↔ m.Quotable bestAskPrice asks bids := by
  by_cases hzero : (bestAskPrice == 0) = true
  · refine iff_of_false ?_ fun h => h.1 hzero
    rintro ⟨q, hq⟩
    rw [quote, pyDiv, if_pos hzero] at hq
    cases hq
  rw [quote, pyDiv_of_not_beq hzero, ok_bind]
  refine (tried_ok ?_).trans ?_
  · exact ⟨none, rfl⟩
  rw [orValueError_bind, orValueError_computeVwap, Quotable, and_iff_right hzero]
  refine forall₂_congr fun vwapAskA _ => ?_
  rw [orValueError_bind, orValueError_computeVwap]
  refine forall₂_congr fun vwapBidB _ => ?_
  refine bind_returns.trans ?_
  rw [← getTakerFeeBps_ok _ _ m.config.defaultTakerFeeBps,
    ← getTakerFeeBps_ok _ _ m.config.defaultTakerFeeBps]
  constructor
  · rintro ⟨feeA, hfeeA, hrest⟩
    obtain ⟨feeB, hfeeB, -⟩ := bind_returns.mp hrest
    exact ⟨⟨feeA, hfeeA⟩, feeB, hfeeB⟩
  · rintro ⟨⟨feeA, hfeeA⟩, feeB, hfeeB⟩
    refine ⟨feeA, hfeeA, bind_returns.mpr ⟨feeB, hfeeB, bind_returns.mpr ?_⟩⟩
    obtain ⟨netAlpha, hnetAlpha⟩ := tried_total (orValueError_computeNetAlpha vwapBidB
      (feeB / 10000) vwapAskA (feeA / 10000) 0.0005 0 m.config.notionalPerTradeUsd)
    exact ⟨netAlpha, hnetAlpha, _, rfl⟩

end PairMonitor

/-! ### Triangles -/

theorem orValueError_computeTriangularNetAlpha
    (quoteNotional vwapBridgeQuote vwapTargetBridge vwapTargetQuote tau : N) :
    OrValueError (fun _ => True) (computeTriangularNetAlpha quoteNotional vwapBridgeQuote
      vwapTargetBridge vwapTargetQuote tau) := by
  unfold computeTriangularNetAlpha
  split
  · exact rfl
  next hnotional =>
  split
  · exact rfl
  next hvwaps =>
  simp only [not_or] at hvwaps
  rw [orValueError_bind, orValueError_pyDiv]
  refine ⟨not_beq_of_not_le hvwaps.1, ?_⟩
  rw [orValueError_bind, orValueError_pyDiv]
  refine ⟨not_beq_of_not_le hvwaps.2.1, ?_⟩
  rw [orValueError_bind, orValueError_pyDiv]
  exact ⟨not_beq_of_not_le hnotional, trivial⟩

namespace TriangleMonitor
variable {m : TriangleMonitor N} {b : TriangleBooks N}

/-- As far as the legs are filled, they start at a price, are not filled for nothing, and
the fee of a cycle that fills all three is a number. -/
def Quotable (m : TriangleMonitor N) (b : TriangleBooks N) : Prop :=
  let notional := m.config.notionalPerTradeUsd
  ¬(b.bestBridgeQuoteAsk.price == 0) = true ∧
    ∀ vwap, computeVwap b.bridgeQuoteAsks (notional / b.bestBridgeQuoteAsk.price) = .ok vwap →
      ¬(vwap == 0) = true ∧ ¬(b.bestTargetBridgeAsk.price == 0) = true ∧
        ∀ vwap', computeVwap b.targetBridgeAsks (notional / vwap / b.bestTargetBridgeAsk.price) =
            .ok vwap' →
          ¬(vwap' == 0) = true ∧
            ∀ vwap'', computeVwap b.targetQuoteBids (notional / vwap / vwap') = .ok vwap'' →
              FeeReadable m.host m.triangle.exchange

theorem quote_ok_iff : (∃ q, m.quote b = .ok q) ↔ m.Quotable b := by
  rw [quote]
  refine (tried_ok ?_).trans ?_
  · exact ⟨none, rfl⟩
  rw [vwaps, orValueError_bind, orValueError_pyDiv, Quotable]
  refine and_congr_right fun _ => ?_
  rw [orValueError_bind, orValueError_computeVwap]
  refine forall₂_congr fun vwap _ => ?_
  rw [orValueError_bind, orValueError_pyDiv]
  refine and_congr_right fun _ => ?_
  rw [orValueError_bind, orValueError_pyDiv]
  refine and_congr_right fun _ => ?_
  rw [orValueError_bind, orValueError_computeVwap]
  refine forall₂_congr fun vwap' _ => ?_
  rw [orValueError_bind, orValueError_pyDiv]
  refine and_congr_right fun _ => ?_
  rw [orValueError_bind, orValueError_computeVwap]
  refine forall₂_congr fun vwap'' _ => ?_
  refine bind_returns.trans ?_
  rw [← getTakerFeeBps_ok _ _ m.config.defaultTakerFeeBps]
  refine exists_congr fun fee => and_iff_left ?_
  obtain ⟨alpha, halpha⟩ := tried_total (orValueError_computeTriangularNetAlpha
    m.config.notionalPerTradeUsd vwap vwap' vwap'' (fee / 10000))
  exact bind_returns.mpr ⟨alpha, halpha, _, rfl⟩

end TriangleMonitor

/-! ### Evaluations -/

def IsGate (ev : Event N) : Prop := ∃ path call, ev = .shouldExecute path call

section
variable {env : Env (AppState Binary64) (Event Binary64) (Call Binary64) Call.Reply PyError}
  {s : AppState Binary64} {h : List (Obs (Event Binary64) (Call Binary64) Call.Reply PyError)}

theorem updateHeuristic_survives_iff (host : Host Binary64) (id : MonitorId)
    (netAlphaBps midPriceReturn depthLiquidityHazard : Binary64)
    {f : ArbitrageSignal Binary64 → Proc Unit Binary64}
    (hf : ∀ signal, (f signal).Blameless IsGate) :
    ¬((updateHeuristic host id netAlphaBps midPriceReturn depthLiquidityHazard).bind f).BreaksBefore
        IsGate env s h ↔
      (s.monitors id).heuristic.SquaresFit defaultHeuristicConfig midPriceReturn := by
  have hscale : ¬((defaultHeuristicConfig (N := Binary64)).volatilityHazardScaleBps == 0) = true :=
    by decide +kernel
  rw [← HeuristicSignalEstimator.update_returns_iff (fun _ => Binary64.natCast_ne_zero) host.sqrt
    hscale (s.monitors id).heuristic netAlphaBps midPriceReturn depthLiquidityHazard]
  rw [updateHeuristic, Coro.bind_eq, Coro.bind_assoc, Coro.breaksBefore_state_bind, Coro.bind_eq,
    Coro.bind_assoc]
  refine Coro.lift_bind_survives_iff fun p => ?_
  obtain ⟨heuristic, signal⟩ := p
  exact fun _ => hf signal

namespace PairMonitor
variable {m : PairMonitor Binary64}

/-- The state the heuristic is updated in; `none` where the sample could not be logged. -/
def afterLog (m : PairMonitor Binary64)
    (env : Env (AppState Binary64) (Event Binary64) (Call Binary64) Call.Reply PyError)
    (s : AppState Binary64) (h : List (Obs (Event Binary64) (Call Binary64) Call.Reply PyError))
    (temporal : TemporalFeatures Binary64) (depth : DepthMatrix Binary64)
    (netAlphaBps : Binary64) : Option (AppState Binary64) :=
  if m.config.sampleLoggingEnabled then
    match env.answer h (.sampleLog m.pair temporal depth netAlphaBps) with
    | .ok _ => some (env.drift h s)
    | .error _ => none
  else some s

theorem gated_blameless (asks : List (OrderBookLevel Binary64)) (q : PairQuote Binary64)
    (signal : ArbitrageSignal Binary64) (netAlphaBps : Binary64) :
    (m.gated asks q signal netAlphaBps).Blameless IsGate :=
  fun _ => .inl ⟨_, _, rfl⟩

theorem decideOn_survives_iff (buySnapshot : OrderBookSnapshot Binary64) (q : PairQuote Binary64)
    (temporal : TemporalFeatures Binary64) (depth : DepthMatrix Binary64) :
    ¬(m.decideOn buySnapshot q temporal depth).BreaksBefore IsGate env s h ↔
      ∀ s' ∈ m.afterLog env s h temporal depth (q.netAlpha * 10000),
        (s'.monitors m.id).heuristic.SquaresFit defaultHeuristicConfig
          ((temporal.window.getLast?.bind List.head?).getD 0) := by
  obtain ⟨hazard, hhazard⟩ := computeDepthLiquidityHazard_total depth q.quantity .ask
  have hquiet : ¬IsGate (.book m.index (.heuristicUpdate buySnapshot temporal depth) :
      Event Binary64) := fun ⟨_, _, heq⟩ => by cases heq
  have hupdate : ∀ s h, ¬((Coro.lift (computeDepthLiquidityHazard depth q.quantity .ask)).bind
      fun hazard => (Coro.report (.book m.index (.heuristicUpdate buySnapshot temporal depth))).bind
        fun _ => (updateHeuristic m.host m.id (q.netAlpha * 10000)
          ((temporal.window.getLast?.bind List.head?).getD 0) hazard).bind
            fun signal => m.gated buySnapshot.asks q signal (q.netAlpha * 10000)).BreaksBefore
        IsGate env s h ↔ (s.monitors m.id).heuristic.SquaresFit defaultHeuristicConfig
          ((temporal.window.getLast?.bind List.head?).getD 0) := by
    intro s h
    rw [hhazard]
    change ¬((Coro.report _).bind _).BreaksBefore IsGate env s h ↔ _
    rw [Coro.breaksBefore_report_bind hquiet]
    exact updateHeuristic_survives_iff _ _ _ _ _ fun signal =>
      gated_blameless buySnapshot.asks q signal (q.netAlpha * 10000)
  change ¬((m.logSample temporal depth (q.netAlpha * 10000)).bind _).BreaksBefore IsGate env s h ↔ _
  unfold logSample afterLog
  split
  · rw [Coro.breaksBefore_call_bind]
    cases env.answer h (.sampleLog m.pair temporal depth (q.netAlpha * 10000)) with
    | ok _ =>
      simp only [Option.mem_some_iff, forall_eq']
      exact (not_congr
        ⟨fun ⟨_, _, hbreaks⟩ => hbreaks, fun hbreaks => ⟨(), trivial, hbreaks⟩⟩).trans
          (hupdate _ _)
    | error e =>
      refine iff_of_true ?_ fun s' hs' => absurd hs' (Option.not_mem_none s')
      rintro ⟨_, heq, -⟩
      cases heq
  · simp only [Option.mem_some_iff, forall_eq']
    exact hupdate s h

/-- The windows are not full, a side is empty, or the books can be priced and, where they
are, the squares fit that the heuristic takes. -/
def Evaluable (m : PairMonitor Binary64)
    (env : Env (AppState Binary64) (Event Binary64) (Call Binary64) Call.Reply PyError)
    (s : AppState Binary64) (h : List (Obs (Event Binary64) (Call Binary64) Call.Reply PyError))
    (buySnapshot sellSnapshot : OrderBookSnapshot Binary64) : Prop :=
  ∀ temporal ∈ (s.temporalWindow m.index).toTemporalFeatures,
    ∀ depth ∈ (s.depthBuilder m.index).toDepthMatrix,
      ∀ bestAsk ∈ buySnapshot.asks.head?, sellSnapshot.bids ≠ [] →
        m.Quotable bestAsk.price buySnapshot.asks sellSnapshot.bids ∧
          ∀ q, m.Quoted bestAsk.price buySnapshot.asks sellSnapshot.bids q →
            ∀ s' ∈ m.afterLog env s h temporal depth (q.netAlpha * 10000),
              (s'.monitors m.id).heuristic.SquaresFit defaultHeuristicConfig
                ((temporal.window.getLast?.bind List.head?).getD 0)

theorem evaluateBooks_survives_iff (buySnapshot sellSnapshot : OrderBookSnapshot Binary64) :
    ¬(m.evaluateBooks buySnapshot sellSnapshot).BreaksBefore IsGate env s h ↔
      m.Evaluable env s h buySnapshot sellSnapshot := by
  have hidle : ¬(Coro.pure () : Proc Unit Binary64).BreaksBefore IsGate env s h :=
    Coro.Blameless.not_breaksBefore (x := Coro.pure ()) trivial s h
  unfold evaluateBooks Evaluable
  split
  next bestAsk asks bestBid bids hasks hbids =>
    rw [Coro.bind_eq, Coro.breaksBefore_state_bind]
    split
    next temporal depth htemporal hdepth =>
      have hsides : ∀ P : OrderBookLevel Binary64 → Prop,
          (∀ best ∈ buySnapshot.asks.head?, sellSnapshot.bids ≠ [] → P best) ↔ P bestAsk := by
        simp [hasks, hbids]
      simp only [htemporal, hdepth, Option.mem_some_iff, forall_eq', hsides]
      rw [Coro.bind_eq, Coro.breaksBefore_lift_bind, ← quote_ok_iff]
      cases hquote : m.quote bestAsk.price buySnapshot.asks sellSnapshot.bids with
      | error e =>
        refine iff_of_false (fun hnot => hnot fun _ heq => by cases heq) ?_
        rintro ⟨⟨q, hq⟩, -⟩
        cases hq
      | ok quote =>
      cases quote with
      | none =>
        refine iff_of_true (fun hbreaks => hidle (hbreaks none rfl)) ⟨⟨none, rfl⟩, fun q hq => ?_⟩
        have hsome := hq.quote
        rw [hquote] at hsome
        cases hsome
      | some q =>
        have hquoted : ∀ q', m.Quoted bestAsk.price buySnapshot.asks sellSnapshot.bids q' ↔
            q' = q := by
          refine fun q' => ⟨fun hq' => ?_, fun heq => heq ▸ quote_ok hquote⟩
          have hsome := hq'.quote
          rw [hquote] at hsome
          cases hsome
          rfl
        simp only [hquoted, forall_eq, Except.ok.injEq, exists_eq', true_and, forall_eq']
        exact decideOn_survives_iff buySnapshot q temporal depth
    next hnot =>
      refine iff_of_true hidle fun temporal htemporal depth hdepth => ?_
      exact absurd hdepth (hnot temporal depth htemporal)
  next hone =>
    refine iff_of_true hidle fun _ _ _ _ bestAsk hbest hbids => ?_
    obtain ⟨asks, hasks⟩ := List.head?_eq_some_iff.mp hbest
    obtain ⟨bid, bids, hcons⟩ := List.exists_cons_of_ne_nil hbids
    exact absurd hcons (hone _ _ _ _ hasks)

end PairMonitor
namespace TriangleMonitor
variable {m : TriangleMonitor Binary64}

theorem gated_blameless (q : TriangleQuote Binary64) (signal : ArbitrageSignal Binary64)
    (netAlphaBps : Binary64) : (m.gated q signal netAlphaBps).Blameless IsGate :=
  fun _ => .inl ⟨_, _, rfl⟩

/-- A cycle is priced with the walks through its three books and the fee of its exchange. -/
structure Quoted (m : TriangleMonitor Binary64) (b : TriangleBooks Binary64)
    (q : TriangleQuote Binary64) : Prop where
  vwaps : m.vwaps b = .ok (q.vwapBridgeQuote, q.vwapTargetBridge, q.vwapTargetQuote)
  alpha : ∃ fee, getTakerFeeBps m.host m.triangle.exchange m.config.defaultTakerFeeBps = .ok fee ∧
    computeTriangularNetAlpha m.config.notionalPerTradeUsd q.vwapBridgeQuote q.vwapTargetBridge
      q.vwapTargetQuote (fee / 10000) = .ok q.alpha

theorem quote_some_iff {b : TriangleBooks Binary64} {q : TriangleQuote Binary64} :
    m.quote b = .ok (some q) ↔ m.Quoted b q := by
  constructor
  · intro h
    obtain ⟨vwaps, hvwaps, h⟩ := bind_ok h
    cases vwaps with
    | none => cases h
    | some vwaps =>
    obtain ⟨fee, hfee, h⟩ := bind_ok h
    obtain ⟨alpha, halpha, h⟩ := bind_ok h
    cases alpha with
    | none => cases h
    | some alpha =>
    cases h
    exact ⟨exceptValueError_some hvwaps, fee, hfee, exceptValueError_some halpha⟩
  · rintro ⟨hvwaps, fee, hfee, halpha⟩
    simp only [TriangleMonitor.quote, hvwaps, hfee, halpha, exceptValueError, ok_bind, pure,
      Except.pure, Option.map_some]

theorem midPriceReturn_total (prevMid : Option Binary64) (mid : Binary64) :
    ∃ midReturn, midPriceReturn prevMid mid = .ok midReturn := by
  cases prevMid with
  | none => exact ⟨0, rfl⟩
  | some prevMid =>
    unfold midPriceReturn ratioOrZero
    dsimp only
    split
    next hpos => exact ⟨_, pyDiv_of_not_beq (not_beq_of_not_le (PyFloat.not_le_of_lt hpos))⟩
    · exact ⟨0, rfl⟩

/-- The square of every deviation fits, with the return of this mid against the last. -/
def MidFits (m : TriangleMonitor Binary64) (s : AppState Binary64) (b : TriangleBooks Binary64) :
    Prop :=
  ∀ midReturn, midPriceReturn (s.prevTargetQuoteMid m.index)
      ((b.bestTargetQuoteBid.price + b.bestTargetQuoteAsk.price) / 2) = .ok midReturn →
    (s.monitors m.id).heuristic.SquaresFit defaultHeuristicConfig midReturn

theorem decideOn_survives_iff (b : TriangleBooks Binary64) (q : TriangleQuote Binary64) :
    ¬(m.decideOn b q).BreaksBefore IsGate env s h ↔ m.MidFits s b := by
  obtain ⟨midReturn, hreturn⟩ := midPriceReturn_total (s.prevTargetQuoteMid m.index)
    ((b.bestTargetQuoteBid.price + b.bestTargetQuoteAsk.price) / 2)
  have hfits : m.MidFits s b ↔
      (s.monitors m.id).heuristic.SquaresFit defaultHeuristicConfig midReturn := by
    simp only [MidFits, hreturn, Except.ok.injEq, forall_eq']
  rw [hfits, decideOn, Coro.bind_eq, Coro.breaksBefore_state_bind, hreturn]
  exact updateHeuristic_survives_iff _ _ _ _ _ fun signal =>
    gated_blameless q signal (q.alpha.netAlpha * 10000)

/-- `_evaluate_once` on the three books it has read. -/
def evaluateBooks (m : TriangleMonitor N)
    (bridgeQuote targetBridge targetQuote : OrderBookSnapshot N) : Proc Unit N :=
  match TriangleBooks.ofSnapshots bridgeQuote targetBridge targetQuote with
  | none => pure ()
  | some books => do
    let q ← Coro.lift (m.quote books)
    match q with
    | none => pure ()
    | some q => m.decideOn books q

/-- A side is empty, or the books can be priced and, where they are, the squares fit that
the heuristic takes. -/
def Evaluable (m : TriangleMonitor Binary64) (s : AppState Binary64)
    (bridgeQuote targetBridge targetQuote : OrderBookSnapshot Binary64) : Prop :=
  ∀ books ∈ TriangleBooks.ofSnapshots bridgeQuote targetBridge targetQuote,
    m.Quotable books ∧ ∀ q, m.Quoted books q → m.MidFits s books

theorem evaluateBooks_survives_iff
    (bridgeQuote targetBridge targetQuote : OrderBookSnapshot Binary64) :
    ¬(m.evaluateBooks bridgeQuote targetBridge targetQuote).BreaksBefore IsGate env s h ↔
      m.Evaluable s bridgeQuote targetBridge targetQuote := by
  have hidle : ¬(Coro.pure () : Proc Unit Binary64).BreaksBefore IsGate env s h :=
    Coro.Blameless.not_breaksBefore (x := Coro.pure ()) trivial s h
  unfold evaluateBooks Evaluable
  cases TriangleBooks.ofSnapshots bridgeQuote targetBridge targetQuote with
  | none => exact iff_of_true hidle fun books hnone => absurd hnone (Option.not_mem_none books)
  | some b =>
    simp only [Option.mem_some_iff, forall_eq']
    rw [Coro.bind_eq, Coro.breaksBefore_lift_bind, ← quote_ok_iff]
    simp only [← quote_some_iff]
    cases m.quote b with
    | error e =>
      refine iff_of_false (fun hnot => hnot fun _ heq => by cases heq) ?_
      rintro ⟨⟨q, hq⟩, -⟩
      cases hq
    | ok quote =>
    cases quote with
    | none =>
      refine iff_of_true (fun hbreaks => hidle (hbreaks none rfl)) ⟨⟨none, rfl⟩, fun q hq => ?_⟩
      cases hq
    | some q =>
      simp only [Except.ok.injEq, Option.some.injEq, forall_eq', exists_eq', true_and]
      exact decideOn_survives_iff b q

end TriangleMonitor
end
end BimodalArbitrage.Marketdata
