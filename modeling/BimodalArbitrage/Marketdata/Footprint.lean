import BimodalArbitrage.Coop.Frame
import BimodalArbitrage.Marketdata.Trades

/-!
# What an evaluation leaves alone

Up to the gate an evaluation moves nothing but histories, windows and heuristics.
The rules below reduce an invariant of an evaluation to its gated trade.
-/

namespace BimodalArbitrage.Marketdata
open Coop Execution Ml Coro BimodalArbitrage.Runtime
variable {N : Type}

structure SameLedgers (s s' : AppState N) : Prop where
  evaluating : ∀ m, (s'.monitors m).evaluating = (s.monitors m).evaluating
  daily : ∀ m, (s'.monitors m).dailyNotionalUsedUsd = (s.monitors m).dailyNotionalUsedUsd

structure SameAccounts (s s' : AppState N) : Prop extends SameLedgers s s' where
  heuristic : ∀ m, (s'.monitors m).heuristic = (s.monitors m).heuristic

structure SameFeeds (s s' : AppState N) : Prop where
  feeds : s'.feeds = s.feeds
  run : ∀ m, (s'.monitors m).run = (s.monitors m).run

structure Steady (s s' : AppState N) : Prop extends SameAccounts s s', SameFeeds s s'

theorem Steady.of_eq {s s' : AppState N} (hmonitors : s'.monitors = s.monitors)
    (hfeeds : s'.feeds = s.feeds) : Steady s s' where
  evaluating _ := by rw [hmonitors]
  daily _ := by rw [hmonitors]
  feeds := hfeeds
  run _ := by rw [hmonitors]
  heuristic _ := by rw [hmonitors]

structure SameSignals (s s' : AppState N) : Prop where
  signalHistory : s'.signalHistory = s.signalHistory
  nextSignal : s'.nextSignal = s.nextSignal

/-- What an evaluation moves before it comes to its gate: the windows of its feed and the
mid it remembers. -/
def Preparatory (s s' : AppState N) : Prop :=
  s' = { s with
    temporalWindow := s'.temporalWindow
    depthBuilder := s'.depthBuilder
    prevTargetQuoteMid := s'.prevTargetQuoteMid }

theorem Preparatory.steady (s s' : AppState N) (h : Preparatory s s') : Steady s s' := by
  unfold Preparatory at h
  refine .of_eq ?_ ?_ <;> rw [h]

theorem Preparatory.signals {s s' : AppState N} (h : Preparatory s s') : SameSignals s s' := by
  unfold Preparatory at h
  constructor <;> rw [h]

theorem onMonitor_field {β : Type} (field : MonitorState N → β)
    {f : MonitorState N → MonitorState N} (hf : ∀ st, field (f st) = field st) (m : MonitorId)
    (s : AppState N) (m' : MonitorId) :
    field ((s.onMonitor m f).monitors m') = field (s.monitors m') := by
  by_cases h : m' = m
  · subst h
    rw [AppState.onMonitor_self, hf]
  · rw [AppState.onMonitor_of_ne h]

/-! Taking a lock and giving it back touches the lock and nothing else. -/

theorem setLock_self (f : Feed) (holder : Option Feed) (s : AppState N) :
    ((setLock f holder s).monitors f.monitor).evaluating = holder := by
  rw [setLock, AppState.onMonitor_self]

theorem setLock_of_ne {f : Feed} {m : MonitorId} (h : m ≠ f.monitor) (holder : Option Feed)
    (s : AppState N) :
    ((setLock f holder s).monitors m).evaluating = (s.monitors m).evaluating := by
  rw [setLock, AppState.onMonitor_of_ne h]

theorem setLock_daily (f : Feed) (holder : Option Feed) (s : AppState N) (m : MonitorId) :
    ((setLock f holder s).monitors m).dailyNotionalUsedUsd =
      (s.monitors m).dailyNotionalUsedUsd :=
  onMonitor_field MonitorState.dailyNotionalUsedUsd (fun _ => by rfl) f.monitor s m

theorem setLock_heuristic (f : Feed) (holder : Option Feed) (s : AppState N) (m : MonitorId) :
    ((setLock f holder s).monitors m).heuristic = (s.monitors m).heuristic :=
  onMonitor_field MonitorState.heuristic (fun _ => by rfl) f.monitor s m

variable [PyFloat N]

theorem steady_recordSignal (symbol exchangeBuy exchangeSell : String) (call : GateCall N)
    (s : AppState N) : Steady s (s.recordSignal symbol exchangeBuy exchangeSell call) := by
  refine .of_eq ?_ ?_ <;> simp only [AppState.recordSignal]

omit [PyFloat N] in
theorem steady_recordOutcome (record : ℕ) (result : TradeExecutionResult N) (s : AppState N) :
    Steady s (s.recordOutcome record result) := .of_eq rfl rfl

/-! ### Footprints -/

theorem acts_feeds {α : Type} {P : Event N → Prop} {x : Proc α N} {s : AppState N}
    (h : x.Acts Steady P s) : x.Acts SameFeeds P s :=
  h.mono (fun _ _ hs => hs.toSameFeeds) fun _ => id

section
variable {T : AppState N → AppState N → Prop} {P : Event N → Prop}

theorem acts_getSnapshot (exchange symbol : String) (s : AppState N) :
    (cache.getSnapshot exchange symbol).Acts T P s := by
  refine acts_bind (acts_call_bind fun raw s => ?_) fun _ _ => trivial
  exact fun _ => trivial

theorem acts_setSnapshot (snapshot : OrderBookSnapshot N) (s : AppState N) :
    (cache.setSnapshot snapshot).Acts T P s :=
  acts_call_bind fun _ _ _ => trivial

namespace PairMonitor

theorem acts_readBooks (m : PairMonitor N) (s : AppState N) : m.readBooks.Acts T P s := by
  refine acts_bind (acts_getSnapshot _ _ s) fun _ s => ?_
  exact acts_bind (acts_getSnapshot _ _ s) fun _ _ => trivial

theorem acts_logSample (m : PairMonitor N) (temporal : TemporalFeatures N) (depth : DepthMatrix N)
    (netAlphaBps : N) (s : AppState N) : (m.logSample temporal depth netAlphaBps).Acts T P s := by
  unfold logSample
  split
  · exact acts_call _
  · trivial

end PairMonitor
end

/-! ### Rules for an evaluation -/

section
variable {ι : Type} {rules : Rules ι (AppState N) (Event N) (Call N) Call.Reply PyError Inp}
  {K : Contract ι (AppState N) (Event N) Inp} {i : ι}
  {J : World ι (AppState N) (Event N) → World ι (AppState N) (Event N) → Prop}
  {Q : Except PyError Unit → World ι (AppState N) (Event N) → World ι (AppState N) (Event N) → Prop}

/-- The gate is asked in the state it finds, and lets exactly the approved through. -/
theorem wp_gate_bind (m : MonitorId) (symbol exchangeBuy exchangeSell : String) (netAlphaBps : N)
    (signal : ArbitrageSignal N) (notional : N) (f : Option ℕ → Proc Unit N)
    {u w : World ι (AppState N) (Event N)} :
    let call := monitorCall w.state m netAlphaBps signal notional
    wp rules K i
        ((gate m symbol exchangeBuy exchangeSell netAlphaBps signal notional).bind f) Q u w ↔
      wp rules K i (f (if call.verdict.1 then some w.state.nextSignal else none)) Q u
        ((w.emit i (.shouldExecute (.monitor m) call)).put
          (w.state.recordSignal symbol exchangeBuy exchangeSell call)) := Iff.rfl

theorem PairMonitor.wp_decideOn {m : PairMonitor N} {P : Event N → Prop}
    (hK : Kept rules K i Preparatory P J) (hQ : ∀ r u w, J u w → Q r u w)
    (hbook : ∀ use, P (.book m.index use)) {buySnapshot : OrderBookSnapshot N} {q : PairQuote N}
    (hdecide : ∀ netAlphaBps midPriceReturn hazard u w, J u w →
      wp rules K i ((updateHeuristic m.host m.id netAlphaBps midPriceReturn hazard).bind
        fun signal => m.gated buySnapshot.asks q signal netAlphaBps) Q u w)
    (temporal : TemporalFeatures N) (depth : DepthMatrix N) {u w : World ι (AppState N) (Event N)}
    (h : J u w) : wp rules K i (m.decideOn buySnapshot q temporal depth) Q u w := by
  refine wp_acts_bind hK (m.acts_logSample temporal depth _ _) h (fun _ u w h => ?_)
    fun e => hQ (.error e)
  refine wp_lift_bind (fun hazard _ => ?_) fun e _ => hQ (.error e) u w h
  exact wp_report_bind (hdecide _ _ hazard u _ (hK.emit h (hbook _)))

theorem PairMonitor.wp_evaluateOnce_of_preparatory {m : PairMonitor N} {P : Event N → Prop}
    (hK : Kept rules K i Preparatory P J) (hQ : ∀ r u w, J u w → Q r u w)
    (hbook : ∀ use, P (.book m.index use))
    (hdecide : ∀ best asks bids q, m.quote best.price (best :: asks) bids = .ok (some q) →
      ∀ netAlphaBps midPriceReturn hazard u w, J u w →
        wp rules K i ((updateHeuristic m.host m.id netAlphaBps midPriceReturn hazard).bind
          fun signal => m.gated (best :: asks) q signal netAlphaBps) Q u w)
    {u w : World ι (AppState N) (Event N)} (h : J u (w.emit i (.evaluateOnce m.id))) :
    wp rules K i m.evaluateOnce Q u w := by
  have hbooks : ∀ buy sell u w, J u w → wp rules K i (m.evaluateBooks buy sell) Q u w := by
    intro buy sell u w h
    unfold evaluateBooks
    split
    next best asks bestBid bids hasks hbids =>
      refine wp_state_bind ?_
      split
      · refine wp_lift_bind (fun quote hquote => ?_) fun e _ => hQ (.error e) u w h
        cases quote with
        | none => exact hQ _ u w h
        | some q =>
          rw [hasks] at hquote
          exact wp_decideOn hK hQ hbook (hasks ▸ hdecide best asks _ q hquote) _ _ h
      · exact hQ _ u w h
    · exact hQ _ u w h
  rw [evaluateOnce, bind_eq, wp_bind, wp_report, ends_ok]
  refine wp_acts_bind hK (m.acts_readBooks _) h (fun books u w h => ?_) fun e => hQ (.error e)
  obtain ⟨buy, sell⟩ := books
  cases buy with
  | none => exact hQ _ u w h
  | some buy =>
  cases sell with
  | none => exact hQ _ u w h
  | some sell => exact hbooks _ _ u w h

theorem PairMonitor.wp_evaluateOnce {m : PairMonitor N} {P : Event N → Prop}
    (hK : Kept rules K i Steady P J) (hQ : ∀ r u w, J u w → Q r u w)
    (hbook : ∀ use, P (.book m.index use))
    (hdecide : ∀ best asks bids q, m.quote best.price (best :: asks) bids = .ok (some q) →
      ∀ netAlphaBps midPriceReturn hazard u w, J u w →
        wp rules K i ((updateHeuristic m.host m.id netAlphaBps midPriceReturn hazard).bind
          fun signal => m.gated (best :: asks) q signal netAlphaBps) Q u w)
    {u w : World ι (AppState N) (Event N)} (h : J u (w.emit i (.evaluateOnce m.id))) :
    wp rules K i m.evaluateOnce Q u w :=
  wp_evaluateOnce_of_preparatory (hK.mono Preparatory.steady fun _ h => h) hQ hbook hdecide h

theorem TriangleMonitor.wp_decideOn {m : TriangleMonitor N} {P : Event N → Prop}
    (hK : Kept rules K i Preparatory P J) (hQ : ∀ r u w, J u w → Q r u w) {q : TriangleQuote N}
    (hdecide : ∀ netAlphaBps midPriceReturn hazard u w, J u w →
      wp rules K i ((updateHeuristic m.host m.id netAlphaBps midPriceReturn hazard).bind
        fun signal => m.gated q signal netAlphaBps) Q u w)
    (books : TriangleBooks N) {u w : World ι (AppState N) (Event N)} (h : J u w) :
    wp rules K i (m.decideOn books q) Q u w := by
  refine wp_state_bind (wp_lift_bind (fun midPriceReturn _ => ?_) fun e _ => hQ (.error e) u w h)
  refine wp_modify_bind hK h rfl fun w h => ?_
  exact hdecide _ midPriceReturn 0 u w h

theorem TriangleMonitor.wp_evaluateOnce_of_preparatory {m : TriangleMonitor N} {P : Event N → Prop}
    (hK : Kept rules K i Preparatory P J) (hQ : ∀ r u w, J u w → Q r u w)
    (hdecide : ∀ q netAlphaBps midPriceReturn hazard u w, J u w →
      wp rules K i ((updateHeuristic m.host m.id netAlphaBps midPriceReturn hazard).bind
        fun signal => m.gated q signal netAlphaBps) Q u w)
    {u w : World ι (AppState N) (Event N)} (h : J u (w.emit i (.evaluateOnce m.id))) :
    wp rules K i m.evaluateOnce Q u w := by
  rw [evaluateOnce, bind_eq, wp_bind, wp_report, ends_ok]
  refine wp_acts_bind hK (acts_getSnapshot _ _ _) h (fun bridgeQuote u w h => ?_)
    fun e => hQ (.error e)
  refine wp_acts_bind hK (acts_getSnapshot _ _ _) h (fun targetBridge u w h => ?_)
    fun e => hQ (.error e)
  refine wp_acts_bind hK (acts_getSnapshot _ _ _) h (fun targetQuote u w h => ?_)
    fun e => hQ (.error e)
  cases bridgeQuote with
  | none => exact hQ _ u w h
  | some bridgeQuote =>
  cases targetBridge with
  | none => exact hQ _ u w h
  | some targetBridge =>
  cases targetQuote with
  | none => exact hQ _ u w h
  | some targetQuote =>
  dsimp only
  cases TriangleBooks.ofSnapshots bridgeQuote targetBridge targetQuote with
  | none => exact hQ _ u w h
  | some books =>
  refine wp_lift_bind (fun quote _ => ?_) fun e _ => hQ (.error e) u w h
  cases quote with
  | none => exact hQ _ u w h
  | some q => exact wp_decideOn hK hQ (hdecide q) books h

theorem TriangleMonitor.wp_evaluateOnce {m : TriangleMonitor N} {P : Event N → Prop}
    (hK : Kept rules K i Steady P J) (hQ : ∀ r u w, J u w → Q r u w)
    (hdecide : ∀ q netAlphaBps midPriceReturn hazard u w, J u w →
      wp rules K i ((updateHeuristic m.host m.id netAlphaBps midPriceReturn hazard).bind
        fun signal => m.gated q signal netAlphaBps) Q u w)
    {u w : World ι (AppState N) (Event N)} (h : J u (w.emit i (.evaluateOnce m.id))) :
    wp rules K i m.evaluateOnce Q u w :=
  wp_evaluateOnce_of_preparatory (hK.mono Preparatory.steady fun _ h => h) hQ hdecide h

theorem wp_updateHeuristic_bind {T : AppState N → AppState N → Prop} {P : Event N → Prop}
    (hK : Kept rules K i T P J)
    (hT : ∀ m h s, T s (s.onMonitor m fun st => { st with heuristic := h }))
    (hQ : ∀ r u w, J u w → Q r u w) {host : Host N} {m : MonitorId}
    {f : ArbitrageSignal N → Proc Unit N}
    (hf : ∀ signal u w, J u w → wp rules K i (f signal) Q u w)
    {netAlphaBps midPriceReturn hazard : N} {u w : World ι (AppState N) (Event N)} (h : J u w) :
    wp rules K i ((updateHeuristic host m netAlphaBps midPriceReturn hazard).bind f) Q u w := by
  refine wp_acts_bind hK (acts_state_bind (acts_lift_bind fun p _ => ?_)) h hf
    fun e => hQ (.error e)
  exact acts_modify_bind (hT m p.1 w.state) trivial

/-! ### Rules for the callbacks -/

/-- A tick is skipped or evaluated: the lock it finds free it takes at once. -/
theorem wp_underLock_iff (f : Feed) (evaluateOnce : Proc Unit N)
    {u w : World ι (AppState N) (Event N)} :
    wp rules K i (underLock f evaluateOnce) Q u w ↔
      if (w.state.monitors f.monitor).evaluating.isSome then Q (.ok ()) u w
      else wp rules K i evaluateOnce (fun r u w => Q r u
          ((w.emit i (.evaluationOver f.monitor)).put (setLock f none w.state))) u
        (w.put (setLock f (some f) w.state)) := by
  rw [underLock, bind_eq, wp_bind, wp_state, ends_ok]
  split
  · exact Iff.rfl
  next hfree =>
    rw [bind_eq, wp_bind, acquire, bind_eq, wp_bind, wp_state, ends_ok, if_neg hfree, wp_modify,
      ends_ok, wp_ensuring]
    exact Iff.rfl

theorem wp_underLock {T : AppState N → AppState N → Prop} {P : Event N → Prop}
    (hK : Kept rules K i T P J) (f : Feed) (hT : ∀ holder s, T s (setLock f holder s))
    (hP : P (.evaluationOver f.monitor)) {evaluateOnce : Proc Unit N}
    (hevaluate : ∀ u w, J u w → wp rules K i evaluateOnce (fun _ => J) u w)
    (u w : World ι (AppState N) (Event N)) (h : J u w) :
    wp rules K i (underLock f evaluateOnce) (fun _ => J) u w := by
  rw [wp_underLock_iff]
  split
  · exact h
  · refine wp_mono _ (fun r u w h => ?_) (hevaluate u _ (hK.set h (hT ..)))
    exact hK.set (hK.emit h hP) (hT ..)

theorem PairMonitor.wp_onBuySnapshot {m : PairMonitor N} {P : Event N → Prop}
    (hK : Kept rules K i Preparatory P J) (hQ : ∀ r u w, J u w → Q r u w)
    (hbook : ∀ use, P (.book m.index use))
    (hlock : ∀ u w, J u w → wp rules K i (underLock (.buy m.index) m.evaluateOnce) Q u w)
    (snapshot : OrderBookSnapshot N) {u w : World ι (AppState N) (Event N)} (h : J u w) :
    wp rules K i (m.onBuySnapshot snapshot) Q u w := by
  refine wp_acts_bind hK (acts_setSnapshot snapshot _) h (fun _ u w h => ?_)
    fun e => hQ (.error e)
  refine wp_state_bind (wp_lift_bind (fun window _ => ?_) fun e _ => hQ (.error e) u w h)
  refine wp_modify_bind hK h rfl fun w h => wp_report_bind ?_
  replace h := hK.emit h (hbook (.temporalUpdate snapshot))
  refine wp_state_bind (wp_lift_bind (fun builder _ => ?_) fun e _ => hQ (.error e) u _ h)
  refine wp_modify_bind hK h rfl fun w h => wp_report_bind ?_
  replace h := hK.emit h (hbook (.depthUpdate snapshot))
  refine wp_state_bind ?_
  split
  · exact hlock u _ h
  · exact hQ _ u _ h

theorem TriangleMonitor.wp_onSnapshot {m : TriangleMonitor N} {P : Event N → Prop}
    (hK : Kept rules K i Preparatory P J) (hQ : ∀ r u w, J u w → Q r u w) (market : TriangleMarket)
    (hlock : ∀ u w, J u w → wp rules K i (underLock (.leg m.index market) m.evaluateOnce) Q u w)
    (snapshot : OrderBookSnapshot N) {u w : World ι (AppState N) (Event N)} (h : J u w) :
    wp rules K i (m.onSnapshot market snapshot) Q u w :=
  wp_acts_bind hK (acts_setSnapshot snapshot _) h (fun _ => hlock) fun e => hQ (.error e)

end
end BimodalArbitrage.Marketdata
