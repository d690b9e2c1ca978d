import BimodalArbitrage.Runtime.Guarded
import BimodalArbitrage.Runtime.Lock

/-!
# The trades of a monitor as its events tell them

The events of one monitor are a sequence of evaluations, and a trade that an evaluation
begins is filled on every leg and booked before the evaluation is over.
-/

namespace BimodalArbitrage.Runtime
open Coop Execution Marketdata Ml Api Coro

/-- How far the current evaluation of a monitor has come. -/
inductive Stage where
  | idle
  | reading
  | decided (approved : Bool)
  | buying (orders : PairedOrders)
  | selling (orders : PairedOrders)
  | firstLeg (t : TriangleConfig) (notional : ℚ)
  | secondLeg (t : TriangleConfig) (notional : ℚ)
  | thirdLeg (t : TriangleConfig) (notional target : ℚ)
  | filled (volume : ℚ)
  | traded

/-- No trade is in progress. -/
def Stage.Complete : Stage → Prop
  | .reading => True
  | .decided _ => True
  | .traded => True
  | _ => False

/-- The monitor an event is about. -/
def Event.about : Event → Option MonitorId
  | .evaluateOnce m => some m
  | .evaluationOver m => some m
  | .shouldExecute (.monitor m) _ => some m
  | .executePairedOrders k _ _ => some (.pair k)
  | .executeTriangle k _ => some (.triangle k)
  | .paperFill m _ _ _ _ _ => some m
  | .executed m _ => some m
  | _ => none

/-- The stage after an event of the monitor; `none` if the event is out of turn. -/
def Stage.next (config : RunnerConfig) : Stage → Event → Option Stage
  | .idle, .evaluateOnce _ => some .reading
  | .reading, .shouldExecute _ call => some (.decided call.verdict.1)
  | .decided true, .executePairedOrders _ _ o => some (.buying o)
  | .decided true, .executeTriangle k notional =>
    config.monitoredTriangles[k]?.map fun t => .firstLeg t notional
  | .buying o, .paperFill _ exchange symbol side amount price =>
    if (exchange, symbol, side, amount, price) =
      (o.buyExchange, o.symbol, Side.buy, o.amount, o.buyPrice) then some (.selling o) else none
  | .selling o, .paperFill _ exchange symbol side amount price =>
    if (exchange, symbol, side, amount, price) =
      (o.sellExchange, o.symbol, Side.sell, o.amount, o.sellPrice)
    then some (.filled (o.amount * o.buyPrice)) else none
  | .firstLeg t notional, .paperFill _ exchange symbol side _ _ =>
    if (exchange, symbol, side) = (t.exchange, t.symbolBridgeQuote, Side.buy)
    then some (.secondLeg t notional) else none
  | .secondLeg t notional, .paperFill _ exchange symbol side amount _ =>
    if (exchange, symbol, side) = (t.exchange, t.symbolTargetBridge, Side.buy)
    then some (.thirdLeg t notional amount) else none
  | .thirdLeg t notional target, .paperFill _ exchange symbol side amount _ =>
    if (exchange, symbol, side, amount) = (t.exchange, t.symbolTargetQuote, Side.sell, target)
    then some (.filled notional) else none
  | .filled volume, .executed _ result =>
    if result.executedVolumeUsd = volume ∧ result.status = .SUCCESS then some .traded else none
  | .reading, .evaluationOver _ => some .idle
  | .decided _, .evaluationOver _ => some .idle
  | .traded, .evaluationOver _ => some .idle
  | _, _ => none

section
variable (config : RunnerConfig)

def advance (m : MonitorId) (stage : Option Stage) (e : Event) : Option Stage :=
  if e.about = some m then stage.bind fun st => st.next config e else stage

def stageOf (m : MonitorId) (log : Log) : Option Stage :=
  log.foldl (fun st e => advance config m st e.event) (some .idle)

/-- Every event of every monitor is in turn, and a monitor evaluates under its lock only. -/
structure TracedInv (w : World TaskId AppState Event) : Prop where
  inTurn : ∀ m, ∃ st, stageOf config m w.log = some st
  idle : ∀ m, (w.state.monitors m).evaluating = none → stageOf config m w.log = some .idle

abbrev tracedContract : Contract TaskId AppState Event Input :=
  lockedContract (stageOf config) (TracedInv config)

/-- The feed holds the lock of its monitor, which has come to the stage `st`. -/
abbrev AtStage (f : Feed) (st : Stage) :
    World TaskId AppState Event → World TaskId AppState Event → Prop :=
  Seeing (stageOf config) (TracedInv config) f (some st)

def Ended (stage : Option Stage) : Prop := ∃ st, stage = some st ∧ st.Complete

abbrev TradeOver (f : Feed) : World TaskId AppState Event → World TaskId AppState Event → Prop :=
  Settled (stageOf config) (TracedInv config) Ended f

end

section
variable {config : RunnerConfig} {host : Host} {i : TaskId} {f : Feed} {m : MonitorId}
  {st t : Stage} {e : Event} {u w : World TaskId AppState Event}

theorem stageOf_snoc (m : MonitorId) (log : Log) (e : Entry TaskId AppState Event) :
    stageOf config m (log ++ [e]) = advance config m (stageOf config m log) e.event :=
  List.foldl_append ..

theorem stageOf_other (h : e.about ≠ some m) (s : AppState) (log : Log) :
    stageOf config m (log ++ [⟨i, s, e⟩]) = stageOf config m log := by
  rw [stageOf_snoc, advance, if_neg h]

theorem stageOf_next {s : AppState} {log : Log} (h : e.about = some m)
    (hst : stageOf config m log = some st) (hnext : st.next config e = some t) :
    stageOf config m (log ++ [⟨i, s, e⟩]) = some t := by
  rw [stageOf_snoc, advance, if_pos h, hst, Option.bind_some, hnext]

theorem TracedInv.put {s : AppState} (h : TracedInv config w)
    (hs : ∀ m, (s.monitors m).evaluating = (w.state.monitors m).evaluating) :
    TracedInv config (w.put s) where
  inTurn := h.inTurn
  idle m hm := h.idle m ((hs m).symm.trans hm)

theorem TracedInv.emit (h : TracedInv config w) (he : e.about = none) :
    TracedInv config (w.emit i e) := by
  have hstage : ∀ m, stageOf config m (w.emit i e).log = stageOf config m w.log :=
    fun m => stageOf_other (by simp [he]) w.state w.log
  exact ⟨fun m => (hstage m).symm ▸ h.inTurn m, fun m hm => (hstage m).trans (h.idle m hm)⟩

/-- An event in turn. -/
theorem TracedInv.advance {s : AppState} (h : TracedInv config w) (habout : e.about = some m)
    (hst : stageOf config m w.log = some st) (hnext : st.next config e = some t)
    {v : World TaskId AppState Event} (hlog : v.log = w.log ++ [⟨i, s, e⟩])
    (hidle : (v.state.monitors m).evaluating = none → t = .idle)
    (hother : ∀ m', m' ≠ m →
      (v.state.monitors m').evaluating = (w.state.monitors m').evaluating) :
    TracedInv config v := by
  have hself : stageOf config m v.log = some t := by
    rw [hlog]
    exact stageOf_next habout hst hnext
  have hothers : ∀ m', m' ≠ m → stageOf config m' v.log = stageOf config m' w.log := by
    intro m' hm
    rw [hlog]
    exact stageOf_other (by simpa [habout] using hm.symm) s w.log
  refine ⟨fun m' => ?_, fun m' hm' => ?_⟩
  · by_cases hm : m' = m
    · exact ⟨t, hm ▸ hself⟩
    · exact (hothers m' hm).symm ▸ h.inTurn m'
  · by_cases hm : m' = m
    · subst hm
      exact hself.trans (congrArg some (hidle hm'))
    · exact (hothers m' hm).trans (h.idle m' ((hother m' hm).symm.trans hm'))

theorem Stage.Complete.next (h : st.Complete) (m : MonitorId) :
    st.next config (.evaluationOver m) = some .idle := by
  cases st with
  | reading => rfl
  | decided approved => cases approved <;> rfl
  | traded => rfl
  | _ => cases h

theorem traced_guarded : Guarded (stageOf config) (TracedInv config) (fun e => e.about = none)
    (fun b => b = some .reading) Ended where
  put h hs := h.put hs.evaluating
  emit := TracedInv.emit
  unseen log _ s m he := stageOf_other (by simp [he]) s log
  book _ _ := rfl
  raised _ := rfl
  intent _ _ := rfl
  dispatch _ _ := rfl
  enter {f w} h hfree := by
    have hst := h.idle f.monitor hfree
    refine ⟨h.advance (t := .reading) rfl hst rfl rfl (fun hlocked => ?_)
      fun m' hm => setLock_of_ne hm .., stageOf_next rfl hst rfl⟩
    exact absurd ((setLock_self ..).symm.trans hlocked) (Option.some_ne_none f)
  leave hfinal h := by
    obtain ⟨st, rfl, hcomplete⟩ := hfinal
    exact h.rests.1.advance rfl h.sees (hcomplete.next _) rfl (fun _ => rfl)
      fun m' hm => setLock_of_ne hm ..
  final hb := ⟨.reading, hb, trivial⟩
  others log _ s hm :=
    ⟨stageOf_other (e := .evaluateOnce _) (fun heq => hm (Option.some.inj heq).symm) s log,
      stageOf_other (e := .evaluationOver _) (fun heq => hm (Option.some.inj heq).symm) s log⟩

/-! ### The steps of a trade -/

/-- A move of the task that holds the lock, with one event of its monitor. -/
theorem AtStage.move (h : AtStage config f st u w) {v : World TaskId AppState Event} {s : AppState}
    (habout : e.about = some f.monitor) (hnext : st.next config e = some t)
    (hlog : v.log = w.log ++ [⟨.feed f, s, e⟩])
    (hevaluating : ∀ m, (v.state.monitors m).evaluating = (w.state.monitors m).evaluating) :
    AtStage config f t u v := by
  have howns : (w.state.monitors f.monitor).evaluating ≠ none := by
    intro hnone
    have howner := h.owns
    rw [monitorLock_owner, hnone] at howner
    cases howner
  refine h.change (h.rests.1.advance habout h.sees hnext hlog (fun hnone => ?_)
    fun m' _ => hevaluating m') hevaluating ?_ fun m' hm => ?_
  · exact absurd ((hevaluating _).symm.trans hnone) howns
  · rw [hlog]
    exact stageOf_next habout h.sees hnext
  · rw [hlog]
    exact stageOf_other (by simpa [habout] using hm.symm) s w.log

theorem AtStage.emit (h : AtStage config f st u w) (habout : e.about = some f.monitor)
    (hnext : st.next config e = some t) : AtStage config f t u (w.emit (.feed f) e) :=
  h.move habout hnext rfl fun _ => rfl

theorem AtStage.over (h : AtStage config f st u w) (hcomplete : st.Complete) :
    TradeOver config f u w := ⟨_, ⟨st, rfl, hcomplete⟩, h⟩

theorem traced_pairFills {o : PairedOrders} (h : AtStage config f (.buying o) u w)
    {g : Unit → Proc Unit}
    (hg : ∀ u w, AtStage config f (.filled (o.amount * o.buyPrice)) u w →
      wp (processRules host config) (tracedContract config) (.feed f) (g ())
        (fun _ => TradeOver config f) u w) :
    wp (processRules host config) (tracedContract config) (.feed f)
      ((pairFills (paperExchange f.monitor) o).bind g) (fun _ => TradeOver config f) u w := by
  rw [wp_bind]
  refine Mutex.Owning.wp_yield_bind h fun v h => wp_report_bind ?_
  replace h := AtStage.emit h (e := .paperFill f.monitor o.buyExchange o.symbol .buy o.amount
    o.buyPrice) rfl (if_pos rfl)
  refine Mutex.Owning.wp_yield_bind h fun v h => wp_report_bind ?_
  replace h := AtStage.emit h (e := .paperFill f.monitor o.sellExchange o.symbol .sell o.amount
    o.sellPrice) rfl (if_pos rfl)
  rw [wp_yield]
  exact ⟨h.rests, fun v hrely hinv _ => hg v v (h.resume hrely hinv)⟩

/-- One leg of a triangle. -/
theorem traced_leg {market : TriangleMarket} {exchange symbol : String} {side : Side}
    {amount price : ℚ} {g : Unit → Proc Unit}
    {Q : Except PyError Unit → World TaskId AppState Event → World TaskId AppState Event → Prop}
    (h : AtStage config f st u w)
    (hnext : st.next config (.paperFill f.monitor exchange symbol side amount price) = some t)
    (hg : ∀ u w, AtStage config f t u w →
      wp (processRules host config) (tracedContract config) (.feed f) (g ()) Q u w) :
    wp (processRules host config) (tracedContract config) (.feed f)
      ((Coro.yield.bind fun _ => (Coro.report (.onMarket market)).bind fun _ =>
        Coro.report (.paperFill f.monitor exchange symbol side amount price)).bind g) Q u w := by
  rw [wp_bind]
  refine Mutex.Owning.wp_yield_bind h fun v h => wp_report_bind ?_
  exact hg _ _ (AtStage.emit (traced_guarded.aside.owning_emit h rfl) rfl hnext)

theorem traced_triangleFills {o : TriangleOrders}
    (h : AtStage config f (.firstLeg o.triangle o.quoteNotionalUsd) u w) {g : Unit → Proc Unit}
    (hg : ∀ u w, AtStage config f (.filled o.quoteNotionalUsd) u w →
      wp (processRules host config) (tracedContract config) (.feed f) (g ())
        (fun _ => TradeOver config f) u w) :
    wp (processRules host config) (tracedContract config) (.feed f)
      ((triangleFills (paperExchange f.monitor) o).bind g) (fun _ => TradeOver config f) u w := by
  simp only [triangleFills, bind_eq]
  rw [wp_bind]
  refine traced_leg (t := .secondLeg o.triangle o.quoteNotionalUsd) h (if_pos rfl) fun u w h => ?_
  refine traced_leg (t := .thirdLeg o.triangle o.quoteNotionalUsd o.targetQty) h (if_pos rfl)
    fun u w h => ?_
  refine traced_leg (t := .filled o.quoteNotionalUsd) h (if_pos rfl) fun u w h => ?_
  rw [wp_yield]
  exact ⟨h.rests, fun v hrely hinv _ => hg v v (h.resume hrely hinv)⟩

theorem traced_bookResult {record : ℕ} {result : TradeExecutionResult}
    (hstatus : result.status = .SUCCESS)
    (h : AtStage config f (.filled result.executedVolumeUsd) u w) :
    wp (processRules host config) (tracedContract config) (.feed f)
      (bookResult f.monitor record result) (fun _ => TradeOver config f) u w := by
  simp only [bookResult, bind_eq, wp_bind, wp_modify, wp_report, ends_ok]
  have hbooked := h.move (e := .executed f.monitor result) (t := .traded) rfl
    (if_pos ⟨rfl, hstatus⟩) (v := (w.put (booked f.monitor record result w.state)).emit (.feed f)
      (.executed f.monitor result)) rfl fun _ => booked_evaluating ..
  exact wp_of_acts traced_guarded.settled_kept (acts_call _) (hbooked.over trivial) fun _ _ _ h => h

/-! ### The evaluations -/

theorem traced_gate {symbol exchangeBuy exchangeSell : String} {netAlphaBps notional : ℚ}
    {signal : ArbitrageSignal ℚ} {g : Option ℕ → Proc Unit}
    (hrejected : ∀ u w, TradeOver config f u w →
      wp (processRules host config) (tracedContract config) (.feed f) (g none)
        (fun _ => TradeOver config f) u w)
    (happroved : ∀ record u w, AtStage config f (.decided true) u w →
      wp (processRules host config) (tracedContract config) (.feed f) (g (some record))
        (fun _ => TradeOver config f) u w)
    (h : AtStage config f .reading u w) :
    wp (processRules host config) (tracedContract config) (.feed f)
      ((gate f.monitor symbol exchangeBuy exchangeSell netAlphaBps signal notional).bind g)
      (fun _ => TradeOver config f) u w := by
  refine (wp_gate_bind ..).mpr ?_
  let call := monitorCall w.state f.monitor netAlphaBps signal notional
  have hasked := h.move (e := .shouldExecute (.monitor f.monitor) call)
    (t := .decided call.verdict.1) rfl rfl
    (v := (w.emit (.feed f) (.shouldExecute (.monitor f.monitor) call)).put
      (w.state.recordSignal symbol exchangeBuy exchangeSell call)) rfl fun _ => rfl
  by_cases happroves : call.verdict.1 = true
  · rw [if_pos happroves]
    rw [happroves] at hasked
    exact happroved _ _ _ hasked
  · rw [if_neg happroves]
    exact hrejected _ _ (hasked.over trivial)

theorem traced_pair {m : PairMonitor} (hf : f.monitor = m.id) (asks : List OrderBookLevel)
    (q : PairQuote) (netAlphaBps midPriceReturn hazard : ℚ)
    (u w : World TaskId AppState Event) (h : AtStage config f .reading u w) :
    wp (processRules host config) (tracedContract config) (.feed f)
      ((updateHeuristic m.host m.id netAlphaBps midPriceReturn hazard).bind fun signal =>
        m.gated asks q signal netAlphaBps) (fun _ => TradeOver config f) u w := by
  simp only [PairMonitor.gated, bind_eq, ← hf]
  refine guarded_heuristic traced_guarded ⟨.reading, rfl, trivial⟩ (fun signal u w h => ?_) h
  refine traced_gate (fun _ _ h => h) (fun record u w h => ?_) h
  simp only [PairMonitor.trade_eq, ← hf]
  refine wp_lift_bind (fun gross _ => wp_report_bind ?_) fun e _ => h.over trivial
  refine traced_pairFills (h.emit (by rw [hf]; rfl) rfl) fun u w h => ?_
  refine traced_bookResult rfl ?_
  rw [filledPair_executedVolumeUsd]
  exact h

theorem traced_triangle {m : TriangleMonitor} (hf : f.monitor = m.id)
    (hconfig : config.monitoredTriangles[m.index]? = some m.triangle) (q : TriangleQuote)
    (netAlphaBps midPriceReturn hazard : ℚ) (u w : World TaskId AppState Event)
    (h : AtStage config f .reading u w) :
    wp (processRules host config) (tracedContract config) (.feed f)
      ((updateHeuristic m.host m.id netAlphaBps midPriceReturn hazard).bind fun signal =>
        m.gated q signal netAlphaBps) (fun _ => TradeOver config f) u w := by
  simp only [TriangleMonitor.gated, bind_eq, ← hf]
  refine guarded_heuristic traced_guarded ⟨.reading, rfl, trivial⟩ (fun signal u w h => ?_) h
  refine traced_gate (fun _ _ h => h) (fun record u w h => ?_) h
  simp only [TriangleMonitor.trade_eq, ← hf]
  refine wp_report_bind (traced_triangleFills (h.emit (by rw [hf]; rfl) ?_) fun u w h => ?_)
  · rw [Stage.next, hconfig]
    rfl
  · exact traced_bookResult rfl h

theorem traced_sound : Sound (processRules host config) (tracedContract config) :=
  guarded_sound traced_guarded fun _ snapshot _ h => guarded_deliver traced_guarded
    (fun _ hf _ asks q netAlphaBps midPriceReturn hazard b u w hb h => by
      subst hb
      exact traced_pair hf asks q netAlphaBps midPriceReturn hazard u w h)
    (fun _ hf hconfig q netAlphaBps midPriceReturn hazard b u w hb h => by
      subst hb
      exact traced_triangle hf hconfig q netAlphaBps midPriceReturn hazard u w h)
    snapshot h

/-! ### Positions -/

def Event.position (m : MonitorId) : Event → ℚ
  | .paperFill m' _ _ side amount _ => if m' = m then side.signed amount else 0
  | _ => 0

/-- What a monitor has bought and not sold again. -/
def position (m : MonitorId) (log : Log) : ℚ := (log.map fun e => e.event.position m).sum

/-- What a pair monitor is long of, on its way through a trade. -/
def Stage.exposure : Stage → ℚ
  | .selling o => o.amount
  | _ => 0

/-- The stages of a pair. -/
def Stage.OfPair : Stage → Prop
  | .firstLeg .. => False
  | .secondLeg .. => False
  | .thirdLeg .. => False
  | _ => True

theorem position_snoc (m : MonitorId) (log : Log) (e : Entry TaskId AppState Event) :
    position m (log ++ [e]) = position m log + e.event.position m := by
  simp [position]

theorem Event.position_of_about (h : e.about ≠ some m) : e.position m = 0 := by
  cases e with
  | paperFill m' exchange symbol side amount price => exact if_neg fun hm => h (congrArg some hm)
  | _ => rfl

theorem Stage.OfPair.next {k : ℕ} (h : st.OfPair) (habout : e.about = some (.pair k))
    (hnext : st.next config e = some t) :
    t.OfPair ∧ t.exposure = st.exposure + e.position (.pair k) := by
  unfold Stage.next at hnext
  split at hnext
  case h_4 => cases habout
  case h_5 o m exchange symbol side amount price =>
    obtain ⟨hleg, hst⟩ := Option.ite_none_right_eq_some.mp hnext
    cases hleg
    cases hst
    cases habout
    exact ⟨trivial, by simp [exposure, Event.position, Side.signed]⟩
  case h_6 o m exchange symbol side amount price =>
    obtain ⟨hleg, hst⟩ := Option.ite_none_right_eq_some.mp hnext
    cases hleg
    cases hst
    cases habout
    exact ⟨trivial, by simp [exposure, Event.position, Side.signed]⟩
  case h_7 => exact h.elim
  case h_8 => exact h.elim
  case h_9 => exact h.elim
  case h_10 =>
    obtain ⟨-, hst⟩ := Option.ite_none_right_eq_some.mp hnext
    cases hst
    exact ⟨trivial, (add_zero _).symm⟩
  case h_14 => cases hnext
  all_goals
    cases hnext
    exact ⟨trivial, (add_zero _).symm⟩

theorem position_of_stage {k : ℕ} {log : Log} (h : stageOf config (.pair k) log = some st) :
    st.OfPair ∧ position (.pair k) log = st.exposure := by
  induction log using List.reverseRecOn generalizing st with
  | nil =>
    cases h
    exact ⟨trivial, rfl⟩
  | append_singleton log e ih =>
    rw [stageOf_snoc, advance] at h
    rw [position_snoc]
    by_cases habout : e.event.about = some (.pair k)
    · rw [if_pos habout] at h
      obtain ⟨before, hbefore, hnext⟩ := Option.bind_eq_some_iff.mp h
      obtain ⟨hpair, hposition⟩ := ih hbefore
      obtain ⟨hpair', hexposure⟩ := hpair.next habout hnext
      exact ⟨hpair', by rw [hposition, hexposure]⟩
    · rw [if_neg habout] at h
      rw [Event.position_of_about habout, add_zero]
      exact ih h

end

/-! ### Every run -/

/-- No event of a monitor is out of turn, a monitor that holds no lock has finished all it
began, and a pair is long of one order's amount, between its legs, or of nothing. -/
theorem trades_complete (host : Host) (config : RunnerConfig) (chs : List (Choice TaskId Input))
    (L : ProcessLoop) (hrun : runProcess host config chs = some L) :
    (∀ m, ∃ st, stageOf config m L.world.log = some st) ∧
      (∀ m, (L.world.state.monitors m).evaluating = none →
        stageOf config m L.world.log = some .idle) ∧
      ∀ k st, stageOf config (.pair k) L.world.log = some st →
        position (.pair k) L.world.log = st.exposure := by
  have hinit : TracedInv config ⟨AppState.initial, []⟩ := ⟨fun _ => ⟨.idle, rfl⟩, fun _ _ => rfl⟩
  have hinv := run_inv_free traced_sound (fun _ _ => trivial) .initial hinit chs hrun
  exact ⟨hinv.inTurn, hinv.idle, fun _ _ hst => (position_of_stage hst).2⟩

/-- A triangle is traded while the other feeds deliver. -/
theorem trades_complete_firstTrade :
    ∃ L, runProcess bareHost twoTriangles (startTriangles 2 ++ firstTrade 0) = some L ∧
      executedBy L.world.log (.triangle 0) = 50 ∧
      (∀ m, ∃ st, stageOf twoTriangles m L.world.log = some st) ∧
      (∀ m, (L.world.state.monitors m).evaluating = none →
        stageOf twoTriangles m L.world.log = some .idle) ∧
      ∀ k st, stageOf twoTriangles (.pair k) L.world.log = some st →
        position (.pair k) L.world.log = st.exposure := by
  have hsome : (runProcess bareHost twoTriangles (startTriangles 2 ++ firstTrade 0)).map
      (fun L => executedBy L.world.log (.triangle 0)) = some 50 := by decide +kernel
  obtain ⟨L, hL, hexecuted⟩ := Option.map_eq_some_iff.mp hsome
  exact ⟨L, hL, hexecuted, trades_complete bareHost twoTriangles _ L hL⟩

end BimodalArbitrage.Runtime
