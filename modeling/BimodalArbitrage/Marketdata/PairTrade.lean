import BimodalArbitrage.Coop.Play
import BimodalArbitrage.Marketdata.Trades

/-!
# What one evaluation of a pair shows

Whatever the servers answer, an evaluation asks the gate at most once, and an approval
is followed by one dispatch and one result, both of the quote that was approved. Only an
average price of zero, which the gross spread is divided by, comes between the two.
-/

namespace BimodalArbitrage.Marketdata
open Coop Execution Ml BimodalArbitrage.Runtime

abbrev Seen (N : Type := ℚ) [PyFloat N] := Obs (Event N) (Call N) Call.Reply PyError

section
variable {N : Type} [PyFloat N]

def gateCalls (t : List (Seen N)) : List (GateCall N) :=
  t.filterMap fun
    | .event (.shouldExecute _ call) => some call
    | _ => none

def dispatchedPairs (t : List (Seen N)) : List (PairedOrders N) :=
  t.filterMap fun
    | .event (.executePairedOrders _ _ orders) => some orders
    | _ => none

def executedResults (t : List (Seen N)) : List (TradeExecutionResult N) :=
  t.filterMap fun
    | .event (.executed _ result) => some result
    | _ => none

def Approved (t : List (Seen N)) : Prop := ∃ call ∈ gateCalls t, call.verdict.1 = true

structure Quiet (t : List (Seen N)) : Prop where
  gate : gateCalls t = []
  dispatch : dispatchedPairs t = []
  executed : executedResults t = []

/-- An approved call is the only one, and `q` is what it approved and what is traded. -/
structure PairMonitor.Traded (m : PairMonitor N) (t : List (Seen N)) (call : GateCall N)
    (q : PairQuote N) : Prop where
  calls : gateCalls t = [call]
  netAlphaBps : call.netAlphaBps = q.netAlpha * 10000
  limits : ∃ engaged, call.limits = { defaultRiskLimits with killSwitchEngaged := engaged }
  notional : call.tradeNotionalUsd = m.config.notionalPerTradeUsd
  trade : ((q.vwapAskA == 0) = true ∧ executedResults t = []) ∨
    ∃ signal gross, dispatchedPairs t = [m.orders q signal gross] ∧
      executedResults t = [filledPair (m.orders q signal gross)]

def PairMonitor.Trades (m : PairMonitor N) (Q : PairQuote N → Prop) (t : List (Seen N)) : Prop :=
  ∀ call ∈ gateCalls t, call.verdict.1 = true → ∃ q, Q q ∧ m.Traded t call q

section
variable (c : Call N) (r : Except PyError c.Reply) (e : Event N) (t u : List (Seen N))

@[simp] theorem gateCalls_nil : gateCalls ([] : List (Seen N)) = [] := rfl
@[simp] theorem gateCalls_turn : gateCalls (.turn :: t) = gateCalls t := rfl
@[simp] theorem gateCalls_reply : gateCalls (.reply c r :: t) = gateCalls t := rfl
@[simp] theorem gateCalls_shouldExecute (path : GatePath N) (call : GateCall N) :
    gateCalls (.event (.shouldExecute path call) :: t) = call :: gateCalls t := rfl
@[simp] theorem gateCalls_append : gateCalls (t ++ u) = gateCalls t ++ gateCalls u :=
  List.filterMap_append

@[simp] theorem dispatchedPairs_append :
    dispatchedPairs (t ++ u) = dispatchedPairs t ++ dispatchedPairs u := List.filterMap_append
@[simp] theorem dispatchedPairs_shouldExecute (path : GatePath N) (call : GateCall N) :
    dispatchedPairs (.event (.shouldExecute path call) :: t) = dispatchedPairs t := rfl

@[simp] theorem executedResults_append :
    executedResults (t ++ u) = executedResults t ++ executedResults u := List.filterMap_append
@[simp] theorem executedResults_shouldExecute (path : GatePath N) (call : GateCall N) :
    executedResults (.event (.shouldExecute path call) :: t) = executedResults t := rfl

end

section
variable {m : PairMonitor N} {Q : PairQuote N → Prop} {t u : List (Seen N)}

theorem quiet_nil : Quiet ([] : List (Seen N)) := ⟨rfl, rfl, rfl⟩

theorem Quiet.append (ht : Quiet t) (hu : Quiet u) : Quiet (t ++ u) where
  gate := by rw [gateCalls_append, ht.gate, hu.gate, List.append_nil]
  dispatch := by rw [dispatchedPairs_append, ht.dispatch, hu.dispatch, List.append_nil]
  executed := by rw [executedResults_append, ht.executed, hu.executed, List.append_nil]

theorem PairMonitor.Trades.of_quiet (h : gateCalls t = []) : m.Trades Q t := by
  intro call hcall
  rw [h] at hcall
  cases hcall

theorem PairMonitor.Trades.prepend (hu : Quiet u) (h : m.Trades Q t) : m.Trades Q (u ++ t) := by
  intro call hcall hverdict
  rw [gateCalls_append, hu.gate, List.nil_append] at hcall
  obtain ⟨q, hq, htraded⟩ := h call hcall hverdict
  refine ⟨q, hq, ?_, htraded.netAlphaBps, htraded.limits, htraded.notional, ?_⟩
  · rw [gateCalls_append, hu.gate, List.nil_append, htraded.calls]
  · rw [dispatchedPairs_append, hu.dispatch, executedResults_append, hu.executed, List.nil_append,
      List.nil_append]
    exact htraded.trade

end

section
variable {env : Env (AppState N) (Event N) (Call N) Call.Reply PyError} {m : PairMonitor N}
  {asks bids : List (OrderBookLevel N)} {q : PairQuote N}

theorem bookResult_shows (id : MonitorId) (record : ℕ) (result : TradeExecutionResult N) :
    Coro.Shows env (bookResult id record result) fun _ t =>
      gateCalls t = [] ∧ dispatchedPairs t = [] ∧ executedResults t = [result] := by
  simp only [bookResult, Coro.bind_eq]
  refine Coro.shows_modify_bind (Coro.shows_modify_bind (Coro.shows_report_bind ?_))
  exact Coro.shows_call fun _ => ⟨rfl, rfl, rfl⟩

theorem updateHeuristic_shows (host : Host N) (id : MonitorId)
    (netAlphaBps midPriceReturn liquidityHazard : N) :
    Coro.Shows env (updateHeuristic host id netAlphaBps midPriceReturn liquidityHazard)
      fun _ t => t = [] := by
  refine Coro.shows_state_bind fun s => Coro.shows_lift_bind ?_
  cases (s.monitors id).heuristic.update host.sqrt defaultHeuristicConfig netAlphaBps
      midPriceReturn liquidityHazard with
  | error e => rfl
  | ok p =>
    rw [ends_ok]
    refine Coro.shows_modify_bind ?_
    exact Coro.shows_pure _ rfl

theorem gate_shows (id : MonitorId) (symbol exchangeBuy exchangeSell : String)
    (netAlphaBps : N) (signal : ArbitrageSignal N) (notional : N) :
    Coro.Shows env (gate id symbol exchangeBuy exchangeSell netAlphaBps signal notional)
      fun r t => ∃ s record, t = [.event (.shouldExecute (.monitor id)
          (monitorCall s id netAlphaBps signal notional))] ∧
        r = .ok (if (monitorCall s id netAlphaBps signal notional).verdict.1 then some record
          else none) := by
  refine Coro.shows_state_bind fun s => Coro.shows_report_bind (Coro.shows_modify_bind ?_)
  exact Coro.shows_pure _ ⟨s, _, rfl, rfl⟩

theorem getSnapshot_shows (env : Env (AppState N) (Event N) (Call N) Call.Reply PyError)
    (exchange symbol : String) :
    Coro.Shows env (cache.getSnapshot exchange symbol) fun _ t => Quiet t := by
  refine Coro.shows_bind (P := fun _ t => Quiet t) ?_ ?_
  · refine Coro.shows_call_bind fun hist => ?_
    cases env.answer hist (Call.redisGet (cacheKey exchange symbol)) with
    | error e => exact ⟨rfl, rfl, rfl⟩
    | ok raw =>
      rw [ends_ok]
      exact Coro.shows_turn (Coro.shows_pure _ ⟨rfl, rfl, rfl⟩)
  · intro r t hquiet
    cases r with
    | error e => exact hquiet
    | ok raw =>
      rw [ends_ok]
      refine Coro.shows_pure _ ?_
      rw [List.append_nil]
      exact hquiet

namespace PairMonitor

theorem logSample_shows (temporal : TemporalFeatures N) (depth : DepthMatrix N) (netAlphaBps : N) :
    Coro.Shows env (m.logSample temporal depth netAlphaBps) fun _ t => Quiet t := by
  unfold logSample
  split
  · exact Coro.shows_call fun _ => ⟨rfl, rfl, rfl⟩
  · exact Coro.shows_pure _ quiet_nil

theorem trade_shows (signal : ArbitrageSignal N) (record : ℕ) :
    Coro.Shows env (m.trade asks q signal record) fun _ t => gateCalls t = [] ∧
      (((q.vwapAskA == 0) = true ∧ executedResults t = []) ∨
        ∃ gross, dispatchedPairs t = [m.orders q signal gross] ∧
          executedResults t = [filledPair (m.orders q signal gross)]) := by
  rw [trade_eq]
  refine Coro.shows_lift_bind ?_
  by_cases hvwap : (q.vwapAskA == 0) = true
  · rw [pyDiv, if_pos hvwap]
    exact ⟨rfl, .inl ⟨hvwap, rfl⟩⟩
  rw [pyDiv_of_not_beq hvwap, ends_ok]
  refine Coro.shows_report_bind (Coro.shows_turn (Coro.shows_emit (Coro.shows_turn
    (Coro.shows_emit (Coro.shows_turn ?_)))))
  refine Coro.shows_mono (bookResult_shows m.id record _) fun r t h => ?_
  obtain ⟨hgate, hdispatch, hexecuted⟩ := h
  exact ⟨hgate, .inr ⟨_, congrArg (List.cons _) hdispatch, hexecuted⟩⟩

theorem gated_shows (signal : ArbitrageSignal N) :
    Coro.Shows env (m.gated asks q signal (q.netAlpha * 10000)) fun _ t =>
      m.Trades (· = q) t := by
  refine Coro.shows_bind (gate_shows m.id _ _ _ _ signal _) fun r t h => ?_
  obtain ⟨s, record, rfl, rfl⟩ := h
  rw [ends_ok]
  cases hverdict : (monitorCall s m.id (q.netAlpha * 10000) signal
      m.config.notionalPerTradeUsd).verdict.1 with
  | false =>
    refine Coro.shows_pure _ fun call hcall happroved => ?_
    obtain rfl := List.mem_singleton.mp hcall
    rw [hverdict] at happroved
    cases happroved
  | true =>
    refine Coro.shows_mono (trade_shows signal record) fun r t h => ?_
    obtain ⟨hgate, htrade⟩ := h
    intro call hcall _
    rw [List.singleton_append, gateCalls_shouldExecute, hgate] at hcall
    obtain rfl := List.mem_singleton.mp hcall
    refine ⟨q, rfl, ?_, rfl, ⟨s.killSwitch.engaged, rfl⟩, rfl,
      htrade.imp_right fun ⟨gross, htraded⟩ => ⟨signal, gross, htraded⟩⟩
    rw [List.singleton_append, gateCalls_shouldExecute, hgate]

theorem decideOn_shows {buy : OrderBookSnapshot N} (temporal : TemporalFeatures N)
    (depth : DepthMatrix N) :
    Coro.Shows env (m.decideOn buy q temporal depth) fun _ t => m.Trades (· = q) t := by
  refine Coro.shows_bind (logSample_shows temporal depth _) fun r t hquiet => ?_
  cases r with
  | error e => exact .of_quiet hquiet.gate
  | ok u =>
  rw [ends_ok]
  refine Coro.shows_lift_bind ?_
  cases computeDepthLiquidityHazard depth q.quantity .ask with
  | error e => exact .of_quiet (hquiet.append quiet_nil).gate
  | ok hazard =>
  rw [ends_ok]
  have hused : Quiet [(.event (.book m.index (.heuristicUpdate buy temporal depth)) : Seen N)] :=
    ⟨rfl, rfl, rfl⟩
  refine Coro.shows_report_bind (Coro.shows_bind (updateHeuristic_shows m.host m.id _ _ _)
    fun r t' hsilent => ?_)
  subst hsilent
  cases r with
  | error e => exact .of_quiet (hquiet.append hused).gate
  | ok signal =>
  rw [ends_ok]
  exact Coro.shows_mono (gated_shows signal) fun _ _ h => (h.prepend hused).prepend hquiet

theorem evaluateBooks_trades (env : Env (AppState N) (Event N) (Call N) Call.Reply PyError)
    (m : PairMonitor N) (buy sell : OrderBookSnapshot N) :
    Coro.Shows env (m.evaluateBooks buy sell) fun _ t =>
      m.Trades (fun q => ∃ best ∈ buy.asks.head?,
        m.quote best.price buy.asks sell.bids = .ok (some q)) t := by
  unfold evaluateBooks
  split
  next bestAsk restAsks bestBid restBids hasks hbids =>
    refine Coro.shows_state_bind fun s => ?_
    split
    · refine Coro.shows_lift_bind ?_
      cases hquote : m.quote bestAsk.price buy.asks sell.bids with
      | error e => exact .of_quiet gateCalls_nil
      | ok quote =>
      rw [ends_ok]
      cases quote with
      | none => exact Coro.shows_pure _ (.of_quiet gateCalls_nil)
      | some q =>
      refine Coro.shows_mono (decideOn_shows _ _) fun _ t h => ?_
      intro call hcall hverdict
      obtain ⟨q', rfl, htraded⟩ := h call hcall hverdict
      exact ⟨q', ⟨bestAsk, by rw [hasks]; rfl, hquote⟩, htraded⟩
    · exact Coro.shows_pure _ (.of_quiet gateCalls_nil)
  · exact Coro.shows_pure _ (.of_quiet gateCalls_nil)

theorem readBooks_shows (env : Env (AppState N) (Event N) (Call N) Call.Reply PyError)
    (m : PairMonitor N) :
    Coro.Shows env m.readBooks fun _ t => Quiet t := by
  refine Coro.shows_bind (getSnapshot_shows env _ _) fun r t hbuy => ?_
  cases r with
  | error e => exact hbuy
  | ok buy =>
  rw [ends_ok]
  refine Coro.shows_bind (getSnapshot_shows env _ _) fun r t' hsell => ?_
  cases r with
  | error e => exact hbuy.append hsell
  | ok sell =>
    rw [ends_ok]
    exact Coro.shows_pure _ (hbuy.append (hsell.append quiet_nil))

theorem evaluateOnce_read (env : Env (AppState N) (Event N) (Call N) Call.Reply PyError)
    (m : PairMonitor N) (s : AppState N) {buy sell : OrderBookSnapshot N}
    (hread : (m.readBooks.play env s [.event (.evaluateOnce m.id)]).result =
      .ok (some buy, some sell)) :
    m.evaluateOnce.play env s [] = (m.evaluateBooks buy sell).play env
      (m.readBooks.play env s [.event (.evaluateOnce m.id)]).state
      (m.readBooks.play env s [.event (.evaluateOnce m.id)]).trace :=
  (Coro.play_bind env m.readBooks _ s _).trans (by
    simp only [List.nil_append, Outcome.andThen, hread])

theorem evaluateOnce_read_trades (env : Env (AppState N) (Event N) (Call N) Call.Reply PyError)
    (m : PairMonitor N) (s : AppState N) {buy sell : OrderBookSnapshot N}
    (hread : (m.readBooks.play env s [.event (.evaluateOnce m.id)]).result =
      .ok (some buy, some sell)) :
    m.Trades (fun q => ∃ best ∈ buy.asks.head?,
      m.quote best.price buy.asks sell.bids = .ok (some q))
        (m.evaluateOnce.play env s []).trace := by
  obtain ⟨t, htrace, hquiet⟩ := readBooks_shows env m s [.event (.evaluateOnce m.id)]
  obtain ⟨t', htrace', htrades⟩ := evaluateBooks_trades env m buy sell
    (m.readBooks.play env s [.event (.evaluateOnce m.id)]).state
    (m.readBooks.play env s [.event (.evaluateOnce m.id)]).trace
  rw [evaluateOnce_read env m s hread, htrace', htrace]
  have hstart : Quiet [(.event (.evaluateOnce m.id) : Seen N)] := ⟨rfl, rfl, rfl⟩
  exact htrades.prepend (hstart.append hquiet)

theorem evaluateOnce_trades (env : Env (AppState N) (Event N) (Call N) Call.Reply PyError)
    (m : PairMonitor N) :
    Coro.Shows env m.evaluateOnce fun _ t =>
      m.Trades (fun q => ∃ bestAskPrice asks bids,
        m.quote bestAskPrice asks bids = .ok (some q)) t := by
  have hstart : Quiet [(.event (.evaluateOnce m.id) : Seen N)] := ⟨rfl, rfl, rfl⟩
  refine Coro.shows_report_bind (Coro.shows_bind (readBooks_shows env m) fun r t hquiet => ?_)
  have hreads := hstart.append hquiet
  have hnothing : m.Trades (fun q => ∃ bestAskPrice asks bids,
      m.quote bestAskPrice asks bids = .ok (some q)) (.event (.evaluateOnce m.id) :: (t ++ [])) :=
    .of_quiet (hreads.append quiet_nil).gate
  cases r with
  | error e => exact .of_quiet hreads.gate
  | ok books =>
  obtain ⟨buy, sell⟩ := books
  rw [ends_ok]
  cases buy with
  | none => exact Coro.shows_pure _ hnothing
  | some buy =>
  cases sell with
  | none => exact Coro.shows_pure _ hnothing
  | some sell =>
  refine Coro.shows_mono (evaluateBooks_trades env m buy sell) fun _ t' h => ?_
  refine PairMonitor.Trades.prepend (u := [.event (.evaluateOnce m.id)] ++ t) hreads ?_
  intro call hcall hverdict
  obtain ⟨q, ⟨best, -, hquote⟩, htraded⟩ := h call hcall hverdict
  exact ⟨q, ⟨best.price, _, _, hquote⟩, htraded⟩

end PairMonitor
end
end
end BimodalArbitrage.Marketdata
