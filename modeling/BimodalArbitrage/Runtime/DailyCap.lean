import BimodalArbitrage.Runtime.Lock

/-!
# The daily cap over a whole run

Every monitor counts its own trades, and counts what was executed where the gate was
asked about what was planned. One monitor whose orders rest at the touch keeps the cap.
-/

namespace BimodalArbitrage.Runtime
open Coop Execution Marketdata Ml Api Coro

def Event.dispatcher : Event → Option MonitorId
  | .executePairedOrders k .. => some (.pair k)
  | .executeTriangle k _ => some (.triangle k)
  | _ => none

section
variable (log : Log)

def totalExecuted : ℚ := ((bookings log).map Prod.snd).sum

def OneTrader : Prop := ∃ m, ∀ e ∈ log, ∀ m', e.event.dispatcher = some m' → m' = m

def Covered : Prop :=
  ∀ e ∈ log, ∀ k asks orders, e.event = .executePairedOrders k asks orders →
    ∃ best ∈ asks.head?, orders.amount ≤ touchDepth best.price asks

end

section
variable {log log' : Log}

theorem Covered.of_prefix (h : Covered log') (hlog : log <+: log') : Covered log :=
  fun e he => h e (hlog.subset he)

theorem totalExecuted_eq {m : MonitorId} (h : ∀ b ∈ bookings log, b.1 = m) :
    totalExecuted log = executedBy log m := by
  have hall : (bookings log).filter (fun b => b.1 = m) = bookings log :=
    List.filter_eq_self.mpr fun b hb => by simpa using h b hb
  rw [totalExecuted, executedBy, hall]

end

/-! ### The invariant -/

structure CapInv (w : World TaskId AppState Event) : Prop where
  counted : ∀ m, (w.state.monitors m).dailyNotionalUsedUsd = executedBy w.log m
  within : Covered w.log → ∀ m, executedBy w.log m ≤ defaultRiskLimits.maxDailyNotionalUsd
  dispatched : ∀ b ∈ bookings w.log, ∃ e ∈ w.log, e.event.dispatcher = some b.1

def capContract : Contract TaskId AppState Event Input := lockContract CapInv

section
variable {w u v : World TaskId AppState Event} {i : TaskId} {s : AppState}

theorem CapInv.put (h : CapInv w) (hs : SameLedgers w.state s) : CapInv (w.put s) where
  counted m := (hs.daily m).trans (h.counted m)
  within := h.within
  dispatched := h.dispatched

theorem covered_of_emit {e : Event} (h : Covered (w.emit i e).log) : Covered w.log :=
  h.of_prefix (List.prefix_append ..)

theorem CapInv.emit {e : Event} (h : CapInv w) (he : e.booked = none) : CapInv (w.emit i e) where
  counted m := by
    rw [World.emit_log, executedBy_quiet he]
    exact h.counted m
  within hcovered m := by
    rw [World.emit_log, executedBy_quiet he]
    exact h.within (covered_of_emit hcovered) m
  dispatched b hb := by
    rw [World.emit_log, bookings_snoc, he, Option.toList_none, List.append_nil] at hb
    obtain ⟨e', he', hdispatcher⟩ := h.dispatched b hb
    exact ⟨e', List.mem_append_left _ he', hdispatcher⟩

theorem cap_stable : Stable CapInv SameLedgers (fun e => e.booked = none) where
  put := CapInv.put
  emit := CapInv.emit
  ledgers h := h
  accounts h := h.toSameLedgers
  unbooked h := h

end

section
variable {host : Host} {config : RunnerConfig} {i : TaskId} {f : Feed}
  {u w : World TaskId AppState Event}

/-! ### Trades -/

/-- A trade of `volume` is under way: it is dispatched, and there is room for it. -/
def Trading (f : Feed) (volume : ℚ) (u w : World TaskId AppState Event) : Prop :=
  Holding CapInv f u w ∧ (∃ e ∈ w.log, e.event.dispatcher = some f.monitor) ∧
    (Covered w.log →
      executedBy w.log f.monitor + volume ≤ defaultRiskLimits.maxDailyNotionalUsd)

theorem Trading.move {volume : ℚ} {u w u' w' : World TaskId AppState Event}
    (h : Trading f volume u w) (hholding : Holding CapInv f u' w') (hlog : w.log <+: w'.log)
    (hsum : executedBy w'.log f.monitor = executedBy w.log f.monitor) :
    Trading f volume u' w' := by
  obtain ⟨-, ⟨e, he, hdispatcher⟩, hroom⟩ := h
  refine ⟨hholding, ⟨e, hlog.subset he, hdispatcher⟩, fun hcovered => ?_⟩
  rw [hsum]
  exact hroom (hcovered.of_prefix hlog)

theorem trading_kept (volume : ℚ) : Kept (processRules host config) capContract (.feed f)
    SameLedgers (fun e => e.booked = none) (Trading f volume) where
  set h hs := h.move (cap_stable.holding_put h.1 hs) (List.prefix_refl _) rfl
  emit h he := h.move (cap_stable.holding_emit h.1 he) (List.prefix_append ..)
    (executedBy_quiet he _)
  rests h := h.1.1
  turn h hr hv := h.move (h.1.resume hr hv) hr.1 (hr.2 f rfl h.1.2).2
  reply h hr hv hans :=
    h.move (cap_stable.holding_put (h.1.resume hr hv) (answerCall_steady hans).toSameLedgers)
      hr.1 (hr.2 f rfl h.1.2).2

theorem Trading.book {volume : ℚ} (h : Trading f volume u w) {result : TradeExecutionResult}
    (hvolume : result.executedVolumeUsd = volume) :
    Holding CapInv f u ((w.put (w.state.onMonitor f.monitor fun st => { st with
      dailyNotionalUsedUsd := st.dailyNotionalUsedUsd + result.executedVolumeUsd })).emit (.feed f)
        (.executed f.monitor result)) := by
  obtain ⟨hholding, ⟨e, he, hdispatcher⟩, hroom⟩ := h
  have hinv := hholding.1.1
  refine hholding.book ⟨counted_executed hinv.counted f.monitor result, fun hcovered m => ?_,
    fun b hb => ?_⟩
  · have hbefore : Covered w.log := hcovered.of_prefix (List.prefix_append ..)
    rw [World.emit_log, World.put_log, executedBy_executed]
    by_cases hm : m = f.monitor
    · rw [if_pos hm, hm, hvolume]
      exact hroom hbefore
    · rw [if_neg hm, add_zero]
      exact hinv.within hbefore m
  · rw [World.emit_log, World.put_log, bookings_snoc, List.mem_append] at hb
    rcases hb with hb | hb
    · obtain ⟨e', he', hdispatcher'⟩ := hinv.dispatched b hb
      exact ⟨e', List.mem_append_left _ he', hdispatcher'⟩
    · obtain rfl := List.mem_singleton.mp hb
      exact ⟨e, List.mem_append_left _ he, hdispatcher⟩

theorem trading_bookResult {volume : ℚ} (record : ℕ) {result : TradeExecutionResult}
    (hvolume : result.executedVolumeUsd = volume) (h : Trading f volume u w) :
    wp (processRules host config) capContract (.feed f) (bookResult f.monitor record result)
      (fun _ => Holding CapInv f) u w := by
  refine wp_modify_bind (trading_kept volume) h (steady_recordOutcome ..).toSameLedgers
    fun w h => ?_
  simp only [bind_eq, wp_bind, wp_modify, wp_report, ends_ok]
  exact wp_of_acts cap_stable.holding_kept (acts_call _) (h.book hvolume) fun _ _ _ h => h

/-! ### Evaluations -/

theorem cap_gate (m : MonitorId) (symbol exchangeBuy exchangeSell : String) (netAlphaBps : ℚ)
    (signal : ArbitrageSignal ℚ) (notional : ℚ) (g : Option ℕ → Proc Unit)
    {Q : Except PyError Unit → World TaskId AppState Event → World TaskId AppState Event → Prop}
    (h : Holding CapInv f u w)
    (hrefused : ∀ w, Holding CapInv f u w →
      wp (processRules host config) capContract (.feed f) (g none) Q u w)
    (happroved : ∀ record w, Holding CapInv f u w →
      executedBy w.log m + notional ≤ defaultRiskLimits.maxDailyNotionalUsd →
        wp (processRules host config) capContract (.feed f) (g (some record)) Q u w) :
    wp (processRules host config) capContract (.feed f)
      ((gate m symbol exchangeBuy exchangeSell netAlphaBps signal notional).bind g) Q u w := by
  refine (wp_gate_bind ..).mpr ?_
  have hasked : Holding CapInv f u ((w.emit (.feed f) (.shouldExecute (.monitor m)
      (monitorCall w.state m netAlphaBps signal notional))).put (w.state.recordSignal symbol
        exchangeBuy exchangeSell (monitorCall w.state m netAlphaBps signal notional))) :=
    cap_stable.holding_put (cap_stable.holding_emit h rfl) (steady_recordSignal ..).toSameLedgers
  cases hverdict : (monitorCall w.state m netAlphaBps signal notional).verdict.1 with
  | false => exact hrefused _ hasked
  | true =>
    refine happroved _ _ hasked ?_
    obtain ⟨-, -, -, -, -, hroom⟩ := (shouldExecute_iff _ _ _ _ _).mp hverdict
    rw [World.put_log, World.emit_log, executedBy_quiet rfl, ← h.1.1.counted m]
    exact hroom

theorem cap_dispatch {e : Event} {volume notional : ℚ} (h : Holding CapInv f u w)
    (hquiet : e.booked = none) (hdispatcher : e.dispatcher = some f.monitor)
    (hroom : executedBy w.log f.monitor + notional ≤ defaultRiskLimits.maxDailyNotionalUsd)
    (hvolume : Covered (w.emit (.feed f) e).log → volume = notional) :
    Trading f volume u (w.emit (.feed f) e) := by
  refine ⟨cap_stable.holding_emit h hquiet, ⟨_, List.mem_concat_self, hdispatcher⟩,
    fun hcovered => ?_⟩
  rw [World.emit_log, executedBy_quiet hquiet, hvolume hcovered]
  exact hroom

theorem cap_pair {m : PairMonitor} (hf : f.monitor = m.id) {best : OrderBookLevel}
    {asks bids : List OrderBookLevel} {q : PairQuote}
    (hquote : m.quote best.price (best :: asks) bids = .ok (some q)) (signal : ArbitrageSignal ℚ)
    (netAlphaBps : ℚ) (h : Holding CapInv f u w) :
    wp (processRules host config) capContract (.feed f)
      (m.gated (best :: asks) q signal netAlphaBps) (fun _ => Holding CapInv f) u w := by
  rw [PairMonitor.gated, ← hf]
  refine cap_gate _ _ _ _ _ _ _ _ h (fun w h => h) fun record w h hroom => ?_
  simp only [PairMonitor.trade_eq, ← hf]
  refine wp_lift_bind (fun gross _ => wp_report_bind ?_) fun e _ => h
  have htrading : Trading f (q.quantity * q.vwapAskA) u (w.emit (.feed f)
      (.executePairedOrders m.index (best :: asks) (m.orders q signal gross))) := by
    refine cap_dispatch h rfl (hf ▸ rfl) hroom fun hcovered => ?_
    obtain ⟨best', hbest, hdepth⟩ := hcovered _
      (List.mem_append_right _ (List.mem_singleton_self _)) m.index (best :: asks) _ rfl
    obtain rfl := Option.mem_some_iff.mp hbest
    exact PairMonitor.quote_covered hquote hdepth
  refine wp_acts_bind (trading_kept _) (acts_pairFills (fun _ _ _ _ _ => rfl) _ _) htrading
    (fun _ u w h => ?_) fun _ _ _ h => h.1
  exact trading_bookResult record (filledPair_executedVolumeUsd _) h

theorem cap_triangle {m : TriangleMonitor} (hf : f.monitor = m.id) (q : TriangleQuote)
    (signal : ArbitrageSignal ℚ) (netAlphaBps : ℚ) (h : Holding CapInv f u w) :
    wp (processRules host config) capContract (.feed f) (m.gated q signal netAlphaBps)
      (fun _ => Holding CapInv f) u w := by
  rw [TriangleMonitor.gated, ← hf]
  refine cap_gate _ _ _ _ _ _ _ _ h (fun w h => h) fun record w h hroom => ?_
  simp only [TriangleMonitor.trade_eq, ← hf]
  have htrading := cap_dispatch h (e := .executeTriangle m.index m.config.notionalPerTradeUsd) rfl
    (hf ▸ rfl) hroom fun _ => rfl
  refine wp_report_bind (wp_acts_bind (trading_kept _) (acts_triangleFills (fun _ _ _ _ _ => rfl)
    (fun _ => rfl) _ _) htrading (fun _ u w h => ?_) fun _ _ _ h => h.1)
  exact trading_bookResult record rfl h

theorem sameLedgers_heuristic (m : MonitorId) (h : HeuristicSignalEstimator) (s : AppState) :
    SameLedgers s (s.onMonitor m fun st => { st with heuristic := h }) :=
  ⟨onMonitor_field MonitorState.evaluating (fun _ => by rfl) m s,
    onMonitor_field MonitorState.dailyNotionalUsedUsd (fun _ => by rfl) m s⟩

theorem cap_setLock (holder : Option Feed) (h : CapInv w) :
    CapInv (w.put (setLock f holder w.state)) where
  counted m := (setLock_daily f holder w.state m).trans (h.counted m)
  within := h.within
  dispatched := h.dispatched

theorem cap_kept_evaluation : Kept (processRules host config) capContract (.feed f) Steady
    (fun e => e.booked = none) (Holding CapInv f) :=
  cap_stable.holding_kept.mono (fun _ _ h => h.toSameLedgers) fun _ => id

theorem cap_deliver (snapshot : OrderBookSnapshot) (h : CapInv w) :
    Keeps (processRules host config) capContract (.feed f) (deliver host config f snapshot)
      w w := by
  refine lock_deliver cap_stable (fun _ _ => rfl) (fun w h _ => (cap_setLock _ h).emit rfl)
    (fun w h _ => cap_setLock _ (h.emit rfl)) (fun k pair hf u w h => ?_)
    (fun k market triangle hf u w h => ?_) snapshot h
  · subst hf
    refine PairMonitor.wp_evaluateOnce cap_kept_evaluation (fun _ _ _ h => h) (fun _ => rfl)
      (fun best asks bids q hquote netAlphaBps midPriceReturn hazard u w h => ?_) h
    exact wp_updateHeuristic_bind cap_stable.holding_kept sameLedgers_heuristic (fun _ _ _ h => h)
      (fun signal u w h => cap_pair rfl hquote signal netAlphaBps h) h
  · subst hf
    refine TriangleMonitor.wp_evaluateOnce cap_kept_evaluation (fun _ _ _ h => h)
      (fun q netAlphaBps midPriceReturn hazard u w h => ?_) h
    exact wp_updateHeuristic_bind cap_stable.holding_kept sameLedgers_heuristic (fun _ _ _ h => h)
      (fun signal u w h => cap_triangle rfl q signal netAlphaBps h) h

theorem cap_sound : Sound (processRules host config) capContract :=
  lock_sound cap_stable (fun _ => rfl) (fun _ _ => rfl) (fun _ _ => rfl)
    fun _ snapshot _ h => cap_deliver snapshot h

end

end BimodalArbitrage.Runtime
