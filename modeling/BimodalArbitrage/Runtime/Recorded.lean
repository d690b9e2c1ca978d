import BimodalArbitrage.Runtime.Guarded
import BimodalArbitrage.Runtime.SignalLedger

/-!
# The signal history is the end of the ledger

The record of a trade is picked at the gate and filled in after the trade, across all
suspensions of its orders. The lock of the monitor keeps it the monitor's latest one.
-/

namespace BimodalArbitrage.Runtime
open Coop Execution Marketdata Api Coro

def Event.isRecorded : Event → Bool
  | .shouldExecute (.monitor _) _ => true
  | .executed .. => true
  | _ => false

structure LedgerInv (config : RunnerConfig) (w : World TaskId AppState Event) : Prop where
  history : w.state.signalHistory =
    ((ledger config w.log).map Line.record).rtake AppState.historySize
  nextSignal : w.state.nextSignal = (ledger config w.log).length
  numbered : Numbered (ledger config w.log)
  outcomes : ∀ m, outcomesOf m (ledger config w.log) = resultsOf m w.log
  approved : ∀ l ∈ ledger config w.log, l.record.executionStatus ≠ none →
    l.record.approved = true

/-- What the lock of a monitor guards: the line the monitor wrote last. -/
def lastWritten (config : RunnerConfig) (m : MonitorId) (log : Log) : Option SignalRecord :=
  latest m (ledger config log)

abbrev ledgerContract (config : RunnerConfig) : Contract TaskId AppState Event Input :=
  lockedContract (lastWritten config) (LedgerInv config)

/-- The feed holds the lock of its monitor, which wrote `record` last. -/
abbrev WroteLast (config : RunnerConfig) (f : Feed) (record : Option SignalRecord) :
    World TaskId AppState Event → World TaskId AppState Event → Prop :=
  Seeing (lastWritten config) (LedgerInv config) f record

abbrev Held (config : RunnerConfig) (f : Feed) :
    World TaskId AppState Event → World TaskId AppState Event → Prop :=
  Settled (lastWritten config) (LedgerInv config) (fun _ => True) f

/-! ### Steps beside the ledger -/

section
variable {config : RunnerConfig} {w : World TaskId AppState Event} {i : TaskId} {f : Feed}

theorem Event.resultOf_of_unrecorded {e : Event} (he : e.isRecorded = false) (m : MonitorId) :
    e.resultOf m = none := by
  cases e with
  | executed m' result => cases he
  | _ => rfl

theorem ledger_unrecorded {e : Event} (he : e.isRecorded = false) (s : AppState) (log : Log) :
    ledger config (log ++ [⟨i, s, e⟩]) = ledger config log := by
  rw [ledger_snoc]
  cases e with
  | shouldExecute path call => cases path with
    | monitor m => cases he
    | intent request => rfl
  | executed m result => cases he
  | _ => rfl

theorem resultsOf_snoc (m : MonitorId) (log : Log) (e : Entry TaskId AppState Event) :
    resultsOf m (log ++ [e]) = resultsOf m log ++ (e.event.resultOf m).toList := by
  cases h : e.event.resultOf m <;> simp [resultsOf, h]

theorem LedgerInv.put {s : AppState} (h : LedgerInv config w) (hs : SameSignals w.state s) :
    LedgerInv config (w.put s) where
  history := hs.signalHistory.trans h.history
  nextSignal := hs.nextSignal.trans h.nextSignal
  numbered := h.numbered
  outcomes := h.outcomes
  approved := h.approved

theorem LedgerInv.emit {e : Event} (h : LedgerInv config w) (he : e.isRecorded = false) :
    LedgerInv config (w.emit i e) := by
  have hledger : ledger config (w.emit i e).log = ledger config w.log :=
    ledger_unrecorded he w.state w.log
  refine ⟨?_, ?_, ?_, fun m => ?_, ?_⟩
  · rw [hledger]
    exact h.history
  · rw [hledger]
    exact h.nextSignal
  · rw [hledger]
    exact h.numbered
  · rw [hledger, World.emit_log, resultsOf_snoc, Event.resultOf_of_unrecorded he,
      Option.toList_none, List.append_nil]
    exact h.outcomes m
  · rw [hledger]
    exact h.approved

theorem ledger_guarded : Guarded (lastWritten config) (LedgerInv config)
    (fun e => e.isRecorded = false) (fun _ => True) (fun _ => True) where
  put h hs := h.put hs.toSameSignals
  emit := LedgerInv.emit
  unseen log _ s m he := congrArg (latest m) (ledger_unrecorded he s log)
  book _ _ := rfl
  raised _ := rfl
  intent _ _ := rfl
  dispatch _ _ := rfl
  enter h _ := ⟨(h.put (sameSignals_setLock ..)).emit rfl, trivial⟩
  leave _ h := (h.rests.1.emit rfl).put (sameSignals_setLock ..)
  final _ := trivial
  others log _ s _ := ⟨congrArg (latest _) (ledger_unrecorded rfl s log),
    congrArg (latest _) (ledger_unrecorded rfl s log)⟩

/-! ### Steps of the ledger -/

theorem recordSignal_eq (market : String × String × String) (call : GateCall) (s : AppState) :
    s.recordSignal market.1 market.2.1 market.2.2 call =
      { s with
        signalHistory := pushBounded AppState.historySize s.signalHistory
          (.ofCall s.nextSignal s.now market call)
        nextSignal := s.nextSignal + 1 } := rfl

theorem ledger_ask {m : MonitorId} {market : String × String × String}
    (hmarket : m.market config = some market) (call : GateCall) (s : AppState) (log : Log) :
    ledger config (log ++ [⟨i, s, .shouldExecute (.monitor m) call⟩]) =
      ledger config log ++ [⟨m, .ofCall (ledger config log).length s.now market call⟩] := by
  have hgetD : (m.market config).getD ("", "", "") = market := by rw [hmarket, Option.getD_some]
  rw [ledger_snoc, ← hgetD]
  rfl

theorem LedgerInv.ask (h : LedgerInv config w) {m : MonitorId}
    {market : String × String × String} (hmarket : m.market config = some market)
    (call : GateCall) :
    LedgerInv config ((w.emit i (.shouldExecute (.monitor m) call)).put
      (w.state.recordSignal market.1 market.2.1 market.2.2 call)) := by
  have hledger : ledger config ((w.emit i (.shouldExecute (.monitor m) call)).put
      (w.state.recordSignal market.1 market.2.1 market.2.2 call)).log = _ :=
    ledger_ask hmarket call w.state w.log
  refine ⟨?_, ?_, ?_, fun m' => ?_, ?_⟩
  · rw [hledger, World.put_state, recordSignal_eq, h.history, h.nextSignal, pushBounded_rtake,
      List.map_append, List.map_singleton]
  · rw [hledger, World.put_state, recordSignal_eq, h.nextSignal, List.length_append,
      List.length_singleton]
  · rw [hledger]
    exact numbered_snoc h.numbered rfl
  · rw [hledger, outcomesOf_append, h.outcomes m', World.put_log, World.emit_log, resultsOf_snoc]
    by_cases hm : m = m' <;> simp [outcomesOf, SignalRecord.outcome, SignalRecord.ofCall, hm,
      Event.resultOf]
  · rw [hledger]
    intro l hl hstatus
    rcases List.mem_append.mp hl with hl | hl
    · exact h.approved l hl hstatus
    · cases List.mem_singleton.mp hl
      exact absurd rfl hstatus

theorem ledger_executed (m : MonitorId) (result : TradeExecutionResult) (s : AppState)
    (log : Log) : ledger config (log ++ [⟨i, s, .executed m result⟩]) =
      settleLatest m result (ledger config log) := by
  rw [ledger_snoc, note]

theorem LedgerInv.settle (h : LedgerInv config w) {m : MonitorId} {r : SignalRecord}
    (hlatest : latest m (ledger config w.log) = some r) (hpending : r.Pending)
    (result : TradeExecutionResult) :
    LedgerInv config ((w.put (booked m r.id result w.state)).emit i (.executed m result)) := by
  have hledger : ledger config ((w.put (booked m r.id result w.state)).emit i
      (.executed m result)).log = _ := ledger_executed m result (booked m r.id result w.state) w.log
  have hmap : settleLatest m result (ledger config w.log) =
      (ledger config w.log).map (Line.settleAt r.id result) := by
    rw [settleLatest, hlatest]
  have hrecords : (settleLatest m result (ledger config w.log)).map Line.record =
      ((ledger config w.log).map Line.record).map (SignalRecord.settleAt r.id result) := by
    rw [hmap, List.map_map, List.map_map]
    rfl
  refine ⟨?_, ?_, ?_, fun m' => ?_, ?_⟩
  · rw [hledger, hrecords, Window.rtake_map, ← h.history]
    rfl
  · rw [hledger, hmap, List.length_map]
    exact h.nextSignal
  · rw [hledger, hmap]
    exact numbered_settle h.numbered r.id
  · rw [hledger,
      outcomesOf_settleLatest h.numbered hlatest hpending, h.outcomes m', World.emit_log,
      World.put_log, resultsOf_snoc]
    by_cases hm : m = m' <;> simp [Event.resultOf, hm]
  · rw [hledger]
    obtain ⟨before, after, hsplit, -, hsettled⟩ := settleLatest_eq result h.numbered hlatest
    intro l hl hstatus
    rw [hsettled] at hl
    rcases List.mem_append.mp hl with hl | hl
    · exact h.approved l (hsplit ▸ List.mem_append_left _ hl) hstatus
    rcases List.mem_cons.mp hl with rfl | hl
    · exact hpending.approved
    · exact h.approved l (hsplit ▸ List.mem_append_right _ (List.mem_cons_of_mem _ hl)) hstatus

end

/-! ### Under the lock -/

section
variable {host : Host} {config : RunnerConfig} {f : Feed} {u w : World TaskId AppState Event}

/-- The outcome goes into the record the trade came from, which is still the latest one. -/
theorem ledger_bookResult {record : SignalRecord} (hpending : record.Pending)
    (result : TradeExecutionResult) (h : WroteLast config f (some record) u w) :
    wp (processRules host config) (ledgerContract config) (.feed f)
      (bookResult f.monitor record.id result) (fun _ => Held config f) u w := by
  simp only [bookResult, bind_eq, wp_bind, wp_modify, wp_report, ends_ok]
  have hbooked : WroteLast config f (some (record.settle result)) u
      ((w.put (booked f.monitor record.id result w.state)).emit (.feed f)
        (.executed f.monitor result)) := by
    have hledger : ledger config ((w.put (booked f.monitor record.id result w.state)).emit
        (.feed f) (.executed f.monitor result)).log = _ := ledger_executed f.monitor result _ w.log
    have hlatest := latest_settleLatest result h.rests.1.numbered h.sees
    refine h.change (h.rests.1.settle h.sees hpending result) (fun _ => booked_evaluating ..) ?_
      fun m hm => ?_
    · rw [lastWritten, hledger, hlatest, if_pos rfl]
    · rw [lastWritten, hledger, hlatest, if_neg hm.symm, lastWritten]
  exact wp_of_acts ledger_guarded.settled_kept (acts_call _) ⟨_, trivial, hbooked⟩ fun _ _ _ h => h

/-- An approved verdict leaves a pending record, whose number the trade is given. -/
theorem ledger_gate {market : String × String × String}
    (hmarket : f.monitor.market config = some market) {netAlphaBps notional : ℚ}
    {signal : ArbitrageSignal ℚ} {g : Option ℕ → Proc Unit} {r : Option SignalRecord}
    (hrejected : ∀ u w, Held config f u w →
      wp (processRules host config) (ledgerContract config) (.feed f) (g none)
        (fun _ => Held config f) u w)
    (happroved : ∀ record u w, record.Pending → WroteLast config f (some record) u w →
      wp (processRules host config) (ledgerContract config) (.feed f) (g (some record.id))
        (fun _ => Held config f) u w)
    (h : WroteLast config f r u w) :
    wp (processRules host config) (ledgerContract config) (.feed f)
      ((gate f.monitor market.1 market.2.1 market.2.2 netAlphaBps signal notional).bind g)
      (fun _ => Held config f) u w := by
  refine (wp_gate_bind ..).mpr ?_
  have hinv := h.rests.1
  let call := monitorCall w.state f.monitor netAlphaBps signal notional
  let record : SignalRecord := .ofCall w.state.nextSignal w.state.now market call
  have hledger := ledger_ask (i := .feed f) hmarket call w.state w.log
  rw [← hinv.nextSignal] at hledger
  have hasked : WroteLast config f (some record) u
      ((w.emit (.feed f) (.shouldExecute (.monitor f.monitor) call)).put
        (w.state.recordSignal market.1 market.2.1 market.2.2 call)) := by
    refine h.change (hinv.ask hmarket call) (fun _ => rfl) ?_ fun m hm => ?_
    · rw [lastWritten, World.put_log, World.emit_log, hledger, latest_snoc, if_pos rfl]
    · rw [lastWritten, World.put_log, World.emit_log, hledger, latest_snoc, if_neg hm.symm,
        lastWritten]
  by_cases happroves : call.verdict.1 = true
  · rw [if_pos happroves]
    exact happroved record _ _ ⟨happroves, rfl⟩ hasked
  · rw [if_neg happroves]
    exact hrejected _ _ ⟨_, trivial, hasked⟩

theorem ledger_pair {m : PairMonitor} (hf : f.monitor = m.id)
    (hconfig : config.monitoredPairs[m.index]? = some m.pair) (asks : List OrderBookLevel)
    (q : PairQuote) (netAlphaBps midPriceReturn hazard : ℚ) (r : Option SignalRecord)
    (u w : World TaskId AppState Event) (h : WroteLast config f r u w) :
    wp (processRules host config) (ledgerContract config) (.feed f)
      ((updateHeuristic m.host m.id netAlphaBps midPriceReturn hazard).bind fun signal =>
        m.gated asks q signal netAlphaBps) (fun _ => Held config f) u w := by
  have hmarket : f.monitor.market config =
      some (m.pair.symbol, m.pair.exchangeBuy, m.pair.exchangeSell) := by
    rw [hf, PairMonitor.id, MonitorId.market, hconfig, Option.map_some]
  simp only [PairMonitor.gated, bind_eq, ← hf]
  refine guarded_heuristic ledger_guarded trivial (fun signal u w h => ?_) h
  refine ledger_gate hmarket (fun _ _ h => h) (fun record u w hpending h => ?_) h
  simp only [PairMonitor.trade_eq, ← hf]
  refine wp_lift_bind (fun gross _ => wp_report_bind ?_) fun e _ => ⟨_, trivial, h⟩
  refine wp_acts_bind ledger_guarded.seeing_kept (acts_pairFills (fun _ _ _ _ _ => rfl) _ _)
    (ledger_guarded.aside.owning_emit h rfl) (fun _ u w h => ?_) fun _ _ _ h => ⟨_, trivial, h⟩
  exact ledger_bookResult hpending _ h

theorem ledger_triangle {m : TriangleMonitor} (hf : f.monitor = m.id)
    (hconfig : config.monitoredTriangles[m.index]? = some m.triangle) (q : TriangleQuote)
    (netAlphaBps midPriceReturn hazard : ℚ) (r : Option SignalRecord)
    (u w : World TaskId AppState Event) (h : WroteLast config f r u w) :
    wp (processRules host config) (ledgerContract config) (.feed f)
      ((updateHeuristic m.host m.id netAlphaBps midPriceReturn hazard).bind fun signal =>
        m.gated q signal netAlphaBps) (fun _ => Held config f) u w := by
  have hmarket : f.monitor.market config =
      some (m.triangle.label, m.triangle.exchange, m.triangle.exchange) := by
    rw [hf, TriangleMonitor.id, MonitorId.market, hconfig, Option.map_some]
  simp only [TriangleMonitor.gated, bind_eq, ← hf]
  refine guarded_heuristic ledger_guarded trivial (fun signal u w h => ?_) h
  refine ledger_gate hmarket (fun _ _ h => h) (fun record u w hpending h => ?_) h
  simp only [TriangleMonitor.trade_eq, ← hf]
  refine wp_report_bind (wp_acts_bind ledger_guarded.seeing_kept
    (acts_triangleFills (fun _ _ _ _ _ => rfl) (fun _ => rfl) _ _)
    (ledger_guarded.aside.owning_emit h rfl) (fun _ u w h => ?_) fun _ _ _ h => ⟨_, trivial, h⟩)
  exact ledger_bookResult hpending _ h

theorem ledger_sound : Sound (processRules host config) (ledgerContract config) :=
  guarded_sound ledger_guarded fun _ snapshot _ h => guarded_deliver ledger_guarded
    (fun _ hf hconfig asks q netAlphaBps midPriceReturn hazard r u w _ h =>
      ledger_pair hf hconfig asks q netAlphaBps midPriceReturn hazard r u w h)
    (fun _ hf hconfig q netAlphaBps midPriceReturn hazard r u w _ h =>
      ledger_triangle hf hconfig q netAlphaBps midPriceReturn hazard r u w h)
    snapshot h

end

/-! ### Every run -/

/-- The dashboard shows the end of the ledger, and in the ledger the outcomes of every
monitor are those of its trades, in order, each in a record that was approved. -/
theorem signalHistory_of_run (host : Host) (config : RunnerConfig)
    (chs : List (Choice TaskId Input)) (L : ProcessLoop)
    (hrun : runProcess host config chs = some L) :
    L.world.state.signalHistory =
        ((ledger config L.world.log).map Line.record).rtake AppState.historySize ∧
      L.world.state.nextSignal = (ledger config L.world.log).length ∧
      (∀ m, outcomesOf m (ledger config L.world.log) = resultsOf m L.world.log) ∧
      ∀ l ∈ ledger config L.world.log, l.record.executionStatus ≠ none →
        l.record.approved = true := by
  have hinit : LedgerInv config ⟨AppState.initial, []⟩ := by
    refine ⟨(List.rtake_nil ..).symm, rfl, rfl, fun _ => rfl, fun l hl => ?_⟩
    cases hl
  have hinv := run_inv_free ledger_sound (fun _ _ => trivial) .initial hinit chs hrun
  exact ⟨hinv.history, hinv.nextSignal, hinv.outcomes, hinv.approved⟩

/-- The outcome of a trade is on the dashboard. -/
theorem signalHistory_of_run_firstTrade :
    ∃ L, runProcess bareHost twoTriangles (startTriangles 2 ++ firstTrade 0) = some L ∧
      resultsOf (.triangle 0) L.world.log ≠ [] ∧
      L.world.state.signalHistory =
        ((ledger twoTriangles L.world.log).map Line.record).rtake AppState.historySize ∧
      L.world.state.nextSignal = (ledger twoTriangles L.world.log).length ∧
      (∀ m, outcomesOf m (ledger twoTriangles L.world.log) = resultsOf m L.world.log) ∧
      ∀ l ∈ ledger twoTriangles L.world.log, l.record.executionStatus ≠ none →
        l.record.approved = true := by
  have hsome : ((runProcess bareHost twoTriangles (startTriangles 2 ++ firstTrade 0)).map
      fun L => !(resultsOf (.triangle 0) L.world.log).isEmpty) = some true := by decide +kernel
  obtain ⟨L, hL, htraded⟩ := Option.map_eq_some_iff.mp hsome
  exact ⟨L, hL, by simpa using htraded, signalHistory_of_run bareHost twoTriangles _ L hL⟩

end BimodalArbitrage.Runtime
