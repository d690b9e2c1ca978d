import BimodalArbitrage.Coop.History
import BimodalArbitrage.Runtime.Lock

/-!
# The evaluations of a monitor

They never overlap, so what a monitor adds up over its evaluations is what the log
says: the volume in its counter and the net alphas in its estimator.
-/

namespace BimodalArbitrage.Runtime
open Coop Execution Marketdata Ml Api Coro

def Event.begins : Event → Option MonitorId
  | .evaluateOnce m => some m
  | _ => none

def Event.ends : Event → Option MonitorId
  | .evaluationOver m => some m
  | _ => none

def Event.askedBy (m : MonitorId) : Event → Option GateCall
  | .shouldExecute (.monitor m') call => if m' = m then some call else none
  | _ => none

theorem Event.mem_askedBy {m : MonitorId} {e : Event} {call : GateCall} :
    call ∈ e.askedBy m ↔ e = .shouldExecute (.monitor m) call := by
  constructor
  · intro h
    unfold askedBy at h
    split at h
    · next m' call' =>
      by_cases hm : m' = m
      · rw [if_pos hm] at h
        cases h
        rw [hm]
      · rw [if_neg hm] at h
        cases h
    · cases h
  · rintro rfl
    exact if_pos rfl

/-- The events no account is kept of. -/
def Event.isAside : Event → Bool
  | .evaluateOnce _ => false
  | .evaluationOver _ => false
  | .waitsForLock _ => false
  | .shouldExecute (.monitor _) _ => false
  | .executed .. => false
  | _ => true

section
variable (m : MonitorId) (log : Log)

def begun : ℕ := log.countP fun e => e.event.begins = some m

def finished : ℕ := log.countP fun e => e.event.ends = some m

def netAlphas : List ℚ := (log.filterMap fun e => e.event.askedBy m).map GateCall.netAlphaBps

theorem begun_snoc (e : Entry TaskId AppState Event) :
    begun m (log ++ [e]) = begun m log + if e.event.begins = some m then 1 else 0 := by
  simp [begun, List.countP_append, List.countP_singleton]

theorem finished_snoc (e : Entry TaskId AppState Event) :
    finished m (log ++ [e]) = finished m log + if e.event.ends = some m then 1 else 0 := by
  simp [finished, List.countP_append, List.countP_singleton]

theorem netAlphas_snoc (e : Entry TaskId AppState Event) :
    netAlphas m (log ++ [e]) =
      netAlphas m log ++ (e.event.askedBy m).toList.map GateCall.netAlphaBps := by
  cases h : e.event.askedBy m <;> simp [netAlphas, h]

end

/-! ### What a monitor tells the gate -/

def remembered (alphas : List ℚ) : List ℚ :=
  alphas.rtake (defaultHeuristicConfig (N := ℚ)).windowSize

structure Told (before : Log) (s : AppState) (m : MonitorId) (call : GateCall) : Prop where
  limits : call.limits = s.killSwitch.apply defaultRiskLimits
  daily : call.dailyNotionalUsedUsd = executedBy before m
  probability : call.signal.executionProbability =
    HeuristicSignalEstimator.positiveShare (remembered (netAlphas m before ++ [call.netAlphaBps]))

def Faithful (before : Log) (e : Entry TaskId AppState Event) : Prop :=
  match e.event with
  | .evaluateOnce m => begun m before = finished m before
  | .waitsForLock _ => False
  | .shouldExecute (.monitor m) call => Told before e.state m call
  | _ => True

structure EvaluationInv (w : World TaskId AppState Event) : Prop where
  counted : ∀ m, (w.state.monitors m).dailyNotionalUsedUsd = executedBy w.log m
  estimated : ∀ m, (w.state.monitors m).heuristic.alphaHistory = remembered (netAlphas m w.log)
  alone : ∀ m, begun m w.log =
    finished m w.log + if (w.state.monitors m).evaluating.isSome then 1 else 0
  faithful : Throughout Faithful w.log

section
variable {w : World TaskId AppState Event} {i : TaskId} {f : Feed}

theorem EvaluationInv.put {s : AppState} (h : EvaluationInv w) (hs : SameAccounts w.state s) :
    EvaluationInv (w.put s) where
  counted m := (hs.daily m).trans (h.counted m)
  estimated m := by
    rw [World.put_state, hs.heuristic m]
    exact h.estimated m
  alone m := by
    rw [World.put_state, hs.evaluating m]
    exact h.alone m
  faithful := h.faithful

theorem Event.booked_of_aside {e : Event} (he : e.isAside = true) : e.booked = none := by
  cases e <;> first | rfl | cases he

theorem Event.begins_of_aside {e : Event} (he : e.isAside = true) : e.begins = none := by
  cases e <;> first | rfl | cases he

theorem Event.ends_of_aside {e : Event} (he : e.isAside = true) : e.ends = none := by
  cases e <;> first | rfl | cases he

theorem Event.askedBy_of_aside {e : Event} (he : e.isAside = true) (m : MonitorId) :
    e.askedBy m = none := by
  cases e with
  | shouldExecute path call => cases path with
    | monitor m' => cases he
    | intent request => rfl
  | _ => rfl

theorem faithful_of_aside {before : Log} {s : AppState} {e : Event} (he : e.isAside = true) :
    Faithful before ⟨i, s, e⟩ := by
  cases e with
  | shouldExecute path call => cases path with
    | monitor m' => cases he
    | intent request => trivial
  | evaluateOnce m => cases he
  | waitsForLock f => cases he
  | _ => trivial

theorem EvaluationInv.emit {e : Event} (h : EvaluationInv w) (he : e.isAside = true) :
    EvaluationInv (w.emit i e) where
  counted m := by
    rw [World.emit_log, executedBy_quiet (Event.booked_of_aside he)]
    exact h.counted m
  estimated m := by
    rw [World.emit_log, netAlphas_snoc, Event.askedBy_of_aside he, Option.toList_none, List.map_nil,
      List.append_nil]
    exact h.estimated m
  alone m := by
    rw [World.emit_log, begun_snoc, finished_snoc, Event.begins_of_aside he, Event.ends_of_aside he]
    exact h.alone m
  faithful := (throughout_snoc _).mpr ⟨h.faithful, faithful_of_aside he⟩

theorem evaluation_stable :
    Stable EvaluationInv SameAccounts (fun e => e.isAside = true) where
  put := EvaluationInv.put
  emit := EvaluationInv.emit
  ledgers h := h.toSameLedgers
  accounts h := h
  unbooked := Event.booked_of_aside

/-! ### The steps of an evaluation -/

theorem EvaluationInv.enter (h : EvaluationInv w)
    (hfree : (w.state.monitors f.monitor).evaluating = none) :
    EvaluationInv ((w.put (setLock f (some f) w.state)).emit i (.evaluateOnce f.monitor)) where
  counted m := by
    rw [World.emit_log, World.put_log, executedBy_quiet rfl, ← h.counted m]
    exact setLock_daily ..
  estimated m := by
    rw [World.emit_log, World.put_log, netAlphas_snoc, World.emit_state, World.put_state,
      setLock_heuristic, h.estimated m]
    simp [Event.askedBy]
  alone m := by
    have hbefore := h.alone m
    rw [World.emit_log, World.put_log, begun_snoc, finished_snoc, World.emit_state,
      World.put_state]
    by_cases hm : m = f.monitor
    · subst hm
      rw [setLock_self]
      simpa [Event.begins, Event.ends, hfree] using hbefore
    · rw [setLock_of_ne hm]
      simpa [Event.begins, Event.ends, Ne.symm hm] using hbefore
  faithful := by
    have hbefore := h.alone f.monitor
    rw [hfree] at hbefore
    exact (throughout_snoc _).mpr ⟨h.faithful, hbefore⟩

theorem EvaluationInv.leave (h : EvaluationInv w)
    (hheld : (w.state.monitors f.monitor).evaluating = some f) :
    EvaluationInv ((w.emit i (.evaluationOver f.monitor)).put (setLock f none w.state)) where
  counted m := by
    rw [World.put_log, World.emit_log, executedBy_quiet rfl, ← h.counted m]
    exact setLock_daily ..
  estimated m := by
    rw [World.put_log, World.emit_log, netAlphas_snoc, World.put_state, setLock_heuristic,
      h.estimated m]
    simp [Event.askedBy]
  alone m := by
    have hbefore := h.alone m
    rw [World.put_log, World.emit_log, begun_snoc, finished_snoc, World.put_state]
    by_cases hm : m = f.monitor
    · subst hm
      rw [setLock_self]
      simpa [Event.begins, Event.ends, hheld] using hbefore
    · rw [setLock_of_ne hm]
      simpa [Event.begins, Event.ends, Ne.symm hm] using hbefore
  faithful := (throughout_snoc _).mpr ⟨h.faithful, trivial⟩

theorem EvaluationInv.ask (h : EvaluationInv w) {m : MonitorId} {host : Host}
    {netAlphaBps midPriceReturn hazard notional : ℚ} {estimator : HeuristicSignalEstimator}
    {signal : ArbitrageSignal ℚ}
    (hupdate : (w.state.monitors m).heuristic.update host.sqrt defaultHeuristicConfig netAlphaBps
      midPriceReturn hazard = .ok (estimator, signal)) :
    let s := w.state.onMonitor m fun st => { st with heuristic := estimator }
    EvaluationInv ((w.put s).emit i
      (.shouldExecute (.monitor m) (monitorCall s m netAlphaBps signal notional))) := by
  obtain ⟨hhistory, hprobability⟩ := HeuristicSignalEstimator.update_ok hupdate
  have hlearned : estimator.alphaHistory = remembered (netAlphas m w.log ++ [netAlphaBps]) := by
    rw [hhistory, h.estimated m]
    exact pushBounded_rtake _ _ _
  intro s
  have hdaily : ∀ m', (s.monitors m').dailyNotionalUsedUsd =
      (w.state.monitors m').dailyNotionalUsedUsd :=
    onMonitor_field MonitorState.dailyNotionalUsedUsd (fun _ => by rfl) m w.state
  have hevaluating : ∀ m', (s.monitors m').evaluating = (w.state.monitors m').evaluating :=
    onMonitor_field MonitorState.evaluating (fun _ => by rfl) m w.state
  refine ⟨fun m' => ?_, fun m' => ?_, fun m' => ?_, (throughout_snoc _).mpr ⟨h.faithful, ?_⟩⟩
  · rw [World.emit_log, World.put_log, executedBy_quiet rfl]
    exact (hdaily m').trans (h.counted m')
  · rw [World.emit_log, World.put_log, netAlphas_snoc, World.emit_state, World.put_state]
    by_cases hm : m' = m
    · subst hm
      rw [AppState.onMonitor_self, hlearned]
      simp [Event.askedBy, monitorCall]
    · rw [AppState.onMonitor_of_ne hm, h.estimated m']
      simp [Event.askedBy, Ne.symm hm]
  · rw [World.emit_log, World.put_log, begun_snoc, finished_snoc, World.emit_state, World.put_state,
      hevaluating m']
    exact h.alone m'
  · refine ⟨rfl, (hdaily m).trans (h.counted m), ?_⟩
    show signal.executionProbability = HeuristicSignalEstimator.positiveShare
      (remembered (netAlphas m w.log ++ [netAlphaBps]))
    rw [← hlearned]
    exact hprobability

theorem EvaluationInv.book (h : EvaluationInv w) (m : MonitorId) (result : TradeExecutionResult) :
    EvaluationInv ((w.put (w.state.onMonitor m fun st => { st with
      dailyNotionalUsedUsd := st.dailyNotionalUsedUsd + result.executedVolumeUsd })).emit i
        (.executed m result)) where
  counted := counted_executed h.counted m result
  estimated m' := by
    rw [World.emit_log, World.put_log, netAlphas_snoc, World.emit_state, World.put_state,
      onMonitor_field MonitorState.heuristic (fun _ => by rfl) m w.state m', h.estimated m']
    simp [Event.askedBy]
  alone m' := by
    rw [World.emit_log, World.put_log, begun_snoc, finished_snoc, World.emit_state, World.put_state,
      onMonitor_field MonitorState.evaluating (fun _ => by rfl) m w.state m']
    exact h.alone m'
  faithful := (throughout_snoc _).mpr ⟨h.faithful, trivial⟩

end

/-! ### Under the lock -/

section
variable {host : Host} {config : RunnerConfig} {f : Feed} {u w : World TaskId AppState Event}

theorem evaluation_kept : Kept (processRules host config) (lockContract EvaluationInv) (.feed f)
    SameAccounts (fun e => e.isAside = true) (Holding EvaluationInv f) :=
  evaluation_stable.holding_kept

theorem evaluation_bookResult (record : ℕ) (result : TradeExecutionResult)
    (h : Holding EvaluationInv f u w) :
    wp (processRules host config) (lockContract EvaluationInv) (.feed f)
      (bookResult f.monitor record result) (fun _ => Holding EvaluationInv f) u w := by
  refine wp_modify_bind evaluation_kept h (steady_recordOutcome ..).toSameAccounts fun w h => ?_
  simp only [bind_eq, wp_bind, wp_modify, wp_report, ends_ok]
  have hbooked := h.book (h.1.1.book (i := .feed f) f.monitor result)
  exact wp_of_acts evaluation_kept (acts_call _) hbooked fun _ _ _ h => h

/-- Estimate and gate are one segment, and what comes after it finds the accounts kept. -/
theorem evaluation_decide {own : Host} {symbol exchangeBuy exchangeSell : String}
    {netAlphaBps midPriceReturn hazard notional : ℚ} {g : ArbitrageSignal ℚ → Option ℕ → Proc Unit}
    {Q : Except PyError Unit → World TaskId AppState Event → World TaskId AppState Event → Prop}
    (h : Holding EvaluationInv f u w) (hthrow : ∀ e, Q (.error e) u w)
    (hg : ∀ signal record w, Holding EvaluationInv f u w →
      wp (processRules host config) (lockContract EvaluationInv) (.feed f) (g signal record) Q
        u w) :
    wp (processRules host config) (lockContract EvaluationInv) (.feed f)
      ((updateHeuristic own f.monitor netAlphaBps midPriceReturn hazard).bind fun signal =>
        (gate f.monitor symbol exchangeBuy exchangeSell netAlphaBps signal notional).bind
          (g signal))
      Q u w := by
  rw [wp_bind, updateHeuristic, bind_eq, wp_bind, wp_state, ends_ok, bind_eq, wp_bind, wp_lift]
  cases hupdate : (w.state.monitors f.monitor).heuristic.update own.sqrt defaultHeuristicConfig
      netAlphaBps midPriceReturn hazard with
  | error e => exact hthrow e
  | ok p =>
    obtain ⟨estimator, signal⟩ := p
    simp only [ends_ok, bind_eq, wp_bind, wp_modify, pure_eq, wp_pure]
    refine (wp_gate_bind ..).mpr (hg signal _ _ (evaluation_stable.holding_put ?_
      (steady_recordSignal ..).toSameAccounts))
    have hguar := guar_onMonitor (fun st => { st with heuristic := estimator })
      h.1.2 fun f' _ => h.alone
    refine ⟨⟨h.1.1.ask hupdate, guar_emit hguar rfl⟩, ?_⟩
    rw [World.emit_state, World.put_state, AppState.onMonitor_self]
    exact h.2

theorem evaluation_pair {m : PairMonitor} (hf : f.monitor = m.id) (asks : List OrderBookLevel)
    (q : PairQuote) (netAlphaBps midPriceReturn hazard : ℚ) (h : Holding EvaluationInv f u w) :
    wp (processRules host config) (lockContract EvaluationInv) (.feed f)
      ((updateHeuristic m.host m.id netAlphaBps midPriceReturn hazard).bind fun signal =>
        m.gated asks q signal netAlphaBps) (fun _ => Holding EvaluationInv f) u w := by
  simp only [PairMonitor.gated, bind_eq, ← hf]
  refine evaluation_decide h (fun _ => h) fun signal record w h => ?_
  cases record with
  | none => exact h
  | some record =>
  simp only [PairMonitor.trade_eq, ← hf]
  refine wp_lift_bind (fun gross _ => wp_report_bind ?_) fun e _ => h
  refine wp_acts_bind evaluation_kept (acts_pairFills (fun _ _ _ _ _ => rfl) _ _)
    (evaluation_stable.holding_emit h rfl) (fun _ u w h => ?_) fun _ _ _ h => h
  exact evaluation_bookResult record _ h

theorem evaluation_triangle {m : TriangleMonitor} (hf : f.monitor = m.id) (q : TriangleQuote)
    (netAlphaBps midPriceReturn hazard : ℚ) (h : Holding EvaluationInv f u w) :
    wp (processRules host config) (lockContract EvaluationInv) (.feed f)
      ((updateHeuristic m.host m.id netAlphaBps midPriceReturn hazard).bind fun signal =>
        m.gated q signal netAlphaBps) (fun _ => Holding EvaluationInv f) u w := by
  simp only [TriangleMonitor.gated, bind_eq, ← hf]
  refine evaluation_decide h (fun _ => h) fun signal record w h => ?_
  cases record with
  | none => exact h
  | some record =>
  simp only [TriangleMonitor.trade_eq, ← hf]
  refine wp_report_bind (wp_acts_bind evaluation_kept (acts_triangleFills (fun _ _ _ _ _ => rfl)
    (fun _ => rfl) _ _) (evaluation_stable.holding_emit h rfl) (fun _ u w h => ?_) fun _ _ _ h => h)
  exact evaluation_bookResult record _ h

theorem evaluation_deliver (snapshot : OrderBookSnapshot) (h : EvaluationInv w) :
    Keeps (processRules host config) (lockContract EvaluationInv) (.feed f)
      (deliver host config f snapshot) w w := by
  have hkept : Kept (processRules host config) (lockContract EvaluationInv) (.feed f) Steady
      (fun e => e.isAside = true) (Holding EvaluationInv f) :=
    evaluation_kept.mono (fun _ _ h => h.toSameAccounts) fun _ h => h
  refine lock_deliver evaluation_stable (fun _ _ => rfl) (fun w => EvaluationInv.enter)
    (fun w => EvaluationInv.leave) (fun k pair hf u w h => ?_)
    (fun k market triangle hf u w h => ?_) snapshot h
  · subst hf
    exact PairMonitor.wp_evaluateOnce hkept (fun _ _ _ h => h) (fun _ => rfl)
      (fun best asks bids q _ netAlphaBps midPriceReturn hazard u w h =>
        evaluation_pair rfl _ q netAlphaBps midPriceReturn hazard h) h
  · subst hf
    exact TriangleMonitor.wp_evaluateOnce hkept (fun _ _ _ h => h)
      (fun q netAlphaBps midPriceReturn hazard u w h =>
        evaluation_triangle rfl q netAlphaBps midPriceReturn hazard h) h

theorem evaluation_sound : Sound (processRules host config) (lockContract EvaluationInv) :=
  lock_sound evaluation_stable (fun _ => rfl) (fun _ _ => rfl) (fun _ _ => rfl)
    fun _ snapshot _ h => evaluation_deliver snapshot h

end

/-! ### Every run -/

theorem evaluationInv_of_run {host : Host} {config : RunnerConfig}
    {chs : List (Choice TaskId Input)} {L : ProcessLoop}
    (hrun : runProcess host config chs = some L) : EvaluationInv L.world := by
  have hinit : EvaluationInv ⟨AppState.initial, []⟩ :=
    ⟨fun _ => rfl, fun _ => rfl, fun _ => rfl, throughout_nil⟩
  exact run_inv_free evaluation_sound (fun _ _ => trivial) .initial hinit chs hrun

theorem begun_le_finished {log : Log} (h : Throughout Faithful log) (m : MonitorId) :
    begun m log ≤ finished m log + 1 := by
  induction log using List.reverseRecOn with
  | nil => exact Nat.zero_le _
  | append_singleton log e ih =>
    obtain ⟨hlog, he⟩ := (throughout_snoc e).mp h
    have hbefore := ih hlog
    rw [begun_snoc, finished_snoc]
    by_cases hbegins : e.event.begins = some m
    · -- an evaluation begins where none is in progress
      have hnone : begun m log = finished m log := by
        obtain ⟨i, s, event⟩ := e
        cases event with
        | evaluateOnce m' =>
          cases hbegins
          exact he
        | _ => cases hbegins
      rw [if_pos hbegins]
      omega
    · rw [if_neg hbegins]
      omega

theorem told_of_run {host : Host} {config : RunnerConfig} {chs : List (Choice TaskId Input)}
    {L : ProcessLoop} (hrun : runProcess host config chs = some L) (m : MonitorId) :
    Throughout (fun before e => ∀ call ∈ e.event.askedBy m, Told before e.state m call)
      L.world.log := by
  intro before e after hsplit call hcall
  have hentry := (evaluationInv_of_run hrun).faithful before e after hsplit
  rw [Faithful, Event.mem_askedBy.mp hcall] at hentry
  exact hentry

/-- Evaluations of one monitor never overlap, no callback waits for its lock, and the
gate is told the volume of all trades the monitor has made. -/
theorem evaluations_serialized (host : Host) (config : RunnerConfig)
    (chs : List (Choice TaskId Input)) (L : ProcessLoop)
    (hrun : runProcess host config chs = some L) (m : MonitorId) :
    (∀ before, before <+: L.world.log → begun m before ≤ finished m before + 1) ∧
      (∀ e ∈ L.world.log, ∀ f, e.event ≠ .waitsForLock f) ∧
      Throughout (fun before e => ∀ call ∈ e.event.askedBy m,
        call.dailyNotionalUsedUsd = executedBy before m) L.world.log := by
  have hfaithful := (evaluationInv_of_run hrun).faithful
  refine ⟨?_, ?_, ?_⟩
  · rintro before ⟨after, hafter⟩
    refine begun_le_finished (fun b e a heq => hfaithful b e (a ++ after) ?_) m
    rw [← hafter, heq, List.append_assoc, List.cons_append]
  · intro e he f hwaits
    obtain ⟨before, after, hsplit⟩ := List.append_of_mem he
    have hentry := hfaithful before e after hsplit
    rw [Faithful, hwaits] at hentry
    exact hentry
  · intro before e after hsplit call hcall
    exact (told_of_run hrun m before e after hsplit call hcall).daily

/-- Two feeds deliver while the third one's callback evaluates. -/
theorem evaluations_serialized_skippedTicks :
    ∃ L, runProcess bareHost twoTriangles (startTriangles 2 ++ firstTrade 0) = some L ∧
      (∀ before, before <+: L.world.log →
        begun (.triangle 0) before ≤ finished (.triangle 0) before + 1) ∧
      (∀ e ∈ L.world.log, ∀ f, e.event ≠ .waitsForLock f) ∧
      Throughout (fun before e => ∀ call ∈ e.event.askedBy (.triangle 0),
        call.dailyNotionalUsedUsd = executedBy before (.triangle 0)) L.world.log := by
  have hsome : (runProcess bareHost twoTriangles (startTriangles 2 ++ firstTrade 0)).isSome =
      true := by decide +kernel
  obtain ⟨L, hL⟩ := Option.isSome_iff_exists.mp hsome
  exact ⟨L, hL, evaluations_serialized bareHost twoTriangles _ L hL (.triangle 0)⟩

end BimodalArbitrage.Runtime
