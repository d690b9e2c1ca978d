import BimodalArbitrage.Coop.History
import BimodalArbitrage.Runtime.Tasks

/-!
# The kill switch over a whole run

The monitors apply the switch to the limits they call the gate with; the gateway
calls the gate with limits of its own.
-/

namespace BimodalArbitrage.Runtime
open Coop Execution Marketdata Api Coro
variable {N : Type} [PyFloat N]

def Event.isGate : Event N → Bool
  | .shouldExecute .. => true
  | _ => false

/-- `execute_paired_orders`, `execute_triangle` or `dispatch_orders` is called. -/
def Event.isTrade : Event N → Bool
  | .executePairedOrders .. => true
  | .executeTriangle .. => true
  | .dispatchOrders .. => true
  | _ => false

/-- The gate call a task made last: the one of its current evaluation or request. -/
def lastGate (i : TaskId) (log : Log N) : Option (Entry TaskId (AppState N) (Event N)) :=
  (log.filter fun e => e.task = i && e.event.isGate).getLast?

/-- What asked the gate while the switch was engaged does not trade. -/
def KillSwitchHolds (log : Log N) : Prop :=
  Throughout (fun before e => e.event.isTrade = true →
    ∀ g ∈ lastGate e.task before, g.state.killSwitch.engaged = false) log

/-- No request gets a signal that passes while the switch is engaged. -/
def IntentsHalted (log : Log N) : Prop :=
  ∀ e ∈ log, ∀ request call, e.event = .shouldExecute (.intent request) call →
    Passes request call.signal → e.state.killSwitch.engaged = false

theorem lastGate_snoc {gate : Event N} (hgate : gate.isGate = true) (i : TaskId) (s : AppState N)
    (log : Log N) : lastGate i (log ++ [⟨i, s, gate⟩]) = some ⟨i, s, gate⟩ := by
  simp [lastGate, hgate]

theorem monitorCall_verdict {s : AppState N} {m : MonitorId} {netAlphaBps notional : N}
    {signal : ArbitrageSignal N}
    (h : (monitorCall s m netAlphaBps signal notional).verdict.1 = true) :
    s.killSwitch.engaged = false := by
  have hswitch := (not_or.mp (shouldExecute_eq_true_iff.mp h)).1
  exact Bool.eq_false_of_not_eq_true hswitch

/-! ### The shape of the log -/

/-- What a task reports between two suspensions, as far as gates and trades go. -/
inductive Block : Log N → Prop
  | quiet (e : Entry TaskId (AppState N) (Event N)) (hgate : e.event.isGate = false)
      (htrade : e.event.isTrade = false) : Block [e]
  | asked (i : TaskId) (s : AppState N) (m : MonitorId) (call : GateCall N) :
      Block [⟨i, s, .shouldExecute (.monitor m) call⟩]
  | traded (i : TaskId) (s s' : AppState N) (m : MonitorId) (call : GateCall N) (trade : Event N)
      (hswitch : s.killSwitch.engaged = false) (htrade : trade.isTrade = true) :
      Block [⟨i, s, .shouldExecute (.monitor m) call⟩, ⟨i, s', trade⟩]
  | refused (i : TaskId) (s : AppState N) (request : TradeSignalRequest N)
      (signal : ArbitrageSignal N) (hrefused : ¬Passes request signal) :
      Block [⟨i, s, .shouldExecute (.intent request) (gateCall request signal)⟩]
  | dispatched (i : TaskId) (s s' : AppState N) (request : TradeSignalRequest N)
      (signal : ArbitrageSignal N) (hpasses : Passes request signal) :
      Block [⟨i, s, .shouldExecute (.intent request) (gateCall request signal)⟩,
        ⟨i, s', .dispatchOrders request signal⟩]

inductive Gated : Log N → Prop
  | nil : Gated []
  | block {log es : Log N} (h : Gated log) (b : Block es) : Gated (log ++ es)

theorem Gated.trade {log : Log N} (h : Gated log) (i : TaskId) {s : AppState N} (s' : AppState N)
    (m : MonitorId) (call : GateCall N) {trade : Event N} (hswitch : s.killSwitch.engaged = false)
    (htrade : trade.isTrade = true) :
    Gated (log ++ [⟨i, s, .shouldExecute (.monitor m) call⟩] ++ [⟨i, s', trade⟩]) := by
  rw [List.append_assoc]
  exact h.block (.traded i s s' m call trade hswitch htrade)

theorem intentsHalted_append (log es : Log N) :
    IntentsHalted (log ++ es) ↔ IntentsHalted log ∧ IntentsHalted es := by
  simp only [IntentsHalted, List.mem_append, or_imp, forall_and]

theorem intentsHalted_of_not_intent {es : Log N}
    (h : ∀ e ∈ es, ∀ request call, e.event ≠ .shouldExecute (.intent request) call) :
    IntentsHalted es :=
  fun e he request call heq => absurd heq (h e he request call)

theorem killSwitchHolds_quiet {e : Entry TaskId (AppState N) (Event N)}
    (htrade : e.event.isTrade = false) (log : Log N) :
    KillSwitchHolds (log ++ [e]) ↔ KillSwitchHolds log := by
  refine (throughout_snoc e).trans (and_iff_left ?_)
  intro h
  rw [htrade] at h
  cases h

theorem killSwitchHolds_trade {gate trade : Event N} (hgate : gate.isGate = true)
    (hquiet : gate.isTrade = false) (htrade : trade.isTrade = true) (i : TaskId)
    (s s' : AppState N) (log : Log N) :
    KillSwitchHolds (log ++ [⟨i, s, gate⟩, ⟨i, s', trade⟩]) ↔
      KillSwitchHolds log ∧ s.killSwitch.engaged = false := by
  rw [List.append_cons]
  refine (throughout_snoc _).trans ?_
  refine and_congr (killSwitchHolds_quiet hquiet log) ?_
  simp only [htrade, lastGate_snoc hgate, Option.mem_some_iff, forall_eq', true_implies]

theorem Gated.killSwitchHolds_iff {log : Log N} (h : Gated log) :
    KillSwitchHolds log ↔ IntentsHalted log := by
  induction h with
  | nil => exact ⟨fun _ => intentsHalted_of_not_intent (by simp), fun _ => throughout_nil⟩
  | @block log es _ b ih =>
    rw [intentsHalted_append, ← ih]
    cases b with
    | quiet e hgate htrade =>
      rw [killSwitchHolds_quiet htrade]
      refine (and_iff_left (intentsHalted_of_not_intent ?_)).symm
      intro e' he' request call heq
      rw [← List.mem_singleton.mp he', heq] at hgate
      cases hgate
    | asked i s m call =>
      rw [killSwitchHolds_quiet rfl]
      exact (and_iff_left (intentsHalted_of_not_intent (by simp))).symm
    | traded i s s' m call trade hswitch htrade =>
      rw [killSwitchHolds_trade rfl rfl htrade]
      refine and_congr_right fun _ => iff_of_true hswitch (intentsHalted_of_not_intent ?_)
      intro e he request call heq
      rcases List.mem_pair.mp he with rfl | rfl
      · cases heq
      · cases heq
        cases htrade
    | refused i s request signal hrefused =>
      rw [killSwitchHolds_quiet rfl]
      refine (and_iff_left ?_).symm
      intro e he request' call heq hpasses
      rw [List.mem_singleton.mp he] at heq
      cases heq
      exact absurd hpasses hrefused
    | dispatched i s s' request signal hpasses =>
      rw [killSwitchHolds_trade rfl rfl rfl]
      refine and_congr_right fun _ => ⟨fun hswitch e he request' call heq _ => ?_, fun h => ?_⟩
      · rcases List.mem_pair.mp he with rfl | rfl
        · exact hswitch
        · cases heq
      · exact h _ (List.mem_cons_self ..) request (gateCall request signal) rfl hpasses

/-! ### Every run -/

/-- Nothing is assumed of the other tasks and of the schedule. -/
def gatedContract : Contract TaskId (AppState N) (Event N) (Input N) where
  inv w := Gated w.log
  rely _ _ _ := True
  guar _ _ _ := True
  allows _ _ := True
  rely_refl _ _ := trivial
  rely_trans _ _ _ _ _ _ := trivial
  guar_rely _ _ _ _ _ _ := trivial

def Event.isQuiet (e : Event N) : Prop := e.isGate = false ∧ e.isTrade = false

section
variable {host : Host N} {config : RunnerConfig N} {i : TaskId}

theorem gated_rests {u w : World TaskId (AppState N) (Event N)} (h : Gated w.log) :
    gatedContract.Rests i u w := ⟨h, trivial⟩

theorem gated_kept (T : AppState N → AppState N → Prop) :
    Kept (processRules host config) gatedContract i T Event.isQuiet fun _ w => Gated w.log where
  set h _ := h
  emit h he := h.block (.quiet _ he.1 he.2)
  rests := gated_rests
  turn _ _ hv := hv
  reply _ _ hv _ := hv

theorem quiet_bookResult (m : MonitorId) (record : ℕ) (result : TradeExecutionResult N)
    (s : AppState N) : (bookResult m record result).Acts (fun _ _ => True) Event.isQuiet s :=
  acts_modify_bind trivial (acts_modify_bind trivial
    (acts_report_bind ⟨rfl, rfl⟩ (acts_call _)))

theorem gated_pair (m : PairMonitor N) (asks : List (OrderBookLevel N)) (q : PairQuote N)
    (signal : ArbitrageSignal N) (netAlphaBps : N) {u w : World TaskId (AppState N) (Event N)}
    (h : Gated w.log) :
    wp (processRules host config) gatedContract i (m.gated asks q signal netAlphaBps)
      (fun _ _ w => Gated w.log) u w := by
  refine (wp_gate_bind ..).mpr ?_
  have hasked := fun call => h.block (.asked i w.state m.id call)
  cases hverdict : (monitorCall w.state m.id netAlphaBps signal
      m.config.notionalPerTradeUsd).verdict.1 with
  | false => exact hasked _
  | true =>
    simp only [if_true, PairMonitor.trade_eq]
    refine wp_lift_bind (fun gross _ => wp_report_bind ?_) fun e _ => hasked _
    refine wp_of_acts (gated_kept fun _ _ => True) ?_
      (h.trade i _ m.id _ (monitorCall_verdict hverdict) rfl) fun _ _ _ h => h
    exact acts_bind (acts_pairFills (fun _ _ _ _ _ => ⟨rfl, rfl⟩) _ _)
      fun _ s => quiet_bookResult _ _ _ s

theorem gated_triangle (m : TriangleMonitor N) (q : TriangleQuote N) (signal : ArbitrageSignal N)
    (netAlphaBps : N) {u w : World TaskId (AppState N) (Event N)} (h : Gated w.log) :
    wp (processRules host config) gatedContract i (m.gated q signal netAlphaBps)
      (fun _ _ w => Gated w.log) u w := by
  refine (wp_gate_bind ..).mpr ?_
  cases hverdict : (monitorCall w.state m.id netAlphaBps signal
      m.config.notionalPerTradeUsd).verdict.1 with
  | false => exact h.block (.asked i w.state m.id _)
  | true =>
    simp only [if_true, TriangleMonitor.trade_eq]
    refine wp_report_bind (wp_of_acts (gated_kept fun _ _ => True) ?_
      (h.trade i _ m.id _ (monitorCall_verdict hverdict) rfl) fun _ _ _ h => h)
    exact acts_bind (acts_triangleFills (fun _ _ _ _ _ => ⟨rfl, rfl⟩) (fun _ => ⟨rfl, rfl⟩) _ _)
      fun _ s => quiet_bookResult _ _ _ s

theorem gated_deliver (f : Feed) (snapshot : OrderBookSnapshot N)
    {w : World TaskId (AppState N) (Event N)} (h : Gated w.log) :
    Keeps (processRules host config) gatedContract (.feed f) (deliver host config f snapshot)
      w w := by
  have hpair : ∀ m : PairMonitor N, ∀ u w : World TaskId (AppState N) (Event N), Gated w.log →
      wp (processRules host config) gatedContract (.feed f) (underLock f m.evaluateOnce)
        (fun _ _ w => Gated w.log) u w := by
    intro m
    refine wp_underLock (gated_kept fun _ _ => True) f (fun _ _ => trivial) ⟨rfl, rfl⟩
      fun u w h => ?_
    refine PairMonitor.wp_evaluateOnce (gated_kept _) (fun _ _ _ h => h) (fun _ => ⟨rfl, rfl⟩)
      (fun best asks bids q _ netAlphaBps midPriceReturn hazard u w h => ?_)
      (h.block (.quiet _ rfl rfl))
    exact wp_updateHeuristic_bind (gated_kept fun _ _ => True) (fun _ _ _ => trivial)
      (fun _ _ _ h => h) (fun signal u w h => gated_pair _ _ q signal _ h) h
  have htriangle : ∀ m : TriangleMonitor N, ∀ u w : World TaskId (AppState N) (Event N),
      Gated w.log →
      wp (processRules host config) gatedContract (.feed f) (underLock f m.evaluateOnce)
        (fun _ _ w => Gated w.log) u w := by
    intro m
    refine wp_underLock (gated_kept fun _ _ => True) f (fun _ _ => trivial) ⟨rfl, rfl⟩
      fun u w h => ?_
    refine TriangleMonitor.wp_evaluateOnce (gated_kept _) (fun _ _ _ h => h)
      (fun q netAlphaBps midPriceReturn hazard u w h => ?_) (h.block (.quiet _ rfl rfl))
    exact wp_updateHeuristic_bind (gated_kept fun _ _ => True) (fun _ _ _ => trivial)
      (fun _ _ _ h => h) (fun signal u w h => gated_triangle _ q signal _ h) h
  have hcallback : wp (processRules host config) gatedContract (.feed f)
      (callback host config f snapshot) (fun _ _ w => Gated w.log) w
      (w.put (w.state.setFeed f .delivering)) :=
    wp_callback (gated_kept _) (fun _ _ _ h => h) (fun _ _ => ⟨rfl, rfl⟩) f (fun _ _ _ => hpair _)
      (fun _ _ _ _ => htriangle _) snapshot h
  refine (keeps_deliver f snapshot).mpr (wp_mono _ (fun r u w h => ?_) hcallback)
  cases r <;> exact gated_rests h

theorem gated_intent (request : TradeSignalRequest N) (userId : String)
    {w : World TaskId (AppState N) (Event N)} (h : Gated w.log) :
    Keeps (processRules host config) gatedContract i
      ((processArbitrageIntent request userId).bind fun _ => .pure ()) w w := by
  refine (wp_bind ..).mpr ?_
  refine wp_mono (P := fun _ _ w => Gated w.log) _ (fun r u w h => ?_) ?_
  · cases r <;> exact gated_rests h
  unfold processArbitrageIntent
  split
  · exact h
  refine wp_acts_bind (gated_kept fun _ _ => True) (acts_call _) h (fun signal u w h => ?_)
    fun _ _ _ h => h
  simp only [bind_eq, wp_bind, wp_report, ends_ok]
  cases hverdict : (gateCall request signal).verdict.1 with
  | false =>
    have hrefused : ¬Passes request signal := by
      intro hpasses
      have happroved := (gateCall_verdict_iff request signal).mpr hpasses
      rw [hverdict] at happroved
      cases happroved
    exact h.block (.refused i w.state request signal hrefused)
  | true =>
    have hpasses := (gateCall_verdict_iff request signal).mp hverdict
    simp only [Bool.not_true, Bool.false_eq_true, if_false, wp_bind, wp_report, ends_ok]
    have hblock := h.block (.dispatched i w.state w.state request signal hpasses)
    refine wp_of_acts (gated_kept fun _ _ => True) (acts_attempt (acts_call _)) ?_ ?_
    · simpa using hblock
    · intro r u w h
      cases r with
      | error e => exact h
      | ok result => cases result <;> exact h

theorem gated_sound : Sound (processRules host config) gatedContract where
  starts w i x c hinv _ hstart := by
    cases started_of_startTask hstart with
    | launch => exact keeps_of_acts (gated_kept _) (acts_runForever steady_runner config _) hinv
    | boot m label failure =>
      exact keeps_of_acts (gated_kept _)
        (acts_runMonitor sameAccounts_monitor m label failure ⟨rfl, rfl⟩ _) hinv
    | delivered f => exact gated_deliver f _ hinv
    | fetchFailed f e =>
      exact keeps_of_acts (gated_kept _) (acts_fetchFails sameAccounts_monitor f e _) hinv
    | intent n request userId => exact gated_intent request userId hinv
    | dashboard n x f => exact keeps_of_acts (gated_kept _) (acts_dashboard f _) hinv
  drifts w x s hinv _ _ := ⟨hinv, fun _ => trivial⟩

end

/-- In every run the switch covers all trades exactly when no request passes the
thresholds while it is engaged. -/
theorem killSwitch_holds_iff (host : Host N) (config : RunnerConfig N)
    (chs : List (Choice TaskId (Input N))) (L : ProcessLoop N)
    (hrun : runProcess host config chs = some L) :
    KillSwitchHolds L.world.log ↔ IntentsHalted L.world.log := by
  have hgated : Gated L.world.log :=
    run_inv_free gated_sound (fun _ _ => trivial) .initial .nil chs hrun
  exact hgated.killSwitchHolds_iff

/-! ### A request under an engaged switch -/

/-- The switch is engaged, and then a request is evaluated. -/
def requestRun (signal : ArbitrageSignal Binary64) : List (Choice TaskId (Input Binary64)) :=
  [.start (.dashboard 0) .engage, .start (.request 0) (.intent smallRequest "alice"),
    .reply (.request 0) (.signal signal)]

def outline (log : Log N) : List (TaskId × Bool × Bool × Bool) :=
  log.map fun e => (e.task, e.event.isGate, e.event.isTrade, e.state.killSwitch.engaged)

theorem killSwitch_holds_refused :
    ∃ L, runProcess bareHost (triangleConfig [])
        (requestRun ⟨0.5, 30, 0.05⟩) = some L ∧
      (KillSwitchHolds L.world.log ↔ IntentsHalted L.world.log) := by
  have hsome : (runProcess bareHost (triangleConfig [])
      (requestRun ⟨0.5, 30, 0.05⟩)).isSome = true := by
    decide +kernel
  obtain ⟨L, hL⟩ := Option.isSome_iff_exists.mp hsome
  exact ⟨L, hL, killSwitch_holds_iff bareHost (triangleConfig []) _ L hL⟩

theorem killSwitch_holds_engaged :
    ∃ L, runProcess bareHost (triangleConfig [])
        (requestRun ⟨0.95, 30, 0.05⟩) = some L ∧
      ¬KillSwitchHolds L.world.log := by
  have houtline : (runProcess bareHost (triangleConfig [])
      (requestRun ⟨0.95, 30, 0.05⟩)).map
        (fun L => outline L.world.log) =
      some [(.request 0, true, false, true), (.request 0, false, true, true)] := by
    decide +kernel
  obtain ⟨L, hL, hlog⟩ := Option.map_eq_some_iff.mp houtline
  refine ⟨L, hL, fun hholds => ?_⟩
  obtain ⟨gate, rest, hlog, hgate, hrest⟩ := List.map_eq_cons_iff.mp hlog
  obtain ⟨trade, rest, rfl, htrade, hnil⟩ := List.map_eq_cons_iff.mp hrest
  obtain rfl := List.map_eq_nil_iff.mp hnil
  simp only [Prod.mk.injEq] at hgate htrade
  have hlast : gate ∈ lastGate trade.task [gate] := by
    simp [lastGate, hgate, htrade]
  have hoff := hholds [gate] trade [] hlog htrade.2.2.1 gate hlast
  rw [hgate.2.2.2] at hoff
  cases hoff

end BimodalArbitrage.Runtime
