import BimodalArbitrage.Coop.Mutex
import BimodalArbitrage.Runtime.Tasks

/-!
# What the lock of a monitor guards

A view of the log that only the evaluations of a monitor change is safe with the task
that evaluates. An invariant of the process is then shown on the gated trades alone:
every other task stands aside.
-/

namespace BimodalArbitrage.Runtime
open Coop Execution Marketdata Ml Api Coro

/-! ### The moves beside the trades -/

/-- No record is touched, and no lock. -/
structure Unrecorded (s s' : AppState) : Prop extends SameSignals s s' where
  evaluating : ∀ m, (s'.monitors m).evaluating = (s.monitors m).evaluating

theorem Unrecorded.of_eq {s s' : AppState} (hmonitors : s'.monitors = s.monitors)
    (hhistory : s'.signalHistory = s.signalHistory) (hnext : s'.nextSignal = s.nextSignal) :
    Unrecorded s s' where
  signalHistory := hhistory
  nextSignal := hnext
  evaluating _ := by rw [hmonitors]

theorem Unrecorded.of_preparatory (s s' : AppState) (h : Preparatory s s') : Unrecorded s s' where
  toSameSignals := h.signals
  evaluating := (Preparatory.steady s s' h).evaluating

theorem Unrecorded.trans {s s' s'' : AppState} (h : Unrecorded s s') (h' : Unrecorded s' s'') :
    Unrecorded s s'' where
  signalHistory := h'.signalHistory.trans h.signalHistory
  nextSignal := h'.nextSignal.trans h.nextSignal
  evaluating m := (h'.evaluating m).trans (h.evaluating m)

theorem unrecorded_onMonitor {f : MonitorState → MonitorState}
    (hf : ∀ st, (f st).evaluating = st.evaluating) (m : MonitorId) (s : AppState) :
    Unrecorded s (s.onMonitor m f) where
  signalHistory := rfl
  nextSignal := rfl
  evaluating := onMonitor_field MonitorState.evaluating hf m s

theorem sameSignals_setLock (f : Feed) (holder : Option Feed) (s : AppState) :
    SameSignals s (setLock f holder s) := ⟨rfl, rfl⟩

theorem unrecorded_setFeed (f : Feed) (status : FeedStatus) (s : AppState) :
    Unrecorded s (s.setFeed f status) := .of_eq rfl rfl rfl

theorem unrecorded_failFeed (f : Feed) (e : PyError) (s : AppState) :
    Unrecorded s (failFeed f e s) :=
  (unrecorded_setFeed f .failed s).trans (unrecorded_onMonitor
    (f := fun st => { st with failure := st.failure.or (some e) }) (fun _ => rfl) f.monitor
    (s.setFeed f .failed))

theorem unrecorded_endRun (m : MonitorId) (result : Except PyError Unit) (s : AppState) :
    Unrecorded s (endRun m result s) :=
  unrecorded_onMonitor (f := fun st => { st with run := .ended result }) (fun _ => rfl) m s

theorem unrecorded_startFeeds (m : MonitorId) (s : AppState) : Unrecorded s (startFeeds m s) := by
  have hrun := unrecorded_onMonitor (f := fun st => { st with run := .running }) (fun _ => rfl) m s
  rw [startFeeds_eq]
  exact hrun.trans (.of_eq rfl rfl rfl)

theorem unrecorded_runner : RunnerMoves Unrecorded where
  launch _ := .of_eq rfl rfl rfl
  bootstrap _ _ _ := .of_eq rfl rfl rfl
  errors _ _ := .of_eq rfl rfl rfl

theorem unrecorded_monitor : MonitorMoves Unrecorded where
  start := unrecorded_startFeeds
  finish := unrecorded_endRun
  fail := unrecorded_failFeed
  errors _ _ := .of_eq rfl rfl rfl

theorem unrecorded_answer {config : RunnerConfig} {s s' : AppState} {c : Call} {x : Input}
    {r : Except PyError c.Reply} (h : answerCall config s c x = some (r, s')) :
    Unrecorded s s' := answerCall_moves (fun _ _ => .of_eq rfl rfl rfl) h

/-- The state a trade is booked in. -/
def booked (m : MonitorId) (record : ℕ) (result : TradeExecutionResult) (s : AppState) : AppState :=
  (s.recordOutcome record result).onMonitor m fun st =>
    { st with dailyNotionalUsedUsd := st.dailyNotionalUsedUsd + result.executedVolumeUsd }

theorem booked_evaluating (m : MonitorId) (record : ℕ) (result : TradeExecutionResult)
    (s : AppState) (m' : MonitorId) :
    ((booked m record result s).monitors m').evaluating = (s.monitors m').evaluating :=
  onMonitor_field (f := fun st => { st with
    dailyNotionalUsedUsd := st.dailyNotionalUsedUsd + result.executedVolumeUsd })
    MonitorState.evaluating (fun _ => by rfl) m (s.recordOutcome record result) m'

/-! ### The lock -/

section
variable {β : Type} (view : MonitorId → Log → β) (inv : World TaskId AppState Event → Prop)

def monitorLock : Mutex TaskId AppState Event MonitorId β where
  owner w m := (w.state.monitors m).evaluating.map TaskId.feed
  view w m := view m w.log

abbrev lockedContract : Contract TaskId AppState Event Input :=
  (monitorLock view).contract Input inv

/-- The feed holds the lock of its monitor, whose view is `b`. -/
abbrev Seeing (f : Feed) (b : β) :
    World TaskId AppState Event → World TaskId AppState Event → Prop :=
  (monitorLock view).Owning Input inv (.feed f) f.monitor b

/-- The feed holds the lock, and the evaluation may end as the view is. -/
def Settled (Final : β → Prop) (f : Feed) (u w : World TaskId AppState Event) : Prop :=
  ∃ b, Final b ∧ Seeing view inv f b u w

def entered (f : Feed) (w : World TaskId AppState Event) : World TaskId AppState Event :=
  (w.put (setLock f (some f) w.state)).emit (.feed f) (.evaluateOnce f.monitor)

def left (f : Feed) (w : World TaskId AppState Event) : World TaskId AppState Event :=
  (w.emit (.feed f) (.evaluationOver f.monitor)).put (setLock f none w.state)

/-- `inv` survives the events in `P`, which show in no view, and the two ends of an
evaluation, which show in the view of their monitor only. An evaluation begins with an
`Initial` view. -/
structure Guarded (P : Event → Prop) (Initial Final : β → Prop) : Prop where
  put : ∀ {w s}, inv w → Unrecorded w.state s → inv (w.put s)
  emit : ∀ {w i e}, inv w → P e → inv (w.emit i e)
  unseen : ∀ {e} log i s m, P e → view m (log ++ [⟨i, s, e⟩]) = view m log
  book : ∀ k use, P (.book k use)
  raised : ∀ m, P (.runRaised m)
  intent : ∀ request signal, P (.shouldExecute (.intent request) (gateCall request signal))
  dispatch : ∀ request signal, P (.dispatchOrders request signal)
  enter : ∀ {f w}, inv w → (w.state.monitors f.monitor).evaluating = none →
    inv (entered f w) ∧ Initial (view f.monitor (entered f w).log)
  leave : ∀ {f b u w}, Final b → Seeing view inv f b u w → inv (left f w)
  final : ∀ {b}, Initial b → Final b
  others : ∀ {m m'} log i s, m' ≠ m →
    view m' (log ++ [⟨i, s, .evaluateOnce m⟩]) = view m' log ∧
      view m' (log ++ [⟨i, s, .evaluationOver m⟩]) = view m' log

end

section
variable {β : Type} {view : MonitorId → Log → β} {inv : World TaskId AppState Event → Prop}
  {P : Event → Prop} {Initial Final : β → Prop} {host : Host} {config : RunnerConfig}
  {i : TaskId} {f : Feed} {b : β} {u w : World TaskId AppState Event}

theorem monitorLock_owner (w : World TaskId AppState Event) (m : MonitorId) :
    (monitorLock view).owner w m = (w.state.monitors m).evaluating.map TaskId.feed := rfl

theorem Guarded.aside (hG : Guarded view inv P Initial Final) :
    (monitorLock view).Aside inv Unrecorded P where
  put := hG.put
  emit := hG.emit
  same_put hs m := ⟨congrArg (Option.map TaskId.feed) (hs.evaluating m), rfl⟩
  same_emit he m := ⟨rfl, hG.unseen _ _ _ m he⟩

theorem Guarded.rests_kept (hG : Guarded view inv P Initial Final) :
    Kept (processRules host config) (lockedContract view inv) i Unrecorded P
      ((lockedContract view inv).Rests i) := hG.aside.kept unrecorded_answer

theorem Guarded.seeing_kept (hG : Guarded view inv P Initial Final) :
    Kept (processRules host config) (lockedContract view inv) (.feed f) Unrecorded P
      (Seeing view inv f b) := hG.aside.owning_kept unrecorded_answer

theorem Guarded.settled_kept (hG : Guarded view inv P Initial Final) :
    Kept (processRules host config) (lockedContract view inv) (.feed f) Unrecorded P
      (Settled view inv Final f) where
  set h hs := h.imp fun _ h => ⟨h.1, hG.aside.owning_put h.2 hs⟩
  emit h he := h.imp fun _ h => ⟨h.1, hG.aside.owning_emit h.2 he⟩
  rests h := h.elim fun _ h => h.2.rests
  turn h hr hv := h.imp fun _ h => ⟨h.1, h.2.resume hr hv⟩
  reply h hr hv hans :=
    h.imp fun _ h => ⟨h.1, hG.aside.owning_put (h.2.resume hr hv) (unrecorded_answer hans)⟩

theorem Guarded.take (hG : Guarded view inv P Initial Final)
    (h : (lockedContract view inv).Rests (.feed f) u w)
    (hfree : (w.state.monitors f.monitor).evaluating = none) :
    ∃ b, Initial b ∧ Seeing view inv f b u (entered f w) := by
  obtain ⟨hinv, hinitial⟩ := hG.enter h.1 hfree
  have howner : (monitorLock view).owner w f.monitor = none := by
    rw [monitorLock_owner, hfree, Option.map_none]
  refine ⟨_, hinitial, Mutex.Owning.take h howner hinv ?_ fun m hm => ⟨?_, ?_⟩⟩
  · exact congrArg (Option.map TaskId.feed) (setLock_self ..)
  · exact congrArg (Option.map TaskId.feed) (setLock_of_ne hm ..)
  · exact (hG.others _ _ _ hm).1

theorem Guarded.give (hG : Guarded view inv P Initial Final) (h : Settled view inv Final f u w) :
    (lockedContract view inv).Rests (.feed f) u (left f w) := by
  obtain ⟨b, hfinal, h⟩ := h
  refine h.give (hG.leave hfinal h) fun m hm => ⟨?_, ?_⟩
  · exact congrArg (Option.map TaskId.feed) (setLock_of_ne hm ..)
  · exact (hG.others _ _ _ hm).2

/-- The events of an evaluation change the view of its monitor and the invariant goes on. -/
theorem Seeing.change {v : World TaskId AppState Event} {b' : β} (h : Seeing view inv f b u w)
    (hinv : inv v)
    (hevaluating : ∀ m, (v.state.monitors m).evaluating = (w.state.monitors m).evaluating)
    (hview : view f.monitor v.log = b')
    (hother : ∀ m, m ≠ f.monitor → view m v.log = view m w.log) : Seeing view inv f b' u v :=
  Mutex.Owning.change h hinv ((congrArg (Option.map TaskId.feed) (hevaluating _)).trans h.owns)
    hview fun m hm => ⟨congrArg (Option.map TaskId.feed) (hevaluating m), hother m hm⟩

theorem guarded_heuristic (hG : Guarded view inv P Initial Final) {own : Host}
    {netAlphaBps midPriceReturn hazard : ℚ} {g : ArbitrageSignal ℚ → Proc Unit} (hfinal : Final b)
    (hg : ∀ signal u w, Seeing view inv f b u w →
      wp (processRules host config) (lockedContract view inv) (.feed f) (g signal)
        (fun _ => Settled view inv Final f) u w) (h : Seeing view inv f b u w) :
    wp (processRules host config) (lockedContract view inv) (.feed f)
      ((updateHeuristic own f.monitor netAlphaBps midPriceReturn hazard).bind g)
      (fun _ => Settled view inv Final f) u w :=
  wp_updateHeuristic_bind hG.seeing_kept (fun m heuristic s => unrecorded_onMonitor
    (f := fun st => { st with heuristic := heuristic }) (fun _ => rfl) m s)
    (fun _ _ _ h => ⟨b, hfinal, h⟩) hg h

theorem guarded_underLock (hG : Guarded view inv P Initial Final) {evaluateOnce : Proc Unit}
    (hevaluate : ∀ b u w, Initial b → Seeing view inv f b u (w.emit (.feed f)
      (.evaluateOnce f.monitor)) → wp (processRules host config) (lockedContract view inv)
        (.feed f) evaluateOnce (fun _ => Settled view inv Final f) u w)
    (h : (lockedContract view inv).Rests (.feed f) u w) :
    wp (processRules host config) (lockedContract view inv) (.feed f) (underLock f evaluateOnce)
      (fun _ => (lockedContract view inv).Rests (.feed f)) u w := by
  rw [wp_underLock_iff]
  split
  · exact h
  next hlocked =>
  obtain ⟨b, hinitial, htaken⟩ := hG.take h (by simpa using hlocked)
  exact wp_mono _ (fun r u w h => hG.give h) (hevaluate b u _ hinitial htaken)

theorem guarded_deliver (hG : Guarded view inv P Initial Final)
    (hpair : ∀ m : PairMonitor, f.monitor = m.id →
      config.monitoredPairs[m.index]? = some m.pair →
      ∀ asks q netAlphaBps midPriceReturn hazard b u w, Initial b → Seeing view inv f b u w →
        wp (processRules host config) (lockedContract view inv) (.feed f)
          ((updateHeuristic m.host m.id netAlphaBps midPriceReturn hazard).bind fun signal =>
            m.gated asks q signal netAlphaBps) (fun _ => Settled view inv Final f) u w)
    (htriangle : ∀ m : TriangleMonitor, f.monitor = m.id →
      config.monitoredTriangles[m.index]? = some m.triangle →
      ∀ q netAlphaBps midPriceReturn hazard b u w, Initial b → Seeing view inv f b u w →
        wp (processRules host config) (lockedContract view inv) (.feed f)
          ((updateHeuristic m.host m.id netAlphaBps midPriceReturn hazard).bind fun signal =>
            m.gated q signal netAlphaBps) (fun _ => Settled view inv Final f) u w)
    (snapshot : OrderBookSnapshot) (h : inv w) :
    Keeps (processRules host config) (lockedContract view inv) (.feed f)
      (deliver host config f snapshot) w w := by
  have hkept : Kept (processRules host config) (lockedContract view inv) (.feed f) Unrecorded P
      ((lockedContract view inv).Rests (.feed f)) := hG.rests_kept
  refine (keeps_deliver f snapshot).mpr (wp_mono
    (P := fun _ => (lockedContract view inv).Rests (.feed f)) _ (fun r u w h => ?_) ?_)
  · cases r with
    | ok a => exact hkept.set h (unrecorded_setFeed ..)
    | error e => exact hkept.set h (unrecorded_failFeed f e _)
  have hevaluation : ∀ b, Kept (processRules host config) (lockedContract view inv) (.feed f)
      Preparatory P (Seeing view inv f b) :=
    fun b => hG.seeing_kept.mono Unrecorded.of_preparatory fun _ h => h
  refine wp_callback_of_preparatory (hkept.mono Unrecorded.of_preparatory fun _ h => h)
    (fun _ _ _ h => h) hG.book f
    (fun k pair hf hconfig u w h => guarded_underLock hG (fun b u w hb h => ?_) h)
    (fun k market triangle hf hconfig u w h => guarded_underLock hG (fun b u w hb h => ?_) h)
    snapshot (hkept.set (Mutex.rests_self h) (unrecorded_setFeed ..))
  · subst hf
    exact PairMonitor.wp_evaluateOnce_of_preparatory (hevaluation b)
      (fun _ _ _ h => ⟨b, hG.final hb, h⟩) (hG.book k)
      (fun best asks bids q _ netAlphaBps midPriceReturn hazard u w h =>
        hpair ⟨host, config, k, pair⟩ rfl hconfig _ q netAlphaBps midPriceReturn hazard b u w
          hb h) h
  · subst hf
    exact TriangleMonitor.wp_evaluateOnce_of_preparatory (hevaluation b)
      (fun _ _ _ h => ⟨b, hG.final hb, h⟩)
      (fun q netAlphaBps midPriceReturn hazard u w h =>
        htriangle ⟨host, config, k, triangle⟩ rfl hconfig q netAlphaBps midPriceReturn hazard b u w
          hb h) h

/-- Only what comes after the heuristic of an evaluation has to be looked at. -/
theorem guarded_sound (hG : Guarded view inv P Initial Final)
    (hdeliver : ∀ (f : Feed) snapshot w, inv w → Keeps (processRules host config)
      (lockedContract view inv) (.feed f) (deliver host config f snapshot) w w) :
    Sound (processRules host config) (lockedContract view inv) where
  starts w i x c hinv _ hstart := by
    have hkept : Kept (processRules host config) (lockedContract view inv) i Unrecorded P _ :=
      hG.rests_kept
    have hrests : (lockedContract view inv).Rests i w w := Mutex.rests_self hinv
    cases started_of_startTask hstart with
    | launch => exact keeps_of_acts hkept (acts_runForever unrecorded_runner config _) hrests
    | boot m label failure =>
      exact keeps_of_acts hkept
        (acts_runMonitor unrecorded_monitor m label failure (hG.raised m) _) hrests
    | delivered f => exact hdeliver f _ w hinv
    | fetchFailed f e =>
      exact keeps_of_acts hkept (acts_fetchFails unrecorded_monitor f e _) hrests
    | intent n request userId =>
      exact keeps_of_acts hkept (acts_bind (acts_processArbitrageIntent request userId
        (hG.intent request) (hG.dispatch request) _) fun _ _ => trivial) hrests
    | dashboard n x f => exact keeps_of_acts hkept (acts_modify (.of_eq rfl rfl rfl)) hrests
  drifts w x s hinv _ hdrift := by
    obtain ⟨seconds, -, -, rfl⟩ := drift_tick hdrift
    exact ⟨hG.put hinv (.of_eq rfl rfl rfl), fun _ _ hk => ⟨hk, rfl⟩⟩

end
end BimodalArbitrage.Runtime
