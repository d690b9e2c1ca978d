import BimodalArbitrage.Runtime.Tasks

/-!
# The lock of a monitor

While a callback holds the lock of its monitor, nobody else takes it, evaluates or
trades for that monitor. `lockContract` says so beside an invariant of the process;
what an invariant has to survive outside the evaluations is `Stable`.
-/

namespace BimodalArbitrage.Runtime
open Coop Execution Marketdata Api Coro

def Event.booked : Event → Option (MonitorId × ℚ)
  | .executed m result => some (m, result.executedVolumeUsd)
  | _ => none

section
variable (log : Log)

def bookings : List (MonitorId × ℚ) := log.filterMap fun e => e.event.booked

def executedBy (m : MonitorId) : ℚ :=
  (((bookings log).filter fun b => b.1 = m).map Prod.snd).sum

end

section
variable {log : Log} {i : TaskId} {s : AppState} {e : Event}

theorem bookings_snoc (log : Log) (e : Entry TaskId AppState Event) :
    bookings (log ++ [e]) = bookings log ++ e.event.booked.toList := by
  cases h : e.event.booked <;> simp [bookings, h]

theorem executedBy_quiet (h : e.booked = none) (m : MonitorId) :
    executedBy (log ++ [⟨i, s, e⟩]) m = executedBy log m := by
  simp [executedBy, bookings_snoc, h]

theorem executedBy_executed (log : Log) (i : TaskId) (s : AppState) (m : MonitorId)
    (result : TradeExecutionResult) (m' : MonitorId) :
    executedBy (log ++ [⟨i, s, .executed m result⟩]) m' =
      executedBy log m' + if m' = m then result.executedVolumeUsd else 0 := by
  by_cases h : m = m'
  · simp [executedBy, bookings_snoc, Event.booked, h]
  · simp [executedBy, bookings_snoc, Event.booked, h, Ne.symm h]

end

theorem counted_executed {w : World TaskId AppState Event}
    (h : ∀ m, (w.state.monitors m).dailyNotionalUsedUsd = executedBy w.log m)
    (m : MonitorId) (result : TradeExecutionResult) (m' : MonitorId) :
    ((w.state.onMonitor m fun st => { st with
        dailyNotionalUsedUsd := st.dailyNotionalUsedUsd + result.executedVolumeUsd }).monitors
          m').dailyNotionalUsedUsd =
      executedBy (w.log ++ [⟨i, s, .executed m result⟩]) m' := by
  rw [executedBy_executed, ← h m', AppState.onMonitor_apply]
  by_cases hm : m' = m
  · rw [if_pos hm, if_pos hm]
  · rw [if_neg hm, if_neg hm, add_zero]

/-! ### The contract -/

/-- While the feed holds the lock of its monitor, nobody else takes it or trades. -/
def LockKept (f : Feed) (u v : World TaskId AppState Event) : Prop :=
  (u.state.monitors f.monitor).evaluating = some f →
    (v.state.monitors f.monitor).evaluating = some f ∧
      executedBy v.log f.monitor = executedBy u.log f.monitor

theorem LockKept.trans {f : Feed} {u v w : World TaskId AppState Event} (huv : LockKept f u v)
    (hvw : LockKept f v w) : LockKept f u w := by
  intro hu
  obtain ⟨hv, hsum⟩ := huv hu
  obtain ⟨hw, hsum'⟩ := hvw hv
  exact ⟨hw, hsum'.trans hsum⟩

def lockContract (inv : World TaskId AppState Event → Prop) :
    Contract TaskId AppState Event Input where
  inv := inv
  rely i u v := u.log <+: v.log ∧ ∀ f, i = .feed f → LockKept f u v
  guar i u v := u.log <+: v.log ∧ ∀ f, i ≠ .feed f → LockKept f u v
  allows _ _ := True
  rely_refl _ _ := ⟨List.prefix_refl _, fun _ _ h => ⟨h, rfl⟩⟩
  rely_trans _ _ _ _ huv hvw := ⟨huv.1.trans hvw.1, fun f hf => (huv.2 f hf).trans (hvw.2 f hf)⟩
  guar_rely _ _ _ _ hij h := ⟨h.1, fun f hf => h.2 f (hf ▸ hij)⟩

/-- `inv` survives the moves in `T` and the events in `P`; neither trades. -/
structure Stable (inv : World TaskId AppState Event → Prop) (T : AppState → AppState → Prop)
    (P : Event → Prop) : Prop where
  put : ∀ {w s}, inv w → T w.state s → inv (w.put s)
  emit : ∀ {w i e}, inv w → P e → inv (w.emit i e)
  ledgers : ∀ {s s'}, T s s' → SameLedgers s s'
  accounts : ∀ {s s'}, SameAccounts s s' → T s s'
  unbooked : ∀ {e}, P e → e.booked = none

def Holding (inv : World TaskId AppState Event → Prop) (f : Feed)
    (u w : World TaskId AppState Event) : Prop :=
  (lockContract inv).Rests (.feed f) u w ∧ (w.state.monitors f.monitor).evaluating = some f

section
variable {host : Host} {config : RunnerConfig} {inv : World TaskId AppState Event → Prop}
  {T : AppState → AppState → Prop} {P : Event → Prop} {i : TaskId} {f : Feed}
  {u v w : World TaskId AppState Event} {s : AppState} {e : Event}

theorem rests_self (h : inv w) : (lockContract inv).Rests i w w :=
  ⟨h, List.prefix_refl _, fun _ _ hw => ⟨hw, rfl⟩⟩

theorem Stable.rests_put (hS : Stable inv T P) (h : (lockContract inv).Rests i u w)
    (hs : T w.state s) : (lockContract inv).Rests i u (w.put s) :=
  ⟨hS.put h.1 hs, h.2.1,
    fun f hf => (h.2.2 f hf).trans fun hw => ⟨((hS.ledgers hs).evaluating _).trans hw, rfl⟩⟩

theorem guar_emit (h : (lockContract inv).guar i u w) (he : e.booked = none) :
    (lockContract inv).guar i u (w.emit i e) :=
  ⟨h.1.trans (List.prefix_append ..),
    fun f hf => (h.2 f hf).trans fun hw => ⟨hw, executedBy_quiet he _⟩⟩

theorem Stable.rests_emit (hS : Stable inv T P) (h : (lockContract inv).Rests i u w)
    (he : P e) : (lockContract inv).Rests i u (w.emit i e) :=
  ⟨hS.emit h.1 he, guar_emit h.2 (hS.unbooked he)⟩

theorem Stable.kept (hS : Stable inv T P) :
    Kept (processRules host config) (lockContract inv) i T P ((lockContract inv).Rests i) where
  set := hS.rests_put
  emit := hS.rests_emit
  rests h := h
  turn _ _ hv := rests_self hv
  reply _ _ hv hans :=
    hS.rests_put (rests_self hv) (hS.accounts (answerCall_steady hans).toSameAccounts)

/-! ### Holding the lock -/

theorem Stable.holding_put (hS : Stable inv T P) (h : Holding inv f u w) (hs : T w.state s) :
    Holding inv f u (w.put s) :=
  ⟨hS.rests_put h.1 hs, ((hS.ledgers hs).evaluating _).trans h.2⟩

theorem Stable.holding_emit (hS : Stable inv T P) (h : Holding inv f u w) (he : P e) :
    Holding inv f u (w.emit (.feed f) e) := ⟨hS.rests_emit h.1 he, h.2⟩

theorem Holding.resume (h : Holding inv f u w) (hr : (lockContract inv).rely (.feed f) w v)
    (hv : inv v) : Holding inv f v v :=
  ⟨rests_self hv, (hr.2 f rfl h.2).1⟩

theorem Stable.holding_kept (hS : Stable inv T P) :
    Kept (processRules host config) (lockContract inv) (.feed f) T P (Holding inv f) where
  set := hS.holding_put
  emit := hS.holding_emit
  rests h := h.1
  turn := Holding.resume
  reply h hr hv hans :=
    hS.holding_put (h.resume hr hv) (hS.accounts (answerCall_steady hans).toSameAccounts)

theorem guar_onMonitor (g : MonitorState → MonitorState)
    (h : (lockContract inv).guar (.feed f) u w)
    (hfree : ∀ f', f'.monitor = f.monitor → f' ≠ f →
      (w.state.monitors f.monitor).evaluating ≠ some f') :
    (lockContract inv).guar (.feed f) u (w.put (w.state.onMonitor f.monitor g)) := by
  refine ⟨h.1, fun f' hf' => (h.2 f' hf').trans fun hw => ⟨?_, rfl⟩⟩
  by_cases hm : f'.monitor = f.monitor
  · rw [hm] at hw
    exact absurd hw (hfree f' hm fun heq => hf' (heq ▸ rfl))
  · rw [World.put_state, AppState.onMonitor_of_ne hm]
    exact hw

theorem Holding.alone (h : Holding inv f u w) {f' : Feed} (hne : f' ≠ f) :
    (w.state.monitors f.monitor).evaluating ≠ some f' := by
  rw [h.2]
  exact fun heq => hne (Option.some.inj heq).symm

theorem Holding.book (h : Holding inv f u w) {result : TradeExecutionResult}
    (hinv : inv ((w.put (w.state.onMonitor f.monitor fun st => { st with
      dailyNotionalUsedUsd := st.dailyNotionalUsedUsd + result.executedVolumeUsd })).emit (.feed f)
        (.executed f.monitor result))) :
    Holding inv f u ((w.put (w.state.onMonitor f.monitor fun st => { st with
      dailyNotionalUsedUsd := st.dailyNotionalUsedUsd + result.executedVolumeUsd })).emit (.feed f)
        (.executed f.monitor result)) := by
  refine ⟨⟨hinv, h.1.2.1.trans (List.prefix_append ..),
    fun f' hf' => (h.1.2.2 f' hf').trans fun hw => ?_⟩, ?_⟩
  · have hm : f'.monitor ≠ f.monitor := by
      intro hm
      rw [hm] at hw
      exact h.alone (fun heq => hf' (heq ▸ rfl)) hw
    rw [World.emit_log, World.put_log, executedBy_executed, if_neg hm, add_zero, World.emit_state,
      World.put_state, AppState.onMonitor_of_ne hm]
    exact ⟨hw, rfl⟩
  · rw [World.emit_state, World.put_state, AppState.onMonitor_self]
    exact h.2

/-! ### The process -/

/-- Only a callback that finds the lock free evaluates, and it gives the lock back. -/
theorem lock_underLock {evaluateOnce : Proc Unit}
    (henter : ∀ w : World TaskId AppState Event, inv w →
      (w.state.monitors f.monitor).evaluating = none →
        inv ((w.put (setLock f (some f) w.state)).emit (.feed f) (.evaluateOnce f.monitor)))
    (hleave : ∀ w : World TaskId AppState Event, inv w →
      (w.state.monitors f.monitor).evaluating = some f →
        inv ((w.emit (.feed f) (.evaluationOver f.monitor)).put (setLock f none w.state)))
    (hevaluate : ∀ u w : World TaskId AppState Event,
      Holding inv f u (w.emit (.feed f) (.evaluateOnce f.monitor)) →
        wp (processRules host config) (lockContract inv) (.feed f) evaluateOnce
          (fun _ => Holding inv f) u w)
    (h : (lockContract inv).Rests (.feed f) u w) :
    wp (processRules host config) (lockContract inv) (.feed f) (underLock f evaluateOnce)
      (fun _ => (lockContract inv).Rests (.feed f)) u w := by
  rw [wp_underLock_iff]
  split
  · exact h
  next hlocked =>
  have hfree : (w.state.monitors f.monitor).evaluating = none := by simpa using hlocked
  have hentered : Holding inv f u
      ((w.put (setLock f (some f) w.state)).emit (.feed f) (.evaluateOnce f.monitor)) := by
    have hguar := guar_onMonitor (fun st => { st with evaluating := some f }) h.2
      fun f' _ _ => by simp [hfree]
    exact ⟨⟨henter w h.1 hfree, guar_emit hguar rfl⟩, setLock_self ..⟩
  refine wp_mono (P := fun _ => Holding inv f) _ (fun r u w h => ?_) (hevaluate u _ hentered)
  have hguar := guar_emit (e := .evaluationOver f.monitor) h.1.2 rfl
  exact ⟨hleave w h.1.1 h.2, guar_onMonitor _ hguar fun f' _ => h.alone⟩

theorem lock_deliver (hS : Stable inv T P) (hbook : ∀ k use, P (.book k use))
    (henter : ∀ w : World TaskId AppState Event, inv w →
      (w.state.monitors f.monitor).evaluating = none →
        inv ((w.put (setLock f (some f) w.state)).emit (.feed f) (.evaluateOnce f.monitor)))
    (hleave : ∀ w : World TaskId AppState Event, inv w →
      (w.state.monitors f.monitor).evaluating = some f →
        inv ((w.emit (.feed f) (.evaluationOver f.monitor)).put (setLock f none w.state)))
    (hpair : ∀ k pair, f = .buy k → ∀ u w : World TaskId AppState Event,
      Holding inv f u (w.emit (.feed f) (.evaluateOnce f.monitor)) →
        wp (processRules host config) (lockContract inv) (.feed f)
          (PairMonitor.mk host config k pair).evaluateOnce (fun _ => Holding inv f) u w)
    (htriangle : ∀ k market triangle, f = .leg k market → ∀ u w : World TaskId AppState Event,
      Holding inv f u (w.emit (.feed f) (.evaluateOnce f.monitor)) →
        wp (processRules host config) (lockContract inv) (.feed f)
          (TriangleMonitor.mk host config k triangle).evaluateOnce (fun _ => Holding inv f) u w)
    (snapshot : OrderBookSnapshot) (h : inv w) :
    Keeps (processRules host config) (lockContract inv) (.feed f)
      (deliver host config f snapshot) w w := by
  have hstatus : ∀ status (s : AppState), T s (s.setFeed f status) :=
    fun status s => hS.accounts ⟨⟨fun _ => rfl, fun _ => rfl⟩, fun _ => rfl⟩
  have hstart : (lockContract inv).Rests (.feed f) w (w.put (w.state.setFeed f .delivering)) :=
    hS.rests_put (rests_self h) (hstatus ..)
  have hcallback := wp_callback (hS.kept.mono (fun _ _ h => hS.accounts h.toSameAccounts)
    fun _ => id) (fun _ _ _ h => h) hbook f
    (fun k pair hf u w => lock_underLock henter hleave (hpair k pair hf))
    (fun k market triangle hf u w => lock_underLock henter hleave (htriangle k market triangle hf))
    snapshot hstart
  refine (keeps_deliver f snapshot).mpr (wp_mono _ (fun r u w h => ?_) hcallback)
  cases r with
  | ok a => exact hS.rests_put h (hstatus ..)
  | error e => exact hS.rests_put h (hS.accounts (sameAccounts_failFeed f e _))

/-- Only the evaluations have to be shown to keep the invariant. -/
theorem lock_sound (hS : Stable inv T P) (hraised : ∀ m, P (.runRaised m))
    (hgate : ∀ request signal, P (.shouldExecute (.intent request) (gateCall request signal)))
    (hdispatch : ∀ request signal, P (.dispatchOrders request signal))
    (hdeliver : ∀ (f : Feed) snapshot w, inv w → Keeps (processRules host config)
      (lockContract inv) (.feed f) (deliver host config f snapshot) w w) :
    Sound (processRules host config) (lockContract inv) where
  starts w i x c hinv _ hstart := by
    have hkept : Kept (processRules host config) (lockContract inv) i SameAccounts P
        ((lockContract inv).Rests i) := hS.kept.mono (fun _ _ => hS.accounts) fun _ => id
    have hsteady := hkept.mono (fun _ _ (h : Steady _ _) => h.toSameAccounts) fun _ h => h
    cases started_of_startTask hstart with
    | launch =>
      exact keeps_of_acts hsteady (acts_runForever steady_runner config _) (rests_self hinv)
    | boot m label failure =>
      exact keeps_of_acts hkept (acts_runMonitor sameAccounts_monitor m label failure (hraised m) _)
        (rests_self hinv)
    | delivered f => exact hdeliver f _ w hinv
    | fetchFailed f e =>
      exact keeps_of_acts hkept (acts_fetchFails sameAccounts_monitor f e _) (rests_self hinv)
    | intent n request userId =>
      exact keeps_of_acts hkept (acts_bind (acts_processArbitrageIntent request userId
        (hgate request) (hdispatch request) w.state) fun _ _ => trivial) (rests_self hinv)
    | dashboard n x f => exact keeps_of_acts hsteady (acts_dashboard f _) (rests_self hinv)
  drifts w x s hinv _ hdrift := by
    have hsame := (drift_steady hdrift).toSameAccounts
    exact ⟨hS.put hinv (hS.accounts hsame), fun _ => ⟨List.prefix_refl _, fun _ _ hw =>
      ⟨(hsame.evaluating _).trans hw, rfl⟩⟩⟩

end
end BimodalArbitrage.Runtime
