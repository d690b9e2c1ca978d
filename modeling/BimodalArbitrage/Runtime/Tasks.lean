import BimodalArbitrage.Marketdata.Footprint
import BimodalArbitrage.Runtime.Process

/-!
# The tasks of the process

What an input can start, what each task leaves alone, and the rules that reduce a
feed to the evaluation under its lock.
-/

namespace BimodalArbitrage.Runtime
open Coop Execution Marketdata Api Coro
variable {N : Type} [PyFloat N]

abbrev Log (N : Type := ℚ) [PyFloat N] := List (Entry TaskId (AppState N) (Event N))

inductive Started (host : Host N) (config : RunnerConfig N) (s : AppState N) :
    TaskId → Input N → Proc Unit N → Prop
  | launch : Started host config s .runForever .launch (runForever config)
  | boot (m : MonitorId) (label : String) (failure : Option PyError)
      (hrun : (s.monitors m).run = .created) :
      Started host config s (.run m) (.boot failure) (runMonitor m label failure)
  | delivered (f : Feed) (source : String × String) (timestamp : N)
      (bids asks : List (OrderBookLevel N)) (hfeed : s.feeds f = .fetching) :
      Started host config s (.feed f) (.delivered timestamp bids asks)
        (deliver host config f ⟨source.1, source.2, timestamp, bids, asks⟩)
  | fetchFailed (f : Feed) (e : PyError) (hfeed : s.feeds f = .fetching) :
      Started host config s (.feed f) (.fetchFailed e) (fetchFails f e)
  | intent (n : ℕ) (request : TradeSignalRequest N) (userId : String) :
      Started host config s (.request n) (.intent request userId)
        ((processArbitrageIntent request userId).bind fun _ => .pure ())
  | dashboard (n : ℕ) (x : Input N) (f : KillSwitch → KillSwitch) :
      Started host config s (.dashboard n) x
        (Coro.modify fun s => { s with killSwitch := f s.killSwitch })

theorem started_of_startTask {host : Host N} {config : RunnerConfig N} {s : AppState N} {i : TaskId}
    {x : Input N} {c : Proc Unit N} (h : startTask host config s i x = some c) :
    Started host config s i x c := by
  unfold startTask at h
  split at h
  · split at h
    · cases h
    · cases h
      exact .launch
  · split at h
    · next hrun _ =>
      split at h
      · cases h
        exact .boot _ _ _ hrun
      · cases h
    · cases h
  · split at h
    · next hfeed _ =>
      cases h
      exact .delivered _ _ _ _ _ hfeed
    · cases h
  · split at h
    · next hfeed =>
      cases h
      exact .fetchFailed _ _ hfeed
    · cases h
  · cases h
    exact .intent _ _ _
  · cases h
    exact .dashboard _ _ KillSwitch.engage
  · cases h
    exact .dashboard _ _ KillSwitch.disengage
  · cases h

/-! ### Footprints -/

theorem answerCall_frame {config : RunnerConfig N} {s s' : AppState N} {c : Call N} {x : Input N}
    {r : Except PyError c.Reply} (h : answerCall config s c x = some (r, s'))
    (hset : ∀ key value ex, c ≠ .redisSet key value ex) : s' = s := by
  unfold answerCall at h
  split at h <;> first
    | contradiction
    | exact absurd rfl (hset _ _ _)
    | (cases h; rfl)
    | (obtain ⟨_, _, h⟩ := Option.map_eq_some_iff.mp h; cases h; rfl)
    | (split at h <;> cases h; rfl)

/-- An answer moves nothing but what Redis holds. -/
theorem answerCall_moves {T : AppState N → AppState N → Prop}
    (hT : ∀ redis s, T s { s with redis := redis }) {config : RunnerConfig N} {s s' : AppState N}
    {c : Call N} {x : Input N} {r : Except PyError c.Reply}
    (h : answerCall config s c x = some (r, s')) : T s s' := by
  cases c with
  | redisSet key value ex => cases x <;> cases h <;> exact hT _ s
  | _ =>
    rw [answerCall_frame h fun _ _ _ heq => by cases heq]
    exact hT s.redis s

theorem answerCall_steady {config : RunnerConfig N} {s s' : AppState N} {c : Call N} {x : Input N}
    {r : Except PyError c.Reply} (h : answerCall config s c x = some (r, s')) : Steady s s' :=
  answerCall_moves (fun _ _ => .of_eq rfl rfl) h

theorem drift_tick {host : Host N} {config : RunnerConfig N} {s s' : AppState N} {x : Input N}
    (h : (processRules host config).drift s x = some s') :
    ∃ seconds, x = .tick seconds ∧ 0 ≤ seconds ∧ s' = { s with now := s.now + seconds } := by
  simp only [processRules] at h
  split at h
  · split at h
    next seconds hseconds =>
      cases h
      exact ⟨seconds, rfl, hseconds, rfl⟩
    · cases h
  · cases h

theorem drift_steady {host : Host N} {config : RunnerConfig N} {s s' : AppState N} {x : Input N}
    (h : (processRules host config).drift s x = some s') : Steady s s' := by
  obtain ⟨seconds, -, -, rfl⟩ := drift_tick h
  exact .of_eq rfl rfl

omit [PyFloat N] in
theorem foldl_recordExit (exits : List (String × Except PyError Unit)) (s : AppState N) :
    ∃ errors, exits.foldl recordExit s = { s with errors := errors } := by
  induction exits generalizing s with
  | nil => exact ⟨s.errors, rfl⟩
  | cons exit exits ih =>
    obtain ⟨label, result⟩ := exit
    cases result with
    | ok a => exact ih s
    | error e => exact ih (s.recordError (label ++ " monitor exited: " ++ e.repr))

omit [PyFloat N] in
theorem foldl_setFeed (fs : List Feed) (s : AppState N) :
    fs.foldl (fun s f => s.setFeed f .fetching) s =
      { s with feeds := fun f => if f ∈ fs then .fetching else s.feeds f } := by
  induction fs generalizing s with
  | nil => simp
  | cons g fs ih =>
    rw [List.foldl_cons, ih, AppState.setFeed]
    congr 1
    funext f
    by_cases hf : f ∈ fs
    · simp only [hf, if_true, List.mem_cons, or_true]
    · by_cases hg : f = g <;> simp [hf, hg]

omit [PyFloat N] in
theorem startFeeds_eq (m : MonitorId) (s : AppState N) :
    startFeeds m s = { s.onMonitor m (fun st => { st with run := .running }) with
      feeds := fun f => if f ∈ m.feeds then .fetching else s.feeds f } := foldl_setFeed ..

omit [PyFloat N] in
theorem startFeeds_feeds (m : MonitorId) (s : AppState N) (f : Feed) :
    (startFeeds m s).feeds f = if f ∈ m.feeds then .fetching else s.feeds f := by
  rw [startFeeds_eq]

omit [PyFloat N] in
theorem startFeeds_monitors (m : MonitorId) (s : AppState N) :
    (startFeeds m s).monitors = (s.onMonitor m fun st => { st with run := .running }).monitors := by
  rw [startFeeds_eq]

section
variable {T : AppState N → AppState N → Prop} {P : Event N → Prop}

/-- `T` survives what the runner writes. -/
structure RunnerMoves (T : AppState N → AppState N → Prop) : Prop where
  launch : ∀ s, T s { s with launched := true }
  bootstrap : ∀ user labels s, T s { s with
    localUserId := some user
    monitoredPairs := labels
    bootstrapped := true }
  errors : ∀ errors s, T s { s with errors := errors }

/-- `T` survives what `run` of a monitor writes, and the failures of its feeds. -/
structure MonitorMoves (T : AppState N → AppState N → Prop) : Prop where
  start : ∀ m s, T s (startFeeds m s)
  finish : ∀ m result s, T s (endRun m result s)
  fail : ∀ f e s, T s (failFeed f e s)
  errors : ∀ errors s, T s { s with errors := errors }

theorem acts_runForever (hT : RunnerMoves T) (config : RunnerConfig N) (s : AppState N) :
    (runForever config).Acts T P s := by
  refine acts_modify_bind (hT.launch s) ?_
  split
  · trivial
  split
  · trivial
  refine acts_call_bind fun user s => acts_modify_bind (hT.bootstrap ..) ?_
  refine acts_call_bind fun results s => acts_modify ?_
  obtain ⟨errors, heq⟩ := foldl_recordExit ((allLabels config).zip results) s
  exact heq ▸ hT.errors errors s

theorem acts_runMonitor (hT : MonitorMoves T) (m : MonitorId) (label : String)
    (failure : Option PyError) (hP : P (.runRaised m)) (s : AppState N) :
    (runMonitor m label failure).Acts T P s := by
  cases failure with
  | some e => exact acts_modify_bind (hT.finish m _ s) trivial
  | none =>
    refine acts_modify_bind (hT.start m s) (acts_bind ?_ ?_)
    · refine acts_catching (acts_call _) fun e s => ?_
      exact acts_modify_bind (hT.errors ..)
        (acts_report_bind hP (acts_modify_bind (hT.finish m _ _) trivial))
    · exact fun _ s => acts_modify (hT.finish m _ s)

theorem acts_fetchFails (hT : MonitorMoves T) (f : Feed) (e : PyError) (s : AppState N) :
    (fetchFails f e).Acts T P s :=
  acts_modify_bind (hT.fail f e s) trivial

/-- The gateway writes nothing that the monitors share with it. -/
theorem acts_processArbitrageIntent (request : TradeSignalRequest N) (userId : String)
    (hgate : ∀ signal, P (.shouldExecute (.intent request) (gateCall request signal)))
    (hdispatch : ∀ signal, P (.dispatchOrders request signal)) (s : AppState N) :
    (processArbitrageIntent request userId).Acts T P s := by
  unfold processArbitrageIntent
  split
  · trivial
  refine acts_call_bind fun signal s => acts_report_bind (hgate signal) ?_
  split
  · trivial
  refine acts_report_bind (hdispatch signal) (acts_bind (acts_attempt (acts_call _)) ?_)
  intro result s
  cases result <;> trivial

theorem acts_dashboard (f : KillSwitch → KillSwitch) (s : AppState N) :
    (Coro.modify fun s => { s with killSwitch := f s.killSwitch } : Proc Unit N).Acts Steady P s :=
  acts_modify (Steady.of_eq rfl rfl)

omit [PyFloat N] in
theorem sameAccounts_onMonitor {f : MonitorState N → MonitorState N}
    (hevaluating : ∀ st, (f st).evaluating = st.evaluating)
    (hdaily : ∀ st, (f st).dailyNotionalUsedUsd = st.dailyNotionalUsedUsd)
    (hheuristic : ∀ st, (f st).heuristic = st.heuristic) (m : MonitorId) (s : AppState N) :
    SameAccounts s (s.onMonitor m f) where
  evaluating m' := onMonitor_field MonitorState.evaluating hevaluating m s m'
  daily m' := onMonitor_field MonitorState.dailyNotionalUsedUsd hdaily m s m'
  heuristic m' := onMonitor_field MonitorState.heuristic hheuristic m s m'

omit [PyFloat N] in
theorem sameAccounts_endRun (m : MonitorId) (result : Except PyError Unit) (s : AppState N) :
    SameAccounts s (endRun m result s) :=
  sameAccounts_onMonitor (fun _ => by rfl) (fun _ => by rfl) (fun _ => by rfl) m s

omit [PyFloat N] in
theorem sameAccounts_startFeeds (m : MonitorId) (s : AppState N) :
    SameAccounts s (startFeeds m s) := by
  have h := sameAccounts_onMonitor (f := fun st => { st with run := .running }) (fun _ => rfl)
    (fun _ => rfl) (fun _ => rfl) m s
  rw [startFeeds_eq]
  exact ⟨⟨h.evaluating, h.daily⟩, h.heuristic⟩

omit [PyFloat N] in
theorem sameAccounts_failFeed (f : Feed) (e : PyError) (s : AppState N) :
    SameAccounts s (failFeed f e s) := by
  have h := sameAccounts_onMonitor (f := fun st => { st with failure := st.failure.or (some e) })
    (fun _ => rfl) (fun _ => rfl) (fun _ => rfl) f.monitor (s.setFeed f .failed)
  exact ⟨⟨h.evaluating, h.daily⟩, h.heuristic⟩

omit [PyFloat N] in
theorem steady_runner : RunnerMoves (Steady (N := N)) where
  launch _ := .of_eq rfl rfl
  bootstrap _ _ _ := .of_eq rfl rfl
  errors _ _ := .of_eq rfl rfl

omit [PyFloat N] in
theorem sameAccounts_monitor : MonitorMoves (SameAccounts (N := N)) where
  start := sameAccounts_startFeeds
  finish := sameAccounts_endRun
  fail := sameAccounts_failFeed
  errors _ _ := ⟨⟨fun _ => rfl, fun _ => rfl⟩, fun _ => rfl⟩

end

/-! ### Feeds -/

section
variable {host : Host N} {config : RunnerConfig N}
  {rules : Rules TaskId (AppState N) (Event N) (Call N) Call.Reply PyError (Input N)}
  {K : Contract TaskId (AppState N) (Event N) (Input N)} {i : TaskId}

theorem keeps_deliver (f : Feed) (snapshot : OrderBookSnapshot N)
    {u w : World TaskId (AppState N) (Event N)} :
    Keeps rules K i (deliver host config f snapshot) u w ↔
      wp rules K i (callback host config f snapshot) (fun r u w =>
        Ends r (fun _ => K.Rests i u (w.put (w.state.setFeed f .fetching)))
          (fun e => K.Rests i u (w.put (failFeed f e w.state)))) u
        (w.put (w.state.setFeed f .delivering)) := by
  simp only [Keeps, deliver, bind_eq, wp_bind, wp_modify, wp_catching, ends_ok, ends_error,
    wp_throw]

theorem wp_callback_of_preparatory {P : Event N → Prop}
    {J : World TaskId (AppState N) (Event N) → World TaskId (AppState N) (Event N) → Prop}
    {Q : Except PyError Unit → World TaskId (AppState N) (Event N) →
      World TaskId (AppState N) (Event N) → Prop}
    (hK : Kept rules K i Preparatory P J) (hQ : ∀ r u w, J u w → Q r u w)
    (hbook : ∀ k use, P (.book k use)) (f : Feed)
    (hpair : ∀ k pair, f = .buy k → config.monitoredPairs[k]? = some pair → ∀ u w, J u w →
      wp rules K i (underLock f (PairMonitor.mk host config k pair).evaluateOnce) Q u w)
    (htriangle : ∀ k market triangle, f = .leg k market →
      config.monitoredTriangles[k]? = some triangle → ∀ u w, J u w →
        wp rules K i (underLock f (TriangleMonitor.mk host config k triangle).evaluateOnce) Q u w)
    (snapshot : OrderBookSnapshot N) {u w : World TaskId (AppState N) (Event N)} (h : J u w) :
    wp rules K i (callback host config f snapshot) Q u w := by
  cases f with
  | buy k =>
    simp only [callback]
    split
    · next pair hconfig =>
      exact PairMonitor.wp_onBuySnapshot hK hQ (hbook k) (hpair k pair rfl hconfig) snapshot h
    · exact hQ _ u w h
  | sell k =>
    simp only [callback]
    split
    · exact wp_of_acts hK (acts_setSnapshot snapshot _) h hQ
    · exact hQ _ u w h
  | leg k market =>
    simp only [callback]
    split
    · next triangle hconfig =>
      have hlock := htriangle k market triangle rfl hconfig
      exact TriangleMonitor.wp_onSnapshot hK hQ market hlock snapshot h
    · exact hQ _ u w h

theorem wp_callback {P : Event N → Prop}
    {J : World TaskId (AppState N) (Event N) → World TaskId (AppState N) (Event N) → Prop}
    {Q : Except PyError Unit → World TaskId (AppState N) (Event N) →
      World TaskId (AppState N) (Event N) → Prop}
    (hK : Kept rules K i Steady P J) (hQ : ∀ r u w, J u w → Q r u w)
    (hbook : ∀ k use, P (.book k use)) (f : Feed)
    (hpair : ∀ k pair, f = .buy k → ∀ u w, J u w →
      wp rules K i (underLock f (PairMonitor.mk host config k pair).evaluateOnce) Q u w)
    (htriangle : ∀ k market triangle, f = .leg k market → ∀ u w, J u w →
      wp rules K i (underLock f (TriangleMonitor.mk host config k triangle).evaluateOnce) Q u w)
    (snapshot : OrderBookSnapshot N) {u w : World TaskId (AppState N) (Event N)} (h : J u w) :
    wp rules K i (callback host config f snapshot) Q u w :=
  wp_callback_of_preparatory (hK.mono Preparatory.steady fun _ h => h) hQ hbook f
    (fun k pair hf _ => hpair k pair hf)
    (fun k market triangle hf _ => htriangle k market triangle hf) snapshot h

end

end BimodalArbitrage.Runtime
