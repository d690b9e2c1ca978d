import BimodalArbitrage.Runtime.DeadMonitor
import BimodalArbitrage.Runtime.Moves
import BimodalArbitrage.Window.Suffix

/-!
# Crashes and their reports

A monitor ends by the failure of its own feeds and by nothing else. What the dashboard
shows of it are the last reports: one where a gather raised, and one for every monitor
once all of them are over.
-/

namespace BimodalArbitrage.Runtime
open Coop Execution Marketdata Ml Api Coro

/-! ### Reports -/

/-- What `run` of a monitor reports before it raises. -/
def crashReport (config : RunnerConfig) (e : Entry TaskId AppState Event) : Option String :=
  match e.event with
  | .runRaised m => do
    let label ← m.label config
    let failure ← (e.state.monitors m).failure
    pure (label ++ " monitor crashed: " ++ failure.repr)
  | _ => none

def crashReports (config : RunnerConfig) (log : Log) : List String :=
  log.filterMap (crashReport config)

def exitReport (exit : String × Except PyError Unit) : Option String :=
  match exit.2 with
  | .ok _ => none
  | .error e => some (exit.1 ++ " monitor exited: " ++ e.repr)

/-- The results of all monitors under their labels, once there are no others to come. -/
def monitorExits (config : RunnerConfig) (s : AppState) :
    Option (List (String × Except PyError Unit)) :=
  ((allMonitors config).mapM fun m => runResult (s.monitors m)).map
    ((allLabels config).zip ·)

/-- The monitors have not been asked for their results. -/
def ReportsCrashes (config : RunnerConfig) (w : World TaskId AppState Event) : Prop :=
  w.state.errors = (crashReports config w.log).rtake AppState.errorsSize

def ReportsExits (config : RunnerConfig) (w : World TaskId AppState Event) : Prop :=
  ∃ exits, monitorExits config w.state = some exits ∧
    w.state.errors =
      (crashReports config w.log ++ exits.filterMap exitReport).rtake AppState.errorsSize

def crashCount (m : MonitorId) (log : Log) : ℕ := log.countP fun e => e.event.raised = some m

/-! ### The invariant -/

/-- A monitor has failed when one of its feeds has, its run is over by that failure or by
one that kept its feeds from starting, and its feeds start with its run. -/
structure Supervised (s : AppState) : Prop where
  fails : ∀ m, (s.monitors m).failure ≠ none ↔ ∃ f ∈ m.feeds, s.feeds f = .failed
  ends : ∀ m result, (s.monitors m).run = .ended result → ∃ e, result = .error e ∧
    ((s.monitors m).failure = some e ∨ ∀ f ∈ m.feeds, s.feeds f = .created)
  created : ∀ f, (s.monitors f.monitor).run = .created → s.feeds f = .created

structure ErrorsInv (config : RunnerConfig) (w : World TaskId AppState Event) : Prop where
  supervised : Supervised w.state
  reports : ReportsCrashes config w ∨ ReportsExits config w
  unlaunched : w.state.launched = false → ReportsCrashes config w
  once : ∀ m, crashCount m w.log ≤ 1
  crashed : ∀ m, 0 < crashCount m w.log → ∃ result, (w.state.monitors m).run = .ended result

/-- A feed that has started is moved by its own task only, and so is a run. Before
`run_forever` has the results, the others report crashes. -/
structure OnlySelf (config : RunnerConfig) (i : TaskId) (u v : World TaskId AppState Event) :
    Prop where
  feeds : ∀ f, i ≠ .feed f → u.state.feeds f ≠ .created → v.state.feeds f = u.state.feeds f
  runs : ∀ m, i ≠ .run m → (v.state.monitors m).run = (u.state.monitors m).run
  launched : i ≠ .runForever → v.state.launched = u.state.launched
  reports : i ≠ .runForever → ReportsCrashes config u → ReportsCrashes config v

structure KeptFor (config : RunnerConfig) (i : TaskId) (u v : World TaskId AppState Event) :
    Prop where
  feeds : ∀ f, i = .feed f → u.state.feeds f ≠ .created → v.state.feeds f = u.state.feeds f
  runs : ∀ m, i = .run m → (v.state.monitors m).run = (u.state.monitors m).run
  launched : i = .runForever → v.state.launched = u.state.launched
  reports : i = .runForever → ReportsCrashes config u → ReportsCrashes config v

def errorsContract (config : RunnerConfig) : Contract TaskId AppState Event Input where
  inv := ErrorsInv config
  rely := KeptFor config
  guar := OnlySelf config
  allows _ _ := True
  rely_refl _ _ := ⟨fun _ _ _ => rfl, fun _ _ => rfl, fun _ => rfl, fun _ h => h⟩
  rely_trans _ _ _ _ huv hvw :=
    ⟨fun f hi hf => (hvw.feeds f hi (by rwa [huv.feeds f hi hf])).trans (huv.feeds f hi hf),
      fun m hi => (hvw.runs m hi).trans (huv.runs m hi),
      fun hi => (hvw.launched hi).trans (huv.launched hi),
      fun hi h => hvw.reports hi (huv.reports hi h)⟩
  guar_rely _ _ _ _ hij h :=
    ⟨fun f hj => h.feeds f (hj ▸ hij), fun m hj => h.runs m (hj ▸ hij),
      fun hj => h.launched (hj ▸ hij), fun hj => h.reports (hj ▸ hij)⟩

/-! ### Steps beside the reports -/

/-- No feed, no run and no report is touched. -/
structure Unharmed (s s' : AppState) : Prop extends SameFeeds s s' where
  failure : ∀ m, (s'.monitors m).failure = (s.monitors m).failure
  launched : s'.launched = s.launched
  errors : s'.errors = s.errors

theorem Unharmed.of_eq {s s' : AppState} (hmonitors : s'.monitors = s.monitors)
    (hfeeds : s'.feeds = s.feeds) (hlaunched : s'.launched = s.launched)
    (herrors : s'.errors = s.errors) : Unharmed s s' where
  feeds := hfeeds
  run _ := by rw [hmonitors]
  failure _ := by rw [hmonitors]
  launched := hlaunched
  errors := herrors

theorem unharmed_onMonitor {g : MonitorState → MonitorState} (hrun : ∀ st, (g st).run = st.run)
    (hfailure : ∀ st, (g st).failure = st.failure) (m : MonitorId) (s : AppState) :
    Unharmed s (s.onMonitor m g) where
  feeds := rfl
  run := onMonitor_field MonitorState.run hrun m s
  failure := onMonitor_field MonitorState.failure hfailure m s
  launched := rfl
  errors := rfl

theorem unharmed_setLock (f : Feed) (holder : Option Feed) (s : AppState) :
    Unharmed s (setLock f holder s) :=
  unharmed_onMonitor (g := fun st => { st with evaluating := holder }) (fun _ => rfl)
    (fun _ => rfl) f.monitor s

theorem unharmed_of_preparatory (s s' : AppState) (h : Preparatory s s') : Unharmed s s' := by
  unfold Preparatory at h
  refine .of_eq ?_ ?_ ?_ ?_ <;> rw [h]

theorem unharmed_heuristic (m : MonitorId) (h : HeuristicSignalEstimator) (s : AppState) :
    Unharmed s (s.onMonitor m fun st => { st with heuristic := h }) :=
  unharmed_onMonitor (fun _ => by rfl) (fun _ => by rfl) m s

theorem unharmed_daily (m : MonitorId) (x : ℚ) (s : AppState) :
    Unharmed s (s.onMonitor m fun st =>
      { st with dailyNotionalUsedUsd := st.dailyNotionalUsedUsd + x }) :=
  unharmed_onMonitor (fun _ => by rfl) (fun _ => by rfl) m s

theorem unharmed_recordSignal (symbol exchangeBuy exchangeSell : String) (call : GateCall)
    (s : AppState) : Unharmed s (s.recordSignal symbol exchangeBuy exchangeSell call) := by
  refine .of_eq ?_ ?_ ?_ ?_ <;> simp only [AppState.recordSignal]

theorem unharmed_moves : Moves Unharmed where
  prepare := unharmed_of_preparatory
  lock := unharmed_setLock
  heuristic := unharmed_heuristic
  signal := unharmed_recordSignal
  outcome _ _ _ := .of_eq rfl rfl rfl rfl
  daily := unharmed_daily

theorem answerCall_unharmed {config : RunnerConfig} {s s' : AppState} {c : Call} {x : Input}
    {r : Except PyError c.Reply} (h : answerCall config s c x = some (r, s')) : Unharmed s s' :=
  answerCall_moves (fun _ _ => .of_eq rfl rfl rfl rfl) h

theorem Supervised.of_unharmed {s s' : AppState} (h : Supervised s) (hs : Unharmed s s') :
    Supervised s' where
  fails m := by
    rw [hs.failure, hs.feeds]
    exact h.fails m
  ends m := by
    rw [hs.run, hs.failure, hs.feeds]
    exact h.ends m
  created f := by
    rw [hs.run, hs.feeds]
    exact h.created f

theorem monitorExits_congr {config : RunnerConfig} {s s' : AppState}
    (h : ∀ m, (s'.monitors m).run = (s.monitors m).run) :
    monitorExits config s' = monitorExits config s := by
  have hresult : ∀ m, runResult (s'.monitors m) = runResult (s.monitors m) := fun m => by
    rw [runResult, runResult, h]
  simp only [monitorExits, hresult]

section
variable {config : RunnerConfig} {w : World TaskId AppState Event} {i : TaskId}

theorem crashReports_append (log : Log) (e : Entry TaskId AppState Event) :
    crashReports config (log ++ [e]) =
      crashReports config log ++ (crashReport config e).toList := by
  rw [crashReports, List.filterMap_append, List.filterMap_cons, List.filterMap_nil, crashReports]
  cases crashReport config e <;> rfl

theorem crashReport_of_quiet {e : Event} (he : e.raised = none) (s : AppState) :
    crashReport config ⟨i, s, e⟩ = none := by
  cases e <;> first
    | rfl
    | cases he

theorem crashCount_append (m : MonitorId) (log : Log) (e : Entry TaskId AppState Event) :
    crashCount m (log ++ [e]) = crashCount m log + if e.event.raised = some m then 1 else 0 := by
  simp [crashCount, List.countP_append, List.countP_singleton]

theorem crashCount_of_quiet {e : Event} (he : e.raised = none) (m : MonitorId) (s : AppState)
    (log : Log) : crashCount m (log ++ [⟨i, s, e⟩]) = crashCount m log := by
  rw [crashCount_append, he, if_neg nofun, add_zero]

theorem ReportsCrashes.put {s : AppState} (hs : s.errors = w.state.errors) :
    ReportsCrashes config (w.put s) ↔ ReportsCrashes config w := by
  rw [ReportsCrashes, ReportsCrashes, World.put_state, World.put_log, hs]

theorem ReportsExits.put {s : AppState} (hs : Unharmed w.state s) (h : ReportsExits config w) :
    ReportsExits config (w.put s) := by
  obtain ⟨exits, hexits, herrors⟩ := h
  exact ⟨exits, (monitorExits_congr hs.run).trans hexits, hs.errors.trans herrors⟩

theorem ErrorsInv.put {s : AppState} (h : ErrorsInv config w) (hs : Unharmed w.state s) :
    ErrorsInv config (w.put s) where
  supervised := h.supervised.of_unharmed hs
  reports := h.reports.imp (ReportsCrashes.put hs.errors).mpr (ReportsExits.put hs)
  unlaunched hlaunched :=
    (ReportsCrashes.put hs.errors).mpr (h.unlaunched (hs.launched.symm.trans hlaunched))
  once := h.once
  crashed m hm := by
    rw [World.put_state, hs.run]
    exact h.crashed m hm

theorem reports_emit {e : Event} (he : e.raised = none) :
    crashReports config (w.emit i e).log = crashReports config w.log := by
  rw [World.emit_log, crashReports_append, crashReport_of_quiet he, Option.toList_none,
    List.append_nil]

theorem ErrorsInv.emit {e : Event} (h : ErrorsInv config w) (he : e.raised = none) :
    ErrorsInv config (w.emit i e) where
  supervised := h.supervised
  reports := by
    rw [ReportsCrashes, ReportsExits, reports_emit he]
    exact h.reports
  unlaunched hlaunched := by
    rw [ReportsCrashes, reports_emit he]
    exact h.unlaunched hlaunched
  once m := (crashCount_of_quiet he m _ _).trans_le (h.once m)
  crashed m hm := h.crashed m (hm.trans_eq (crashCount_of_quiet he m _ _))

theorem reports_kept (host : Host) : Kept (processRules host config) (errorsContract config) i
    Unharmed (fun e => e.raised = none) ((errorsContract config).Rests i) where
  set {u w s} h hs :=
    ⟨h.1.put hs, fun f hf hu => by rw [World.put_state, hs.feeds, h.2.feeds f hf hu],
      fun m hm => (hs.run m).trans (h.2.runs m hm), fun hi => hs.launched.trans (h.2.launched hi),
      fun hi hu => (ReportsCrashes.put hs.errors).mpr (h.2.reports hi hu)⟩
  emit h he := by
    refine ⟨h.1.emit he, h.2.feeds, h.2.runs, h.2.launched, fun hi hu => ?_⟩
    rw [ReportsCrashes, reports_emit he]
    exact h.2.reports hi hu
  rests h := h
  turn _ _ hv := ⟨hv, ⟨fun _ _ _ => rfl, fun _ _ => rfl, fun _ => rfl, fun _ h => h⟩⟩
  reply _ _ hv hans := by
    have hs := answerCall_unharmed hans
    exact ⟨hv.put hs, fun f _ _ => by rw [World.put_state, hs.feeds], fun m _ => hs.run m,
      fun _ => hs.launched, fun _ hu => (ReportsCrashes.put hs.errors).mpr hu⟩

theorem reports_self (h : ErrorsInv config w) : (errorsContract config).Rests i w w :=
  ⟨h, ⟨fun _ _ _ => rfl, fun _ _ => rfl, fun _ => rfl, fun _ h => h⟩⟩

end

/-! ### Feeds -/

section
variable {s : AppState} {f : Feed}

theorem Supervised.setFeed (h : Supervised s) (hcreated : s.feeds f ≠ .created)
    (hfailed : s.feeds f ≠ .failed) {status : FeedStatus} (hstatus : status ≠ .failed) :
    Supervised (s.setFeed f status) where
  fails m := by
    refine (h.fails m).trans (exists_congr fun g => and_congr_right fun _ => ?_)
    by_cases hg : g = f
    · subst hg
      simp only [AppState.setFeed, Function.update_self, hfailed, hstatus]
    · simp only [AppState.setFeed, Function.update_of_ne hg]
  ends m result hrun := by
    obtain ⟨e, hresult, hend⟩ := h.ends m result hrun
    refine ⟨e, hresult, hend.imp_right fun hall g hg => ?_⟩
    have hgf : g ≠ f := fun hgf => hcreated (hgf ▸ hall g hg)
    simpa only [AppState.setFeed, Function.update_of_ne hgf] using hall g hg
  created g hrun := by
    have hgf : g ≠ f := fun hgf => hcreated (hgf ▸ h.created g hrun)
    simpa only [AppState.setFeed, Function.update_of_ne hgf] using h.created g hrun

theorem failFeed_run (f : Feed) (e : PyError) (s : AppState) (m : MonitorId) :
    ((failFeed f e s).monitors m).run = (s.monitors m).run :=
  onMonitor_field (f := fun st => { st with failure := st.failure.or (some e) })
    MonitorState.run (fun _ => by rfl) f.monitor (s.setFeed f .failed) m

theorem failFeed_failure (f : Feed) (e : PyError) (s : AppState) (m : MonitorId) :
    ((failFeed f e s).monitors m).failure =
      if m = f.monitor then (s.monitors m).failure.or (some e) else (s.monitors m).failure := by
  rw [failFeed, AppState.onMonitor_apply]
  split <;> rfl

theorem failFeed_feeds (f : Feed) (e : PyError) (s : AppState) (g : Feed) :
    (failFeed f e s).feeds g = if g = f then .failed else s.feeds g := Function.update_apply ..

theorem Supervised.failFeed (h : Supervised s) (hcreated : s.feeds f ≠ .created) (e : PyError) :
    Supervised (failFeed f e s) where
  fails m := by
    simp only [failFeed_failure, failFeed_feeds]
    by_cases hm : m = f.monitor
    · rw [if_pos hm]
      refine iff_of_true ?_ ⟨f, Feed.mem_feeds.mpr hm.symm, if_pos rfl⟩
      cases (s.monitors m).failure <;> exact nofun
    · rw [if_neg hm]
      refine (h.fails m).trans (exists_congr fun g => and_congr_right fun hg => ?_)
      rw [if_neg fun hgf => hm (hgf ▸ Feed.mem_feeds.mp hg).symm]
  ends m result hrun := by
    rw [failFeed_run] at hrun
    obtain ⟨e', hresult, hend⟩ := h.ends m result hrun
    refine ⟨e', hresult, ?_⟩
    simp only [failFeed_failure, failFeed_feeds]
    rcases hend with hend | hall
    · rw [hend]
      exact .inl (ite_self _)
    · refine .inr fun g hg => ?_
      have hgf : g ≠ f := fun hgf => hcreated (hgf ▸ hall g hg)
      rw [if_neg hgf]
      exact hall g hg
  created g hrun := by
    rw [failFeed_run] at hrun
    have hgf : g ≠ f := fun hgf => hcreated (hgf ▸ h.created g hrun)
    rw [failFeed_feeds, if_neg hgf]
    exact h.created g hrun

end

section
variable {config : RunnerConfig} {host : Host} {f : Feed} {u w : World TaskId AppState Event}

/-- What a feed does to itself and to the failure of its monitor. -/
theorem rests_feed {s : AppState} (h : (errorsContract config).Rests (.feed f) u w)
    (hsupervised : Supervised s)
    (hfeeds : ∀ g, g ≠ f → s.feeds g = w.state.feeds g)
    (hrun : ∀ m, (s.monitors m).run = (w.state.monitors m).run)
    (hlaunched : s.launched = w.state.launched) (herrors : s.errors = w.state.errors) :
    (errorsContract config).Rests (.feed f) u (w.put s) := by
  have hcrashes : ReportsCrashes config (w.put s) ↔ ReportsCrashes config w :=
    ReportsCrashes.put herrors
  refine ⟨⟨hsupervised, h.1.reports.imp hcrashes.mpr fun hexits => ?_, fun hl => ?_, h.1.once,
    fun m hm => ?_⟩, fun g hg hu => ?_, fun m hm => ?_, fun hi => ?_, fun hi hu => ?_⟩
  · obtain ⟨exits, hexits, herrors'⟩ := hexits
    exact ⟨exits, (monitorExits_congr hrun).trans hexits, herrors.trans herrors'⟩
  · exact hcrashes.mpr (h.1.unlaunched (hlaunched.symm.trans hl))
  · obtain ⟨result, hresult⟩ := h.1.crashed m hm
    exact ⟨result, (hrun m).trans hresult⟩
  · exact (hfeeds g fun hgf => hg (hgf ▸ rfl)).trans (h.2.feeds g hg hu)
  · exact (hrun m).trans (h.2.runs m hm)
  · exact hlaunched.trans (h.2.launched hi)
  · exact hcrashes.mpr (h.2.reports hi hu)

theorem reports_setFeed (h : (errorsContract config).Rests (.feed f) u w)
    (hcreated : w.state.feeds f ≠ .created) (hfailed : w.state.feeds f ≠ .failed)
    {status : FeedStatus} (hstatus : status ≠ .failed) :
    (errorsContract config).Rests (.feed f) u (w.put (w.state.setFeed f status)) :=
  rests_feed h (h.1.supervised.setFeed hcreated hfailed hstatus)
    (fun _ hg => Function.update_of_ne hg ..) (fun _ => rfl) rfl rfl

theorem reports_failFeed (h : (errorsContract config).Rests (.feed f) u w)
    (hcreated : w.state.feeds f ≠ .created) (e : PyError) :
    (errorsContract config).Rests (.feed f) u (w.put (failFeed f e w.state)) :=
  rests_feed h (h.1.supervised.failFeed hcreated e)
    (fun g hg => by rw [failFeed_feeds, if_neg hg]) (failFeed_run f e w.state) rfl rfl

def Delivering (config : RunnerConfig) (f : Feed) (u w : World TaskId AppState Event) : Prop :=
  (errorsContract config).Rests (.feed f) u w ∧ w.state.feeds f = .delivering

theorem delivering_kept : Kept (processRules host config) (errorsContract config) (.feed f)
    Unharmed (fun e => e.raised = none) (Delivering config f) where
  set h hs := ⟨(reports_kept host).set h.1 hs, hs.feeds ▸ h.2⟩
  emit h he := ⟨(reports_kept host).emit h.1 he, h.2⟩
  rests h := h.1
  turn h hr hv := ⟨reports_self hv, (hr.feeds f rfl (by simp [h.2])).trans h.2⟩
  reply h hr hv hans := by
    refine ⟨(reports_kept host).reply h.1 hr hv hans, ?_⟩
    rw [World.put_state, (answerCall_unharmed hans).feeds]
    exact (hr.feeds f rfl (by simp [h.2])).trans h.2

theorem reports_deliver (h : ErrorsInv config w) (hfeed : w.state.feeds f = .fetching)
    (snapshot : OrderBookSnapshot) :
    Keeps (processRules host config) (errorsContract config) (.feed f)
      (deliver host config f snapshot) w w := by
  have hstart : (errorsContract config).Rests (.feed f) w
      (w.put (w.state.setFeed f .delivering)) :=
    reports_setFeed (reports_self h) (by simp [hfeed]) (by simp [hfeed]) nofun
  have hquiet : ∀ e : Event, e.ofCallback = true → e.raised = none := by
    intro e he
    cases e <;> first
      | rfl
      | cases he
  have hacts := acts_callback unharmed_moves hquiet host config f snapshot
    (w.state.setFeed f .delivering)
  refine (keeps_deliver f snapshot).mpr (wp_of_acts delivering_kept hacts
    ⟨hstart, Function.update_self ..⟩ fun r u w h => ?_)
  have hcreated : w.state.feeds f ≠ .created := by simp [h.2]
  cases r with
  | ok a => exact reports_setFeed h.1 hcreated (by simp [h.2]) nofun
  | error e => exact reports_failFeed h.1 hcreated e

/-! ### Runs -/

theorem unlaunched_of_launch {s : AppState} {c : Proc Unit}
    (h : startTask host config s .runForever .launch = some c) : s.launched = false := by
  simp only [startTask] at h
  split at h
  · cases h
  next hlaunched => simpa using hlaunched

theorem label_of_boot {s : AppState} {m : MonitorId} {failure : Option PyError} {c : Proc Unit}
    (h : startTask host config s (.run m) (.boot failure) = some c) :
    ∃ label, m.label config = some label ∧ c = runMonitor m label failure := by
  simp only [startTask] at h
  split at h
  · next label _ hlabel =>
    split at h
    · cases h
      exact ⟨label, hlabel, rfl⟩
    · cases h
  · cases h

theorem mem_allMonitors {m : MonitorId} {label : String} (h : m.label config = some label) :
    m ∈ allMonitors config := by
  cases m with
  | pair k =>
    obtain ⟨pair, hpair, -⟩ := Option.map_eq_some_iff.mp h
    obtain ⟨hk, -⟩ := List.getElem?_eq_some_iff.mp hpair
    exact List.mem_append_left _ (List.mem_map_of_mem (List.mem_range.mpr hk))
  | triangle k =>
    obtain ⟨triangle, htriangle, -⟩ := Option.map_eq_some_iff.mp h
    obtain ⟨hk, -⟩ := List.getElem?_eq_some_iff.mp htriangle
    exact List.mem_append_right _ (List.mem_map_of_mem (List.mem_range.mpr hk))

theorem mapM_eq_none {α β : Type} {g : α → Option β} {x : α} {xs : List α} (hx : x ∈ xs)
    (h : g x = none) : xs.mapM g = none := by
  induction xs with
  | nil => cases hx
  | cons y xs ih =>
    rw [List.mapM_cons]
    rcases List.mem_cons.mp hx with rfl | hx
    · rw [h]
      rfl
    · cases hy : g y with
      | none => rfl
      | some b => simp [ih hx]

/-- As long as one monitor goes on, nobody has its result. -/
theorem ErrorsInv.reports_crashes {m : MonitorId} {label : String} (h : ErrorsInv config w)
    (hlabel : m.label config = some label) (hrun : runResult (w.state.monitors m) = none) :
    ReportsCrashes config w := by
  rcases h.reports with hcrashes | ⟨exits, hexits, -⟩
  · exact hcrashes
  · have hnone : (allMonitors config).mapM (fun m => runResult (w.state.monitors m)) = none :=
      mapM_eq_none (mem_allMonitors hlabel) hrun
    rw [monitorExits, hnone] at hexits
    cases hexits

theorem ErrorsInv.crashCount_eq_zero {m : MonitorId} (h : ErrorsInv config w)
    (hrun : runResult (w.state.monitors m) = none) : crashCount m w.log = 0 := by
  rcases Nat.eq_zero_or_pos (crashCount m w.log) with hzero | hpos
  · exact hzero
  · obtain ⟨result, hended⟩ := h.crashed m hpos
    rw [runResult, hended] at hrun
    cases hrun

theorem endRun_self (m : MonitorId) (result : Except PyError Unit) (s : AppState) :
    ((endRun m result s).monitors m).run = .ended result := by
  rw [endRun, AppState.onMonitor_self]

theorem endRun_of_ne {m m' : MonitorId} (h : m' ≠ m) (result : Except PyError Unit)
    (s : AppState) : (endRun m result s).monitors m' = s.monitors m' :=
  AppState.onMonitor_of_ne h ..

theorem endRun_failure (m : MonitorId) (result : Except PyError Unit) (s : AppState)
    (m' : MonitorId) : ((endRun m result s).monitors m').failure = (s.monitors m').failure :=
  onMonitor_field (f := fun st => { st with run := .ended result }) MonitorState.failure
    (fun _ => by rfl) m s m'

theorem Supervised.endRun {s : AppState} {m : MonitorId} {e : PyError} (h : Supervised s)
    (hend : (s.monitors m).failure = some e ∨ ∀ f ∈ m.feeds, s.feeds f = .created) :
    Supervised (endRun m (.error e) s) where
  fails m' := by
    rw [endRun_failure]
    exact h.fails m'
  ends m' result hrun := by
    rw [endRun_failure]
    by_cases hm : m' = m
    · subst hm
      rw [endRun_self] at hrun
      cases hrun
      exact ⟨e, rfl, hend⟩
    · rw [endRun_of_ne hm] at hrun
      exact h.ends m' result hrun
  created f hrun := by
    by_cases hm : f.monitor = m
    · rw [hm, endRun_self] at hrun
      cases hrun
    · rw [endRun_of_ne hm] at hrun
      exact h.created f hrun

theorem startFeeds_run (m : MonitorId) (s : AppState) (m' : MonitorId) :
    ((startFeeds m s).monitors m').run = if m' = m then .running else (s.monitors m').run := by
  rw [startFeeds_monitors, AppState.onMonitor_apply]
  split <;> rfl

theorem startFeeds_failure (m : MonitorId) (s : AppState) (m' : MonitorId) :
    ((startFeeds m s).monitors m').failure = (s.monitors m').failure := by
  rw [startFeeds_monitors]
  exact onMonitor_field (f := fun st => { st with run := .running }) MonitorState.failure
    (fun _ => by rfl) m s m'

theorem Supervised.startFeeds {s : AppState} {m : MonitorId} (h : Supervised s)
    (hrun : (s.monitors m).run = .created) : Supervised (startFeeds m s) where
  fails m' := by
    rw [startFeeds_failure]
    refine (h.fails m').trans (exists_congr fun f => and_congr_right fun hf => ?_)
    rw [startFeeds_feeds]
    by_cases hfm : f ∈ m.feeds
    · have hcreated := h.created f (by rw [Feed.mem_feeds.mp hfm, hrun])
      simp [hfm, hcreated]
    · rw [if_neg hfm]
  ends m' result hended := by
    rw [startFeeds_run] at hended
    split at hended
    · cases hended
    next hm =>
    obtain ⟨e, hresult, hend⟩ := h.ends m' result hended
    rw [startFeeds_failure]
    refine ⟨e, hresult, hend.imp_right fun hall f hf => ?_⟩
    have hfm : f ∉ m.feeds := fun hfm =>
      hm ((Feed.mem_feeds.mp hf).symm.trans (Feed.mem_feeds.mp hfm))
    rw [startFeeds_feeds, if_neg hfm]
    exact hall f hf
  created f hcreated := by
    rw [startFeeds_run] at hcreated
    split at hcreated
    · cases hcreated
    next hm =>
    rw [startFeeds_feeds, if_neg fun hfm => hm (Feed.mem_feeds.mp hfm)]
    exact h.created f hcreated

theorem rests_run {m : MonitorId} {s : AppState}
    (h : (errorsContract config).Rests (.run m) u w) (hcrashes : ReportsCrashes config w)
    (hcount : crashCount m w.log = 0) (hsupervised : Supervised s)
    (hfeeds : ∀ f, w.state.feeds f ≠ .created → s.feeds f = w.state.feeds f)
    (hothers : ∀ m', m' ≠ m → (s.monitors m').run = (w.state.monitors m').run)
    (hlaunched : s.launched = w.state.launched) (herrors : s.errors = w.state.errors) :
    (errorsContract config).Rests (.run m) u (w.put s) := by
  have hsame : ReportsCrashes config (w.put s) := (ReportsCrashes.put herrors).mpr hcrashes
  refine ⟨⟨hsupervised, .inl hsame, fun _ => hsame, h.1.once, fun m' hm' => ?_⟩,
    fun f hf hu => ?_, fun m' hm' => ?_, fun hi => hlaunched.trans (h.2.launched hi),
    fun _ _ => hsame⟩
  · have hne : m' ≠ m := by
      rintro rfl
      rw [World.put_log, hcount] at hm'
      exact absurd hm' (lt_irrefl 0)
    obtain ⟨result, hresult⟩ := h.1.crashed m' hm'
    exact ⟨result, (hothers m' hne).trans hresult⟩
  · have hw := h.2.feeds f hf hu
    exact (hfeeds f (by rwa [hw])).trans hw
  · exact (hothers m' fun hmm => hm' (hmm ▸ rfl)).trans (h.2.runs m' hm')

theorem answer_gatherFeeds {s s' : AppState} {m : MonitorId} {x : Input} {r : Except PyError Unit}
    (h : answerCall config s (.gatherFeeds m) x = some (r, s')) :
    ∃ e, (s.monitors m).failure = some e ∧ r = .error e ∧ s' = s := by
  cases x with
  | replied =>
    obtain ⟨e, hfailure, h⟩ := Option.map_eq_some_iff.mp h
    cases h
    exact ⟨e, hfailure, rfl, rfl⟩
  | _ => cases h

theorem answer_gatherMonitors {s s' : AppState} {x : Input}
    {r : Except PyError (List (Except PyError Unit))}
    (h : answerCall config s .gatherMonitors x = some (r, s')) :
    ∃ results, ((allMonitors config).mapM fun m => runResult (s.monitors m)) = some results ∧
      r = .ok results ∧ s' = s := by
  cases x with
  | replied =>
    obtain ⟨results, hresults, h⟩ := Option.map_eq_some_iff.mp h
    cases h
    exact ⟨results, hresults, rfl, rfl⟩
  | _ => cases h

/-- The world after a monitor has reported its crash and raised. -/
theorem reports_crash {m : MonitorId} {label : String} {e : PyError}
    (h : ErrorsInv config w) (hlabel : m.label config = some label)
    (hrun : (w.state.monitors m).run = .running)
    (hfailure : (w.state.monitors m).failure = some e) :
    let s := w.state.recordError (label ++ " monitor crashed: " ++ e.repr)
    (errorsContract config).Rests (.run m) w
      (((w.put s).emit (.run m) (.runRaised m)).put (endRun m (.error e) s)) := by
  intro s
  have hresult : runResult (w.state.monitors m) = none := by rw [runResult, hrun]
  have hcrashes := h.reports_crashes hlabel hresult
  have hcount := h.crashCount_eq_zero hresult
  have hreport : crashReport config ⟨TaskId.run m, s, Event.runRaised m⟩ =
      some (label ++ " monitor crashed: " ++ e.repr) := by
    simp [crashReport, hlabel, s, AppState.recordError, hfailure]
  have hnow : ReportsCrashes config
      (((w.put s).emit (.run m) (.runRaised m)).put (endRun m (.error e) s)) := by
    have herrors : (endRun m (.error e) s).errors = pushBounded AppState.errorsSize w.state.errors
      (label ++ " monitor crashed: " ++ e.repr) := rfl
    rw [ReportsCrashes, World.put_state, herrors, hcrashes, pushBounded_rtake, World.put_log,
      World.emit_log, World.put_log, World.put_state, crashReports_append, hreport,
      Option.toList_some]
  have hsupervised : Supervised s := ⟨h.supervised.fails, h.supervised.ends, h.supervised.created⟩
  have hlog : ∀ m', crashCount m' (w.log ++ [⟨TaskId.run m, s, Event.runRaised m⟩]) =
      crashCount m' w.log + if m = m' then 1 else 0 := by
    intro m'
    rw [crashCount_append]
    simp [Event.raised]
  refine ⟨⟨hsupervised.endRun (.inl hfailure), .inl hnow, fun _ => hnow, fun m' => ?_,
    fun m' hm' => ?_⟩, fun _ _ _ => rfl, fun m' hm' => ?_, fun _ => rfl, fun _ _ => hnow⟩
  · refine (hlog m').trans_le ?_
    by_cases hm : m = m'
    · rw [← hm, hcount, if_pos rfl]
    · rw [if_neg hm]
      exact h.once m'
  · by_cases hm : m = m'
    · subst hm
      exact ⟨_, endRun_self ..⟩
    · have hbefore : 0 < crashCount m' w.log := by
        refine hm'.trans_eq ((hlog m').trans ?_)
        rw [if_neg hm, add_zero]
      obtain ⟨result, hended⟩ := h.crashed m' hbefore
      refine ⟨result, ?_⟩
      rw [World.put_state, endRun_of_ne (Ne.symm hm)]
      exact hended
  · have hne : m' ≠ m := fun hmm => hm' (hmm ▸ rfl)
    rw [World.put_state, endRun_of_ne hne]
    rfl

theorem reports_runMonitor {m : MonitorId} {label : String} (h : ErrorsInv config w)
    (hlabel : m.label config = some label) (hrun : (w.state.monitors m).run = .created)
    (failure : Option PyError) :
    Keeps (processRules host config) (errorsContract config) (.run m)
      (runMonitor m label failure) w w := by
  have hresult : runResult (w.state.monitors m) = none := by rw [runResult, hrun]
  have hcrashes := h.reports_crashes hlabel hresult
  have hcount := h.crashCount_eq_zero hresult
  have hcreated : ∀ f ∈ m.feeds, w.state.feeds f = .created :=
    fun f hf => h.supervised.created f (by rw [Feed.mem_feeds.mp hf, hrun])
  cases failure with
  | some e =>
    exact rests_run (reports_self h) hcrashes hcount (h.supervised.endRun (.inr hcreated))
      (fun _ _ => rfl) (fun m' hm' => by rw [endRun_of_ne hm']) rfl rfl
  | none =>
    simp only [Keeps, runMonitor, bind_eq, wp_bind, wp_modify, wp_catching, wp_report, wp_throw,
      ends_ok]
    refine (wp_call _).mpr ⟨?_, fun v x r s hrely hv _ hans => ?_⟩
    · refine rests_run (reports_self h) hcrashes hcount (h.supervised.startFeeds hrun)
        (fun f hf => ?_) (fun m' hm' => ?_) ?_ ?_
      · rw [startFeeds_feeds, if_neg fun hfm => hf (hcreated f hfm)]
      · rw [startFeeds_run, if_neg hm']
      · rw [startFeeds_eq]
        rfl
      · rw [startFeeds_eq]
        rfl
    · have hrunning : (v.state.monitors m).run = .running := by
        rw [hrely.runs m rfl, World.put_state, startFeeds_run, if_pos rfl]
      obtain ⟨e, hfailure, rfl, rfl⟩ := answer_gatherFeeds hans
      exact reports_crash hv hlabel hrunning hfailure

/-! ### The runner -/

/-- What `run_forever` does to the shared state it alone writes. -/
theorem rests_runner {s : AppState} (h : (errorsContract config).Rests .runForever u w)
    (hmonitors : s.monitors = w.state.monitors) (hfeeds : s.feeds = w.state.feeds)
    (hlaunched : s.launched = true)
    (hreports : ReportsCrashes config (w.put s) ∨ ReportsExits config (w.put s)) :
    (errorsContract config).Rests .runForever u (w.put s) := by
  refine ⟨⟨?_, hreports, fun hl => ?_, h.1.once, ?_⟩, ?_, ?_, fun hi => absurd rfl hi,
    fun hi => absurd rfl hi⟩
  · obtain ⟨hfails, hends, hcreated⟩ := h.1.supervised
    constructor <;> simpa only [World.put_state, hmonitors, hfeeds]
  · exact absurd (hl.symm.trans hlaunched) Bool.false_ne_true
  · rw [World.put_state, World.put_log, hmonitors]
    exact h.1.crashed
  · rw [World.put_state, hfeeds]
    exact h.2.feeds
  · rw [World.put_state, hmonitors]
    exact h.2.runs

theorem foldl_recordExit_errors (exits : List (String × Except PyError Unit))
    (reports : List String) (s : AppState) (h : s.errors = reports.rtake AppState.errorsSize) :
    (exits.foldl recordExit s).errors =
      (reports ++ exits.filterMap exitReport).rtake AppState.errorsSize := by
  induction exits generalizing reports s with
  | nil => simpa using h
  | cons exit exits ih =>
    obtain ⟨label, result⟩ := exit
    cases result with
    | ok a => exact ih reports s h
    | error e =>
      have hreport : (recordExit s (label, .error e)).errors =
          (reports ++ [label ++ " monitor exited: " ++ e.repr]).rtake AppState.errorsSize := by
        rw [← pushBounded_rtake, ← h]
        rfl
      have hrest := ih _ _ hreport
      rwa [List.append_assoc] at hrest

theorem reports_runForever (h : ErrorsInv config w) (hlaunched : w.state.launched = false) :
    Keeps (processRules host config) (errorsContract config) .runForever (runForever config)
      w w := by
  have hself : (errorsContract config).Rests .runForever w w := reports_self h
  have hstart : (errorsContract config).Rests .runForever w
      (w.put { w.state with launched := true }) :=
    rests_runner hself rfl rfl rfl (.inl (h.unlaunched hlaunched))
  have hcrashes : ReportsCrashes config (w.put { w.state with launched := true }) :=
    h.unlaunched hlaunched
  rw [Keeps, runForever, bind_eq, wp_bind, wp_modify, ends_ok]
  split
  · exact hstart
  split
  · exact hstart
  rw [bind_eq, wp_bind, wp_call]
  refine ⟨hstart, fun v x r s hrely hv _ hans => ?_⟩
  have hs := answerCall_unharmed hans
  have hanswered : (errorsContract config).Rests .runForever v (v.put s) :=
    ⟨hv.put hs, fun f _ _ => by rw [World.put_state, hs.feeds], fun m _ => hs.run m,
      fun hi => absurd rfl hi, fun hi => absurd rfl hi⟩
  cases r with
  | error e => exact hanswered
  | ok user =>
  have hv1 : ReportsCrashes config v := hrely.reports rfl hcrashes
  have hbooted : (errorsContract config).Rests .runForever v ((v.put s).put { s with
      localUserId := some user
      monitoredPairs := allLabels config
      bootstrapped := true }) :=
    rests_runner hanswered rfl rfl (hs.launched.trans (hrely.launched rfl)) (.inl
      ((ReportsCrashes.put hs.errors).mpr hv1))
  rw [ends_ok, bind_eq, wp_bind, wp_modify, ends_ok, bind_eq, wp_bind, wp_call]
  refine ⟨hbooted, fun v' x' r' s' hrely' hv' _ hans' => ?_⟩
  obtain ⟨results, hresults, rfl, rfl⟩ := answer_gatherMonitors hans'
  have hlaunched' : v'.state.launched = true :=
    (hrely'.launched rfl).trans (hs.launched.trans (hrely.launched rfl))
  have hv'1 : ReportsCrashes config v' :=
    hrely'.reports rfl ((ReportsCrashes.put hs.errors).mpr hv1)
  obtain ⟨errors, heq⟩ := foldl_recordExit ((allLabels config).zip results) v'.state
  have hexits : monitorExits config v'.state = some ((allLabels config).zip results) := by
    rw [monitorExits, hresults]
    rfl
  have hruns : ∀ m, (((allLabels config).zip results).foldl recordExit v'.state |>.monitors m).run =
      (v'.state.monitors m).run := fun m => by rw [heq]
  rw [ends_ok, wp_modify]
  refine rests_runner (reports_self hv') ?_ ?_ ?_ (.inr ⟨(allLabels config).zip results,
    (monitorExits_congr hruns).trans hexits, foldl_recordExit_errors _ _ _ hv'1⟩)
  · exact (congrArg AppState.monitors heq :)
  · exact (congrArg AppState.feeds heq :)
  · exact (congrArg AppState.launched heq).trans hlaunched'

theorem reports_sound : Sound (processRules host config) (errorsContract config) where
  starts w i x c hinv _ hstart := by
    change startTask host config w.state i x = some c at hstart
    have hself : (errorsContract config).Rests i w w := reports_self hinv
    have hquiet : ∀ {c : Proc Unit}, c.Acts Unharmed (fun e => e.raised = none) w.state →
        Keeps (processRules host config) (errorsContract config) i c w w :=
      fun hc => keeps_of_acts (reports_kept host) hc hself
    cases started_of_startTask hstart with
    | launch => exact reports_runForever hinv (unlaunched_of_launch hstart)
    | boot m label failure hrun =>
      obtain ⟨label', hlabel, heq⟩ := label_of_boot hstart
      rw [heq]
      exact reports_runMonitor hinv hlabel hrun failure
    | delivered f source timestamp bids asks hfeed => exact reports_deliver hinv hfeed _
    | fetchFailed f e hfeed => exact reports_failFeed hself (by simp [hfeed]) e
    | intent n request userId =>
      exact hquiet (acts_bind (acts_processArbitrageIntent request userId (fun _ => rfl)
        (fun _ => rfl) _) fun _ _ => trivial)
    | dashboard n x f => exact hquiet (acts_modify (.of_eq rfl rfl rfl rfl))
  drifts w x s hinv _ hdrift := by
    obtain ⟨seconds, -, -, rfl⟩ := drift_tick hdrift
    exact ⟨hinv.put (.of_eq rfl rfl rfl rfl), fun _ =>
      ⟨fun _ _ _ => rfl, fun _ _ => rfl, fun _ => rfl, fun _ h => h⟩⟩

end

/-- Every crash is reported once, the exits after all of them, and a monitor comes to an
end by a failure of its own: of a feed, or before it had any. -/
theorem errors_of_run (host : Host) (config : RunnerConfig) (chs : List (Choice TaskId Input))
    (L : ProcessLoop) (hrun : runProcess host config chs = some L) :
    (ReportsCrashes config L.world ∨ ReportsExits config L.world) ∧
      (∀ m, crashCount m L.world.log ≤ 1) ∧
      (∀ m, (L.world.state.monitors m).failure ≠ none ↔
        ∃ f ∈ m.feeds, L.world.state.feeds f = .failed) ∧
      ∀ m result, (L.world.state.monitors m).run = .ended result → ∃ e, result = .error e ∧
        ((L.world.state.monitors m).failure = some e ∨
          ∀ f ∈ m.feeds, L.world.state.feeds f = .created) := by
  have hsupervised : Supervised AppState.initial := by
    refine ⟨fun m => ?_, fun m result hended => ?_, fun _ _ => rfl⟩
    · exact iff_of_false (fun h => h rfl) fun ⟨f, _, hf⟩ => nomatch hf
    · cases hended
  have hinit : ErrorsInv config ⟨AppState.initial, []⟩ :=
    ⟨hsupervised, .inl rfl, fun _ => rfl, fun _ => zero_le_one,
      fun m hm => absurd hm (lt_irrefl 0)⟩
  have hinv := run_inv_free reports_sound (fun _ _ => trivial) .initial hinit chs hrun
  exact ⟨hinv.reports, hinv.once, hinv.supervised.fails, hinv.supervised.ends⟩

/-- A feed breaks, its monitor reports a crash, and the runner an exit. -/
def reportedTwice : List (Choice TaskId Input) :=
  startTriangles 1 ++ feedBreaks ++ [.reply .runForever .replied]

theorem errors_of_run_reportedTwice :
    ∃ L, runProcess bareHost oneTriangle reportedTwice = some L ∧
      L.world.state.errors =
        ["USDT->BTC->ETH->USDT monitor crashed: Exception('connection lost')",
          "USDT->BTC->ETH->USDT monitor exited: Exception('connection lost')"] ∧
      (ReportsCrashes oneTriangle L.world ∨ ReportsExits oneTriangle L.world) ∧
      (∀ m, crashCount m L.world.log ≤ 1) ∧
      (∀ m, (L.world.state.monitors m).failure ≠ none ↔
        ∃ f ∈ m.feeds, L.world.state.feeds f = .failed) ∧
      ∀ m result, (L.world.state.monitors m).run = .ended result → ∃ e, result = .error e ∧
        ((L.world.state.monitors m).failure = some e ∨
          ∀ f ∈ m.feeds, L.world.state.feeds f = .created) := by
  have herrors : (runProcess bareHost oneTriangle reportedTwice).map
      (fun L => L.world.state.errors) =
    some ["USDT->BTC->ETH->USDT monitor crashed: Exception('connection lost')",
      "USDT->BTC->ETH->USDT monitor exited: Exception('connection lost')"] := by
    decide +kernel
  obtain ⟨L, hL, hreported⟩ := Option.map_eq_some_iff.mp herrors
  exact ⟨L, hL, hreported, errors_of_run bareHost oneTriangle reportedTwice L hL⟩

end BimodalArbitrage.Runtime
