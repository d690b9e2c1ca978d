import BimodalArbitrage.Coop.History
import BimodalArbitrage.Runtime.Tasks

/-!
# What a monitor does after its run has raised

The gather that runs the feeds raises the first exception and leaves the other feeds
running, so a monitor is only as dead as its surviving feeds are silent.
-/

namespace BimodalArbitrage.Runtime
open Coop Execution Marketdata Api Coro

def Event.raised : Event → Option MonitorId
  | .runRaised m => some m
  | _ => none

def Event.worker : Event → Option MonitorId
  | .evaluateOnce m => some m
  | .paperFill m .. => some m
  | _ => none

/-- The callback of the feed evaluates; that of a sell feed only stores the book. -/
def Feed.evaluates : Feed → Bool
  | .buy _ => true
  | .sell _ => false
  | .leg .. => true

def Raised (m : MonitorId) (log : List (Entry TaskId AppState Event)) : Prop :=
  ∃ e ∈ log, e.event.raised = some m

instance (m : MonitorId) (log : List (Entry TaskId AppState Event)) : Decidable (Raised m log) :=
  inferInstanceAs (Decidable (∃ e ∈ log, e.event.raised = some m))

def DeadNeverTrades (log : List (Entry TaskId AppState Event)) : Prop :=
  Throughout (fun before e => ∀ m, e.event.worker = some m → ¬Raised m before) log

/-- No evaluating feed delivers after its monitor has raised, and none is in its
callback when the monitor raises. -/
def SurvivorsSilent (w : World TaskId AppState Event) : Choice TaskId Input → Prop
  | .start (.feed f) (.delivered ..) => f.evaluates = true → ¬Raised f.monitor w.log
  | .reply (.run m) _ => ∀ f ∈ m.feeds, f.evaluates = true → w.state.feeds f ≠ .delivering
  | _ => True

instance (w : World TaskId AppState Event) (ch : Choice TaskId Input) :
    Decidable (SurvivorsSilent w ch) := by
  unfold SurvivorsSilent
  split <;> infer_instance

theorem Feed.mem_feeds {f : Feed} {m : MonitorId} : f ∈ m.feeds ↔ f.monitor = m := by
  cases m with
  | pair k => cases f <;> simp [MonitorId.feeds, Feed.monitor]
  | triangle k =>
    cases f with
    | buy j => simp [MonitorId.feeds, Feed.monitor]
    | sell j => simp [MonitorId.feeds, Feed.monitor]
    | leg j market => cases market <;> simp [MonitorId.feeds, Feed.monitor]

theorem raised_snoc {m : MonitorId} {log : List (Entry TaskId AppState Event)}
    (e : Entry TaskId AppState Event) :
    Raised m (log ++ [e]) ↔ Raised m log ∨ e.event.raised = some m := by
  simp only [Raised, List.mem_append, List.mem_singleton, or_and_right, exists_or, exists_eq_left]

/-! ### The invariant -/

structure DeadInv (w : World TaskId AppState Event) : Prop where
  quiet : DeadNeverTrades w.log
  silent : ∀ f, Raised f.monitor w.log → f.evaluates = true → w.state.feeds f ≠ .delivering
  created : ∀ f, (w.state.monitors f.monitor).run = .created → w.state.feeds f = .created

/-- Nobody but the feed itself ends its callback. -/
def deadContract : Contract TaskId AppState Event Input where
  inv := DeadInv
  rely i u v := ∀ f, i = .feed f → u.state.feeds f = .delivering → v.state.feeds f = .delivering
  guar i u v := ∀ f, i ≠ .feed f → u.state.feeds f = .delivering → v.state.feeds f = .delivering
  allows := SurvivorsSilent
  rely_refl _ _ _ _ h := h
  rely_trans _ _ _ _ huv hvw f hf h := hvw f hf (huv f hf h)
  guar_rely _ _ _ _ hij h f hf := h f (hf ▸ hij)

def Own (f : Feed) (e : Event) : Prop :=
  e.raised = none ∧ ∀ m, e.worker = some m → f.monitor = m ∧ f.evaluates = true

section
variable {w : World TaskId AppState Event} {i : TaskId}

theorem DeadInv.put {s : AppState} (h : DeadInv w) (hs : SameFeeds w.state s) :
    DeadInv (w.put s) where
  quiet := h.quiet
  silent f := by
    rw [World.put_state, hs.feeds]
    exact h.silent f
  created f := by
    rw [World.put_state, hs.feeds, hs.run]
    exact h.created f

theorem DeadInv.emit {e : Event} (h : DeadInv w) (hraised : e.raised = none)
    (hworker : ∀ m, e.worker = some m → ¬Raised m w.log) : DeadInv (w.emit i e) where
  quiet := (throughout_snoc _).mpr ⟨h.quiet, hworker⟩
  silent f hf := by
    rcases (raised_snoc _).mp hf with hf | hf
    · exact h.silent f hf
    · rw [hraised] at hf
      cases hf
  created := h.created

theorem dead_self (h : DeadInv w) : deadContract.Rests i w w := ⟨h, fun _ _ hu => hu⟩

end

section
variable {host : Host} {config : RunnerConfig} {i : TaskId} {f : Feed}

theorem rests_kept : Kept (processRules host config) deadContract i SameFeeds
    (fun e => e.raised = none ∧ e.worker = none) (deadContract.Rests i) where
  set h hs := ⟨h.1.put hs, fun f hf hu => hs.feeds ▸ h.2 f hf hu⟩
  emit h he := ⟨h.1.emit he.1 fun m hm => by simp [he.2] at hm, h.2⟩
  rests h := h
  turn _ _ hv := dead_self hv
  reply _ _ hv hans := ⟨hv.put (answerCall_steady hans).toSameFeeds, fun f _ hu => by
    rw [World.put_state, (answerCall_steady hans).feeds]
    exact hu⟩

def Serving (f : Feed) (u w : World TaskId AppState Event) : Prop :=
  deadContract.Rests (.feed f) u w ∧ w.state.feeds f = .delivering

theorem Serving.emit {u w : World TaskId AppState Event} {e : Event} (h : Serving f u w)
    (he : Own f e) : Serving f u (w.emit (.feed f) e) := by
  refine ⟨⟨h.1.1.emit he.1 fun m hm hraised => ?_, h.1.2⟩, h.2⟩
  obtain ⟨rfl, hevaluates⟩ := he.2 m hm
  exact h.1.1.silent f hraised hevaluates h.2

theorem serving_kept : Kept (processRules host config) deadContract (.feed f) SameFeeds (Own f)
    (Serving f) where
  set h hs := ⟨⟨h.1.1.put hs, fun g hg hu => hs.feeds ▸ h.1.2 g hg hu⟩, hs.feeds ▸ h.2⟩
  emit := Serving.emit
  rests h := h.1
  turn h hr hv := ⟨dead_self hv, hr f rfl h.2⟩
  reply h hr hv hans := by
    have hsteady := answerCall_steady hans
    refine ⟨⟨hv.put hsteady.toSameFeeds, fun g _ hu => ?_⟩, ?_⟩
    · rw [World.put_state, hsteady.feeds]
      exact hu
    · rw [World.put_state, hsteady.feeds]
      exact hr f rfl h.2

/-! ### Evaluations -/

theorem sameFeeds_onMonitor {g : MonitorState → MonitorState} (hg : ∀ st, (g st).run = st.run)
    (m : MonitorId) (s : AppState) : SameFeeds s (s.onMonitor m g) :=
  ⟨rfl, onMonitor_field MonitorState.run hg m s⟩

theorem own_bookResult (m : MonitorId) (record : ℕ) (result : TradeExecutionResult)
    (s : AppState) : (bookResult m record result).Acts SameFeeds (Own f) s :=
  acts_modify_bind (steady_recordOutcome record result s).toSameFeeds
    (acts_modify_bind (sameFeeds_onMonitor (fun _ => by rfl) m _)
      (acts_report_bind ⟨rfl, by simp [Event.worker]⟩ (acts_call _)))

theorem own_gate (m : MonitorId) (symbol exchangeBuy exchangeSell : String) (netAlphaBps : ℚ)
    (signal : ArbitrageSignal ℚ) (notional : ℚ) (s : AppState) :
    (gate m symbol exchangeBuy exchangeSell netAlphaBps signal notional).Acts SameFeeds (Own f) s :=
  acts_state_bind (acts_report_bind ⟨rfl, by simp [Event.worker]⟩
    (acts_modify_bind (steady_recordSignal ..).toSameFeeds trivial))

theorem own_quiet {e : Event} (hraised : e.raised = none) (hworker : e.worker = none) :
    Own f e := ⟨hraised, by simp [hworker]⟩

theorem own_pair {m : PairMonitor} (hf : f = .buy m.index) (asks : List OrderBookLevel)
    (q : PairQuote) (signal : ArbitrageSignal ℚ) (netAlphaBps : ℚ) (s : AppState) :
    (m.gated asks q signal netAlphaBps).Acts SameFeeds (Own f) s := by
  have hfill : ∀ exchange symbol side amount price,
      Own f (.paperFill m.id exchange symbol side amount price) := by
    intros
    simp [Own, Event.raised, Event.worker, hf, PairMonitor.id, Feed.monitor, Feed.evaluates]
  refine acts_bind (own_gate ..) fun record s => ?_
  cases record with
  | none => trivial
  | some record =>
    simp only [PairMonitor.trade_eq]
    refine acts_lift_bind fun gross _ => acts_report_bind (own_quiet rfl rfl) ?_
    exact acts_bind (acts_pairFills hfill _ s) fun _ s => own_bookResult _ _ _ s

theorem own_triangle {m : TriangleMonitor} {market : TriangleMarket} (hf : f = .leg m.index market)
    (q : TriangleQuote) (signal : ArbitrageSignal ℚ) (netAlphaBps : ℚ) (s : AppState) :
    (m.gated q signal netAlphaBps).Acts SameFeeds (Own f) s := by
  have hfill : ∀ exchange symbol side amount price,
      Own f (.paperFill m.id exchange symbol side amount price) := by
    intros
    simp [Own, Event.raised, Event.worker, hf, TriangleMonitor.id, Feed.monitor, Feed.evaluates]
  have hmarket : ∀ market, Own f (.onMarket market) := fun _ => own_quiet rfl rfl
  refine acts_bind (own_gate ..) fun record s => ?_
  cases record with
  | none => trivial
  | some record =>
    simp only [TriangleMonitor.trade_eq]
    refine acts_report_bind (own_quiet rfl rfl) ?_
    exact acts_bind (acts_triangleFills hfill hmarket _ s) fun _ s => own_bookResult _ _ _ s

theorem serving_kept_evaluation : Kept (processRules host config) deadContract (.feed f) Steady
    (Own f) (Serving f) :=
  serving_kept.mono (fun _ _ h => h.toSameFeeds) fun _ => id

theorem own_evaluateOnce {m : MonitorId} (hm : f.monitor = m) (hf : f.evaluates = true) :
    Own f (.evaluateOnce m) :=
  ⟨rfl, fun _ hm' => ⟨hm.trans (Option.some.inj hm'), hf⟩⟩

theorem serving_callback (snapshot : OrderBookSnapshot) {u w : World TaskId AppState Event}
    (h : Serving f u w) :
    wp (processRules host config) deadContract (.feed f) (callback host config f snapshot)
      (fun _ => Serving f) u w := by
  have hlock : ∀ holder s, SameFeeds s (setLock f holder s) :=
    fun _ s => sameFeeds_onMonitor (fun _ => by rfl) _ s
  have hheuristic : ∀ m h s,
      SameFeeds s (s.onMonitor m fun st => { st with heuristic := h }) :=
    fun m _ s => sameFeeds_onMonitor (fun _ => by rfl) m s
  have hpair : ∀ m : PairMonitor, f = .buy m.index → ∀ u w : World TaskId AppState Event,
      Serving f u w → wp (processRules host config) deadContract (.feed f) m.evaluateOnce
        (fun _ => Serving f) u w := by
    intro m hf u w h
    refine PairMonitor.wp_evaluateOnce serving_kept_evaluation (fun _ _ _ h => h)
      (fun _ => own_quiet rfl rfl)
      (fun best asks bids q _ netAlphaBps midPriceReturn hazard u w h => ?_)
      (h.emit (own_evaluateOnce (by rw [hf]; rfl) (by rw [hf]; rfl)))
    exact wp_updateHeuristic_bind serving_kept hheuristic (fun _ _ _ h => h) (fun signal u w h =>
      wp_of_acts serving_kept (own_pair hf ..) h fun _ _ _ h => h) h
  have htriangle : ∀ (m : TriangleMonitor) market, f = .leg m.index market →
      ∀ u w : World TaskId AppState Event, Serving f u w →
        wp (processRules host config) deadContract (.feed f) m.evaluateOnce
          (fun _ => Serving f) u w := by
    intro m market hf u w h
    refine TriangleMonitor.wp_evaluateOnce serving_kept_evaluation (fun _ _ _ h => h)
      (fun q netAlphaBps midPriceReturn hazard u w h => ?_)
      (h.emit (own_evaluateOnce (by rw [hf]; rfl) (by rw [hf]; rfl)))
    exact wp_updateHeuristic_bind serving_kept hheuristic (fun _ _ _ h => h) (fun signal u w h =>
      wp_of_acts serving_kept (own_triangle hf ..) h fun _ _ _ h => h) h
  refine wp_callback (serving_kept.mono (fun _ _ h => h.toSameFeeds) fun _ => id)
    (fun _ _ _ h => h) (fun _ _ => own_quiet rfl rfl) f (fun k pair hf => ?_)
    (fun k market triangle hf => ?_) snapshot h
  · exact wp_underLock serving_kept f hlock (own_quiet rfl rfl) (hpair _ hf)
  · exact wp_underLock serving_kept f hlock (own_quiet rfl rfl) (htriangle _ market hf)

/-! ### Feeds and runs -/

theorem rests_setFeed {u w : World TaskId AppState Event} (h : deadContract.Rests (.feed f) u w)
    (hcreated : w.state.feeds f ≠ .created) {status : FeedStatus}
    (hstatus : status = .delivering → f.evaluates = true → ¬Raised f.monitor w.log) :
    deadContract.Rests (.feed f) u (w.put (w.state.setFeed f status)) := by
  obtain ⟨hinv, hguar⟩ := h
  refine ⟨⟨hinv.quiet, fun g hraised hevaluates => ?_, fun g hrun => ?_⟩, fun g hg hu => ?_⟩
  · by_cases hgf : g = f
    · subst hgf
      simp only [World.put_state, AppState.setFeed, Function.update_self]
      exact fun heq => hstatus heq hevaluates hraised
    · simp only [World.put_state, AppState.setFeed, Function.update_of_ne hgf]
      exact hinv.silent g hraised hevaluates
  · have hold := hinv.created g hrun
    have hgf : g ≠ f := fun hgf => hcreated (hgf ▸ hold)
    simpa only [World.put_state, AppState.setFeed, Function.update_of_ne hgf] using hold
  · have hgf : g ≠ f := fun hgf => hg (hgf ▸ rfl)
    simpa only [World.put_state, AppState.setFeed, Function.update_of_ne hgf] using hguar g hg hu

theorem rests_failFeed {u w : World TaskId AppState Event} (h : deadContract.Rests (.feed f) u w)
    (hcreated : w.state.feeds f ≠ .created) (e : PyError) :
    deadContract.Rests (.feed f) u (w.put (failFeed f e w.state)) := by
  have hfailed := @rests_setFeed f u w h hcreated .failed (by simp)
  exact ⟨hfailed.1.put (sameFeeds_onMonitor (fun _ => by rfl) _ _), hfailed.2⟩

theorem dead_deliver {w : World TaskId AppState Event} (h : DeadInv w)
    (hfeed : w.state.feeds f = .fetching)
    (hallowed : f.evaluates = true → ¬Raised f.monitor w.log) (snapshot : OrderBookSnapshot) :
    Keeps (processRules host config) deadContract (.feed f) (deliver host config f snapshot)
      w w := by
  have hstart := @rests_setFeed f w w (dead_self h) (by simp [hfeed]) .delivering
    fun _ => hallowed
  refine (keeps_deliver f snapshot).mpr (wp_mono (P := fun _ => Serving f) _ ?_
    (serving_callback snapshot ⟨hstart, Function.update_self ..⟩))
  intro r u w hserving
  have hcreated : w.state.feeds f ≠ .created := by simp [hserving.2]
  cases r with
  | ok a => exact rests_setFeed hserving.1 hcreated (by simp)
  | error e => exact rests_failFeed hserving.1 hcreated e

theorem dead_fetchFails {w : World TaskId AppState Event} (h : DeadInv w)
    (hfeed : w.state.feeds f = .fetching) (e : PyError) :
    Keeps (processRules host config) deadContract (.feed f) (fetchFails f e) w w :=
  rests_failFeed (dead_self h) (by simp [hfeed]) e

theorem rests_startFeeds {m : MonitorId} {w : World TaskId AppState Event} (h : DeadInv w)
    (hrun : (w.state.monitors m).run = .created) :
    deadContract.Rests (.run m) w (w.put (startFeeds m w.state)) := by
  have hmine : ∀ f ∈ m.feeds, w.state.feeds f = .created :=
    fun f hf => h.created f (by rw [Feed.mem_feeds.mp hf, hrun])
  refine ⟨⟨h.quiet, fun f hraised hevaluates => ?_, fun f hcreated => ?_⟩, fun f _ hu => ?_⟩
  · rw [World.put_state, startFeeds_feeds]
    split
    · exact nofun
    · exact h.silent f hraised hevaluates
  · rw [World.put_state, startFeeds_monitors] at hcreated
    by_cases hf : f.monitor = m
    · rw [hf, AppState.onMonitor_self] at hcreated
      cases hcreated
    · rw [AppState.onMonitor_of_ne hf] at hcreated
      rw [World.put_state, startFeeds_feeds, if_neg (Feed.mem_feeds.not.mpr hf)]
      exact h.created f hcreated
  · have hf : f ∉ m.feeds := by
      intro hf
      rw [hmine f hf] at hu
      cases hu
    rw [World.put_state, startFeeds_feeds, if_neg hf]
    exact hu

theorem rests_endRun {m : MonitorId} {u w : World TaskId AppState Event}
    (h : deadContract.Rests i u w) (result : Except PyError Unit) :
    deadContract.Rests i u (w.put (endRun m result w.state)) := by
  refine ⟨⟨h.1.quiet, h.1.silent, fun f hcreated => ?_⟩, h.2⟩
  by_cases hf : f.monitor = m
  · rw [World.put_state, endRun, hf, AppState.onMonitor_self] at hcreated
    cases hcreated
  · rw [World.put_state, endRun, AppState.onMonitor_of_ne hf] at hcreated
    exact h.1.created f hcreated

theorem DeadInv.raise {m : MonitorId} {w : World TaskId AppState Event} (h : DeadInv w)
    (hsilent : ∀ f ∈ m.feeds, f.evaluates = true → w.state.feeds f ≠ .delivering) :
    DeadInv (w.emit i (.runRaised m)) where
  quiet := (throughout_snoc _).mpr ⟨h.quiet, by simp [Event.worker]⟩
  silent f hraised hevaluates := by
    rcases (raised_snoc _).mp hraised with hraised | hraised
    · exact h.silent f hraised hevaluates
    · exact hsilent f (Feed.mem_feeds.mpr (Option.some.inj hraised).symm) hevaluates
  created := h.created

theorem dead_runMonitor {m : MonitorId} {w : World TaskId AppState Event} (h : DeadInv w)
    (hrun : (w.state.monitors m).run = .created) (label : String) (failure : Option PyError) :
    Keeps (processRules host config) deadContract (.run m) (runMonitor m label failure) w w := by
  cases failure with
  | some e => exact rests_endRun (dead_self h) _
  | none =>
    simp only [Keeps, runMonitor, bind_eq, wp_bind, wp_modify, wp_catching, wp_report, wp_throw,
      ends_ok]
    refine (wp_call _).mpr ⟨rests_startFeeds h hrun, fun v x r s _ hv hallowed hans => ?_⟩
    have hsame := (answerCall_steady hans).toSameFeeds
    cases r with
    | ok a => exact rests_endRun ⟨hv.put hsame, fun f _ hu => hsame.feeds ▸ hu⟩ _
    | error e =>
      have hinv : DeadInv ((v.put s).put
          (s.recordError (label ++ " monitor crashed: " ++ e.repr))) :=
        (hv.put hsame).put ⟨rfl, fun _ => rfl⟩
      have hsilent : ∀ f ∈ m.feeds, f.evaluates = true → s.feeds f ≠ .delivering :=
        hsame.feeds ▸ hallowed
      exact rests_endRun ⟨hinv.raise hsilent, fun f _ hu => hsame.feeds ▸ hu⟩ _

theorem dead_sound : Sound (processRules host config) deadContract where
  starts w i x c hinv hallowed hstart := by
    cases started_of_startTask hstart with
    | launch =>
      exact keeps_of_acts rests_kept (acts_feeds (acts_runForever steady_runner config _))
        (dead_self hinv)
    | boot m label failure hrun => exact dead_runMonitor hinv hrun label failure
    | delivered f source timestamp bids asks hfeed => exact dead_deliver hinv hfeed hallowed _
    | fetchFailed f e hfeed => exact dead_fetchFails hinv hfeed e
    | intent n request userId =>
      exact keeps_of_acts rests_kept (acts_bind (acts_processArbitrageIntent request userId
        (fun _ => ⟨rfl, rfl⟩) (fun _ => ⟨rfl, rfl⟩) w.state) fun _ _ => trivial) (dead_self hinv)
    | dashboard n x f =>
      exact keeps_of_acts rests_kept (acts_feeds (acts_dashboard f _)) (dead_self hinv)
  drifts w x s hinv _ hdrift := by
    have hsame := (drift_steady hdrift).toSameFeeds
    exact ⟨hinv.put hsame, fun _ f _ hu => by rw [World.put_state, hsame.feeds]; exact hu⟩

end

/-- In every run in which the feeds that survive their monitor stay silent, a dead
monitor never trades. -/
theorem dead_never_trades (host : Host) (config : RunnerConfig) (chs : List (Choice TaskId Input))
    (hsilent : Along (processRules host config) SurvivorsSilent (Loop.quiet .initial) chs)
    (L : ProcessLoop) (hrun : runProcess host config chs = some L) :
    DeadNeverTrades L.world.log := by
  have hinit : DeadInv ⟨AppState.initial, []⟩ :=
    ⟨throughout_nil, fun _ hraised => by simp [Raised] at hraised, fun _ _ => rfl⟩
  exact (run_inv dead_sound .initial hinit chs hsilent hrun).quiet

/-! ### One triangle -/

def oneTriangle : RunnerConfig := triangleConfig [⟨"alpha", "USDT", "BTC", "ETH"⟩]

def feedBreaks : List (Choice TaskId Input) :=
  [.start (.feed (.leg 0 .targetQuote)) (.fetchFailed ⟨.other, "connection lost"⟩),
    .reply (.run (.triangle 0)) .replied]

theorem dead_never_trades_silent :
    ∃ L, runProcess bareHost oneTriangle (startTriangles 1 ++ feedBreaks) = some L ∧
      DeadNeverTrades L.world.log := by
  have hsome : (runProcess bareHost oneTriangle
      (startTriangles 1 ++ feedBreaks)).isSome = true := by
    decide +kernel
  obtain ⟨L, hL⟩ := Option.isSome_iff_exists.mp hsome
  exact ⟨L, hL, dead_never_trades bareHost oneTriangle _ (by decide +kernel) L hL⟩

/-- The third book is cached before its feed breaks. The second feed survives, its book
completes the cycle, and the dead triangle trades. -/
def survivorTrades : List (Choice TaskId Input) :=
  startTriangles 1 ++ deliverLevel 0 .bridgeQuote 10 ++ deliverLevel 0 .targetQuote 2 ++
    readBooks 0 .bridgeQuote ++ feedBreaks ++ deliverLevel 0 .targetBridge (1 / 10) ++
    readBooks 0 .targetBridge ++ [.turn (.feed (.leg 0 .targetBridge))]

theorem dead_never_trades_survivor :
    ∃ L, runProcess bareHost oneTriangle survivorTrades = some L ∧
      ¬DeadNeverTrades L.world.log := by
  have houtline : (runProcess bareHost oneTriangle survivorTrades).map
      (fun L => L.world.log.map fun e => (e.event.raised, e.event.worker)) =
    some [(none, some (.triangle 0)), (none, none), (some (.triangle 0), none),
      (none, some (.triangle 0)), (none, none), (none, none), (none, none),
      (none, some (.triangle 0))] := by
    decide +kernel
  obtain ⟨L, hL, hlog⟩ := Option.map_eq_some_iff.mp houtline
  refine ⟨L, hL, fun hholds => ?_⟩
  obtain ⟨first, log, hlog, -, hrest⟩ := List.map_eq_cons_iff.mp hlog
  obtain ⟨ending, log, rfl, -, hrest⟩ := List.map_eq_cons_iff.mp hrest
  obtain ⟨raise, log, rfl, hraise, hrest⟩ := List.map_eq_cons_iff.mp hrest
  obtain ⟨later, log, rfl, hlater, -⟩ := List.map_eq_cons_iff.mp hrest
  have hraised : Raised (.triangle 0) [first, ending, raise] :=
    ⟨raise, by simp, congrArg Prod.fst hraise⟩
  exact hholds [first, ending, raise] later log hlog (.triangle 0) (congrArg Prod.snd hlater)
    hraised

end BimodalArbitrage.Runtime
