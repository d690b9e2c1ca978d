import BimodalArbitrage.Coop.Outside
import BimodalArbitrage.Coop.Parking
import BimodalArbitrage.Runtime.Tasks

/-!
# Every task goes on

No task of the process waits for another one, apart from the two gathers: a callback that
finds the lock of its monitor taken skips its tick, and one that holds it has a bounded
number of steps to the end.
-/

namespace BimodalArbitrage.Runtime
open Coop Execution Marketdata Ml Api Coro

/-- The world outside can answer the call in every state. -/
def Call.Prompt : Call → Prop
  | .lockReleased _ => False
  | .gatherFeeds _ => False
  | .gatherMonitors => False
  | _ => True

theorem Call.Prompt.answer (config : RunnerConfig) (s : AppState) {c : Call} (h : c.Prompt) :
    ∃ x a, answerCall config s c x = some a := by
  cases c with
  | redisGet key => exact ⟨.replied, _, rfl⟩
  | redisSet key value ex => exact ⟨.replied, _, rfl⟩
  | sampleLog pair temporal depth netAlphaBps => exact ⟨.replied, _, rfl⟩
  | recordExecution result => exact ⟨.replied, _, rfl⟩
  | getOrCreateUser => exact ⟨.user "", _, rfl⟩
  | lockReleased m => exact h.elim
  | gatherFeeds m => exact h.elim
  | gatherMonitors => exact h.elim
  | evaluateSpread => exact ⟨.failed ⟨.runtimeError, ""⟩, _, rfl⟩
  | dispatchOrders request signal => exact ⟨.replied, _, rfl⟩

def SameLocks (s s' : AppState) : Prop :=
  ∀ m, (s'.monitors m).evaluating = (s.monitors m).evaluating

theorem sameLocks_onMonitor {f : MonitorState → MonitorState}
    (hf : ∀ st, (f st).evaluating = st.evaluating) (m : MonitorId) (s : AppState) :
    SameLocks s (s.onMonitor m f) :=
  onMonitor_field MonitorState.evaluating hf m s

/-! ### Evaluations -/

section
variable {T : AppState → AppState → Prop} {s : AppState}

theorem paced_getSnapshot (exchange symbol : String) :
    (cache.getSnapshot exchange symbol).Paced T Call.Prompt 2 s := by
  have hget : (cache.redis.get (cacheKey exchange symbol)).Paced T Call.Prompt (1 + 1) s :=
    paced_bind (paced_call trivial) fun _ _ => paced_bind (n := 0) paced_yield fun _ _ => trivial
  exact paced_bind (n := 0) hget fun _ _ => trivial

theorem paced_setSnapshot (snapshot : OrderBookSnapshot) :
    (cache.setSnapshot snapshot).Paced T Call.Prompt 2 s :=
  paced_bind (m := 1) (paced_call trivial) fun _ _ => paced_yield

theorem paced_updateHeuristic (host : Host) (m : MonitorId)
    (netAlphaBps midPriceReturn hazard : ℚ) :
    (updateHeuristic host m netAlphaBps midPriceReturn hazard).Paced SameLocks Call.Prompt 0 s :=
  paced_state_bind (paced_lift_bind fun _ =>
    paced_modify_bind (sameLocks_onMonitor (fun _ => by rfl) m s) trivial)

theorem paced_gate (m : MonitorId) (symbol exchangeBuy exchangeSell : String) (netAlphaBps : ℚ)
    (signal : ArbitrageSignal ℚ) (notional : ℚ) :
    (gate m symbol exchangeBuy exchangeSell netAlphaBps signal notional).Paced SameLocks
      Call.Prompt 0 s :=
  paced_state_bind (paced_report_bind
    (paced_modify_bind (steady_recordSignal ..).evaluating trivial))

theorem paced_bookResult (m : MonitorId) (record : ℕ) (result : TradeExecutionResult) :
    (bookResult m record result).Paced SameLocks Call.Prompt 1 s :=
  paced_modify_bind (steady_recordOutcome record result s).evaluating
    (paced_modify_bind (sameLocks_onMonitor (fun _ => by rfl) m _)
      (paced_report_bind (paced_call trivial)))

theorem paced_pairFills (p : PaperExchangeClient AppState Event Call Call.Reply)
    (o : PairedOrders) : (pairFills p o).Paced T Call.Prompt 3 s :=
  paced_bind (m := 1) (n := 2) paced_yield fun _ _ => paced_report_bind
    (paced_bind (m := 1) (n := 1) paced_yield fun _ _ => paced_report_bind paced_yield)

theorem paced_triangleFills (p : PaperExchangeClient AppState Event Call Call.Reply)
    (o : TriangleOrders) : (triangleFills p o).Paced T Call.Prompt 4 s := by
  have hleg : ∀ (e e' : Event) s, (Coro.yield.bind fun _ => (Coro.report e).bind fun _ =>
      (Coro.report e' : Proc Unit)).Paced T Call.Prompt 1 s :=
    fun e e' s => paced_bind (n := 0) paced_yield fun _ _ => trivial
  exact paced_bind (m := 1) (n := 3) (hleg ..) fun _ _ =>
    paced_bind (m := 1) (n := 2) (hleg ..) fun _ _ =>
      paced_bind (m := 1) (n := 1) (hleg ..) fun _ _ => paced_yield

theorem PairMonitor.paced_gated (m : PairMonitor) (asks : List OrderBookLevel) (q : PairQuote)
    (signal : ArbitrageSignal ℚ) (netAlphaBps : ℚ) :
    (m.gated asks q signal netAlphaBps).Paced SameLocks Call.Prompt 4 s := by
  refine paced_bind (m := 0) (n := 4) (paced_gate ..) fun record s => ?_
  cases record with
  | none => trivial
  | some record =>
    simp only [PairMonitor.trade_eq]
    refine paced_lift_bind fun gross => paced_report_bind ?_
    exact paced_bind (m := 3) (n := 1) (paced_pairFills ..) fun _ _ => paced_bookResult ..

theorem PairMonitor.paced_evaluateBooks (m : PairMonitor)
    (buySnapshot sellSnapshot : OrderBookSnapshot) :
    (m.evaluateBooks buySnapshot sellSnapshot).Paced SameLocks Call.Prompt 5 s := by
  have hlog : ∀ temporal depth netAlphaBps s,
      (m.logSample temporal depth netAlphaBps).Paced SameLocks Call.Prompt 1 s := by
    intro temporal depth netAlphaBps s
    unfold PairMonitor.logSample
    split
    · exact paced_call trivial
    · trivial
  unfold PairMonitor.evaluateBooks
  split
  · refine paced_state_bind ?_
    split
    · refine paced_lift_bind fun quote => ?_
      cases quote with
      | none => trivial
      | some q =>
        refine paced_bind (m := 1) (n := 4) (hlog ..) fun _ s => paced_lift_bind fun hazard => ?_
        exact paced_report_bind (paced_bind (m := 0) (n := 4) (paced_updateHeuristic ..)
          fun _ _ => PairMonitor.paced_gated m ..)
    · trivial
  · trivial

theorem PairMonitor.paced_evaluateOnce (m : PairMonitor) :
    m.evaluateOnce.Paced SameLocks Call.Prompt 9 s := by
  have hread : ∀ s, m.readBooks.Paced SameLocks Call.Prompt 4 s := fun s =>
    paced_bind (m := 2) (n := 2) (paced_getSnapshot ..) fun _ _ =>
      paced_bind (m := 2) (n := 0) (paced_getSnapshot ..) fun _ _ => trivial
  refine paced_report_bind (paced_bind (m := 4) (n := 5) (hread s) fun books s => ?_)
  obtain ⟨buy, sell⟩ := books
  cases buy <;> cases sell
  case some.some => exact PairMonitor.paced_evaluateBooks m ..
  all_goals trivial

theorem TriangleMonitor.paced_gated (m : TriangleMonitor) (q : TriangleQuote)
    (signal : ArbitrageSignal ℚ) (netAlphaBps : ℚ) :
    (m.gated q signal netAlphaBps).Paced SameLocks Call.Prompt 5 s := by
  refine paced_bind (m := 0) (n := 5) (paced_gate ..) fun record s => ?_
  cases record with
  | none => trivial
  | some record =>
    simp only [TriangleMonitor.trade_eq]
    refine paced_report_bind ?_
    exact paced_bind (m := 4) (n := 1) (paced_triangleFills ..) fun _ _ => paced_bookResult ..

theorem TriangleMonitor.paced_evaluateOnce (m : TriangleMonitor) :
    m.evaluateOnce.Paced SameLocks Call.Prompt 11 s := by
  have hdecide : ∀ books q s, (m.decideOn books q).Paced SameLocks Call.Prompt 5 s := by
    intro books q s
    refine paced_state_bind (paced_lift_bind fun midPriceReturn => ?_)
    refine paced_modify_bind (fun _ => rfl) ?_
    exact paced_bind (m := 0) (n := 5) (paced_updateHeuristic ..) fun _ _ =>
      TriangleMonitor.paced_gated m ..
  refine paced_report_bind (paced_bind (m := 2) (n := 9) (paced_getSnapshot ..) fun bridgeQuote s =>
    paced_bind (m := 2) (n := 7) (paced_getSnapshot ..) fun targetBridge s =>
      paced_bind (m := 2) (n := 5) (paced_getSnapshot ..) fun targetQuote s => ?_)
  cases bridgeQuote <;> cases targetBridge <;> cases targetQuote
  case some.some.some bridgeQuote targetBridge targetQuote =>
    dsimp only
    cases TriangleBooks.ofSnapshots bridgeQuote targetBridge targetQuote with
    | none => trivial
    | some books =>
      refine paced_lift_bind fun q => ?_
      cases q with
      | none => trivial
      | some q => exact hdecide books q s
  all_goals trivial

/-! ### Tasks -/

/-- A callback that finds the lock taken does not wait for it. -/
theorem paced_underLock (f : Feed) {evaluateOnce : Proc Unit} {n : ℕ}
    (hevaluate : ∀ s, evaluateOnce.Paced SameLocks Call.Prompt n s) :
    (underLock f evaluateOnce).Paced (fun _ _ => True) Call.Prompt n s := by
  refine paced_state_bind ?_
  split
  · trivial
  next hfree =>
    have hacquire : (acquire f).Paced (fun _ _ => True) Call.Prompt 0 s := by
      refine paced_state_bind ?_
      rw [if_neg hfree]
      exact paced_modify trivial
    rw [← Nat.zero_add n]
    refine paced_bind hacquire fun _ s => paced_ensuring (m := n) (n := 0) ?_ fun s => ?_
    · exact (hevaluate s).mono (fun _ _ _ => trivial) (fun _ h => h) (Nat.le_refl n)
    · exact paced_report_bind (paced_modify trivial)

def deliverySteps : Feed → ℕ
  | .buy _ => 11
  | .sell _ => 2
  | .leg _ _ => 13

theorem paced_callback (host : Host) (config : RunnerConfig) (f : Feed)
    (snapshot : OrderBookSnapshot) :
    (callback host config f snapshot).Paced (fun _ _ => True) Call.Prompt (deliverySteps f) s := by
  cases f with
  | buy k =>
    simp only [callback]
    split
    next pair _ =>
      refine paced_bind (m := 2) (n := 9) (paced_setSnapshot ..) fun _ s => paced_state_bind ?_
      refine paced_lift_bind fun window => paced_modify_bind trivial (paced_report_bind ?_)
      refine paced_state_bind (paced_lift_bind fun builder => paced_modify_bind trivial ?_)
      refine paced_report_bind (paced_state_bind ?_)
      split
      · exact paced_underLock _ fun s => PairMonitor.paced_evaluateOnce _
      · trivial
    · trivial
  | sell k =>
    simp only [callback]
    split
    · exact paced_setSnapshot snapshot
    · trivial
  | leg k market =>
    simp only [callback]
    split
    · exact paced_bind (m := 2) (n := 11) (paced_setSnapshot ..) fun _ s =>
        paced_underLock _ fun s => TriangleMonitor.paced_evaluateOnce _
    · trivial

theorem paced_deliver (host : Host) (config : RunnerConfig) (f : Feed)
    (snapshot : OrderBookSnapshot) :
    (deliver host config f snapshot).Paced (fun _ _ => True) Call.Prompt (deliverySteps f) s := by
  refine paced_modify_bind trivial (paced_bind (n := 0) ?_ fun _ s => paced_modify trivial)
  refine paced_catching (n := 0) (paced_callback host config f snapshot) fun e s => ?_
  exact paced_modify_bind trivial trivial

/-- How many steps a task of the process may take. -/
def taskSteps : TaskId → ℕ
  | .runForever => 2
  | .run _ => 1
  | .feed f => deliverySteps f
  | .request _ => 2
  | .dashboard _ => 0

/-- The calls a task of the process may make. -/
def TaskId.MayCall : TaskId → Call → Prop
  | .runForever, c => c.Prompt ∨ c = .gatherMonitors
  | .run m, c => c = .gatherFeeds m
  | _, c => c.Prompt

theorem paced_runForever (config : RunnerConfig) :
    (runForever config).Paced (fun _ _ => True) (TaskId.MayCall .runForever) 2 s := by
  refine paced_modify_bind trivial ?_
  split
  · trivial
  split
  · trivial
  refine paced_bind (m := 1) (n := 1) (paced_call (.inl trivial)) fun user s => ?_
  refine paced_modify_bind trivial ?_
  exact paced_bind (n := 0) (paced_call (.inr rfl)) fun results s => paced_modify trivial

theorem paced_runMonitor (m : MonitorId) (label : String) (failure : Option PyError) :
    (runMonitor m label failure).Paced (fun _ _ => True) (TaskId.MayCall (.run m)) 1 s := by
  cases failure with
  | some e => exact paced_modify_bind trivial trivial
  | none =>
    refine paced_modify_bind trivial (paced_bind (n := 0) ?_ fun _ s => paced_modify trivial)
    refine paced_catching (m := 1) (n := 0) (paced_call rfl) fun e s => ?_
    exact paced_modify_bind trivial (paced_report_bind (paced_modify_bind trivial trivial))

theorem paced_processArbitrageIntent (request : TradeSignalRequest) (userId : String) :
    (processArbitrageIntent request userId).Paced (fun _ _ => True) Call.Prompt 2 s := by
  unfold processArbitrageIntent
  split
  · trivial
  refine paced_bind (m := 1) (n := 1) (paced_call trivial) fun signal s => paced_report_bind ?_
  split
  · trivial
  refine paced_report_bind (paced_bind (n := 0) (paced_attempt (paced_call trivial)) ?_)
  intro result s
  cases result <;> trivial

theorem paced_startTask {host : Host} {config : RunnerConfig} {i : TaskId} {x : Input}
    {c : Proc Unit} (h : startTask host config s i x = some c) :
    c.Paced (fun _ _ => True) i.MayCall (taskSteps i) s := by
  cases started_of_startTask h with
  | launch => exact paced_runForever config
  | boot m label failure => exact paced_runMonitor m label failure
  | delivered f => exact paced_deliver host config f _
  | fetchFailed f e => exact paced_modify_bind trivial trivial
  | intent n request userId =>
    exact paced_bind (n := 0) (paced_processArbitrageIntent request userId) fun _ _ => trivial
  | dashboard n x f => exact paced_modify trivial

end

/-! ### Who holds a lock -/

/-- The lock of a monitor is with one of its feeds, and only that feed takes or leaves it. -/
def holderContract : Contract TaskId AppState Event Input where
  inv w := ∀ m f, (w.state.monitors m).evaluating = some f → f.monitor = m
  rely i u v := ∀ f, i = .feed f → ((v.state.monitors f.monitor).evaluating = some f ↔
    (u.state.monitors f.monitor).evaluating = some f)
  guar i u v := ∀ f, i ≠ .feed f → ((v.state.monitors f.monitor).evaluating = some f ↔
    (u.state.monitors f.monitor).evaluating = some f)
  allows _ _ := True
  rely_refl _ _ _ _ := Iff.rfl
  rely_trans _ _ _ _ huv hvw f hf := (hvw f hf).trans (huv f hf)
  guar_rely _ _ _ _ hij h f hf := h f (hf ▸ hij)

def HoldsNoLock (i : TaskId) (w : World TaskId AppState Event) : Prop :=
  ∀ f, i = .feed f → (w.state.monitors f.monitor).evaluating ≠ some f

/-- The callback of `f` keeps the contract, and `held` says if it has the lock. -/
def Keeping (f : Feed) (held : Prop) (u w : World TaskId AppState Event) : Prop :=
  holderContract.Rests (.feed f) u w ∧
    ((w.state.monitors f.monitor).evaluating = some f ↔ held)

section
variable {host : Host} {config : RunnerConfig} {i : TaskId} {f : Feed} {held : Prop}
  {u w : World TaskId AppState Event}

theorem holder_put {s : AppState} (h : holderContract.Rests i u w)
    (hs : SameLocks w.state s) : holderContract.Rests i u (w.put s) := by
  refine ⟨fun m f hm => h.1 m f ((hs m).symm.trans hm), fun f hf => ?_⟩
  rw [World.put_state, hs]
  exact h.2 f hf

theorem holder_self (h : holderContract.inv w) : holderContract.Rests i w w :=
  ⟨h, fun _ _ => Iff.rfl⟩

theorem holder_kept : Kept (processRules host config) holderContract i SameLocks
    (fun _ => True) (holderContract.Rests i) where
  set h hs := holder_put h hs
  emit h _ := h
  rests h := h
  turn _ _ hv := holder_self hv
  reply _ _ hv hans := holder_put (holder_self hv) (answerCall_steady hans).evaluating

theorem Keeping.put {s : AppState} (h : Keeping f held u w) (hs : SameLocks w.state s) :
    Keeping f held u (w.put s) := by
  refine ⟨holder_put h.1 hs, ?_⟩
  rw [World.put_state, hs]
  exact h.2

theorem keeping_kept : Kept (processRules host config) holderContract (.feed f) SameLocks
    (fun _ => True) (Keeping f held) where
  set h hs := h.put hs
  emit h _ := h
  rests h := h.1
  turn h hr hv := ⟨holder_self hv, (hr f rfl).trans h.2⟩
  reply h hr hv hans :=
    Keeping.put ⟨holder_self hv, (hr f rfl).trans h.2⟩ (answerCall_steady hans).evaluating

/-- Whether `f` takes its own lock or leaves it, the other feeds keep theirs. -/
theorem holder_setLock {holder : Option Feed} (h : holderContract.Rests (.feed f) u w)
    (hfree : ∀ g, g ≠ f → (w.state.monitors f.monitor).evaluating ≠ some g)
    (hholder : ∀ g, holder = some g → g = f) :
    holderContract.Rests (.feed f) u (w.put (setLock f holder w.state)) := by
  refine ⟨fun m g hm => ?_, fun g hg => ?_⟩
  · by_cases hmonitor : m = f.monitor
    · rw [World.put_state, hmonitor, setLock_self] at hm
      rw [hholder g hm, hmonitor]
    · rw [World.put_state, setLock_of_ne hmonitor] at hm
      exact h.1 m g hm
  · have hne : g ≠ f := fun heq => hg (heq ▸ rfl)
    refine Iff.trans ?_ (h.2 g hg)
    by_cases hmonitor : g.monitor = f.monitor
    · rw [World.put_state, hmonitor, setLock_self]
      exact iff_of_false (fun heq => hne (hholder g heq)) (hfree g hne)
    · rw [World.put_state, setLock_of_ne hmonitor]

theorem keeping_underLock {evaluateOnce : Proc Unit}
    (hevaluate : ∀ s, evaluateOnce.Acts SameLocks (fun _ => True) s)
    (h : Keeping f False u w) :
    wp (processRules host config) holderContract (.feed f) (underLock f evaluateOnce)
      (fun _ => Keeping f False) u w := by
  rw [wp_underLock_iff]
  split
  · exact h
  next hlocked =>
  have hfree : (w.state.monitors f.monitor).evaluating = none := by simpa using hlocked
  have hentered : Keeping f True u (w.put (setLock f (some f) w.state)) := by
    have hrests : holderContract.Rests (.feed f) u (w.put (setLock f (some f) w.state)) :=
      holder_setLock h.1 (fun g _ => by simp [hfree]) fun g hg => (Option.some.inj hg).symm
    exact ⟨hrests, iff_of_true (setLock_self ..) trivial⟩
  refine wp_of_acts keeping_kept (hevaluate _) hentered fun r u w h => ?_
  have hheld : (w.state.monitors f.monitor).evaluating = some f := h.2.mpr trivial
  have hrests : holderContract.Rests (.feed f) u (w.put (setLock f none w.state)) :=
    holder_setLock h.1 (fun g hg => by simp [hheld, Ne.symm hg]) fun g hg => nomatch hg
  refine ⟨hrests, iff_of_false ?_ id⟩
  rw [World.put_state, setLock_self]
  exact nofun

theorem Keeping.ends (h : Keeping f False u w) :
    holderContract.Rests (.feed f) u w ∧ HoldsNoLock (.feed f) w := by
  refine ⟨h.1, fun g hg => ?_⟩
  cases hg
  exact h.2.mp

theorem keeping_deliver (snapshot : OrderBookSnapshot) (h : holderContract.inv w)
    (hidle : HoldsNoLock (.feed f) w) :
    Leaves (processRules host config) holderContract HoldsNoLock (.feed f)
      (deliver host config f snapshot) w w := by
  have hstatus : ∀ {u w} status, Keeping f False u w →
      Keeping f False u (w.put (w.state.setFeed f status)) := fun status h => h.put fun _ => rfl
  have hstart : Keeping f False w (w.put (w.state.setFeed f .delivering)) :=
    hstatus .delivering ⟨holder_self h, iff_of_false (hidle f rfl) id⟩
  simp only [Leaves, deliver, bind_eq, wp_bind, wp_modify, wp_catching, wp_throw, ends_ok]
  refine wp_mono (P := fun _ => Keeping f False) _ (fun r u w h => ?_) ?_
  · cases r with
    | ok a => exact (hstatus .fetching h).ends
    | error e => exact (h.put (sameAccounts_failFeed f e w.state).evaluating).ends
  · refine wp_callback (keeping_kept.mono (fun _ _ h => h.evaluating) fun _ h => h)
      (fun _ _ _ h => h) (fun _ _ => trivial) f (fun k pair hf u w h => ?_)
      (fun k market triangle hf u w h => ?_) snapshot hstart
    · exact keeping_underLock (fun s => (PairMonitor.paced_evaluateOnce _).acts) h
    · exact keeping_underLock (fun s => (TriangleMonitor.paced_evaluateOnce _).acts) h

theorem holder_parking :
    Parking (processRules host config) holderContract HoldsNoLock where
  stable hr h f hf hheld := h f hf ((hr f hf).mp hheld)
  starts w i x c hinv hidle _ hstart := by
    have hacts : (∀ f, i ≠ .feed f) → c.Acts SameLocks (fun _ => True) w.state →
        Leaves (processRules host config) holderContract HoldsNoLock i c w w := by
      intro hi hacts
      exact wp_of_acts holder_kept hacts (holder_self hinv) fun _ _ _ h =>
        ⟨h, fun f hf => absurd hf (hi f)⟩
    cases started_of_startTask hstart with
    | launch =>
      exact hacts (fun _ => nofun) ((acts_runForever steady_runner config _).mono
        (fun _ _ h => h.evaluating) fun _ h => h)
    | boot m label failure =>
      exact hacts (fun _ => nofun)
        ((acts_runMonitor sameAccounts_monitor m label failure trivial _).mono
          (fun _ _ h => h.evaluating) fun _ h => h)
    | delivered f => exact keeping_deliver _ hinv hidle
    | fetchFailed f e =>
      refine wp_of_acts keeping_kept ((acts_fetchFails sameAccounts_monitor f e _).mono
        (fun _ _ h => h.evaluating) fun _ h => h) ?_ fun _ _ _ h => h.ends
      exact ⟨holder_self hinv, iff_of_false (hidle f rfl) id⟩
    | intent n request userId =>
      exact hacts (fun _ => nofun) (acts_bind (acts_processArbitrageIntent request userId
        (fun _ => trivial) (fun _ => trivial) w.state) fun _ _ => trivial)
    | dashboard n x f =>
      exact hacts (fun _ => nofun) ((acts_dashboard f _).mono (fun _ _ h => h.evaluating)
        fun _ h => h)
  drifts w x s hinv _ hdrift := by
    have hsame := (drift_steady hdrift).evaluating
    refine ⟨(holder_put (i := .runForever) (holder_self hinv) hsame).1, fun j f hf => ?_⟩
    rw [World.put_state, hsame]

/-! ### The process -/

/-- A gather waits for what has not come yet: a failure of the feeds it gathers, or the end
of a monitor. -/
def Gathers (config : RunnerConfig) (s : AppState) : TaskId → Call → Prop
  | .run m, c => c = .gatherFeeds m ∧ (s.monitors m).failure = none
  | .runForever, c => c = .gatherMonitors ∧
      ∃ m ∈ allMonitors config, runResult (s.monitors m) = none
  | _, _ => False

theorem exists_of_mapM_eq_none {α β : Type} {g : α → Option β} {xs : List α}
    (h : xs.mapM g = none) : ∃ x ∈ xs, g x = none := by
  induction xs with
  | nil => cases h
  | cons x xs ih =>
    cases hx : g x with
    | none => exact ⟨x, List.mem_cons_self .., hx⟩
    | some b =>
      cases hxs : xs.mapM g with
      | none =>
        obtain ⟨y, hy, hnone⟩ := ih hxs
        exact ⟨y, List.mem_cons_of_mem _ hy, hnone⟩
      | some bs => simp [List.mapM_cons, hx, hxs] at h

theorem answer_or_gathers (config : RunnerConfig) (s : AppState) {i : TaskId} {c : Call}
    (h : i.MayCall c) : (∃ x a, answerCall config s c x = some a) ∨ Gathers config s i c := by
  cases i with
  | runForever =>
    obtain h | rfl := h
    · exact .inl (h.answer config s)
    · cases hresults : (allMonitors config).mapM fun m => runResult (s.monitors m) with
      | none => exact .inr ⟨rfl, exists_of_mapM_eq_none hresults⟩
      | some results => exact .inl ⟨.replied, (.ok results, s), by simp [answerCall, hresults]⟩
  | run m =>
    cases h
    cases hfailure : (s.monitors m).failure with
    | none => exact .inr ⟨rfl, hfailure⟩
    | some e => exact .inl ⟨.replied, (.error e, s), by simp [answerCall, hfailure]⟩
  | feed f => exact .inl (Call.Prompt.answer config s h)
  | request n => exact .inl (Call.Prompt.answer config s h)
  | dashboard n => exact .inl (Call.Prompt.answer config s h)

theorem busy_goes_on {L : ProcessLoop} {n : ℕ}
    (h : (L.slots i).Paced (fun _ _ => True) i.MayCall n) (hbusy : (L.slots i).Busy) :
    (∃ ch L', ch.IsOwn i ∧ step (processRules host config) L ch = some L') ∨
      ∃ c k, L.slots i = .waiting c k ∧ Gathers config L.world.state i c := by
  cases hslot : L.slots i with
  | idle => simp [hslot, Slot.Busy] at hbusy
  | failed e => simp [hslot, Slot.Busy] at hbusy
  | ready k =>
    have hstep : step (processRules host config) L (.turn i) =
        some (L.occupy i (settle i k L.world)) := by simp only [step, hslot]
    exact .inl ⟨.turn i, _, rfl, hstep⟩
  | waiting c k =>
    rw [hslot] at h
    obtain ⟨x, a, hx⟩ | hgathers := answer_or_gathers config L.world.state h.2.1
    · have hstep : step (processRules host config) L (.reply i x) =
          some (L.occupy i (settle i (k a.1) (L.world.put a.2))) := by
        have hx' : (processRules host config).answer L.world.state c x = some a := hx
        simp only [step, hslot, hx', Option.map_some]
      exact .inl ⟨.reply i x, _, rfl, hstep⟩
    · exact .inr ⟨c, k, rfl, hgathers⟩

end

/-- In every run a task takes a bounded number of steps, and every task under way can go on
at once, unless it gathers feeds none of which has failed or monitors not all of which have
ended. A lock is with a feed whose callback is under way; steps of that feed alone, no more
than it has left, end the callback and leave no lock with it. -/
theorem process_goes_on (host : Host) (config : RunnerConfig)
    (chs : List (Choice TaskId Input)) (L : ProcessLoop)
    (hrun : runProcess host config chs = some L) :
    (∀ i, ownSteps i chs ≤ taskSteps i) ∧
      (∀ i, (L.slots i).Busy →
        (∃ ch L', ch.IsOwn i ∧ step (processRules host config) L ch = some L') ∨
          ∃ c k, L.slots i = .waiting c k ∧ Gathers config L.world.state i c) ∧
      (∀ m f, (L.world.state.monitors m).evaluating = some f →
        f.monitor = m ∧ (L.slots (.feed f)).Busy) ∧
      ∀ f, ∃ chs' L', run (processRules host config) L chs' = some L' ∧
        (∀ ch ∈ chs', ch.IsOwn (.feed f)) ∧
        ownSteps (.feed f) chs + chs'.length ≤ deliverySteps f ∧
        ¬(L'.slots (.feed f)).Busy ∧ ∀ m, (L'.world.state.monitors m).evaluating ≠ some f := by
  have hstart : ∀ s i x c, (processRules host config).start s i x = some c →
      c.Paced (fun _ _ => True) i.MayCall (taskSteps i) s := fun s i x c => paced_startTask
  have hpaced := fun i => run_quiet_paced hstart .initial chs hrun i
  have hparks : ∀ chs L, runProcess host config chs = some L →
      LoopParks (processRules host config) holderContract HoldsNoLock L := fun chs L hrun =>
    holder_parking.run_quiet .initial nofun (fun _ _ _ => nofun) chs
      (along_of_forall _ (fun _ _ _ => trivial) _) hrun
  have hheld : ∀ chs L, runProcess host config chs = some L → ∀ m f,
      (L.world.state.monitors m).evaluating = some f →
        f.monitor = m ∧ (L.slots (.feed f)).Busy := by
    intro chs L hrun m f hm
    have hmonitor := (hparks chs L hrun).inv m f hm
    refine ⟨hmonitor, by_contra fun hidle => ?_⟩
    exact (hparks chs L hrun).parked hidle f rfl (hmonitor ▸ hm)
  refine ⟨fun i => (hpaced i).1, fun i hbusy => busy_goes_on (hpaced i).2 hbusy,
    hheld chs L hrun, fun f => ?_⟩
  obtain ⟨hsteps, hslot⟩ := hpaced (.feed f)
  have hanswer : ∀ s c, c.Prompt → ∃ x a, (processRules host config).answer s c x = some a :=
    fun s c hc => hc.answer config s
  obtain ⟨chs', L', hrun', hlength, hown, hended⟩ := exists_drain hanswer (TaskId.feed f) _ hslot
  have htotal : runProcess host config (chs ++ chs') = some L' := by
    have hfirst : run (processRules host config) (Loop.quiet .initial) chs = some L := hrun
    rw [runProcess, run_append, hfirst]
    exact hrun'
  have hbound : ownSteps (.feed f) chs + chs'.length ≤ deliverySteps f := by
    have hlimit : ownSteps (.feed f) chs ≤ deliverySteps f := hsteps
    have hrest : chs'.length ≤ deliverySteps f - ownSteps (.feed f) chs := hlength
    omega
  exact ⟨chs', L', hrun', hown, hbound, hended, fun m hm =>
    hended (hheld _ L' htotal m f hm).2⟩

/-- The first trade just before its last step, the callback holding the lock. -/
def nearlyTraded : List (Choice TaskId Input) := (startTriangles 2 ++ firstTrade 0).dropLast

theorem process_goes_on_nearlyTraded :
    ∃ L, runProcess bareHost twoTriangles nearlyTraded = some L ∧
      (L.world.state.monitors (.triangle 0)).evaluating = some (.leg 0 .bridgeQuote) ∧
      ownSteps (.feed (.leg 0 .bridgeQuote)) nearlyTraded = 12 ∧
      (∀ i, ownSteps i nearlyTraded ≤ taskSteps i) ∧
      (∀ i, (L.slots i).Busy →
        (∃ ch L', ch.IsOwn i ∧ step (processRules bareHost twoTriangles) L ch = some L') ∨
          ∃ c k, L.slots i = .waiting c k ∧ Gathers twoTriangles L.world.state i c) ∧
      (∀ m f, (L.world.state.monitors m).evaluating = some f →
        f.monitor = m ∧ (L.slots (.feed f)).Busy) ∧
      ∀ f, ∃ chs' L', run (processRules bareHost twoTriangles) L chs' = some L' ∧
        (∀ ch ∈ chs', ch.IsOwn (.feed f)) ∧
        ownSteps (.feed f) nearlyTraded + chs'.length ≤ deliverySteps f ∧
        ¬(L'.slots (.feed f)).Busy ∧ ∀ m, (L'.world.state.monitors m).evaluating ≠ some f := by
  have hlock : (runProcess bareHost twoTriangles nearlyTraded).map (fun L =>
      (L.world.state.monitors (.triangle 0)).evaluating) = some (some (.leg 0 .bridgeQuote)) := by
    decide +kernel
  obtain ⟨L, hL, hheld⟩ := Option.map_eq_some_iff.mp hlock
  exact ⟨L, hL, hheld, by decide +kernel, process_goes_on bareHost twoTriangles nearlyTraded L hL⟩

end BimodalArbitrage.Runtime
