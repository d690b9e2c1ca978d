import BimodalArbitrage.Coop.Outside
import BimodalArbitrage.Runtime.Tasks

/-!
# How the tasks reach the cache

No task touches Redis except through its commands, and no task but the buy feed of a
monitor touches that monitor's windows.
-/

namespace BimodalArbitrage.Runtime
open Coop Execution Marketdata Coro

structure SameServer (s s' : AppState) : Prop where
  now : s'.now = s.now
  redis : s'.redis = s.redis

structure SameBooks (s s' : AppState) : Prop extends SameServer s s' where
  temporalWindow : s'.temporalWindow = s.temporalWindow
  depthBuilder : s'.depthBuilder = s.depthBuilder

theorem SameServer.trans {s s' s'' : AppState} (h : SameServer s s') (h' : SameServer s' s'') :
    SameServer s s'' := ⟨h'.now.trans h.now, h'.redis.trans h.redis⟩

theorem SameBooks.trans {s s' s'' : AppState} (h : SameBooks s s') (h' : SameBooks s' s'') :
    SameBooks s s'' :=
  ⟨h.toSameServer.trans h'.toSameServer, h'.temporalWindow.trans h.temporalWindow,
    h'.depthBuilder.trans h.depthBuilder⟩

/-- Books are stored as the cache stores them, under their own key. -/
def Call.FromCache : Call → Prop
  | .redisSet key value ex => key = cacheKey value.exchange value.symbol ∧ ex = defaultTtlSeconds
  | _ => True

def Event.usesBook : Event → Bool
  | .book .. => true
  | _ => false

abbrev LeavesBooks {α : Type} (P : Event → Prop) (x : Proc α) (s : AppState) : Prop :=
  x.Does SameBooks P Call.FromCache s

theorem sameBooks_onMonitor (m : MonitorId) (f : MonitorState → MonitorState) (s : AppState) :
    SameBooks s (s.onMonitor m f) := ⟨⟨rfl, rfl⟩, rfl, rfl⟩

theorem sameBooks_setFeed (f : Feed) (status : FeedStatus) (s : AppState) :
    SameBooks s (s.setFeed f status) := ⟨⟨rfl, rfl⟩, rfl, rfl⟩

theorem sameBooks_foldl {α : Type} {f : AppState → α → AppState}
    (hf : ∀ s a, SameBooks s (f s a)) (as : List α) (s : AppState) :
    SameBooks s (as.foldl f s) := by
  induction as generalizing s with
  | nil => exact ⟨⟨rfl, rfl⟩, rfl, rfl⟩
  | cons a as ih => exact (hf s a).trans (ih _)

theorem sameBooks_recordSignal (symbol exchangeBuy exchangeSell : String) (call : GateCall)
    (s : AppState) : SameBooks s (s.recordSignal symbol exchangeBuy exchangeSell call) := by
  refine ⟨⟨?_, ?_⟩, ?_, ?_⟩ <;> simp only [AppState.recordSignal]

end BimodalArbitrage.Runtime

/-! ### The parts of an evaluation -/

namespace BimodalArbitrage.Marketdata
open Coop Execution Coro BimodalArbitrage.Runtime

section
variable {T : AppState → AppState → Prop} {P : Event → Prop} {s : AppState}

theorem does_getSnapshot (exchange symbol : String) :
    (cache.getSnapshot exchange symbol).Does T P Call.FromCache s :=
  does_bind (does_call_bind trivial fun _ _ _ => trivial) fun _ _ => trivial

theorem does_setSnapshot (snapshot : OrderBookSnapshot) :
    (cache.setSnapshot snapshot).Does T P Call.FromCache s :=
  does_call_bind ⟨rfl, rfl⟩ fun _ _ _ => trivial

theorem does_logSample (m : PairMonitor) (temporal : TemporalFeatures) (depth : DepthMatrix)
    (netAlphaBps : ℚ) : (m.logSample temporal depth netAlphaBps).Does T P Call.FromCache s := by
  unfold PairMonitor.logSample
  split
  · exact does_call trivial
  · trivial

theorem does_readBooks (m : PairMonitor) : m.readBooks.Does T P Call.FromCache s :=
  does_bind (does_getSnapshot ..) fun _ _ =>
    does_bind (does_getSnapshot ..) fun _ _ => trivial

theorem does_updateHeuristic (host : Host) (m : MonitorId)
    (netAlphaBps midPriceReturn hazard : ℚ) :
    LeavesBooks P (updateHeuristic host m netAlphaBps midPriceReturn hazard) s :=
  does_state_bind (does_lift_bind fun _ _ =>
    does_modify_bind (sameBooks_onMonitor ..) trivial)

end

section
variable {P : Event → Prop} {s : AppState}

theorem does_gate (hP : ∀ e : Event, e.usesBook = false → P e) (m : MonitorId)
    (symbol exchangeBuy exchangeSell : String) (netAlphaBps : ℚ) (signal : ArbitrageSignal ℚ)
    (notional : ℚ) :
    LeavesBooks P (gate m symbol exchangeBuy exchangeSell netAlphaBps signal notional) s :=
  does_state_bind (does_report_bind (hP _ rfl) (does_modify_bind (sameBooks_recordSignal ..)
    trivial))

theorem does_bookResult (hP : ∀ e : Event, e.usesBook = false → P e) (m : MonitorId)
    (record : ℕ) (result : TradeExecutionResult) : LeavesBooks P (bookResult m record result) s :=
  does_modify_bind ⟨⟨rfl, rfl⟩, rfl, rfl⟩ (does_modify_bind (sameBooks_onMonitor ..)
    (does_report_bind (hP _ rfl) (does_call trivial)))

theorem does_underLock (hP : ∀ e : Event, e.usesBook = false → P e) (f : Feed)
    {evaluateOnce : Proc Unit} (hevaluate : ∀ s, LeavesBooks P evaluateOnce s) :
    LeavesBooks P (underLock f evaluateOnce) s := by
  refine does_state_bind ?_
  split
  · trivial
  refine does_bind (does_state_bind ?_) fun _ s => does_ensuring (hevaluate s) fun s => ?_
  · split
    · exact does_report_bind (hP _ rfl) (does_call_bind trivial fun _ s =>
        does_modify (sameBooks_onMonitor ..))
    · exact does_modify (sameBooks_onMonitor ..)
  · exact does_report_bind (hP _ rfl) (does_modify (sameBooks_onMonitor ..))

theorem PairMonitor.does_gated (hP : ∀ e : Event, e.usesBook = false → P e) (m : PairMonitor)
    (asks : List OrderBookLevel) (q : PairQuote) (signal : ArbitrageSignal ℚ) (netAlphaBps : ℚ) :
    LeavesBooks P (m.gated asks q signal netAlphaBps) s := by
  refine does_bind (does_gate hP ..) fun record s => ?_
  cases record with
  | none => trivial
  | some record =>
    simp only [PairMonitor.trade_eq]
    refine does_lift_bind fun gross _ => does_report_bind (hP _ rfl) (does_bind ?_ fun _ s =>
      does_bookResult hP ..)
    exact fun _ => ⟨hP _ rfl, fun _ => ⟨hP _ rfl, fun _ => trivial⟩⟩

theorem TriangleMonitor.does_gated (hP : ∀ e : Event, e.usesBook = false → P e)
    (m : TriangleMonitor) (q : TriangleQuote) (signal : ArbitrageSignal ℚ) (netAlphaBps : ℚ) :
    LeavesBooks P (m.gated q signal netAlphaBps) s := by
  refine does_bind (does_gate hP ..) fun record s => ?_
  cases record with
  | none => trivial
  | some record =>
    simp only [TriangleMonitor.trade_eq]
    refine does_report_bind (hP _ rfl) (does_bind ?_ fun _ s => does_bookResult hP ..)
    exact fun _ => ⟨hP _ rfl, hP _ rfl, fun _ => ⟨hP _ rfl, hP _ rfl, fun _ =>
      ⟨hP _ rfl, hP _ rfl, fun _ => trivial⟩⟩⟩

theorem TriangleMonitor.does_evaluateOnce (hP : ∀ e : Event, e.usesBook = false → P e)
    (m : TriangleMonitor) : LeavesBooks P m.evaluateOnce s := by
  refine does_report_bind (hP _ rfl) (does_bind (does_getSnapshot ..) fun bridgeQuote s =>
    does_bind (does_getSnapshot ..) fun targetBridge s =>
      does_bind (does_getSnapshot ..) fun targetQuote s => ?_)
  split
  · split
    · trivial
    · refine does_lift_bind fun quote _ => ?_
      cases quote with
      | none => trivial
      | some q =>
        refine does_state_bind (does_lift_bind fun _ _ => ?_)
        refine does_modify_bind ⟨⟨rfl, rfl⟩, rfl, rfl⟩ ?_
        exact does_bind (does_updateHeuristic ..) fun _ s => does_gated hP ..
  · trivial

theorem TriangleMonitor.does_onSnapshot (hP : ∀ e : Event, e.usesBook = false → P e)
    (m : TriangleMonitor) (market : TriangleMarket) (snapshot : OrderBookSnapshot) :
    LeavesBooks P (m.onSnapshot market snapshot) s :=
  does_bind (does_setSnapshot ..) fun _ _ =>
    does_underLock hP _ fun _ => m.does_evaluateOnce hP

/-! ### A pair's evaluation

It reports which books it uses, so any event is allowed here. -/

theorem PairMonitor.does_evaluateBooks (hP : ∀ e, P e) (m : PairMonitor)
    (buySnapshot sellSnapshot : OrderBookSnapshot) :
    LeavesBooks P (m.evaluateBooks buySnapshot sellSnapshot) s := by
  unfold evaluateBooks
  split
  · refine does_state_bind ?_
    split
    · refine does_lift_bind fun quote _ => ?_
      cases quote with
      | none => trivial
      | some q =>
        refine does_bind (does_logSample ..) fun _ s => does_lift_bind fun _ _ => ?_
        exact does_report_bind (hP _) (does_bind (does_updateHeuristic ..) fun _ s =>
          m.does_gated (fun e _ => hP e) ..)
    · trivial
  · trivial

theorem PairMonitor.does_evaluateOnce (hP : ∀ e, P e) (m : PairMonitor) :
    LeavesBooks P m.evaluateOnce s := by
  refine does_report_bind (hP _) (does_bind (does_readBooks m) fun books s => ?_)
  obtain ⟨buy, sell⟩ := books
  cases buy with
  | none => trivial
  | some buy =>
  cases sell with
  | none => trivial
  | some sell => exact m.does_evaluateBooks hP buy sell

theorem PairMonitor.does_maybeEvaluate (hP : ∀ e, P e) (m : PairMonitor) :
    LeavesBooks P m.maybeEvaluate s := by
  refine does_state_bind ?_
  split
  · exact does_underLock (fun e _ => hP e) _ fun _ => m.does_evaluateOnce hP
  · trivial

theorem PairMonitor.does_onBuySnapshot (hP : ∀ e, P e) (m : PairMonitor)
    (snapshot : OrderBookSnapshot) :
    (m.onBuySnapshot snapshot).Does SameServer P Call.FromCache s := by
  refine does_bind (does_setSnapshot ..) fun _ s => does_state_bind (does_lift_bind fun _ _ => ?_)
  refine does_modify_bind ⟨rfl, rfl⟩ (does_report_bind (hP _) ?_)
  refine does_state_bind (does_lift_bind fun _ _ => ?_)
  refine does_modify_bind ⟨rfl, rfl⟩ (does_report_bind (hP _) ?_)
  exact (m.does_maybeEvaluate hP).mono (fun _ _ h => h.toSameServer) fun _ h => h

end

end BimodalArbitrage.Marketdata

/-! ### The tasks -/

namespace BimodalArbitrage.Runtime
open Coop Execution Marketdata Api Coro

section
variable {host : Host} {config : RunnerConfig} {P : Event → Prop} {s : AppState}

theorem does_runForever (config : RunnerConfig) : LeavesBooks P (runForever config) s := by
  refine does_modify_bind ⟨⟨rfl, rfl⟩, rfl, rfl⟩ ?_
  split
  · trivial
  split
  · trivial
  refine does_call_bind trivial fun user s => does_modify_bind ⟨⟨rfl, rfl⟩, rfl, rfl⟩ ?_
  refine does_call_bind trivial fun results s => does_modify (sameBooks_foldl ?_ _ _)
  intro s exit
  unfold recordExit
  split <;> exact ⟨⟨rfl, rfl⟩, rfl, rfl⟩

theorem does_runMonitor (hP : ∀ e : Event, e.usesBook = false → P e) (m : MonitorId)
    (label : String) (failure : Option PyError) :
    LeavesBooks P (runMonitor m label failure) s := by
  cases failure with
  | some e => exact does_modify_bind (sameBooks_onMonitor ..) trivial
  | none =>
    have hstart : SameBooks s (startFeeds m s) :=
      (sameBooks_onMonitor ..).trans (sameBooks_foldl (fun s f => sameBooks_setFeed f _ s) ..)
    refine does_modify_bind hstart (does_bind (does_catching (does_call trivial) fun e s => ?_)
      fun _ s => does_modify (sameBooks_onMonitor ..))
    exact does_modify_bind ⟨⟨rfl, rfl⟩, rfl, rfl⟩ (does_report_bind (hP _ rfl)
      (does_modify_bind (sameBooks_onMonitor ..) trivial))

theorem does_fetchFails (f : Feed) (e : PyError) : LeavesBooks P (fetchFails f e) s :=
  does_modify_bind ((sameBooks_setFeed ..).trans (sameBooks_onMonitor ..)) trivial

theorem does_intent (hP : ∀ e : Event, e.usesBook = false → P e) (request : TradeSignalRequest)
    (userId : String) : LeavesBooks P (processArbitrageIntent request userId) s := by
  unfold processArbitrageIntent
  split
  · trivial
  refine does_call_bind trivial fun signal s => does_report_bind (hP _ rfl) ?_
  split
  · trivial
  refine does_report_bind (hP _ rfl) (does_bind (does_attempt (does_call trivial)) ?_)
  intro result s
  cases result <;> trivial

theorem does_deliver {T : AppState → AppState → Prop} (hT : ∀ s s', SameBooks s s' → T s s')
    (f : Feed) (snapshot : OrderBookSnapshot)
    (hcallback : ∀ s, (callback host config f snapshot).Does T P Call.FromCache s) :
    (deliver host config f snapshot).Does T P Call.FromCache s := by
  refine does_modify_bind (hT _ _ (sameBooks_setFeed ..)) (does_bind ?_ fun _ s => ?_)
  · refine does_catching (hcallback _) fun e s => ?_
    have hfailed : SameBooks s (failFeed f e s) :=
      (sameBooks_setFeed ..).trans (sameBooks_onMonitor ..)
    exact does_modify_bind (hT _ _ hfailed) trivial
  · exact does_modify (hT _ _ (sameBooks_setFeed ..))

theorem does_callback (hP : ∀ e : Event, e.usesBook = false → P e) {f : Feed}
    (hf : ∀ k, f ≠ .buy k) (snapshot : OrderBookSnapshot) :
    LeavesBooks P (callback host config f snapshot) s := by
  cases f with
  | buy k => exact absurd rfl (hf k)
  | sell k =>
    simp only [callback]
    split
    · exact does_setSnapshot snapshot
    · trivial
  | leg k market =>
    simp only [callback]
    split
    · exact TriangleMonitor.does_onSnapshot hP ..
    · trivial

theorem process_confined :
    Confined (processRules host config) SameServer (fun _ => True) Call.FromCache where
  refl _ := ⟨rfl, rfl⟩
  trans _ _ _ h h' := h.trans h'
  starts s i x c hstart := by
    have hserver : ∀ {x : Proc Unit}, LeavesBooks (fun _ => True) x s →
        x.Does SameServer (fun _ => True) Call.FromCache s :=
      fun h => h.mono (fun _ _ h => h.toSameServer) fun _ h => h
    have hP : ∀ e : Event, e.usesBook = false → True := fun _ _ => trivial
    cases started_of_startTask hstart with
    | launch => exact hserver (does_runForever config)
    | boot m label failure => exact hserver (does_runMonitor hP m label failure)
    | delivered f =>
      refine does_deliver (fun _ _ h => h.toSameServer) f _ fun s => ?_
      by_cases hf : ∃ k, f = .buy k
      · obtain ⟨k, rfl⟩ := hf
        simp only [callback]
        split
        · exact PairMonitor.does_onBuySnapshot (fun _ => trivial) ..
        · trivial
      · exact (does_callback hP (fun k hk => hf ⟨k, hk⟩) _).mono
          (fun _ _ h => h.toSameServer) fun _ h => h
    | fetchFailed f e => exact hserver (does_fetchFails f e)
    | intent n request userId =>
      exact hserver (does_bind (does_intent hP request userId) fun _ _ => trivial)
    | dashboard n x f => exact does_modify ⟨rfl, rfl⟩

end
end BimodalArbitrage.Runtime
