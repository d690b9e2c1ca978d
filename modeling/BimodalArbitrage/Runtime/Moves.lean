import BimodalArbitrage.Runtime.Tasks

/-!
# Everything a callback moves

A relation that survives the few moves below survives every callback, whatever the
books are and wherever it is suspended.
-/

namespace BimodalArbitrage.Runtime
open Coop Execution Marketdata Ml Api Coro

/-- `T` survives every move of a callback. -/
structure Moves (T : AppState → AppState → Prop) : Prop where
  prepare : ∀ s s', Preparatory s s' → T s s'
  lock : ∀ f holder s, T s (setLock f holder s)
  heuristic : ∀ m h s, T s (s.onMonitor m fun st => { st with heuristic := h })
  signal : ∀ symbol exchangeBuy exchangeSell call s,
    T s (s.recordSignal symbol exchangeBuy exchangeSell call)
  outcome : ∀ record result s, T s (s.recordOutcome record result)
  daily : ∀ m x s, T s (s.onMonitor m fun st =>
    { st with dailyNotionalUsedUsd := st.dailyNotionalUsedUsd + x })

/-- An event a callback reports. -/
def Event.ofCallback : Event → Bool
  | .shouldExecute (.intent _) _ => false
  | .dispatchOrders .. => false
  | .runRaised _ => false
  | _ => true

section
variable {T : AppState → AppState → Prop} {P : Event → Prop}

theorem acts_ensuring {α : Type} {x : Proc α} {f : Proc Unit} {s : AppState} (hx : x.Acts T P s)
    (hf : ∀ s, f.Acts T P s) : (x.ensuring f).Acts T P s :=
  acts_bind (acts_attempt hx) fun _ s => acts_bind (hf s) fun _ _ => acts_lift _

theorem acts_updateHeuristic_bind (hT : Moves T) {host : Host} {m : MonitorId}
    {f : ArbitrageSignal ℚ → Proc Unit} (hf : ∀ signal s, (f signal).Acts T P s)
    (netAlphaBps midPriceReturn hazard : ℚ) (s : AppState) :
    ((updateHeuristic host m netAlphaBps midPriceReturn hazard).bind f).Acts T P s :=
  acts_bind (acts_state_bind (acts_lift_bind fun p _ =>
    acts_modify_bind (hT.heuristic m p.1 s) trivial)) hf

theorem acts_gate (hT : Moves T) (hP : ∀ e, e.ofCallback = true → P e) (m : MonitorId)
    (symbol exchangeBuy exchangeSell : String) (netAlphaBps : ℚ) (signal : ArbitrageSignal ℚ)
    (notional : ℚ) (s : AppState) :
    (gate m symbol exchangeBuy exchangeSell netAlphaBps signal notional).Acts T P s :=
  acts_state_bind (acts_report_bind (hP _ rfl) (acts_modify_bind (hT.signal ..) trivial))

theorem acts_bookResult (hT : Moves T) (hP : ∀ e, e.ofCallback = true → P e) (m : MonitorId)
    (record : ℕ) (result : TradeExecutionResult) (s : AppState) :
    (bookResult m record result).Acts T P s :=
  acts_modify_bind (hT.outcome ..) (acts_modify_bind (hT.daily ..)
    (acts_report_bind (hP _ rfl) (acts_call _)))

theorem acts_underLock (hT : Moves T) (hP : ∀ e, e.ofCallback = true → P e) (f : Feed)
    {evaluateOnce : Proc Unit} (hevaluate : ∀ s, evaluateOnce.Acts T P s) (s : AppState) :
    (underLock f evaluateOnce).Acts T P s := by
  have hacquire : ∀ s, (acquire f).Acts T P s := by
    intro s
    refine acts_state_bind ?_
    split
    · exact acts_report_bind (hP _ rfl) (acts_call_bind fun _ s => acts_modify (hT.lock ..))
    · exact acts_modify (hT.lock ..)
  refine acts_state_bind ?_
  split
  · trivial
  · exact acts_bind (hacquire s) fun _ s => acts_ensuring (hevaluate s) fun s =>
      acts_report_bind (hP _ rfl) (acts_modify (hT.lock ..))

namespace PairMonitor

theorem acts_gated (hT : Moves T) (hP : ∀ e, e.ofCallback = true → P e) (m : PairMonitor)
    (asks : List OrderBookLevel) (q : PairQuote) (signal : ArbitrageSignal ℚ) (netAlphaBps : ℚ)
    (s : AppState) : (m.gated asks q signal netAlphaBps).Acts T P s := by
  refine acts_bind (acts_gate hT hP ..) fun record s => ?_
  cases record with
  | none => trivial
  | some record =>
    simp only [PairMonitor.trade_eq]
    refine acts_lift_bind fun gross _ => acts_report_bind (hP _ rfl) ?_
    exact acts_bind (acts_pairFills (fun _ _ _ _ _ => hP _ rfl) _ s) fun _ s =>
      acts_bookResult hT hP _ _ _ s

theorem acts_evaluateOnce (hT : Moves T) (hP : ∀ e, e.ofCallback = true → P e) (m : PairMonitor)
    (s : AppState) : m.evaluateOnce.Acts T P s := by
  have hdecide : ∀ buySnapshot q temporal depth s,
      (m.decideOn buySnapshot q temporal depth).Acts T P s := by
    intro buySnapshot q temporal depth s
    refine acts_bind (m.acts_logSample temporal depth _ s) fun _ s => ?_
    refine acts_lift_bind fun hazard _ => acts_report_bind (hP _ rfl) ?_
    exact acts_updateHeuristic_bind hT (fun signal s => acts_gated hT hP m _ _ signal _ s) _ _ _ s
  have hbooks : ∀ buySnapshot sellSnapshot s,
      (m.evaluateBooks buySnapshot sellSnapshot).Acts T P s := by
    intro buySnapshot sellSnapshot s
    unfold PairMonitor.evaluateBooks
    split
    · refine acts_state_bind ?_
      split
      · refine acts_lift_bind fun q _ => ?_
        cases q with
        | none => trivial
        | some q => exact hdecide _ q _ _ s
      · trivial
    · trivial
  refine acts_report_bind (hP _ rfl) (acts_bind (m.acts_readBooks s) fun books s => ?_)
  obtain ⟨buy, sell⟩ := books
  cases buy <;> cases sell
  case some.some => exact hbooks _ _ s
  all_goals trivial

theorem acts_onBuySnapshot (hT : Moves T) (hP : ∀ e, e.ofCallback = true → P e) (m : PairMonitor)
    (snapshot : OrderBookSnapshot) (s : AppState) : (m.onBuySnapshot snapshot).Acts T P s := by
  refine acts_bind (acts_setSnapshot snapshot s) fun _ s => acts_state_bind ?_
  refine acts_lift_bind fun window _ => acts_modify_bind (hT.prepare _ _ rfl) ?_
  refine acts_report_bind (hP _ rfl) (acts_state_bind (acts_lift_bind fun builder _ => ?_))
  refine acts_modify_bind (hT.prepare _ _ rfl) (acts_report_bind (hP _ rfl) (acts_state_bind ?_))
  split
  · exact acts_underLock hT hP _ (acts_evaluateOnce hT hP m) _
  · trivial

end PairMonitor

namespace TriangleMonitor

theorem acts_gated (hT : Moves T) (hP : ∀ e, e.ofCallback = true → P e) (m : TriangleMonitor)
    (q : TriangleQuote) (signal : ArbitrageSignal ℚ) (netAlphaBps : ℚ) (s : AppState) :
    (m.gated q signal netAlphaBps).Acts T P s := by
  refine acts_bind (acts_gate hT hP ..) fun record s => ?_
  cases record with
  | none => trivial
  | some record =>
    simp only [TriangleMonitor.trade_eq]
    refine acts_report_bind (hP _ rfl) ?_
    exact acts_bind (acts_triangleFills (fun _ _ _ _ _ => hP _ rfl) (fun _ => hP _ rfl) _ s)
      fun _ s => acts_bookResult hT hP _ _ _ s

theorem acts_evaluateOnce (hT : Moves T) (hP : ∀ e, e.ofCallback = true → P e)
    (m : TriangleMonitor) (s : AppState) : m.evaluateOnce.Acts T P s := by
  have hdecide : ∀ books q s, (m.decideOn books q).Acts T P s := by
    intro books q s
    refine acts_state_bind (acts_lift_bind fun midPriceReturn _ => ?_)
    refine acts_modify_bind (hT.prepare _ _ rfl) ?_
    exact acts_updateHeuristic_bind hT (fun signal s => acts_gated hT hP m _ signal _ s) _ _ _ _
  refine acts_report_bind (hP _ rfl) (acts_bind (acts_getSnapshot _ _ s) fun bridgeQuote s => ?_)
  refine acts_bind (acts_getSnapshot _ _ s) fun targetBridge s => ?_
  refine acts_bind (acts_getSnapshot _ _ s) fun targetQuote s => ?_
  cases bridgeQuote <;> cases targetBridge <;> cases targetQuote
  case some.some.some bridgeQuote targetBridge targetQuote =>
    dsimp only
    cases TriangleBooks.ofSnapshots bridgeQuote targetBridge targetQuote with
    | none => trivial
    | some books =>
      refine acts_lift_bind fun q _ => ?_
      cases q with
      | none => trivial
      | some q => exact hdecide books q s
  all_goals trivial

end TriangleMonitor

/-- A callback stays within what its moves survive. -/
theorem acts_callback (hT : Moves T) (hP : ∀ e, e.ofCallback = true → P e) (host : Host)
    (config : RunnerConfig) (f : Feed) (snapshot : OrderBookSnapshot) (s : AppState) :
    (callback host config f snapshot).Acts T P s := by
  cases f with
  | buy k =>
    simp only [callback]
    split
    · exact PairMonitor.acts_onBuySnapshot hT hP _ snapshot s
    · trivial
  | sell k =>
    simp only [callback]
    split
    · exact acts_setSnapshot snapshot s
    · trivial
  | leg k market =>
    simp only [callback]
    split
    · exact acts_bind (acts_setSnapshot snapshot s) fun _ s =>
        acts_underLock hT hP _ (TriangleMonitor.acts_evaluateOnce hT hP _) s
    · trivial

end
end BimodalArbitrage.Runtime
