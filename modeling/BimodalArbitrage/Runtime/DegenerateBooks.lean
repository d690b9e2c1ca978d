import BimodalArbitrage.Marketdata.EvaluationErrors
import BimodalArbitrage.Runtime.OneBook

/-!
# Books that stop a monitor

An exception out of a callback ends the feed for good. These are the books that raise one:
in the temporal window, and in an evaluation before it comes to the gate.
-/

namespace BimodalArbitrage.Runtime
open Coop Execution Ml Marketdata

/-! ### The temporal window -/

/-- The window takes a stream to its end just where every touch it sees has a volume. -/
theorem window_survives_iff (quantity : ℚ) (snapshots : List OrderBookSnapshot) :
    (∃ w, (TemporalFeatureWindow.create quantity).feed snapshots = .ok w) ↔
      ∀ snapshot ∈ snapshots, ∀ bestBid ∈ snapshot.bids.head?, ∀ bestAsk ∈ snapshot.asks.head?,
        0 < bestBid.volume + bestAsk.volume := by
  constructor
  · rintro ⟨w, hw⟩ snapshot hsnapshot bestBid hbid bestAsk hask
    have hbook : TwoSidedBook.ofSnapshot snapshot =
        some ⟨snapshot, bestBid, bestAsk, hbid, hask⟩ :=
      TwoSidedBook.ofSnapshot_eq_some.mpr rfl
    exact TemporalFeatureWindow.weighed_of_feed hw _
      (List.mem_filterMap.mpr ⟨snapshot, hsnapshot, hbook⟩)
  · intro hweighed
    refine ⟨_, TemporalFeatureWindow.feed_of_weighed quantity fun b hb => ?_⟩
    obtain ⟨snapshot, hsnapshot, hbook⟩ := List.mem_filterMap.mp hb
    have hsame := TwoSidedBook.ofSnapshot_eq_some.mp hbook
    rw [← hsame] at hsnapshot
    exact hweighed _ hsnapshot _ b.bids_head _ b.asks_head

def weightless : OrderBookSnapshot := ⟨"alpha", "BTC/USDT", 0, [⟨10, 0⟩], [⟨11, 0⟩, ⟨12, 5⟩]⟩

def startPair : List (Choice TaskId Input) :=
  [.start .runForever .launch, .reply .runForever (.user "u"), .start (.run (.pair 0)) (.boot none)]

/-- Nothing at the touch of either side, and the buy feed is gone. -/
theorem window_survives_weightless :
    (∀ level ∈ weightless.bids ++ weightless.asks, 0 ≤ level.price ∧ 0 ≤ level.volume) ∧
      (∃ e, (TemporalFeatureWindow.create 1).feed [weightless] = .error e) ∧
      (runProcess bareHost onePair (startPair ++ deliverBuy weightless)).map
        (fun L => (L.world.state.feeds (.buy 0), (L.world.state.monitors (.pair 0)).failure)) =
          some (.failed,
            some (valueError "best_bid.volume + best_ask.volume must be positive")) := by
  refine ⟨by decide +kernel, ?_, by decide +kernel⟩
  cases hfeed : (TemporalFeatureWindow.create 1).feed [weightless] with
  | error e => exact ⟨e, rfl⟩
  | ok w => exact absurd (TemporalFeatureWindow.weighed_of_feed hfeed) (by decide +kernel)

/-! ### Evaluations -/

/-- Whatever the state and the answers are, an evaluation comes to the gate or gives up without
an exception of its own just where the books can be priced and the squares fit. -/
structure SurvivesPricedBooks (host : Host Binary64) (config : RunnerConfig Binary64) : Prop where
  pair : ∀ (env : Env (AppState Binary64) (Event Binary64) (Call Binary64) Call.Reply PyError)
    (s : AppState Binary64) (h : List (Obs (Event Binary64) (Call Binary64) Call.Reply PyError))
    (k : ℕ) (pair : PairConfig) (buySnapshot sellSnapshot : OrderBookSnapshot Binary64),
    ¬((PairMonitor.mk host config k pair).evaluateBooks buySnapshot
        sellSnapshot).BreaksBefore IsGate env s h ↔
      (PairMonitor.mk host config k pair).Evaluable env s h buySnapshot sellSnapshot
  triangle : ∀ (env : Env (AppState Binary64) (Event Binary64) (Call Binary64) Call.Reply PyError)
    (s : AppState Binary64) (h : List (Obs (Event Binary64) (Call Binary64) Call.Reply PyError))
    (k : ℕ) (triangle : TriangleConfig)
    (bridgeQuote targetBridge targetQuote : OrderBookSnapshot Binary64),
    ¬((TriangleMonitor.mk host config k triangle).evaluateBooks bridgeQuote targetBridge
        targetQuote).BreaksBefore IsGate env s h ↔
      (TriangleMonitor.mk host config k triangle).Evaluable s bridgeQuote targetBridge targetQuote

theorem evaluation_survives_iff (host : Host Binary64) (config : RunnerConfig Binary64) :
    SurvivesPricedBooks host config where
  pair _ _ _ _ _ _ _ := PairMonitor.evaluateBooks_survives_iff ..
  triangle _ _ _ _ _ _ _ _ := TriangleMonitor.evaluateBooks_survives_iff ..

def oneLevel (symbol : String) (price : Binary64) : OrderBookSnapshot Binary64 :=
  ⟨"alpha", symbol, 0, [⟨price, 1000⟩], [⟨price, 1000⟩]⟩

/-- Whatever is asked of the world fails. -/
def deadWorld : Env (AppState Binary64) (Event Binary64) (Call Binary64) Call.Reply PyError :=
  ⟨fun _ _ => .error ⟨.other, "unreachable"⟩, fun _ s => s⟩

def cycle : RunnerConfig Binary64 := triangleConfig [⟨"alpha", "USDT", "BTC", "ETH"⟩]

def cycleMonitor : TriangleMonitor Binary64 :=
  ⟨bareHost, cycle, 0, ⟨"alpha", "USDT", "BTC", "ETH"⟩⟩

/-- The target rises from next to nothing to 2 between two evaluations. -/
def riseCycle : List (Choice TaskId (Input Binary64)) :=
  startTriangles 1 ++ deliverLevel 0 .bridgeQuote 10 ++ deliverLevel 0 .targetBridge 0.1 ++
    deliverLevel 0 .targetQuote 1e-160 ++ readBooks 0 .bridgeQuote ++
      deliverLevel 0 .targetQuote 2 ++ readBooks 0 .targetQuote

/-- An ask for nothing: the cycle and the pair divide by it. A return of 2e160: its square is
out of range. The feed that brought it in is gone. -/
theorem evaluation_survives_zeroPrice :
    (cycleMonitor.evaluateBooks (oneLevel "BTC/USDT" 0) (oneLevel "ETH/BTC" 0.1)
      (oneLevel "ETH/USDT" 2)).BreaksBefore IsGate deadWorld .initial [] ∧
    (runProcess bareHost onePair (warmPair ++ deliverBuy (oneLevel "BTC/USDT" 0) ++ readPair)).map
      (fun L => (L.world.state.feeds (.buy 0), (L.world.state.monitors (.pair 0)).failure)) =
        some (.failed, some ⟨.zeroDivisionError, "float division by zero"⟩) ∧
    (runProcess bareHost cycle riseCycle).map
      (fun L => (L.world.state.feeds (.leg 0 .targetQuote),
        (L.world.state.monitors (.triangle 0)).failure)) =
          some (.failed, some Binary64.overflowError) := by
  refine ⟨?_, by decide +kernel, by decide +kernel⟩
  by_contra hsurvives
  have hpriced := TriangleMonitor.evaluateBooks_survives_iff _ _ _ |>.mp hsurvives _ rfl
  exact absurd hpriced.1.1 (by decide +kernel)

end BimodalArbitrage.Runtime
