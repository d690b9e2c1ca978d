import BimodalArbitrage.Config
import BimodalArbitrage.Coop.Coro
import BimodalArbitrage.Marketdata.Features
import BimodalArbitrage.Marketdata.OrderbookCache
import BimodalArbitrage.Ml.Signal
import BimodalArbitrage.Runtime.Trace

/-!
# The state the tasks of the process share

`STATE` of `backend/runtime_state.py`, the attributes of the monitors and of their
feeds, and the Redis server with its clock.
-/

namespace BimodalArbitrage.Runtime
open Coop Execution Marketdata Ml Api

/-- An entry of the signal history; `id` counts the records instead of a uuid. -/
structure SignalRecord (N : Type := ℚ) where
  id : ℕ
  timestamp : ℚ
  symbol : String
  exchangeBuy : String
  exchangeSell : String
  netAlphaBps : N
  executionProbability : N
  adverseHazard : N
  approved : Bool
  reason : String
  executionStatus : Option String
  realizedPnlUsd : Option N

/-- `run` of a monitor. -/
inductive RunStatus where
  | created
  | running
  | ended (result : Except PyError Unit)

/-- `MarketDataFeed.run`: in `_fetch_one`, in the callback, or over. -/
inductive FeedStatus where
  | created
  | fetching
  | delivering
  | failed
  deriving DecidableEq

/-- What both kinds of monitor keep. `evaluating` is the lock, with the feed whose
callback holds it; `failure` is the first exception of the gathered feeds. -/
structure MonitorState (N : Type := ℚ) where
  evaluating : Option Feed
  heuristic : HeuristicSignalEstimator N
  dailyNotionalUsedUsd : N
  run : RunStatus
  failure : Option PyError

section
variable {N : Type}

def MonitorState.initial [PyFloat N] : MonitorState N := ⟨none, .initial, 0, .created, none⟩

structure AppState (N : Type := ℚ) where
  now : ℚ
  killSwitch : KillSwitch
  signalHistory : List (SignalRecord N)
  nextSignal : ℕ
  errors : List String
  monitoredPairs : List String
  localUserId : Option String
  launched : Bool
  bootstrapped : Bool
  redis : String → Option (SnapshotPayload N × ℚ)
  monitors : MonitorId → MonitorState N
  temporalWindow : ℕ → TemporalFeatureWindow N
  depthBuilder : ℕ → DepthMatrixBuilder N
  prevTargetQuoteMid : ℕ → Option N
  feeds : Feed → FeedStatus

namespace AppState

def historySize : ℕ := 300
def errorsSize : ℕ := 50

def initial [PyFloat N] : AppState N where
  now := 0
  killSwitch := ⟨false⟩
  signalHistory := []
  nextSignal := 0
  errors := []
  monitoredPairs := []
  localUserId := none
  launched := false
  bootstrapped := false
  redis _ := none
  monitors _ := .initial
  temporalWindow _ := .initial
  depthBuilder _ := .initial
  prevTargetQuoteMid _ := none
  feeds _ := .created

def onMonitor (m : MonitorId) (f : MonitorState N → MonitorState N) (s : AppState N) :
    AppState N :=
  { s with monitors := Function.update s.monitors m (f (s.monitors m)) }

theorem onMonitor_self (m : MonitorId) (f : MonitorState N → MonitorState N) (s : AppState N) :
    (s.onMonitor m f).monitors m = f (s.monitors m) := Function.update_self ..

theorem onMonitor_of_ne {m m' : MonitorId} (h : m' ≠ m)
    (f : MonitorState N → MonitorState N) (s : AppState N) :
    (s.onMonitor m f).monitors m' = s.monitors m' := Function.update_of_ne h ..

theorem onMonitor_apply (m : MonitorId) (f : MonitorState N → MonitorState N) (s : AppState N)
    (m' : MonitorId) : (s.onMonitor m f).monitors m' =
      if m' = m then f (s.monitors m') else s.monitors m' := by
  by_cases h : m' = m
  · rw [if_pos h, h, onMonitor_self]
  · rw [if_neg h, onMonitor_of_ne h]

def setFeed (f : Feed) (status : FeedStatus) (s : AppState N) : AppState N :=
  { s with feeds := Function.update s.feeds f status }

/-- `record_signal`: the new record and its id. -/
def recordSignal [PyFloat N] (symbol exchangeBuy exchangeSell : String) (call : GateCall N)
    (s : AppState N) : AppState N :=
  let record : SignalRecord N :=
    { id := s.nextSignal
      timestamp := s.now
      symbol := symbol
      exchangeBuy := exchangeBuy
      exchangeSell := exchangeSell
      netAlphaBps := call.netAlphaBps
      executionProbability := call.signal.executionProbability
      adverseHazard := call.signal.adverseHazard
      approved := call.verdict.1
      reason := call.verdict.2
      executionStatus := none
      realizedPnlUsd := none }
  { s with
    signalHistory := pushBounded historySize s.signalHistory record
    nextSignal := s.nextSignal + 1 }

/-- The outcome of a trade is written into its record, wherever that is kept. -/
def recordOutcome (id : ℕ) (result : TradeExecutionResult N) (s : AppState N) : AppState N :=
  { s with signalHistory := s.signalHistory.map fun r =>
      if r.id = id then { r with
        executionStatus := some result.status.value
        realizedPnlUsd := some result.realizedPnlUsd }
      else r }

/-- `record_error`; the wall-clock prefix of the message is left out. -/
def recordError (message : String) (s : AppState N) : AppState N :=
  { s with errors := pushBounded errorsSize s.errors message }

/-- Redis drops a key when its time is over. -/
def redisLookup (key : String) (s : AppState N) : Option (SnapshotPayload N) :=
  (s.redis key).bind fun entry => if s.now < entry.2 then some entry.1 else none

def redisStore (key : String) (value : SnapshotPayload N) (ex : ℕ) (s : AppState N) :
    AppState N :=
  { s with redis := Function.update s.redis key (some (value, s.now + ex)) }

end AppState

inductive Call (N : Type := ℚ) [PyFloat N] where
  | redisGet (key : String)
  | redisSet (key : String) (value : SnapshotPayload N) (ex : ℕ)
  | sampleLog (pair : PairConfig) (temporal : TemporalFeatures N) (depth : DepthMatrix N)
      (netAlphaBps : N)
  | recordExecution (result : TradeExecutionResult N)
  | getOrCreateUser
  | lockReleased (m : MonitorId)
  | gatherFeeds (m : MonitorId)
  | gatherMonitors
  | evaluateSpread
  | dispatchOrders (request : TradeSignalRequest N) (signal : ArbitrageSignal N)

variable [PyFloat N]

@[reducible] def Call.Reply : Call N → Type
  | .redisGet _ => Option (SnapshotPayload N)
  | .redisSet .. => Unit
  | .sampleLog .. => Unit
  | .recordExecution _ => Unit
  | .getOrCreateUser => String
  | .lockReleased _ => Unit
  | .gatherFeeds _ => Unit
  | .gatherMonitors => List (Except PyError Unit)
  | .evaluateSpread => ArbitrageSignal N
  | .dispatchOrders .. => TradeExecutionResult N

abbrev Proc (α : Type) (N : Type := ℚ) [PyFloat N] :=
  Coro (AppState N) (Event N) (Call N) Call.Reply PyError α

/-- The server carries a command out first; its answer then wakes the task. -/
def redis : RedisClient (AppState N) (Event N) (Call N) Call.Reply N where
  get key := do
    let raw ← Coro.call (Call.redisGet key)
    Coro.yield
    pure raw
  set key value ex := do
    Coro.call (Call.redisSet key value ex)
    Coro.yield

/-- `OrderBookCache.from_url(config.redis_url)`. -/
def cache : OrderBookCache (AppState N) (Event N) (Call N) Call.Reply N :=
  ⟨redis, defaultTtlSeconds⟩

end

end BimodalArbitrage.Runtime
