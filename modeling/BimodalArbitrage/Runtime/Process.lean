import BimodalArbitrage.Api.Gateway
import BimodalArbitrage.Coop.Loop
import BimodalArbitrage.Marketdata.Runner

/-!
# The whole process

One event loop runs the gateway, the dashboard and `run_forever` with its monitors
and their feeds. An input says what the world outside does: which book or failure a
feed gets, which request comes in, how a server answers, how time goes on.
-/

namespace BimodalArbitrage.Runtime
open Coop Execution Marketdata Api
variable {N : Type} [PyFloat N]

inductive Input (N : Type := ℚ) [PyFloat N] where
  | launch
  | boot (failure : Option PyError)
  | delivered (timestamp : N) (bids asks : List (OrderBookLevel N))
  | fetchFailed (e : PyError)
  | intent (request : TradeSignalRequest N) (userId : String)
  | engage
  | disengage
  | replied
  | failed (e : PyError)
  | user (id : String)
  | signal (s : ArbitrageSignal N)
  | tick (seconds : ℚ)

/-! ### Feeds -/

def feedSource (config : RunnerConfig N) : Feed → Option (String × String)
  | .buy k => config.monitoredPairs[k]?.map fun pair => (pair.exchangeBuy, pair.symbol)
  | .sell k => config.monitoredPairs[k]?.map fun pair => (pair.exchangeSell, pair.symbol)
  | .leg k market => config.monitoredTriangles[k]?.map fun t => (t.exchange, t.symbolOf market)

def callback (host : Host N) (config : RunnerConfig N) : Feed → OrderBookSnapshot N → Proc Unit N
  | .buy k, snapshot => match config.monitoredPairs[k]? with
    | some pair => (PairMonitor.mk host config k pair).onBuySnapshot snapshot
    | none => pure ()
  | .sell k, snapshot => match config.monitoredPairs[k]? with
    | some pair => (PairMonitor.mk host config k pair).onSellSnapshot snapshot
    | none => pure ()
  | .leg k market, snapshot => match config.monitoredTriangles[k]? with
    | some triangle => (TriangleMonitor.mk host config k triangle).onSnapshot market snapshot
    | none => pure ()

/-- An exception ends the feed; the gather it is part of keeps the first one. -/
def failFeed (f : Feed) (e : PyError) (s : AppState N) : AppState N :=
  (s.setFeed f .failed).onMonitor f.monitor fun st => { st with failure := st.failure.or (some e) }

/-- One round of `MarketDataFeed.run`; `stop` is never called. -/
def deliver (host : Host N) (config : RunnerConfig N) (f : Feed)
    (snapshot : OrderBookSnapshot N) : Proc Unit N := do
  Coro.modify (AppState.setFeed f .delivering)
  (callback host config f snapshot).catching fun e => do
    Coro.modify (failFeed f e)
    .throw e
  Coro.modify (AppState.setFeed f .fetching)

def fetchFails (f : Feed) (e : PyError) : Proc Unit N := do
  Coro.modify (failFeed f e)
  .throw e

/-! ### Monitors -/

def MonitorId.feeds : MonitorId → List Feed
  | .pair k => [.buy k, .sell k]
  | .triangle k => [.leg k .bridgeQuote, .leg k .targetBridge, .leg k .targetQuote]

def MonitorId.label (config : RunnerConfig N) : MonitorId → Option String
  | .pair k => config.monitoredPairs[k]?.map PairConfig.symbol
  | .triangle k => config.monitoredTriangles[k]?.map TriangleConfig.label

def endRun (m : MonitorId) (result : Except PyError Unit) : AppState N → AppState N :=
  AppState.onMonitor m fun st => { st with run := .ended result }

/-- The feeds of a monitor are tasks from here on. -/
def startFeeds (m : MonitorId) (s : AppState N) : AppState N :=
  m.feeds.foldl (fun s f => s.setFeed f .fetching)
    (s.onMonitor m fun st => { st with run := .running })

/-- `run` of either monitor; `failure` is what building its feeds may raise. -/
def runMonitor (m : MonitorId) (label : String) (failure : Option PyError) : Proc Unit N :=
  match failure with
  | some e => do
    Coro.modify (endRun m (.error e))
    .throw e
  | none => do
    Coro.modify (startFeeds m)
    (Coro.call (Call.gatherFeeds m)).catching fun e => do
      Coro.modify (AppState.recordError (label ++ " monitor crashed: " ++ e.repr))
      Coro.report (.runRaised m)
      Coro.modify (endRun m (.error e))
      .throw e
    Coro.modify (endRun m (.ok ()))

def allMonitors (config : RunnerConfig N) : List MonitorId :=
  (List.range config.monitoredPairs.length).map .pair ++
    (List.range config.monitoredTriangles.length).map .triangle

def allLabels (config : RunnerConfig N) : List String :=
  config.monitoredPairs.map PairConfig.symbol ++ config.monitoredTriangles.map TriangleConfig.label

def recordExit (s : AppState N) (exit : String × Except PyError Unit) : AppState N :=
  match exit.2 with
  | .ok _ => s
  | .error e => s.recordError (exit.1 ++ " monitor exited: " ++ e.repr)

def runForever (config : RunnerConfig N) : Proc Unit N := do
  Coro.modify fun s => { s with launched := true }
  if !config.enabled then pure ()
  else if config.monitoredPairs.isEmpty && config.monitoredTriangles.isEmpty then pure ()
  else do
    let user ← Coro.call Call.getOrCreateUser
    Coro.modify fun s => { s with
      localUserId := some user
      monitoredPairs := allLabels config
      bootstrapped := true }
    let results ← Coro.call Call.gatherMonitors
    Coro.modify fun s => ((allLabels config).zip results).foldl recordExit s

/-! ### The rules -/

def runResult (st : MonitorState N) : Option (Except PyError Unit) :=
  match st.run with
  | .ended result => some result
  | _ => none

def startTask (host : Host N) (config : RunnerConfig N) (s : AppState N) : TaskId →
    Input N → Option (Proc Unit N)
  | .runForever, .launch => if s.launched then none else some (runForever config)
  | .run m, .boot failure => match (s.monitors m).run, m.label config with
    | .created, some label => if s.bootstrapped then some (runMonitor m label failure) else none
    | _, _ => none
  | .feed f, .delivered timestamp bids asks => match s.feeds f, feedSource config f with
    | .fetching, some source =>
      some (deliver host config f ⟨source.1, source.2, timestamp, bids, asks⟩)
    | _, _ => none
  | .feed f, .fetchFailed e => if s.feeds f = .fetching then some (fetchFails f e) else none
  | .request _, .intent request userId => some do
    let _ ← processArbitrageIntent request userId
    pure ()
  | .dashboard _, .engage =>
    some (Coro.modify fun s => { s with killSwitch := s.killSwitch.engage })
  | .dashboard _, .disengage =>
    some (Coro.modify fun s => { s with killSwitch := s.killSwitch.disengage })
  | _, _ => none

def answerCall (config : RunnerConfig N) (s : AppState N) : (c : Call N) →
    Input N → Option (Except PyError c.Reply × AppState N)
  | .redisGet key, .replied => some (.ok (s.redisLookup key), s)
  | .redisSet key value ex, .replied => some (.ok (), s.redisStore key value ex)
  | .sampleLog .., .replied => some (.ok (), s)
  | .recordExecution _, .replied => some (.ok (), s)
  | .getOrCreateUser, .user id => some (.ok id, s)
  | .evaluateSpread, .signal signal => some (.ok signal, s)
  | .lockReleased m, .replied =>
    if (s.monitors m).evaluating.isSome then none else some (.ok (), s)
  | .gatherFeeds m, .replied => (s.monitors m).failure.map fun e => (.error e, s)
  | .gatherMonitors, .replied =>
    ((allMonitors config).mapM fun m => runResult (s.monitors m)).map
      fun results => (.ok results, s)
  | .dispatchOrders request signal, .replied => some (dispatchOrders request signal, s)
  | .redisGet _, .failed e => some (.error e, s)
  | .redisSet .., .failed e => some (.error e, s)
  | .sampleLog .., .failed e => some (.error e, s)
  | .recordExecution _, .failed e => some (.error e, s)
  | .getOrCreateUser, .failed e => some (.error e, s)
  | .evaluateSpread, .failed e => some (.error e, s)
  | _, _ => none

def processRules (host : Host N) (config : RunnerConfig N) :
    Rules TaskId (AppState N) (Event N) (Call N) Call.Reply PyError (Input N) where
  start := startTask host config
  answer := answerCall config
  drift s x := match x with
    | .tick seconds => if 0 ≤ seconds then some { s with now := s.now + seconds } else none
    | _ => none

abbrev ProcessLoop (N : Type := ℚ) [PyFloat N] :=
  Loop TaskId (AppState N) (Event N) (Call N) Call.Reply PyError

def runProcess (host : Host N) (config : RunnerConfig N) (chs : List (Choice TaskId (Input N))) :
    Option (ProcessLoop N) :=
  run (processRules host config) (Loop.quiet .initial) chs

/-! ### Schedules of triangles -/

def bareHost : Host N := ⟨id, fun _ => none, fun _ => .error (valueError "not a float")⟩

def triangleConfig (triangles : List TriangleConfig) : RunnerConfig N :=
  ⟨[], triangles, 50, 0, true, false⟩

def startTriangles (n : ℕ) : List (Choice TaskId (Input N)) :=
  [.start .runForever .launch, .reply .runForever (.user "u")] ++
    (List.range n).map fun k => .start (.run (.triangle k)) (.boot none)

def deliverLevel (k : ℕ) (market : TriangleMarket) (price : N) :
    List (Choice TaskId (Input N)) :=
  [.start (.feed (.leg k market)) (.delivered 0 [⟨price, 1000⟩] [⟨price, 1000⟩]),
    .reply (.feed (.leg k market)) .replied, .turn (.feed (.leg k market))]

def readBooks (k : ℕ) (market : TriangleMarket) : List (Choice TaskId (Input N)) :=
  (List.replicate 3
    [.reply (.feed (.leg k market)) .replied, .turn (.feed (.leg k market))]).flatten

def fillLegs (k : ℕ) (market : TriangleMarket) : List (Choice TaskId Input) :=
  List.replicate 4 (.turn (.feed (.leg k market))) ++ [.reply (.feed (.leg k market)) .replied]

def twoTriangles : RunnerConfig :=
  triangleConfig [⟨"alpha", "USDT", "BTC", "ETH"⟩, ⟨"alpha", "USDT", "BTC", "SOL"⟩]

def firstTrade (k : ℕ) : List (Choice TaskId Input) :=
  deliverLevel k .bridgeQuote 10 ++ deliverLevel k .targetBridge (1 / 10) ++
    deliverLevel k .targetQuote 2 ++ readBooks k .bridgeQuote ++ fillLegs k .bridgeQuote

def nextTrade (k : ℕ) : List (Choice TaskId Input) :=
  deliverLevel k .bridgeQuote 10 ++ readBooks k .bridgeQuote ++ fillLegs k .bridgeQuote

end BimodalArbitrage.Runtime
