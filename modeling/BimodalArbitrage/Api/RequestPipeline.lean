import BimodalArbitrage.Api.Auth
import BimodalArbitrage.Api.RateLimit
import BimodalArbitrage.Coop.Embed
import BimodalArbitrage.Runtime.Process

/-!
# From the bearer token to the order

The dependencies of `process_arbitrage_intent` run in worker threads, one after the other,
and the endpoint itself on the event loop. Between any two of these steps the other
requests may run.
-/

namespace BimodalArbitrage.Api
open Coop Execution BimodalArbitrage.Runtime

/-- `time` is the wall clock, which may be set; `app` is what the rest of the process
works on. -/
structure GatewayState where
  limiter : LimiterState
  time : ℚ
  app : AppState

inductive GatewayEvent where
  | received
  | authenticated (token userId : String)
  | answered (a : Answer)
  | handler (e : Event)
  | responded (response : Except HTTPException TradeSignalResponse)

abbrev GatewayProc (α : Type) := Coro GatewayState GatewayEvent Call Call.Reply PyError α

def limiterPart : Embedding LimiterState GatewayState Answer GatewayEvent
    (fun _ : Empty => Unit) (Call.Reply (N := ℚ)) where
  get s := s.limiter
  set limiter s := { s with limiter := limiter }
  event := .answered
  call c := c.elim
  reply c := c.elim

def handlerPart : Embedding AppState GatewayState Event GatewayEvent (Call.Reply (N := ℚ))
    (Call.Reply (N := ℚ)) where
  get s := s.app
  set app s := { s with app := app }
  event := .handler
  call c := c
  reply _ r := r

/-- `bearerRefusal` is what `HTTPBearer` raises for a request without a bearer token. -/
structure Gateway where
  jwt : Jwt
  jwtSecret : Option String
  limiter : TokenBucketRateLimiter
  bearerRefusal : HTTPException

namespace Gateway

def rateLimited : HTTPException := ⟨429, "Rate limit exceeded"⟩

def rateLimitDependency (g : Gateway) (userId : String) :
    GatewayProc (Except HTTPException String) := do
  let granted ← (g.limiter.allow userId).embed limiterPart
  pure (if granted then .ok userId else .error rateLimited)

def handle (g : Gateway) (credentials : Option String) (request : TradeSignalRequest) :
    GatewayProc (Except HTTPException TradeSignalResponse) :=
  match credentials with
  | none => pure (.error g.bearerRefusal)
  | some token => do
    Coro.yield
    let s ← Coro.state
    match getCurrentUserId g.jwt g.jwtSecret token s.time with
    | .error e => pure (.error e)
    | .ok userId => do
      Coro.report (.authenticated token userId)
      Coro.yield
      let admitted ← g.rateLimitDependency userId
      match admitted with
      | .error e => pure (.error e)
      | .ok userId => do
        Coro.yield
        let response ← (processArbitrageIntent request userId).embed handlerPart
        pure (.ok response)

def serve (g : Gateway) (credentials : Option String) (request : TradeSignalRequest) :
    GatewayProc Unit := do
  Coro.report .received
  let response ← g.handle credentials request
  Coro.report (.responded response)

end Gateway

inductive GatewayInput where
  | http (credentials : Option String) (request : TradeSignalRequest)
  | world (x : Input)
  | tick (seconds : ℚ)
  | wall (time : ℚ)
  | process (app : AppState)

/-- Requests come at any time; the model and the exchanges answer as in the process. -/
def gatewayRules (g : Gateway) (config : RunnerConfig) :
    Rules ℕ GatewayState GatewayEvent Call Call.Reply PyError GatewayInput where
  start _ _ x := match x with
    | .http credentials request => some (g.serve credentials request)
    | _ => none
  answer s c x := match x with
    | .world x => (answerCall config s.app c x).map fun a => (a.1, { s with app := a.2 })
    | _ => none
  drift s x := match x with
    | .tick seconds =>
      if 0 ≤ seconds then
        some { s with limiter := { s.limiter with clock := s.limiter.clock + seconds } }
      else none
    | .wall time => some { s with time := time }
    | .process app => some { s with app := app }
    | _ => none

def GatewayState.initial (clock time : ℚ) : GatewayState := ⟨⟨clock, fun _ => none⟩, time, .initial⟩

abbrev GatewayLoop := Loop ℕ GatewayState GatewayEvent Call Call.Reply PyError

abbrev GatewayLog := List (Entry ℕ GatewayState GatewayEvent)

/-! ### What a request may do next -/

inductive RequestStage where
  | unknown
  | known (userId : String)
  | refused
  | granted (a : Answer)
  | decided (a : Answer) (approved : Bool)
  | dispatching
  deriving DecidableEq

/-- The order of a request's events: its user is known from its token, admitted by the
limiter and named in its body, before the gate is asked for it. -/
def RequestStage.next (g : Gateway) (st : RequestStage) (e : Entry ℕ GatewayState GatewayEvent) :
    Option RequestStage :=
  match st, e.event with
  | _, .received => some .unknown
  | .unknown, .authenticated token userId =>
    if getCurrentUserId g.jwt g.jwtSecret token e.state.time = .ok userId
    then some (.known userId) else none
  | .unknown, .responded (.error _) => some .unknown
  | .known userId, .answered a =>
    if a.key = userId then some (if a.granted then .granted a else .refused) else none
  | .refused, .responded (.error e) => if e = Gateway.rateLimited then some .unknown else none
  | .granted _, .responded (.ok response) =>
    if response = userMismatch then some .unknown else none
  | .granted a, .handler (.shouldExecute (.intent request) call) =>
    if request.userId = a.key then some (.decided a call.verdict.1) else none
  | .decided _ false, .responded (.ok response) =>
    if response.status = "SIGNAL_REJECTED" then some .unknown else none
  | .decided a true, .handler (.dispatchOrders request _) =>
    if request.userId = a.key then some .dispatching else none
  | .dispatching, .responded (.ok _) => some .unknown
  | _, _ => none

/-- `none` once an event of the request was out of turn. -/
def stageAfter (g : Gateway) (i : ℕ) (log : GatewayLog) : Option RequestStage :=
  log.foldl (fun st e => if e.task = i then st.bind (·.next g e) else st) (some .unknown)

end BimodalArbitrage.Api
