import BimodalArbitrage.Android.ArbitrageDtos
import BimodalArbitrage.Api.Gateway
import BimodalArbitrage.Coop.Play

/-!
# What the client makes of the gateway's answers
-/

namespace BimodalArbitrage.Android
open Coop Execution Api BimodalArbitrage.Runtime
variable {N : Type} [PyFloat N]

/-! ### The JSON of a response -/

/-- The encoder refuses the numbers JSON has none for. -/
def numberJson (x : N) : Option (Json N) := if PyFloat.isFinite x then some (.number x) else none

def textJson : Option String → Json N
  | none => .null
  | some s => .string s

def metricJson (metric : String × MetricValue N) : Option (String × Json N) :=
  match metric.2 with
  | .number x => (numberJson x).map fun j => (metric.1, j)
  | .status s => some (metric.1, .string s.value)

def responseJson (r : TradeSignalResponse N) : Option (Json N) := do
  let metrics ← r.metrics.mapM metricJson
  let allocatedCapital ← match r.allocatedCapital with
    | none => some .null
    | some x => numberJson x
  pure (.object [("status", .string r.status), ("reason", textJson r.reason),
    ("metrics", .object metrics), ("allocated_capital", allocatedCapital),
    ("target_pair", textJson r.targetPair)])

def dispatchedResults : List (Obs (Event N) (Call N) Call.Reply PyError) →
    List (TradeExecutionResult N)
  | [] => []
  | .reply (.dispatchOrders _ _) (.ok result) :: t => result :: dispatchedResults t
  | _ :: t => dispatchedResults t

/-- The client decodes the answer and shows the outcome the server had. -/
def ClientAgrees (requestSymbol : String)
    (out : Outcome (AppState N) (Event N) (Call N) Call.Reply PyError (TradeSignalResponse N)) :
    Prop :=
  ∀ response, out.result = .ok response →
    ∃ dto, (responseJson response).bind decodeResponse = some dto ∧
      ((dto.toDomain requestSymbol).status = .REJECTED ↔ response.status = "SIGNAL_REJECTED") ∧
      (response.status = "ORDER_DISPATCHED" → ∀ result ∈ dispatchedResults out.trace,
        (dto.toDomain requestSymbol).status = result.status ∧
        (dto.toDomain requestSymbol).realizedPnlUsd = result.realizedPnlUsd)

def approvedTrace (request : TradeSignalRequest N) (signal : ArbitrageSignal N) :
    List (Obs (Event N) (Call N) Call.Reply PyError) :=
  [.reply .evaluateSpread (.ok signal),
    .event (.shouldExecute (.intent request) (gateCall request signal)),
    .event (.dispatchOrders request signal)]

def Dispatched (env : Env (AppState N) (Event N) (Call N) Call.Reply PyError)
    (request : TradeSignalRequest N) (userId : String) : Prop :=
  request.userId = userId ∧ ∃ signal result,
    env.answer [] .evaluateSpread = .ok signal ∧ (gateCall request signal).verdict.1 = true ∧
    env.answer (approvedTrace request signal) (.dispatchOrders request signal) = .ok result

/-- JSON has all three numbers of the signal. -/
def Printable (signal : ArbitrageSignal N) : Prop :=
  PyFloat.isFinite signal.executionProbability = true ∧
    PyFloat.isFinite signal.expectedAlphaBps = true ∧ PyFloat.isFinite signal.adverseHazard = true

/-- The signal the request is evaluated to, if it is evaluated, can be printed. -/
def AnswersPrintable (env : Env (AppState N) (Event N) (Call N) Call.Reply PyError)
    (request : TradeSignalRequest N) (userId : String) : Prop :=
  request.userId = userId → ∀ signal, env.answer [] .evaluateSpread = .ok signal →
    Printable signal

/-! ### Rejections -/

/-- A rejection carries numbers only and no capital. -/
def Rejection (metrics : List (String × N)) (r : TradeSignalResponse N) : Prop :=
  r.status = "SIGNAL_REJECTED" ∧ r.allocatedCapital = none ∧
    r.metrics = metrics.map fun kv => (kv.1, .number kv.2)

theorem mapM_metricJson (metrics : List (String × N)) :
    (metrics.map fun kv => (kv.1, MetricValue.number kv.2)).mapM metricJson =
      if ∀ kv ∈ metrics, PyFloat.isFinite kv.2 = true
        then some (metrics.map fun kv => (kv.1, .number kv.2)) else none := by
  induction metrics with
  | nil => rfl
  | cons kv metrics ih =>
    have hall : (∀ field ∈ kv :: metrics, PyFloat.isFinite field.2 = true) ↔
        PyFloat.isFinite kv.2 = true ∧ ∀ field ∈ metrics, PyFloat.isFinite field.2 = true :=
      List.forall_mem_cons
    rw [List.map_cons, List.mapM_cons, ih]
    by_cases hkv : PyFloat.isFinite kv.2 = true
    · have hfirst : metricJson (kv.1, .number kv.2) = some (kv.1, .number kv.2) := by
        simp [metricJson, numberJson, hkv]
      rw [hfirst]
      by_cases hrest : ∀ kv ∈ metrics, PyFloat.isFinite kv.2 = true
      · rw [if_pos hrest, if_pos (hall.mpr ⟨hkv, hrest⟩)]
        rfl
      · rw [if_neg hrest, if_neg fun h => hrest (hall.mp h).2]
        rfl
    · have hfirst : metricJson (kv.1, .number kv.2) = none := by
        simp [metricJson, numberJson, hkv]
      rw [hfirst, if_neg fun h => hkv (hall.mp h).1]
      rfl

theorem mapM_mem {α β : Type} {f : α → Option β} {xs : List α} {ys : List β} {x : α}
    (h : xs.mapM f = some ys) (hx : x ∈ xs) : ∃ y ∈ ys, f x = some y := by
  induction xs generalizing ys with
  | nil => cases hx
  | cons x' xs ih =>
    rw [List.mapM_cons] at h
    obtain ⟨y', hy', h⟩ := Option.bind_eq_some_iff.mp h
    obtain ⟨rest, hrest, h⟩ := Option.bind_eq_some_iff.mp h
    cases h
    rcases List.mem_cons.mp hx with rfl | hx
    · exact ⟨y', List.mem_cons_self .., hy'⟩
    · obtain ⟨y, hy, hf⟩ := ih hrest hx
      exact ⟨y, List.mem_cons_of_mem _ hy, hf⟩

omit [PyFloat N] in
theorem decodeMetrics_numbers (metrics : List (String × N)) :
    decodeMetrics (.object (metrics.map fun kv => (kv.1, .number kv.2))) = some metrics := by
  simp only [decodeMetrics]
  induction metrics with
  | nil => rfl
  | cons kv metrics ih =>
    have hfield : decodeMetric (kv.1, .number kv.2) = some kv := rfl
    simp only [List.map_cons, List.mapM_cons, hfield, ih]
    rfl

omit [PyFloat N] in
theorem decodeNullable_text (x : Option String) :
    decodeNullable decodeString (textJson x : Json N) = some x := by
  cases x <;> rfl

/-- A rejection is decoded, as one without an execution, where its numbers can be printed. -/
theorem decode_rejection {metrics : List (String × N)} {r : TradeSignalResponse N}
    (h : Rejection metrics r) :
    (responseJson r).bind decodeResponse =
      if ∀ kv ∈ metrics, PyFloat.isFinite kv.2 = true
        then some ⟨r.status, r.reason, metrics, none, r.targetPair, none⟩ else none := by
  obtain ⟨-, hcapital, hmetrics⟩ := h
  rw [responseJson, hmetrics, mapM_metricJson, hcapital]
  split
  · have hm := decodeMetrics_numbers metrics
    simp [decodeResponse, required, optional, List.lookup_cons, decodeString, hm,
      decodeNullable_text]
    rfl
  · rfl

theorem decode_dispatched (request : TradeSignalRequest N) (signal : ArbitrageSignal N)
    (result : TradeExecutionResult N) :
    (responseJson (dispatched request signal result)).bind decodeResponse = none := by
  cases hjson : responseJson (dispatched request signal result) with
  | none => rfl
  | some json =>
    -- the status among the metrics is a string, which no map of numbers has
    obtain ⟨metrics, hmetrics, hjson⟩ := Option.bind_eq_some_iff.mp hjson
    obtain ⟨capital, -, hjson⟩ := Option.bind_eq_some_iff.mp hjson
    cases hjson
    have hmember : ("execution_status", .status result.status) ∈
        (dispatched request signal result).metrics := by simp [dispatched]
    obtain ⟨field, hfield, hstatus⟩ := mapM_mem hmetrics hmember
    cases hstatus
    have hnone : decodeMetrics (.object metrics) = none := by
      cases hdecoded : metrics.mapM decodeMetric with
      | none => exact hdecoded
      | some numbers =>
        obtain ⟨_, -, hnumber⟩ := mapM_mem hdecoded hfield
        cases hnumber
    simp [decodeResponse, required, optional, List.lookup_cons, decodeString, hnone,
      decodeNullable_text]

/-! ### A request from its arrival to the client -/

def handled (env : Env (AppState N) (Event N) (Call N) Call.Reply PyError)
    (request : TradeSignalRequest N) (userId : String) (s : AppState N) :
    Outcome (AppState N) (Event N) (Call N) Call.Reply PyError (TradeSignalResponse N) :=
  (processArbitrageIntent request userId).play env s []

def signalNumbers (signal : ArbitrageSignal N) : List (String × N) :=
  [("execution_probability", signal.executionProbability),
    ("expected_alpha_bps", signal.expectedAlphaBps), ("adverse_hazard", signal.adverseHazard)]

theorem rejection_rejected (request : TradeSignalRequest N) (reason : String)
    (signal : ArbitrageSignal N) :
    Rejection (signalNumbers signal) (rejected request reason (signalMetrics signal)) :=
  ⟨rfl, rfl, rfl⟩

theorem printable_iff (signal : ArbitrageSignal N) :
    (∀ kv ∈ signalNumbers signal, PyFloat.isFinite kv.2 = true) ↔ Printable signal := by
  simp [signalNumbers, Printable]

section
variable {env : Env (AppState N) (Event N) (Call N) Call.Reply PyError}
  {request : TradeSignalRequest N} {userId : String}

theorem handled_signal (huser : request.userId = userId) {signal : ArbitrageSignal N}
    (hs : env.answer [] .evaluateSpread = .ok signal) (s : AppState N) :
    (handled env request userId s).result =
      if (gateCall request signal).verdict.1 then
        match env.answer (approvedTrace request signal) (.dispatchOrders request signal) with
        | .error _ => .ok (rejected request "order dispatch failed" (signalMetrics signal))
        | .ok result => .ok (dispatched request signal result)
      else .ok (rejected request (gateCall request signal).verdict.2 (signalMetrics signal)) := by
  simp only [handled, processArbitrageIntent, huser, ne_eq, not_true_eq_false, if_false,
    Coro.bind_eq, Coro.play_bind, Coro.play_call, hs, Outcome.andThen, Coro.report, Coro.play,
    List.nil_append, List.cons_append]
  cases hg : (gateCall request signal).verdict.1 with
  | false => rfl
  | true =>
    simp only [Bool.not_true, Bool.false_eq_true, if_false, if_true, Coro.play_bind, Coro.play,
      Outcome.andThen, List.cons_append, List.nil_append, Coro.play_attempt, Coro.play_call]
    rw [approvedTrace]
    cases env.answer [.reply .evaluateSpread (.ok signal),
      .event (.shouldExecute (.intent request) (gateCall request signal)),
      .event (.dispatchOrders request signal)] (.dispatchOrders request signal) <;> rfl

theorem handled_ok (huser : request.userId = userId) {signal : ArbitrageSignal N}
    (hs : env.answer [] .evaluateSpread = .ok signal) (s : AppState N) :
    ∃ response, (handled env request userId s).result = .ok response := by
  rw [handled_signal huser hs]
  split
  · split <;> exact ⟨_, rfl⟩
  · exact ⟨_, rfl⟩

/-- A response is a dispatch, or a rejection with the numbers of the signal, if there is one. -/
theorem handled_response (s : AppState N) {response : TradeSignalResponse N}
    (hr : (handled env request userId s).result = .ok response) :
    (Dispatched env request userId ∧ ∃ signal result, response = dispatched request signal result) ∨
      ¬Dispatched env request userId ∧ ∃ metrics, Rejection metrics response ∧
        ((∀ kv ∈ metrics, PyFloat.isFinite kv.2 = true) ↔ AnswersPrintable env request userId) := by
  by_cases huser : request.userId = userId
  · cases hs : env.answer [] .evaluateSpread with
    | error e =>
      simp [handled, processArbitrageIntent, huser, Coro.play_bind, Coro.play_call, hs,
        Outcome.andThen] at hr
    | ok signal =>
      have hprintable : Printable signal ↔ AnswersPrintable env request userId := by
        refine ⟨fun h _ signal' hs' => ?_, fun h => h huser signal hs⟩
        cases hs.symm.trans hs'
        exact h
      rw [handled_signal huser hs] at hr
      split at hr
      · next hg =>
        split at hr
        · next e hraised =>
          cases hr
          refine .inr
            ⟨?_, _, rejection_rejected request _ signal, (printable_iff _).trans hprintable⟩
          rintro ⟨-, signal', result, hs', -, hresult⟩
          cases hs.symm.trans hs'
          cases hraised.symm.trans hresult
        · next result hresult =>
          cases hr
          exact .inl ⟨⟨huser, signal, result, hs, hg, hresult⟩, signal, result, rfl⟩
      · next hg =>
        cases hr
        refine .inr ⟨?_, _, rejection_rejected request _ signal, (printable_iff _).trans hprintable⟩
        rintro ⟨-, signal', result, hs', hg', -⟩
        cases hs.symm.trans hs'
        exact hg hg'
  · simp only [handled, processArbitrageIntent, ne_eq, huser, not_false_eq_true, if_true] at hr
    cases hr
    refine .inr ⟨fun h => huser h.1, [], ⟨rfl, rfl, rfl⟩, ?_⟩
    exact iff_of_true (fun _ h => absurd h List.not_mem_nil) fun h => absurd h huser

/-- The client and the server agree exactly on the requests that are not dispatched and
whose signal JSON can print: the answer to a dispatch has a status among its metrics and
no execution. -/
theorem client_agrees_iff (env : Env (AppState N) (Event N) (Call N) Call.Reply PyError)
    (request : TradeSignalRequest N) (userId requestSymbol : String) (s : AppState N) :
    ClientAgrees requestSymbol (handled env request userId s) ↔
      ¬Dispatched env request userId ∧ AnswersPrintable env request userId := by
  constructor
  · intro hagree
    have hrejected : ∀ response, (handled env request userId s).result = .ok response →
        ¬Dispatched env request userId ∧ AnswersPrintable env request userId := by
      intro response hr
      obtain ⟨dto, hdto, -⟩ := hagree response hr
      rcases handled_response s hr with ⟨-, signal, result, rfl⟩ | ⟨hnot, metrics, hrej, hiff⟩
      · rw [decode_dispatched] at hdto
        cases hdto
      · rw [decode_rejection hrej] at hdto
        split at hdto
        · next hfinite => exact ⟨hnot, hiff.mp hfinite⟩
        · cases hdto
    constructor
    · intro h
      obtain ⟨huser, signal, result, hs, hg, hresult⟩ := h
      obtain ⟨response, hr⟩ := handled_ok huser hs s
      exact (hrejected response hr).1 ⟨huser, signal, result, hs, hg, hresult⟩
    · intro huser signal hs
      obtain ⟨response, hr⟩ := handled_ok huser hs s
      exact (hrejected response hr).2 huser signal hs
  · rintro ⟨hnot, hprintable⟩ response hr
    rcases handled_response s hr with ⟨h, -⟩ | ⟨-, metrics, hrej, hiff⟩
    · exact absurd h hnot
    · refine ⟨_, (decode_rejection hrej).trans (if_pos (hiff.mpr hprintable)),
        iff_of_true rfl hrej.1, fun hstatus => ?_⟩
      rw [hrej.1] at hstatus
      exact absurd hstatus (by decide)

end

def sampleResult : TradeExecutionResult Binary64 :=
  ⟨.SUCCESS, "binance", "kraken", "BTC/USDT", 25, 0.01, 0.005, 0.125, 0.95, none⟩

def sampleBackend : Env (AppState Binary64) (Event Binary64) (Call Binary64) Call.Reply
    PyError where
  answer _ c := match c with
    | .evaluateSpread => .ok ⟨0.95, 30, 0.05⟩
    | .dispatchOrders _ _ => .ok sampleResult
    | _ => .error ⟨.other, "not called"⟩
  drift _ s := s

theorem client_agrees_sampleBackend :
    ¬ClientAgrees "BTC/USDT" (handled sampleBackend smallRequest "alice" .initial) := by
  intro hagree
  have hr := @handled_signal _ _ sampleBackend smallRequest "alice" rfl ⟨0.95, 30, 0.05⟩ rfl
    .initial
  have hg : (gateCall smallRequest ⟨0.95, 30, 0.05⟩).verdict.1 = true := by decide +kernel
  rw [if_pos hg] at hr
  obtain ⟨dto, hdto, -⟩ := hagree _ hr
  have hnone := decode_dispatched smallRequest ⟨0.95, 30, 0.05⟩ sampleResult
  rw [hnone] at hdto
  cases hdto

end BimodalArbitrage.Android
