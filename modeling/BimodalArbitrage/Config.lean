import BimodalArbitrage.Execution.Orders

/-!
# Runner configuration (`backend/config.py`)
-/

namespace BimodalArbitrage
open Execution

/-- What the program takes from the machine it runs on: the square root of floats,
the environment and the reading of a float. -/
structure Host (N : Type := ℚ) where
  sqrt : N → N
  environ : String → Option String
  float : String → Except PyError N

structure PairConfig where
  symbol : String
  exchangeBuy : String
  exchangeSell : String
  deriving DecidableEq

structure RunnerConfig (N : Type := ℚ) where
  monitoredPairs : List PairConfig
  monitoredTriangles : List TriangleConfig
  notionalPerTradeUsd : N
  defaultTakerFeeBps : N
  enabled : Bool
  sampleLoggingEnabled : Bool

/-! ### Monitored markets -/

/-- The entries of a comma-separated list; blank ones are skipped. -/
def chunks (raw : String) : List String := ((pySplit ',' raw).map pyStrip).filter (· ≠ "")

def readEntry {α : Type} (variableName expected : String) (ofParts : List String → Option α)
    (chunk : String) : Except PyError α :=
  match ofParts (pySplit ':' chunk) with
  | some entry => .ok entry
  | none => .error (valueError ("invalid " ++ variableName ++ " entry " ++ pyRepr chunk ++
      "; expected " ++ expected))

def parseEntries {α : Type} (variableName expected : String) (ofParts : List String → Option α)
    (raw : String) : Except PyError (List α) :=
  (chunks raw).mapM (readEntry variableName expected ofParts)

section
variable {α : Type} {variableName expected : String} {ofParts : List String → Option α}

theorem readEntry_eq_ok {chunk : String} {entry : α} :
    readEntry variableName expected ofParts chunk = .ok entry ↔
      ofParts (pySplit ':' chunk) = some entry := by
  unfold readEntry
  cases ofParts (pySplit ':' chunk) with
  | some parsed =>
    constructor
    · intro h
      cases h
      rfl
    · intro h
      cases h
      rfl
  | none => exact iff_of_false (fun h => nomatch h) fun h => nomatch h

theorem parseEntries_ok {raw : String} {entries : List α}
    (h : parseEntries variableName expected ofParts raw = .ok entries) :
    (chunks raw).map (fun chunk => ofParts (pySplit ':' chunk)) = entries.map some := by
  rw [parseEntries, mapM_ok_iff] at h
  rw [← List.forall₂_eq_eq_eq, List.forall₂_map_left_iff, List.forall₂_map_right_iff]
  exact h.imp fun chunk entry => readEntry_eq_ok.mp

end

def PairConfig.ofParts : List String → Option PairConfig
  | [symbol, exchangeBuy, exchangeSell] => some ⟨symbol, exchangeBuy, exchangeSell⟩
  | _ => none

def parseMonitoredPairs (raw : String) : Except PyError (List PairConfig) :=
  parseEntries "MONITORED_PAIRS" "SYMBOL:exchange_buy:exchange_sell" PairConfig.ofParts raw

def TriangleConfig.ofParts : List String → Option TriangleConfig
  | [quote, bridge, target, exchange] => some ⟨exchange, quote, bridge, target⟩
  | _ => none

theorem TriangleConfig.ofParts_eq_some {parts : List String} {t : TriangleConfig} :
    TriangleConfig.ofParts parts = some t ↔ parts = [t.quote, t.bridge, t.target, t.exchange] := by
  constructor
  · intro h
    unfold TriangleConfig.ofParts at h
    split at h
    · cases h
      rfl
    · cases h
  · rintro rfl
    rfl

def parseMonitoredTriangles (raw : String) : Except PyError (List TriangleConfig) :=
  parseEntries "MONITORED_TRIANGLES" "QUOTE:BRIDGE:TARGET:exchange" TriangleConfig.ofParts raw

example : parseMonitoredPairs " BTC/USDT:binance:kraken,, " =
    .ok [⟨"BTC/USDT", "binance", "kraken"⟩] := by decide +kernel

/-! ### Fees -/

def defaultTakerFeeBpsByExchange {N : Type} [PyFloat N] : List (String × N) :=
  [("binance", 10), ("bybit", 10), ("kraken", 26)]

/-- The override of the environment, else the public fee, else `defaultFeeBps`. -/
def getTakerFeeBps {N : Type} [PyFloat N] (host : Host N) (exchangeId : String)
    (defaultFeeBps : N) : Except PyError N :=
  match host.environ ("EXCHANGE_TAKER_FEE_BPS_" ++ pyUpper exchangeId) with
  | some override => host.float override
  | none => pure ((defaultTakerFeeBpsByExchange.lookup exchangeId).getD defaultFeeBps)

end BimodalArbitrage
