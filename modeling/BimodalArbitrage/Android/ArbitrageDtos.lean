import BimodalArbitrage.Schemas

/-!
# The Android client's view of a response (`ArbitrageDtos.kt`)

A decoder of kotlinx.serialization gives `none` where the library throws. Unknown
keys are ignored, a missing field takes its default.
-/

namespace BimodalArbitrage.Android
variable {N : Type}

inductive Json (N : Type := ℚ) where
  | null
  | number (x : N)
  | string (s : String)
  | object (fields : List (String × Json N))

/-! ### Decoders -/

def decodeString : Json N → Option String
  | .string s => some s
  | _ => none

def decodeDouble : Json N → Option N
  | .number x => some x
  | _ => none

def decodeNullable {α : Type} (decode : Json N → Option α) : Json N → Option (Option α)
  | .null => some none
  | j => (decode j).map some

def required {α : Type} (fields : List (String × Json N)) (name : String)
    (decode : Json N → Option α) : Option α :=
  (fields.lookup name).bind decode

def optional {α : Type} (fields : List (String × Json N)) (name : String)
    (decode : Json N → Option α) (default : α) : Option α :=
  match fields.lookup name with
  | none => some default
  | some j => decode j

def decodeMetric (field : String × Json N) : Option (String × N) :=
  (decodeDouble field.2).map fun x => (field.1, x)

/-- `Map<String, Double>`: every value has to be a number. -/
def decodeMetrics : Json N → Option (List (String × N))
  | .object fields => fields.mapM decodeMetric
  | _ => none

/-- `ExecutionStatusDto`, its entries under their own names. -/
def decodeStatus (j : Json N) : Option ExecutionStatus :=
  (decodeString j).bind fun s =>
    [ExecutionStatus.SUCCESS, .PARTIAL_FILL, .HEDGED, .REJECTED].find? fun status =>
      status.value == s

/-- `TradeExecutionResultDto`; its `toDomain` copies every field. -/
def decodeExecution : Json N → Option (TradeExecutionResult N)
  | .object fields => do
    let status ← required fields "status" decodeStatus
    let buyExchange ← required fields "buy_exchange" decodeString
    let sellExchange ← required fields "sell_exchange" decodeString
    let symbol ← required fields "symbol" decodeString
    let executedVolumeUsd ← required fields "executed_volume_usd" decodeDouble
    let grossSpreadPct ← required fields "gross_spread_pct" decodeDouble
    let netSpreadPct ← required fields "net_spread_pct" decodeDouble
    let realizedPnlUsd ← required fields "realized_pnl_usd" decodeDouble
    let mlConfidenceScore ← required fields "ml_confidence_score" decodeDouble
    let reason ← optional fields "reason" (decodeNullable decodeString) none
    pure {
      status := status
      buyExchange := buyExchange
      sellExchange := sellExchange
      symbol := symbol
      executedVolumeUsd := executedVolumeUsd
      grossSpreadPct := grossSpreadPct
      netSpreadPct := netSpreadPct
      realizedPnlUsd := realizedPnlUsd
      mlConfidenceScore := mlConfidenceScore
      reason := reason }
  | _ => none

structure TradeSignalResponseDto (N : Type := ℚ) where
  status : String
  reason : Option String
  metrics : List (String × N)
  allocatedCapital : Option N
  targetPair : Option String
  execution : Option (TradeExecutionResult N)

def decodeResponse : Json N → Option (TradeSignalResponseDto N)
  | .object fields => do
    let status ← required fields "status" decodeString
    let reason ← optional fields "reason" (decodeNullable decodeString) none
    let metrics ← optional fields "metrics" decodeMetrics []
    let allocatedCapital ← optional fields "allocated_capital" (decodeNullable decodeDouble) none
    let targetPair ← optional fields "target_pair" (decodeNullable decodeString) none
    let execution ← optional fields "execution" (decodeNullable decodeExecution) none
    pure ⟨status, reason, metrics, allocatedCapital, targetPair, execution⟩
  | _ => none

/-- The single outcome the client shows: the execution, or a rejection. -/
def TradeSignalResponseDto.toDomain [PyFloat N] (dto : TradeSignalResponseDto N)
    (requestSymbol : String) : TradeExecutionResult N :=
  match dto.execution with
  | some execution => execution
  | none =>
    { status := .REJECTED
      buyExchange := ""
      sellExchange := ""
      symbol := dto.targetPair.getD requestSymbol
      executedVolumeUsd := 0
      grossSpreadPct := 0
      netSpreadPct := 0
      realizedPnlUsd := 0
      mlConfidenceScore := (dto.metrics.lookup "execution_probability").getD 0
      reason := some (dto.reason.getD dto.status) }

end BimodalArbitrage.Android
