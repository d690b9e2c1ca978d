import BimodalArbitrage.Schemas

/-!
# Request and response contracts of the gateway (`backend/api/contracts.py`)
-/

namespace BimodalArbitrage.Api

/-- A request that passed the contract's own validation. -/
structure TradeSignalRequest (N : Type := ℚ) [PyFloat N] where
  userId : String
  symbol : String
  exchangeBuy : String
  exchangeSell : String
  capitalAllocationUsd : N
  minAlphaBps : N
  tradingMode : TradingMode
  capital_pos : 0 < capitalAllocationUsd
  minAlpha_pos : 0 < minAlphaBps

def aliceRequest {N : Type} [PyFloat N] (capitalAllocationUsd minAlphaBps : N)
    (hcapital : 0 < capitalAllocationUsd) (hminAlpha : 0 < minAlphaBps) : TradeSignalRequest N where
  userId := "alice"
  symbol := "BTC/USDT"
  exchangeBuy := "binance"
  exchangeSell := "kraken"
  capitalAllocationUsd := capitalAllocationUsd
  minAlphaBps := minAlphaBps
  tradingMode := .testnet
  capital_pos := hcapital
  minAlpha_pos := hminAlpha

def smallRequest : TradeSignalRequest Binary64 :=
  aliceRequest 25 15 (by decide +kernel) (by decide +kernel)

inductive MetricValue (N : Type := ℚ) where
  | number (x : N)
  | status (s : ExecutionStatus)
  deriving DecidableEq

structure TradeSignalResponse (N : Type := ℚ) where
  status : String
  reason : Option String
  metrics : List (String × MetricValue N)
  allocatedCapital : Option N
  targetPair : Option String
  deriving DecidableEq

end BimodalArbitrage.Api
