import BimodalArbitrage.Coop.Coro
import BimodalArbitrage.Schemas

/-!
# Redis cache of the latest books (`backend/marketdata/orderbook_cache.py`)

A payload is what is printed as JSON and read back; the printing is left out.
-/

namespace BimodalArbitrage.Marketdata
open Coop
variable {S Ev C : Type} {R : C → Type} {N : Type}

structure SnapshotPayload (N : Type := ℚ) where
  exchange : String
  symbol : String
  timestamp : N
  bids : List (N × N)
  asks : List (N × N)
  deriving DecidableEq

def defaultTtlSeconds : ℕ := 5

def cacheKey (exchange symbol : String) : String := "orderbook:" ++ exchange ++ ":" ++ symbol

def snapshotToJson (snapshot : OrderBookSnapshot N) : SnapshotPayload N where
  exchange := snapshot.exchange
  symbol := snapshot.symbol
  timestamp := snapshot.timestamp
  bids := snapshot.bids.map fun lvl => (lvl.price, lvl.volume)
  asks := snapshot.asks.map fun lvl => (lvl.price, lvl.volume)

def jsonToSnapshot (payload : SnapshotPayload N) : OrderBookSnapshot N where
  exchange := payload.exchange
  symbol := payload.symbol
  timestamp := payload.timestamp
  bids := payload.bids.map fun pv => ⟨pv.1, pv.2⟩
  asks := payload.asks.map fun pv => ⟨pv.1, pv.2⟩

theorem jsonToSnapshot_snapshotToJson (snapshot : OrderBookSnapshot N) :
    jsonToSnapshot (snapshotToJson snapshot) = snapshot := by
  have hlevel : ((fun pv : N × N => (⟨pv.1, pv.2⟩ : OrderBookLevel N)) ∘
      fun lvl : OrderBookLevel N => (lvl.price, lvl.volume)) = id := rfl
  simp only [jsonToSnapshot, snapshotToJson, List.map_map, hlevel, List.map_id]

theorem snapshotToJson_jsonToSnapshot (payload : SnapshotPayload N) :
    snapshotToJson (jsonToSnapshot payload) = payload := by
  have hlevel : ((fun lvl : OrderBookLevel N => (lvl.price, lvl.volume)) ∘
      fun pv : N × N => (⟨pv.1, pv.2⟩ : OrderBookLevel N)) = id := rfl
  simp only [jsonToSnapshot, snapshotToJson, List.map_map, hlevel, List.map_id]

/-- The two commands of the Redis client that are used. -/
structure RedisClient (S Ev C : Type) (R : C → Type) (N : Type := ℚ) where
  get (key : String) : Coro S Ev C R PyError (Option (SnapshotPayload N))
  set (key : String) (value : SnapshotPayload N) (ex : ℕ) : Coro S Ev C R PyError Unit

structure OrderBookCache (S Ev C : Type) (R : C → Type) (N : Type := ℚ) where
  redis : RedisClient S Ev C R N
  ttlSeconds : ℕ

namespace OrderBookCache

def setSnapshot (cache : OrderBookCache S Ev C R N) (snapshot : OrderBookSnapshot N) :
    Coro S Ev C R PyError Unit :=
  cache.redis.set (cacheKey snapshot.exchange snapshot.symbol) (snapshotToJson snapshot)
    cache.ttlSeconds

def getSnapshot (cache : OrderBookCache S Ev C R N) (exchange symbol : String) :
    Coro S Ev C R PyError (Option (OrderBookSnapshot N)) := do
  let raw ← cache.redis.get (cacheKey exchange symbol)
  pure (raw.map jsonToSnapshot)

end OrderBookCache
end BimodalArbitrage.Marketdata
