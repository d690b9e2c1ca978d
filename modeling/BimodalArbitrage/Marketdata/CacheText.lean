import BimodalArbitrage.Marketdata.OrderbookCache
import BimodalArbitrage.Store.Expiring
import Mathlib.Algebra.Order.Ring.Rat

/-!
# The cache at the level of its texts

`OrderBookCache` against a Redis server that keeps strings: what `json` and `datetime`
print and read is a parameter, the keys are the joined texts of the code.
-/

namespace BimodalArbitrage.Marketdata

/-- What `json.dumps` is given and `json.loads` returns, as far as snapshots go. -/
inductive JsonValue where
  | string (s : String)
  | number (q : ℚ)
  | array (elements : List JsonValue)
  | object (members : List (String × JsonValue))

namespace JsonValue

/-- `payload[key]`. -/
def item (key : String) : JsonValue → Except PyError JsonValue
  | .object members => match members.lookup key with
    | some value => .ok value
    | none => .error ⟨.other, "KeyError: '" ++ key ++ "'"⟩
  | _ => .error ⟨.other, "TypeError: indices must be integers"⟩

def asString : JsonValue → Except PyError String
  | .string s => .ok s
  | _ => .error ⟨.other, "TypeError: not a string"⟩

/-- `OrderBookLevel(price=p, volume=v) for p, v in ...`. -/
def asLevel : JsonValue → Except PyError OrderBookLevel
  | .array [.number price, .number volume] => .ok ⟨price, volume⟩
  | .array _ => .error (valueError "expected 2 values to unpack")
  | _ => .error ⟨.other, "TypeError: cannot unpack"⟩

def asLevels : JsonValue → Except PyError (List OrderBookLevel)
  | .array elements => elements.mapM asLevel
  | _ => .error ⟨.other, "TypeError: object is not iterable"⟩

def ofLevel (lvl : OrderBookLevel) : JsonValue := .array [.number lvl.price, .number lvl.volume]

end JsonValue

/-- `json.dumps`, `json.loads`, `datetime.isoformat` and `datetime.fromisoformat`. -/
structure Codec where
  dumps : JsonValue → String
  loads : String → Except PyError JsonValue
  isoformat : ℚ → String
  fromisoformat : String → Except PyError ℚ

namespace Codec

def payload (c : Codec) (snapshot : OrderBookSnapshot) : JsonValue :=
  .object [("exchange", .string snapshot.exchange), ("symbol", .string snapshot.symbol),
    ("timestamp", .string (c.isoformat snapshot.timestamp)),
    ("bids", .array (snapshot.bids.map JsonValue.ofLevel)),
    ("asks", .array (snapshot.asks.map JsonValue.ofLevel))]

/-- `_snapshot_to_json`. -/
def snapshotToJson (c : Codec) (snapshot : OrderBookSnapshot) : String :=
  c.dumps (c.payload snapshot)

/-- `_json_to_snapshot`. -/
def jsonToSnapshot (c : Codec) (raw : String) : Except PyError OrderBookSnapshot := do
  let payload ← c.loads raw
  let exchange ← (← payload.item "exchange").asString
  let symbol ← (← payload.item "symbol").asString
  let timestamp ← c.fromisoformat (← (← payload.item "timestamp").asString)
  let bids ← (← payload.item "bids").asLevels
  let asks ← (← payload.item "asks").asLevels
  pure ⟨exchange, symbol, timestamp, bids, asks⟩

/-- What is printed of the snapshot is read back as it was. -/
structure Inverse (c : Codec) (snapshot : OrderBookSnapshot) : Prop where
  json : c.loads (c.dumps (c.payload snapshot)) = .ok (c.payload snapshot)
  datetime : c.fromisoformat (c.isoformat snapshot.timestamp) = .ok snapshot.timestamp

end Codec

theorem asLevels_ofLevel (levels : List OrderBookLevel) :
    (JsonValue.array (levels.map JsonValue.ofLevel)).asLevels = .ok levels := by
  rw [JsonValue.asLevels, mapM_ok_iff, List.forall₂_map_left_iff, List.forall₂_same]
  exact fun level _ => rfl

theorem jsonToSnapshot_of_inverse {c : Codec} {snapshot : OrderBookSnapshot}
    (h : c.Inverse snapshot) : c.jsonToSnapshot (c.snapshotToJson snapshot) = .ok snapshot := by
  have hexchange : (c.payload snapshot).item "exchange" = .ok (.string snapshot.exchange) := rfl
  have hsymbol : (c.payload snapshot).item "symbol" = .ok (.string snapshot.symbol) := rfl
  have htimestamp : (c.payload snapshot).item "timestamp" =
      .ok (.string (c.isoformat snapshot.timestamp)) := rfl
  have hbids : (c.payload snapshot).item "bids" =
      .ok (.array (snapshot.bids.map JsonValue.ofLevel)) := rfl
  have hasks : (c.payload snapshot).item "asks" =
      .ok (.array (snapshot.asks.map JsonValue.ofLevel)) := rfl
  simp only [Codec.jsonToSnapshot, Codec.snapshotToJson, h.json, bind, Except.bind, hexchange,
    hsymbol, htimestamp, hbids, hasks, JsonValue.asString, h.datetime, asLevels_ofLevel, pure,
    Except.pure]

/-! ### Keys -/

theorem split_at_first {c : Char} {xs xs' ys ys' : List Char} (hxs : c ∉ xs) (hxs' : c ∉ xs')
    (h : xs ++ c :: ys = xs' ++ c :: ys') : xs = xs' ∧ ys = ys' := by
  induction xs generalizing xs' with
  | nil =>
    cases xs' with
    | nil => exact ⟨rfl, (List.cons.inj h).2⟩
    | cons x xs' =>
      obtain ⟨rfl, -⟩ := List.cons.inj h
      exact absurd (List.mem_cons_self ..) hxs'
  | cons x xs ih =>
    cases xs' with
    | nil =>
      obtain ⟨rfl, -⟩ := List.cons.inj h
      exact absurd (List.mem_cons_self ..) hxs
    | cons x' xs' =>
      obtain ⟨rfl, htail⟩ := List.cons.inj h
      obtain ⟨rfl, rfl⟩ := ih (fun hc => hxs (List.mem_cons_of_mem _ hc))
        (fun hc => hxs' (List.mem_cons_of_mem _ hc)) htail
      exact ⟨rfl, rfl⟩

theorem cacheKey_injective {exchange exchange' symbol symbol' : String}
    (hcolon : ':' ∉ exchange.toList) (hcolon' : ':' ∉ exchange'.toList)
    (h : cacheKey exchange symbol = cacheKey exchange' symbol') :
    exchange = exchange' ∧ symbol = symbol' := by
  have htexts := congrArg String.toList h
  simp only [cacheKey, String.toList_append, List.append_assoc, List.append_cancel_left_eq]
    at htexts
  obtain ⟨hexchange, hsymbol⟩ := split_at_first hcolon hcolon' htexts
  exact ⟨String.toList_inj.mp hexchange, String.toList_inj.mp hsymbol⟩

/-! ### The cache -/

abbrev TextServer := Store.Server String String ℚ

/-- The books of every pair of an exchange and a symbol, as an expiring store. -/
abbrev BookStore := Store.Server (String × String) OrderBookSnapshot ℚ

inductive CacheOp where
  | set (snapshot : OrderBookSnapshot)
  | advance (dt : ℚ)

/-- The operation on the books that a call stands for. -/
def CacheOp.onBooks : CacheOp → Store.Op (String × String) OrderBookSnapshot ℚ
  | .set snapshot => .set (snapshot.exchange, snapshot.symbol) snapshot
  | .advance dt => .advance dt

structure TextCache where
  codec : Codec
  ttlSeconds : ℕ

namespace TextCache

def setSnapshot (cache : TextCache) (snapshot : OrderBookSnapshot) (redis : TextServer) :
    TextServer :=
  redis.set (cache.ttlSeconds : ℚ) (cacheKey snapshot.exchange snapshot.symbol)
    (cache.codec.snapshotToJson snapshot)

def getSnapshot (cache : TextCache) (exchange symbol : String) (redis : TextServer) :
    Except PyError (Option OrderBookSnapshot) :=
  match redis.get (cacheKey exchange symbol) with
  | none => .ok none
  | some raw => (cache.codec.jsonToSnapshot raw).map some

def step (cache : TextCache) (redis : TextServer) : CacheOp → TextServer
  | .set snapshot => cache.setSnapshot snapshot redis
  | .advance dt => redis.advance dt

/-- The server after a history of calls and clock advances. -/
def run (cache : TextCache) (history : List CacheOp) : TextServer :=
  history.foldl cache.step .empty

def books (cache : TextCache) (history : List CacheOp) : BookStore :=
  Store.Server.empty.run (cache.ttlSeconds : ℚ) (history.map CacheOp.onBooks)

/-- The texts of the server are the books, printed under the joined keys. -/
structure Prints (cache : TextCache) (redis : TextServer) (books : BookStore) : Prop where
  now : redis.now = books.now
  entries : ∀ exchange symbol, ':' ∉ exchange.toList →
    redis.entries (cacheKey exchange symbol) = (books.entries (exchange, symbol)).map
      fun entry => (cache.codec.snapshotToJson entry.1, entry.2)
  readable : ∀ pair entry, books.entries pair = some entry → cache.codec.Inverse entry.1

variable {cache : TextCache} {redis : TextServer} {books : BookStore} {exchange symbol : String}

theorem Prints.setSnapshot (h : cache.Prints redis books) {snapshot : OrderBookSnapshot}
    (hcodec : cache.codec.Inverse snapshot) (hcolon : ':' ∉ snapshot.exchange.toList) :
    cache.Prints (cache.setSnapshot snapshot redis)
      (books.set (cache.ttlSeconds : ℚ) (snapshot.exchange, snapshot.symbol) snapshot) where
  now := h.now
  entries exchange symbol hexchange := by
    simp only [TextCache.setSnapshot, Store.Server.set]
    by_cases hpair : (exchange, symbol) = (snapshot.exchange, snapshot.symbol)
    · obtain ⟨rfl, rfl⟩ := Prod.mk.inj hpair
      rw [Function.update_self, Function.update_self, h.now]
      rfl
    · have hkey : cacheKey exchange symbol ≠ cacheKey snapshot.exchange snapshot.symbol := by
        intro heq
        exact hpair (Prod.mk.injEq .. ▸ cacheKey_injective hexchange hcolon heq)
      rw [Function.update_of_ne hkey, Function.update_of_ne hpair]
      exact h.entries exchange symbol hexchange
  readable pair entry hentry := by
    simp only [Store.Server.set] at hentry
    by_cases hpair : pair = (snapshot.exchange, snapshot.symbol)
    · rw [hpair, Function.update_self] at hentry
      cases hentry
      exact hcodec
    · rw [Function.update_of_ne hpair] at hentry
      exact h.readable pair entry hentry

theorem Prints.run (h : cache.Prints redis books) {history : List CacheOp}
    (hcodec : ∀ snapshot, .set snapshot ∈ history → cache.codec.Inverse snapshot)
    (hcolon : ∀ snapshot, .set snapshot ∈ history → ':' ∉ snapshot.exchange.toList) :
    cache.Prints (history.foldl cache.step redis)
      (books.run (cache.ttlSeconds : ℚ) (history.map CacheOp.onBooks)) := by
  induction history generalizing redis books with
  | nil => exact h
  | cons op history ih =>
    rw [List.foldl_cons, List.map_cons, Store.Server.run_cons]
    refine ih ?_ (fun snapshot hmem => hcodec snapshot (List.mem_cons_of_mem _ hmem))
      (fun snapshot hmem => hcolon snapshot (List.mem_cons_of_mem _ hmem))
    cases op with
    | set snapshot =>
      exact h.setSnapshot (hcodec snapshot (List.mem_cons_self ..))
        (hcolon snapshot (List.mem_cons_self ..))
    | advance dt => exact ⟨congrArg (· + dt) h.now, h.entries, h.readable⟩

theorem Prints.getSnapshot (h : cache.Prints redis books) (hexchange : ':' ∉ exchange.toList) :
    cache.getSnapshot exchange symbol redis = .ok (books.get (exchange, symbol)) := by
  rw [TextCache.getSnapshot, Store.Server.get, Store.Server.get, h.entries _ _ hexchange, h.now]
  cases hentry : books.entries (exchange, symbol) with
  | none => rfl
  | some entry =>
    by_cases hfresh : books.now < entry.2
    · simp [hfresh, jsonToSnapshot_of_inverse (h.readable _ _ hentry), Except.map]
    · simp [hfresh]

theorem prints_empty (cache : TextCache) : cache.Prints .empty .empty where
  now := rfl
  entries _ _ _ := rfl
  readable _ _ hentry := nomatch hentry

theorem getSnapshot_setSnapshot {snapshot : OrderBookSnapshot} (redis : TextServer)
    (hexchange : ':' ∉ exchange.toList) (hcolon : ':' ∉ snapshot.exchange.toList)
    (hpair : (snapshot.exchange, snapshot.symbol) ≠ (exchange, symbol)) :
    cache.getSnapshot exchange symbol (cache.setSnapshot snapshot redis) =
      cache.getSnapshot exchange symbol redis := by
  have hkey : cacheKey exchange symbol ≠ cacheKey snapshot.exchange snapshot.symbol := by
    intro heq
    obtain ⟨rfl, rfl⟩ := cacheKey_injective hexchange hcolon heq
    exact hpair rfl
  rw [TextCache.getSnapshot, TextCache.getSnapshot, setSnapshot, Store.Server.get_set_of_ne hkey]

/-- The cache is an expiring map: a pair reads the snapshot last set for it, until the
time to live has gone by. -/
theorem expires (cache : TextCache) (history : List CacheOp)
    (hcodec : ∀ snapshot, .set snapshot ∈ history → cache.codec.Inverse snapshot)
    (hcolon : ∀ snapshot, .set snapshot ∈ history → ':' ∉ snapshot.exchange.toList)
    (exchange symbol : String) (hexchange : ':' ∉ exchange.toList) :
    (∀ snapshot age,
      Store.LastSet (exchange, symbol) snapshot age (history.map CacheOp.onBooks) →
        cache.getSnapshot exchange symbol (cache.run history) =
          .ok (if age < cache.ttlSeconds then some snapshot else none)) ∧
    ((∀ snapshot, .set snapshot ∈ history →
        (snapshot.exchange, snapshot.symbol) ≠ (exchange, symbol)) →
      cache.getSnapshot exchange symbol (cache.run history) = .ok none) ∧
    ∀ snapshot, ':' ∉ snapshot.exchange.toList →
      (snapshot.exchange, snapshot.symbol) ≠ (exchange, symbol) →
        cache.getSnapshot exchange symbol (cache.run (history ++ [.set snapshot])) =
          cache.getSnapshot exchange symbol (cache.run history) := by
  have hprints := cache.prints_empty.run hcodec hcolon
  have hget : cache.getSnapshot exchange symbol (cache.run history) =
      .ok ((cache.books history).get (exchange, symbol)) := hprints.getSnapshot hexchange
  refine ⟨fun snapshot age hlast => ?_, fun hnever => ?_, fun snapshot hcolon' hpair => ?_⟩
  · rw [hget, books, Store.Server.get_of_lastSet hlast]
  · rw [hget, books, Store.Server.get_of_never fun snapshot hmem => ?_]
    obtain ⟨op, hop, heq⟩ := List.mem_map.mp hmem
    cases op with
    | advance dt => cases heq
    | set snapshot' =>
      cases heq
      exact hnever snapshot hop rfl
  · rw [run, List.foldl_append]
    exact getSnapshot_setSnapshot _ hexchange hcolon' hpair

/-! ### A swap of one exchange -/

mutual

/-- `json.dumps` where every number is a whole one and no string needs an escape. -/
def printValue : JsonValue → String
  | .string s => "\"" ++ s ++ "\""
  | .number q => toString q.num ++ ".0"
  | .array elements => "[" ++ ", ".intercalate (printElements elements) ++ "]"
  | .object members => "\x7b" ++ ", ".intercalate (printMembers members) ++ "\x7d"

def printElements : List JsonValue → List String
  | [] => []
  | v :: vs => printValue v :: printElements vs

def printMembers : List (String × JsonValue) → List String
  | [] => []
  | (key, v) :: ms => ("\"" ++ key ++ "\": " ++ printValue v) :: printMembers ms

end

def sampleBook : OrderBookSnapshot :=
  ⟨"kraken", "BTC/USDT:USDT", 1704067200, [⟨42000, 1⟩, ⟨41990, 3⟩], [⟨42010, 2⟩]⟩

def sampleText : String :=
  "\x7b\"exchange\": \"kraken\", \"symbol\": \"BTC/USDT:USDT\", " ++
    "\"timestamp\": \"2024-01-01T00:00:00+00:00\", " ++
    "\"bids\": [[42000.0, 1.0], [41990.0, 3.0]], \"asks\": [[42010.0, 2.0]]\x7d"

/-- `json` and `datetime` on the one book that the sample prints and reads. -/
def sampleCodec : Codec where
  dumps := printValue
  loads raw :=
    if raw = sampleText then
      .ok (.object [("exchange", .string "kraken"), ("symbol", .string "BTC/USDT:USDT"),
        ("timestamp", .string "2024-01-01T00:00:00+00:00"),
        ("bids", .array [.array [.number 42000, .number 1], .array [.number 41990, .number 3]]),
        ("asks", .array [.array [.number 42010, .number 2]])])
    else .error (valueError "JSONDecodeError")
  isoformat _ := "2024-01-01T00:00:00+00:00"
  fromisoformat text :=
    if text = "2024-01-01T00:00:00+00:00" then .ok 1704067200
    else .error (valueError "Invalid isoformat string")

def sampleCache : TextCache := ⟨sampleCodec, defaultTtlSeconds⟩

/-- The book is read back four seconds after it was set, and no more after five. -/
theorem expires_swap :
    sampleCache.getSnapshot "kraken" "BTC/USDT:USDT"
        (sampleCache.run [.set sampleBook, .advance 4]) = .ok (some sampleBook) ∧
      sampleCache.getSnapshot "kraken" "BTC/USDT:USDT"
        (sampleCache.run [.set sampleBook, .advance 4, .advance 1]) = .ok none := by
  have hprinted : printValue (sampleCodec.payload sampleBook) = sampleText := by decide +kernel
  have hcodec : sampleCodec.Inverse sampleBook := by
    refine ⟨?_, by decide +kernel⟩
    simp only [sampleCodec] at hprinted ⊢
    rw [hprinted, if_pos rfl]
    rfl
  have hcolon : ':' ∉ sampleBook.exchange.toList := by decide
  have hset : ∀ {dts : List ℚ} {snapshot : OrderBookSnapshot},
      CacheOp.set snapshot ∈ CacheOp.set sampleBook :: dts.map CacheOp.advance →
        snapshot = sampleBook := by
    intro dts snapshot hmem
    simpa using hmem
  refine ⟨?_, ?_⟩
  · refine ((expires sampleCache (.set sampleBook :: [4].map .advance)
      (fun _ hmem => hset hmem ▸ hcodec) (fun _ hmem => hset hmem ▸ hcolon) "kraken"
      "BTC/USDT:USDT" (by decide)).1 sampleBook 4 ⟨[], [.advance 4], rfl, by simp, ?_⟩).trans ?_
    · decide +kernel
    · rfl
  · refine ((expires sampleCache (.set sampleBook :: [4, 1].map .advance)
      (fun _ hmem => hset hmem ▸ hcodec) (fun _ hmem => hset hmem ▸ hcolon) "kraken"
      "BTC/USDT:USDT" (by decide)).1 sampleBook 5
      ⟨[], [.advance 4, .advance 1], rfl, by simp, ?_⟩).trans ?_
    · decide +kernel
    · rfl

end TextCache
end BimodalArbitrage.Marketdata
