import BimodalArbitrage.Config
import BimodalArbitrage.Coop.Play
import BimodalArbitrage.Execution.Triangular

/-!
# Persisted executions (`backend/db/models.py`, `backend/db/repository.py`)

The database is one that enforces `VARCHAR` bounds. It sees a trade once the trade is
made, so a row it refuses is a trade that nothing remembers.
-/

namespace BimodalArbitrage.Db
open Coop Execution BimodalArbitrage.Runtime

/-- A row of `arbitrage_executions`, less the two columns the database fills itself. -/
structure ArbitrageExecution where
  userId : BitVec 128
  symbol : String
  buyExchange : String
  sellExchange : String
  grossSpreadPct : ℚ
  netSpreadPct : ℚ
  executedVolumeUsd : ℚ
  realizedPnlUsd : ℚ
  mlConfidenceScore : ℚ
  executionStatus : String

/-- The `String(n)` columns, each with its `n` and its text. -/
def ArbitrageExecution.texts (row : ArbitrageExecution) : List (String × ℕ × String) :=
  [("symbol", 20, row.symbol), ("buy_exchange", 50, row.buyExchange),
    ("sell_exchange", 50, row.sellExchange), ("execution_status", 30, row.executionStatus)]

def ArbitrageExecution.overlong (row : ArbitrageExecution) : List String :=
  (row.texts.filter fun (_, width, text) => width < text.length).map (·.1)

/-- The row `record_execution` adds for `result`. -/
def ArbitrageExecution.ofResult (result : TradeExecutionResult) (userId : BitVec 128) :
    ArbitrageExecution where
  userId := userId
  symbol := result.symbol
  buyExchange := result.buyExchange
  sellExchange := result.sellExchange
  grossSpreadPct := result.grossSpreadPct
  netSpreadPct := result.netSpreadPct
  executedVolumeUsd := result.executedVolumeUsd
  realizedPnlUsd := result.realizedPnlUsd
  mlConfidenceScore := result.mlConfidenceScore
  executionStatus := result.status.value

/-- The table after the commit, or the columns the row is refused for. -/
def recordExecution (table : List ArbitrageExecution) (result : TradeExecutionResult)
    (userId : BitVec 128) : Except (List String) (List ArbitrageExecution) :=
  let execution := ArbitrageExecution.ofResult result userId
  if execution.overlong = [] then .ok (table ++ [execution]) else .error execution.overlong

def RefusedForSymbol (result : TradeExecutionResult) : Prop :=
  ∃ table userId columns, recordExecution table result userId = .error columns ∧
    "symbol" ∈ columns

theorem symbol_mem_overlong (row : ArbitrageExecution) :
    "symbol" ∈ row.overlong ↔ 20 < row.symbol.length := by
  simp only [ArbitrageExecution.overlong, ArbitrageExecution.texts, List.mem_map, List.mem_filter,
    List.mem_cons, List.not_mem_nil, or_false, decide_eq_true_eq]
  constructor
  · rintro ⟨column, ⟨rfl | rfl | rfl | rfl, hwidth⟩, hname⟩
    · exact hwidth
    · exact absurd hname.symm (by simp)
    · exact absurd hname.symm (by simp)
    · exact absurd hname.symm (by simp)
  · intro hlong
    exact ⟨_, ⟨.inl rfl, hlong⟩, rfl⟩

theorem refusedForSymbol_iff (result : TradeExecutionResult) :
    RefusedForSymbol result ↔ 20 < result.symbol.length := by
  constructor
  · rintro ⟨table, userId, columns, hrefused, hsymbol⟩
    simp only [recordExecution] at hrefused
    split at hrefused
    · cases hrefused
    · cases hrefused
      exact (symbol_mem_overlong _).mp hsymbol
  · intro hlong
    have hsymbol : "symbol" ∈ (ArbitrageExecution.ofResult result 0).overlong :=
      (symbol_mem_overlong _).mpr hlong
    exact ⟨[], 0, _, if_neg (List.ne_nil_of_mem hsymbol), hsymbol⟩

/-! ### Triangles -/

/-- No outcome of `execute_triangle` for `t`, whatever client places its orders, is
refused for its symbol. -/
def Recordable (t : TriangleConfig) : Prop :=
  ∀ (S C : Type) (R : C → Type) (m : TriangularMitigator S C R) (env : Env S Event C R PyError)
    (s : S) (h : List (Obs Event C R PyError)) (o : TriangleOrders) (result : TradeExecutionResult),
    o.triangle = t → ((m.executeTriangle o).play env s h).result = .ok result →
      ¬RefusedForSymbol result

def tickerLength (t : TriangleConfig) : ℕ :=
  2 * t.quote.length + t.bridge.length + t.target.length

theorem label_length (t : TriangleConfig) : t.label.length = tickerLength t + 6 := by
  have harrow : ("->" : String).length = 2 := by decide
  simp only [TriangleConfig.label, String.length_append, harrow, tickerLength]
  omega

section
variable {S C : Type} {R : C → Type}

theorem mitigate_symbol (m : TriangularMitigator S C R) (o : TriangleOrders)
    (leg1 leg2 leg3 : LegResult) :
    (m.mitigate o leg1 leg2 leg3).OnlyReturns fun result => result.symbol = o.triangle.label := by
  unfold TriangularMitigator.mitigate
  split
  · exact rfl
  · split
    · exact rfl
    · exact Coro.onlyReturns_bind _ fun unwindNotional => rfl

theorem executeTriangle_symbol (m : TriangularMitigator S C R) (o : TriangleOrders) :
    (m.executeTriangle o).OnlyReturns fun result => result.symbol = o.triangle.label :=
  Coro.onlyReturns_bind _ fun legs => mitigate_symbol m o legs.1 legs.2.1 legs.2.2

end

theorem recordable_iff (t : TriangleConfig) : Recordable t ↔ tickerLength t ≤ 14 := by
  have hlabel := label_length t
  constructor
  · intro hrecordable
    -- every leg fills
    let client : ExchangeClient Unit Event Unit fun _ => Unit :=
      { placeIocOrder := fun _ _ _ amount price => .pure ⟨true, amount, price, none⟩
        placeLimitOrder := fun _ _ _ amount price => .pure ⟨true, amount, price, none⟩
        placeMarketOrder := fun _ _ _ amount => .pure ⟨true, amount, 0, none⟩
        bestBid := fun _ _ => .pure 0 }
    let o : TriangleOrders := ⟨t, 0, 0, 0, 0, 0, 0, 0, 0, 0⟩
    have hfits := hrecordable Unit Unit _ ⟨client⟩ ⟨fun _ _ => .ok (), fun _ s => s⟩ () [] o
      (TriangularMitigator.report o .SUCCESS 0 (0 * 0) none) rfl rfl
    have hsymbol : (TriangularMitigator.report o .SUCCESS 0 (0 * 0) none).symbol = t.label := rfl
    rw [refusedForSymbol_iff, hsymbol] at hfits
    omega
  · intro hshort S C R m env s h o result ho hresult
    have hsymbol := (executeTriangle_symbol m o).result hresult
    rw [refusedForSymbol_iff, hsymbol, ho]
    omega

theorem triangles_recordable_iff {raw : String} {triangles : List TriangleConfig}
    (h : parseMonitoredTriangles raw = .ok triangles) :
    (∀ t ∈ triangles, Recordable t) ↔
      ∀ chunk ∈ chunks raw, ∀ quote bridge target exchange : String,
        pySplit ':' chunk = [quote, bridge, target, exchange] →
          2 * quote.length + bridge.length + target.length ≤ 14 := by
  have hparsed := parseEntries_ok h
  constructor
  · intro hall chunk hchunk quote bridge target exchange hsplit
    have hmem : TriangleConfig.ofParts (pySplit ':' chunk) ∈ triangles.map some := by
      rw [← hparsed]
      exact List.mem_map_of_mem hchunk
    obtain ⟨t, ht, hparts⟩ := List.mem_map.mp hmem
    have hentry := TriangleConfig.ofParts_eq_some.mp hparts.symm
    rw [hsplit] at hentry
    cases hentry
    exact (recordable_iff t).mp (hall t ht)
  · intro hall t ht
    have hmem : some t ∈
        (chunks raw).map fun chunk => TriangleConfig.ofParts (pySplit ':' chunk) := by
      rw [hparsed]
      exact List.mem_map_of_mem ht
    obtain ⟨chunk, hchunk, hparts⟩ := List.mem_map.mp hmem
    exact (recordable_iff t).mpr
      (hall chunk hchunk _ _ _ _ (TriangleConfig.ofParts_eq_some.mp hparts))

theorem triangles_recordable_eth : Recordable ⟨"binance", "USDT", "BTC", "ETH"⟩ := by
  have hparsed : parseMonitoredTriangles "USDT:BTC:ETH:binance" =
      .ok [⟨"binance", "USDT", "BTC", "ETH"⟩] := by decide +kernel
  have hchunks : chunks "USDT:BTC:ETH:binance" = ["USDT:BTC:ETH:binance"] := by decide +kernel
  have hparts : pySplit ':' "USDT:BTC:ETH:binance" = ["USDT", "BTC", "ETH", "binance"] := by
    decide +kernel
  refine (triangles_recordable_iff hparsed).mpr ?_ _ (List.mem_singleton_self _)
  intro chunk hchunk quote bridge target exchange hsplit
  rw [hchunks, List.mem_singleton] at hchunk
  rw [hchunk, hparts] at hsplit
  cases hsplit
  decide

/-- An entry of the list the repository ships: `USDT->BTC->DOGE->USDT` has 21 characters. -/
theorem triangles_recordable_doge :
    ∃ triangles, parseMonitoredTriangles "USDT:BTC:DOGE:binance" = .ok triangles ∧
      ∃ t ∈ triangles, ¬Recordable t := by
  have hparsed : parseMonitoredTriangles "USDT:BTC:DOGE:binance" =
      .ok [⟨"binance", "USDT", "BTC", "DOGE"⟩] := by decide +kernel
  refine ⟨_, hparsed, _, List.mem_singleton_self _, ?_⟩
  rw [recordable_iff]
  decide

end BimodalArbitrage.Db
