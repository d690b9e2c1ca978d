import BimodalArbitrage.Crash.Lines
import BimodalArbitrage.Marketdata.SnapshotText

/-!
# The sample log (`backend/marketdata/sample_logger.py`)

Worker threads append to one file, in any order, a record at a time. The process may be
killed in the middle of one.
-/

namespace BimodalArbitrage.Marketdata
open Crash
open Json (Printable PrintableElements PrintableMembers)

/-- What `log` is given, and the time it reads. -/
structure Sample where
  timestamp : ℚ
  symbol : String
  exchangeBuy : String
  exchangeSell : String
  netAlphaBps : ℚ
  temporal : TemporalFeatures
  depth : DepthMatrix

namespace Sample

def rows (rows : List (List ℚ)) : JsonValue :=
  .array (rows.map fun row => .array (row.map .number))

def record (s : Sample) : JsonValue :=
  .object [("timestamp", .number s.timestamp), ("symbol", .string s.symbol),
    ("exchange_buy", .string s.exchangeBuy), ("exchange_sell", .string s.exchangeSell),
    ("net_alpha_bps", .number s.netAlphaBps), ("temporal_window", rows s.temporal.window),
    ("depth_grid", rows s.depth.grid)]

/-- Every float of the sample is printed as a numeral. -/
structure Prints (repr : ℚ → List Char) (s : Sample) : Prop where
  timestamp : PrintsFloat repr s.timestamp
  netAlphaBps : PrintsFloat repr s.netAlphaBps
  entries : ∀ row ∈ s.temporal.window ++ s.depth.grid, ∀ q ∈ row, PrintsFloat repr q

end Sample

/-- `SampleLogger.log`, up to the end of the line. -/
def SampleLogger.log (repr : ℚ → List Char) (s : Sample) : List Char :=
  Json.dumps repr s.record.toJson

/-- A line of the file as a record. -/
def readRecord (line : List Char) : Option JsonValue := (Json.loads line).bind JsonValue.ofJson

section
variable {repr : ℚ → List Char}

theorem printable_row {row : List ℚ} (h : ∀ q ∈ row, PrintsFloat repr q) :
    PrintableElements repr (JsonValue.elementsToJson (row.map .number)) := by
  induction row with
  | nil =>
    rw [List.map_nil, JsonValue.elementsToJson, PrintableElements]
    trivial
  | cons q row ih =>
    rw [List.map_cons, JsonValue.elementsToJson, JsonValue.toJson, PrintableElements, Printable]
    exact ⟨h q (List.mem_cons_self ..), ih fun p hp => h p (List.mem_cons_of_mem _ hp)⟩

theorem printable_rows {rows : List (List ℚ)} (h : ∀ row ∈ rows, ∀ q ∈ row, PrintsFloat repr q) :
    Printable repr (Sample.rows rows).toJson := by
  rw [Sample.rows, JsonValue.toJson, Printable]
  induction rows with
  | nil =>
    rw [List.map_nil, JsonValue.elementsToJson, PrintableElements]
    trivial
  | cons row rows ih =>
    rw [List.map_cons, JsonValue.elementsToJson, JsonValue.toJson, PrintableElements, Printable]
    exact ⟨printable_row (h row (List.mem_cons_self ..)),
      ih fun other hother => h other (List.mem_cons_of_mem _ hother)⟩

theorem Sample.Prints.printable {s : Sample} (h : s.Prints repr) :
    Printable repr s.record.toJson := by
  have hwindow : Printable repr (rows s.temporal.window).toJson :=
    printable_rows fun row hrow => h.entries row (List.mem_append_left _ hrow)
  have hgrid : Printable repr (rows s.depth.grid).toJson :=
    printable_rows fun row hrow => h.entries row (List.mem_append_right _ hrow)
  simp only [record, JsonValue.toJson, JsonValue.membersToJson, Printable, PrintableMembers,
    clean_codePoints, true_and, and_true]
  exact ⟨h.timestamp, h.netAlphaBps, hwindow, hgrid⟩

theorem readRecord_log {s : Sample} (h : s.Prints repr) :
    readRecord (SampleLogger.log repr s) = some s.record := by
  rw [readRecord, SampleLogger.log, Json.loads_dumps h.printable, Option.bind_some, ofJson_toJson]

/-- Whatever its strings hold, a record is one line. -/
theorem oneLine_log {s : Sample} (h : s.Prints repr) : OneLine (SampleLogger.log repr s) := by
  intro c hc
  have hplain := Json.plain_printValue _ h.printable c hc
  refine ⟨?_, ?_⟩ <;>
  · rintro rfl
    exact absurd hplain.1 (by decide)

end

def wholeSample (n : ℕ) : Sample := ⟨n, "BTC/USDT", "kraken", "bybit", 2, ⟨[[1, 2]]⟩, ⟨[[3]]⟩⟩

/-- The second call is killed after ten characters. -/
def killedOnce : List (LineWrite Sample) :=
  [⟨wholeSample 1, none⟩, ⟨wholeSample 2, some 10⟩, ⟨wholeSample 3, none⟩, ⟨wholeSample 4, none⟩]

end BimodalArbitrage.Marketdata
