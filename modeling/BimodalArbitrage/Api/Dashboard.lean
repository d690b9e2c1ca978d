import BimodalArbitrage.Runtime.State
import BimodalArbitrage.Window.Suffix

/-!
# The signals of the dashboard (`backend/api/dashboard.py`)
-/

namespace BimodalArbitrage.Api
open Coop BimodalArbitrage.Runtime

/-- `RuntimeState`, as far as its signals go. -/
structure RuntimeState where
  historySize : ℕ
  signalHistory : List SignalRecord

def RuntimeState.create (historySize : ℕ) : RuntimeState := ⟨historySize, []⟩

def RuntimeState.recordSignal (s : RuntimeState) (record : SignalRecord) : RuntimeState :=
  { s with signalHistory := pushBounded s.historySize s.signalHistory record }

inductive Field where
  | none
  | number (x : ℚ)
  | text (s : String)
  | flag (b : Bool)
  deriving DecidableEq

def Field.ofText (s : Option String) : Field := s.elim .none .text
def Field.ofNumber (x : Option ℚ) : Field := x.elim .none .number

def SignalRecord.toDict (r : SignalRecord) : List (String × Field) :=
  [("id", .number r.id), ("timestamp", .number r.timestamp), ("symbol", .text r.symbol),
    ("exchange_buy", .text r.exchangeBuy), ("exchange_sell", .text r.exchangeSell),
    ("net_alpha_bps", .number r.netAlphaBps),
    ("execution_probability", .number r.executionProbability),
    ("adverse_hazard", .number r.adverseHazard), ("approved", .flag r.approved),
    ("reason", .text r.reason), ("execution_status", .ofText r.executionStatus),
    ("realized_pnl_usd", .ofNumber r.realizedPnlUsd)]

def getSignals (s : RuntimeState) (limit : ℤ) : List (List (String × Field)) :=
  let records := pySliceFrom s.signalHistory (-limit)
  records.reverse.map SignalRecord.toDict

/-- The state of the process records as `RuntimeState` does. -/
theorem recordSignal_history (symbol exchangeBuy exchangeSell : String) (call : GateCall)
    (s : AppState) : ∃ record : SignalRecord, record.id = s.nextSignal ∧
      (s.recordSignal symbol exchangeBuy exchangeSell call).signalHistory =
        (RuntimeState.recordSignal ⟨AppState.historySize, s.signalHistory⟩ record).signalHistory :=
  ⟨_, rfl, rfl⟩

/-! ### Pages -/

/-- What was recorded last, the latest first. -/
def PageExact (historySize : ℕ) (recorded : List SignalRecord) (limit : ℕ) : Prop :=
  getSignals (recorded.foldl RuntimeState.recordSignal (.create historySize)) limit =
    (recorded.reverse.take (min limit (min recorded.length historySize))).map SignalRecord.toDict

theorem record_all (historySize : ℕ) (recorded : List SignalRecord) :
    recorded.foldl RuntimeState.recordSignal (.create historySize) =
      ⟨historySize, recorded.rtake historySize⟩ := by
  induction recorded using List.reverseRecOn with
  | nil =>
    rw [List.rtake_nil]
    rfl
  | append_singleton recorded record ih =>
    rw [List.foldl_append, ih, List.foldl_cons, List.foldl_nil, RuntimeState.recordSignal,
      pushBounded_rtake]

section
variable {historySize limit : ℕ} {recorded : List SignalRecord}

theorem pageExact_of_pos (hlimit : 0 < limit) : PageExact historySize recorded limit := by
  have hpage : recorded.reverse.take (min limit (min recorded.length historySize)) =
      (recorded.reverse.take historySize).take limit := by
    rw [List.take_take, List.take_eq_take_iff, List.length_reverse]
    omega
  rw [PageExact, record_all, getSignals, pySliceFrom_neg _ hlimit, Window.reverse_rtake,
    Window.reverse_rtake, hpage]

theorem getSignals_zero (s : RuntimeState) :
    getSignals s (0 : ℕ) = s.signalHistory.reverse.map SignalRecord.toDict := rfl

end

/-- A limit of zero asks for the whole history. -/
theorem pageExact_iff (historySize : ℕ) (hsize : 1 ≤ historySize) (recorded : List SignalRecord)
    (limit : ℕ) : PageExact historySize recorded limit ↔ 0 < limit ∨ recorded = [] := by
  constructor
  · intro h
    rcases Nat.eq_zero_or_pos limit with rfl | hlimit
    · rw [PageExact, record_all, getSignals_zero, Nat.zero_min, List.take_zero, List.map_nil,
        List.map_eq_nil_iff, List.reverse_eq_nil_iff] at h
      have hnil : recorded.rtake historySize = [] := h
      have hlength := Window.length_rtake historySize recorded
      rw [hnil, List.length_nil] at hlength
      exact .inr (List.length_eq_zero_iff.mp (by omega))
    · exact .inl hlimit
  · rintro (hlimit | rfl)
    · exact pageExact_of_pos hlimit
    · rcases Nat.eq_zero_or_pos limit with rfl | hlimit
      · rfl
      · exact pageExact_of_pos hlimit

/-- One approved signal. -/
def sampleSignal : SignalRecord :=
  ⟨0, 12, "BTC/USDT", "binance", "kraken", 20, 9 / 10, 1 / 10, true, "approved", none, none⟩

theorem pageExact_sampleSignal :
    PageExact 300 [sampleSignal, { sampleSignal with id := 1 }] 1 :=
  (pageExact_iff 300 (by decide) [sampleSignal, { sampleSignal with id := 1 }] 1).mpr
    (.inl Nat.one_pos)

/-- Nothing is asked for, and the signal is returned. -/
theorem pageExact_limitZero : ¬PageExact 300 [sampleSignal] 0 := by
  intro h
  exact absurd (congrArg List.length h) (by decide +kernel)

end BimodalArbitrage.Api
