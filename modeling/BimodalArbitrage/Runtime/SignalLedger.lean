import BimodalArbitrage.Runtime.Tasks
import BimodalArbitrage.Window.Suffix

/-!
# The ledger of the signals

`STATE.signal_history` forgets. The ledger of a log does not: it has a line for every
verdict a monitor was given, and in it the outcome of the trade that came of it.
-/

namespace BimodalArbitrage.Runtime
open Coop Execution Marketdata Api

structure Line where
  owner : MonitorId
  record : SignalRecord

/-- The `symbol`, `exchange_buy` and `exchange_sell` a monitor records. -/
def MonitorId.market (config : RunnerConfig) : MonitorId → Option (String × String × String)
  | .pair k => config.monitoredPairs[k]?.map fun p => (p.symbol, p.exchangeBuy, p.exchangeSell)
  | .triangle k => config.monitoredTriangles[k]?.map fun t => (t.label, t.exchange, t.exchange)

namespace SignalRecord

def ofCall (id : ℕ) (timestamp : ℚ) (market : String × String × String) (call : GateCall) :
    SignalRecord where
  id := id
  timestamp := timestamp
  symbol := market.1
  exchangeBuy := market.2.1
  exchangeSell := market.2.2
  netAlphaBps := call.netAlphaBps
  executionProbability := call.signal.executionProbability
  adverseHazard := call.signal.adverseHazard
  approved := call.verdict.1
  reason := call.verdict.2
  executionStatus := none
  realizedPnlUsd := none

def settle (result : TradeExecutionResult) (r : SignalRecord) : SignalRecord :=
  { r with
    executionStatus := some result.status.value
    realizedPnlUsd := some result.realizedPnlUsd }

def outcome (r : SignalRecord) : Option (String × ℚ) :=
  r.executionStatus.bind fun status => r.realizedPnlUsd.map fun pnl => (status, pnl)

def settleAt (id : ℕ) (result : TradeExecutionResult) (r : SignalRecord) : SignalRecord :=
  if r.id = id then r.settle result else r

/-- Approved, and waiting for the outcome of its trade. -/
structure Pending (r : SignalRecord) : Prop where
  approved : r.approved = true
  executionStatus : r.executionStatus = none

end SignalRecord

/-- The line a monitor wrote last. -/
def latest (m : MonitorId) (lines : List Line) : Option SignalRecord :=
  (lines.reverse.find? fun l => l.owner = m).map Line.record

def Line.settleAt (id : ℕ) (result : TradeExecutionResult) (l : Line) : Line :=
  { l with record := l.record.settleAt id result }

def settleLatest (m : MonitorId) (result : TradeExecutionResult) (lines : List Line) : List Line :=
  match latest m lines with
  | some r => lines.map (Line.settleAt r.id result)
  | none => lines

section
variable (config : RunnerConfig)

def note (lines : List Line) (e : Entry TaskId AppState Event) : List Line :=
  match e.event with
  | .shouldExecute (.monitor m) call =>
    lines ++ [⟨m, .ofCall lines.length e.state.now ((m.market config).getD ("", "", "")) call⟩]
  | .executed m result => settleLatest m result lines
  | _ => lines

def ledger (log : Log) : List Line := log.foldl (note config) []

theorem ledger_snoc (log : Log) (e : Entry TaskId AppState Event) :
    ledger config (log ++ [e]) = note config (ledger config log) e := List.foldl_append ..

end

def outcomesOf (m : MonitorId) (lines : List Line) : List (String × ℚ) :=
  lines.filterMap fun l => if l.owner = m then l.record.outcome else none

def Event.resultOf (m : MonitorId) : Event → Option (String × ℚ)
  | .executed m' result =>
    if m' = m then some (result.status.value, result.realizedPnlUsd) else none
  | _ => none

def resultsOf (m : MonitorId) (log : Log) : List (String × ℚ) :=
  log.filterMap fun e => e.event.resultOf m

/-! ### Lines are numbered in order -/

def Numbered (lines : List Line) : Prop :=
  lines.map (fun l => l.record.id) = List.range lines.length

section
variable {lines before after : List Line} {m m' : MonitorId} {r : SignalRecord} {l : Line}
  {result : TradeExecutionResult}

theorem numbered_snoc (h : Numbered lines) (hid : l.record.id = lines.length) :
    Numbered (lines ++ [l]) := by
  rw [Numbered, List.map_append, h, List.map_singleton, hid, List.length_append,
    List.length_singleton, List.range_succ]

theorem settleAt_id (id : ℕ) (result : TradeExecutionResult) (r : SignalRecord) :
    (r.settleAt id result).id = r.id := by
  unfold SignalRecord.settleAt
  split <;> rfl

theorem numbered_settle (h : Numbered lines) (id : ℕ) :
    Numbered (lines.map (Line.settleAt id result)) := by
  have hids : (fun l : Line => l.record.id) ∘ Line.settleAt id result =
      fun l => l.record.id := funext fun l => settleAt_id id result l.record
  rw [Numbered, List.map_map, hids, List.length_map]
  exact h

/-- The number of a line finds no other. -/
theorem settle_split (h : Numbered (before ++ l :: after)) :
    (before ++ l :: after).map (Line.settleAt l.record.id result) =
      before ++ { l with record := l.record.settle result } :: after := by
  have hself : l.settleAt l.record.id result = { l with record := l.record.settle result } := by
    rw [Line.settleAt, SignalRecord.settleAt, if_pos rfl]
  have hnodup : ((before ++ l :: after).map fun l => l.record.id).Nodup := by
    rw [h]
    exact List.nodup_range
  rw [List.map_append, List.map_cons, List.nodup_append, List.nodup_cons] at hnodup
  obtain ⟨-, ⟨hafter, -⟩, hbefore⟩ := hnodup
  have hsame : ∀ l' : Line, l'.record.id ≠ l.record.id →
      l'.settleAt l.record.id result = l' := fun l' hne => by
    rw [Line.settleAt, SignalRecord.settleAt, if_neg hne]
  have hmap : ∀ ls : List Line, (∀ l' ∈ ls, l'.record.id ≠ l.record.id) →
      ls.map (Line.settleAt l.record.id result) = ls := fun ls hne =>
    (List.map_congr_left fun l' hl' => hsame l' (hne l' hl')).trans (List.map_id' ls)
  rw [List.map_append, List.map_cons, hself, hmap before, hmap after]
  · exact fun l' hl' heq => hafter (heq ▸ List.mem_map_of_mem hl')
  · exact fun l' hl' => hbefore _ (List.mem_map_of_mem hl') _ (List.mem_cons_self ..)

/-! ### The latest line -/

theorem latest_snoc (lines : List Line) (l : Line) (m : MonitorId) :
    latest m (lines ++ [l]) = if l.owner = m then some l.record else latest m lines := by
  rw [latest, List.reverse_append, List.reverse_singleton, List.singleton_append, List.find?_cons]
  by_cases h : l.owner = m
  · simp [h]
  · simp [h, latest]

theorem split_of_latest (h : latest m lines = some r) :
    ∃ before after, lines = before ++ ⟨m, r⟩ :: after ∧ ∀ l ∈ after, l.owner ≠ m := by
  obtain ⟨⟨owner, record⟩, hfind, hr⟩ := Option.map_eq_some_iff.mp h
  obtain ⟨howner, after, before, hsplit, hafter⟩ := List.find?_eq_some_iff_append.mp hfind
  cases hr
  cases of_decide_eq_true howner
  refine ⟨before.reverse, after.reverse, ?_, fun l' hl' => ?_⟩
  · rw [← lines.reverse_reverse, hsplit, List.reverse_append, List.reverse_cons, List.append_assoc,
      List.singleton_append]
  · simpa using hafter l' (List.mem_reverse.mp hl')

theorem settleLatest_eq (result : TradeExecutionResult) (hnumbered : Numbered lines)
    (hlatest : latest m lines = some r) :
    ∃ before after, lines = before ++ ⟨m, r⟩ :: after ∧ (∀ l ∈ after, l.owner ≠ m) ∧
      settleLatest m result lines = before ++ ⟨m, r.settle result⟩ :: after := by
  obtain ⟨before, after, hsplit, hafter⟩ := split_of_latest hlatest
  subst hsplit
  refine ⟨before, after, rfl, hafter, ?_⟩
  rw [settleLatest, hlatest]
  exact settle_split (l := ⟨m, r⟩) hnumbered

theorem latest_settleLatest (result : TradeExecutionResult) (hnumbered : Numbered lines)
    (hlatest : latest m lines = some r) (m' : MonitorId) :
    latest m' (settleLatest m result lines) =
      if m = m' then some (r.settle result) else latest m' lines := by
  obtain ⟨before, after, hsplit, hafter, hsettled⟩ := settleLatest_eq result hnumbered hlatest
  have hnone : ∀ ls : List Line, (∀ l ∈ ls, l.owner ≠ m) →
      ls.reverse.find? (fun l => decide (l.owner = m)) = none := by
    intro ls hls
    rw [List.find?_eq_none]
    exact fun l hl => by simpa using hls l (List.mem_reverse.mp hl)
  rw [hsettled, latest, latest, hsplit]
  by_cases h : m = m'
  · subst h
    simp [List.find?_append, hnone after hafter]
  · simp [List.find?_append, h]

theorem outcomesOf_append (m : MonitorId) (before after : List Line) :
    outcomesOf m (before ++ after) = outcomesOf m before ++ outcomesOf m after :=
  List.filterMap_append

theorem outcomesOf_cons (m : MonitorId) (l : Line) (lines : List Line) :
    outcomesOf m (l :: lines) =
      (if l.owner = m then l.record.outcome.toList else []) ++ outcomesOf m lines := by
  by_cases h : l.owner = m
  · cases ho : l.record.outcome <;> simp [outcomesOf, h, ho]
  · simp [outcomesOf, h]

theorem outcomesOf_eq_nil (h : ∀ l ∈ lines, l.owner ≠ m) : outcomesOf m lines = [] := by
  rw [outcomesOf, List.filterMap_eq_nil_iff]
  exact fun l hl => if_neg (h l hl)

/-- The outcome of a pending line is the latest of its monitor. -/
theorem outcomesOf_settleLatest (hnumbered : Numbered lines) (hlatest : latest m lines = some r)
    (hpending : r.Pending) (m' : MonitorId) :
    outcomesOf m' (settleLatest m result lines) = outcomesOf m' lines ++
      if m = m' then [(result.status.value, result.realizedPnlUsd)] else [] := by
  obtain ⟨before, after, hsplit, hafter, hsettled⟩ := settleLatest_eq result hnumbered hlatest
  have hbefore : r.outcome = none := by
    rw [SignalRecord.outcome, hpending.executionStatus, Option.bind_none]
  have hsettle : (r.settle result).outcome =
      some (result.status.value, result.realizedPnlUsd) := rfl
  rw [hsettled, hsplit, outcomesOf_append, outcomesOf_append, outcomesOf_cons, outcomesOf_cons,
    hbefore, hsettle]
  by_cases h : m = m'
  · subst h
    simp [outcomesOf_eq_nil hafter]
  · simp [h]

end
end BimodalArbitrage.Runtime
