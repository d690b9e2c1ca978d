import BimodalArbitrage.Runtime.Evaluations

/-!
# The daily counter over several days

A monitor counts from its first trade on; nothing resets the counter at midnight.
-/

namespace BimodalArbitrage.Runtime
open Coop Execution Marketdata Api Coro

def onDay (day : ℚ → ℤ) (d : ℤ) (log : Log) : Log := log.filter fun e => day e.state.now = d

def offDay (day : ℚ → ℤ) (d : ℤ) (log : Log) : Log := log.filter fun e => day e.state.now ≠ d

/-- The call, had the gate been told today's volume. -/
def GateCall.ofToday (day : ℚ → ℤ) (m : MonitorId) (before : Log) (s : AppState)
    (call : GateCall) : GateCall :=
  { call with dailyNotionalUsedUsd := executedBy (onDay day (day s.now) before) m }

/-- The gate is told today's volume, and refuses nothing for the sake of another day's. -/
structure CountsToday (day : ℚ → ℤ) (m : MonitorId) (before : Log) (s : AppState)
    (call : GateCall) : Prop where
  today : call.dailyNotionalUsedUsd = executedBy (onDay day (day s.now) before) m
  refused : call.verdict.1 = false → (call.ofToday day m before s).verdict.1 = false

section
variable {day : ℚ → ℤ} {m : MonitorId}

theorem executedBy_append (log log' : Log) :
    executedBy (log ++ log') m = executedBy log m + executedBy log' m := by
  simp only [executedBy, bookings, List.filterMap_append, List.filter_append, List.map_append,
    List.sum_append]

theorem executedBy_days (day : ℚ → ℤ) (d : ℤ) (log : Log) :
    executedBy log m = executedBy (onDay day d log) m + executedBy (offDay day d log) m := by
  induction log with
  | nil => exact (add_zero _).symm
  | cons e log ih =>
    have hsplit : executedBy (e :: log) m = executedBy [e] m + executedBy log m :=
      executedBy_append [e] log
    rw [hsplit, ih]
    by_cases hd : day e.state.now = d
    · have hon : onDay day d (e :: log) = [e] ++ onDay day d log := by simp [onDay, hd]
      have hoff : offDay day d (e :: log) = offDay day d log := by simp [offDay, hd]
      rw [hon, hoff, executedBy_append, add_assoc]
    · have hon : onDay day d (e :: log) = onDay day d log := by simp [onDay, hd]
      have hoff : offDay day d (e :: log) = [e] ++ offDay day d log := by simp [offDay, hd]
      rw [hon, hoff, executedBy_append, add_left_comm]

theorem Told.countsToday_iff {before : Log} {s : AppState} {call : GateCall}
    (h : Told before s m call) :
    CountsToday day m before s call ↔ executedBy (offDay day (day s.now) before) m = 0 := by
  have hdays := h.daily.trans (executedBy_days day (day s.now) before)
  constructor
  · intro hcounts
    have htoday := hdays.symm.trans hcounts.today
    linarith
  · intro hother
    have htoday : call.dailyNotionalUsedUsd = executedBy (onDay day (day s.now) before) m := by
      rw [hdays, hother, add_zero]
    have hsame : call.ofToday day m before s = call := by rw [GateCall.ofToday, ← htoday]
    exact ⟨htoday, fun hrefused => by rw [hsame]; exact hrefused⟩

end

/-- In every run and for every calendar, the counter means today exactly when the monitor
has no volume of other days whenever it asks the gate. -/
theorem counter_means_today_iff (day : ℚ → ℤ) (host : Host) (config : RunnerConfig)
    (chs : List (Choice TaskId Input)) (L : ProcessLoop)
    (hrun : runProcess host config chs = some L) (m : MonitorId) :
    Throughout (fun before e => ∀ call ∈ e.event.askedBy m,
        CountsToday day m before e.state call) L.world.log ↔
      Throughout (fun before e => ∀ call ∈ e.event.askedBy m,
        executedBy (offDay day (day e.state.now) before) m = 0) L.world.log := by
  refine throughout_congr (told_of_run hrun m) fun before e htold => ?_
  exact forall₂_congr fun call hcall => (htold call hcall).countsToday_iff

/-! ### Two days -/

def utcDay (seconds : ℚ) : ℤ := ⌊seconds / 86400⌋

theorem counter_means_today_oneDay :
    ∃ L, runProcess bareHost twoTriangles (startTriangles 2 ++ firstTrade 0) = some L ∧
      (Throughout (fun before e => ∀ call ∈ e.event.askedBy (.triangle 0),
          CountsToday utcDay (.triangle 0) before e.state call) L.world.log ↔
        Throughout (fun before e => ∀ call ∈ e.event.askedBy (.triangle 0),
          executedBy (offDay utcDay (utcDay e.state.now) before) (.triangle 0) = 0)
          L.world.log) := by
  have hsome : (runProcess bareHost twoTriangles (startTriangles 2 ++ firstTrade 0)).isSome =
      true := by decide +kernel
  obtain ⟨L, hL⟩ := Option.isSome_iff_exists.mp hsome
  exact ⟨L, hL, counter_means_today_iff utcDay bareHost twoTriangles _ L hL (.triangle 0)⟩

/-- Ten trades use the cap up, and the first evaluation of the next day is refused. -/
def nextMorning : List (Choice TaskId Input) :=
  startTriangles 2 ++ firstTrade 0 ++ (List.replicate 9 (nextTrade 0)).flatten ++
    [.drift (.tick 86400)] ++ deliverLevel 0 .bridgeQuote 10 ++
    deliverLevel 0 .targetBridge (1 / 10) ++ deliverLevel 0 .targetQuote 2 ++
    readBooks 0 .bridgeQuote

theorem counter_means_today_nextMorning :
    ∃ L, runProcess bareHost twoTriangles nextMorning = some L ∧
      ¬Throughout (fun before e => ∀ call ∈ e.event.askedBy (.triangle 0),
        CountsToday utcDay (.triangle 0) before e.state call) L.world.log := by
  have hrun : (runProcess bareHost twoTriangles nextMorning).map (fun L => decide (Throughout
      (fun before e => ∀ call ∈ e.event.askedBy (.triangle 0), call.verdict.1 = false →
        (call.ofToday utcDay (.triangle 0) before e.state).verdict.1 = false) L.world.log)) =
      some false := by decide +kernel
  obtain ⟨L, hL, hlog⟩ := Option.map_eq_some_iff.mp hrun
  refine ⟨L, hL, fun hcounts => of_decide_eq_false hlog ?_⟩
  exact fun before e after hsplit call hcall => (hcounts before e after hsplit call hcall).refused

end BimodalArbitrage.Runtime
