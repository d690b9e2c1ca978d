import BimodalArbitrage.Runtime.Evaluations

/-!
# Persistence over a whole run

The estimator divides by the evaluations it remembers, which are fewer than its window
until the window has filled once. What it calls persistent by then may be a single tick.
-/

namespace BimodalArbitrage.Runtime
open Coop Execution Marketdata Ml Api Coro

/-- The net alphas of the monitor up to the call, its own included. -/
def alphasAt (m : MonitorId) (before : Log) (call : GateCall) : List ℚ :=
  netAlphas m before ++ [call.netAlphaBps]

def positives (alphas : List ℚ) : ℕ := alphas.countP fun a => 0 < a

/-- Thirty evaluations, and more than 85% of the last thirty with a positive net alpha. -/
structure Persistent (alphas : List ℚ) : Prop where
  made : 30 ≤ alphas.length
  share : (85 / 100 : ℚ) * 30 < positives (alphas.rtake 30)

instance (alphas : List ℚ) : Decidable (Persistent alphas) :=
  decidable_of_iff (30 ≤ alphas.length ∧ (85 / 100 : ℚ) * 30 < positives (alphas.rtake 30))
    ⟨fun h => ⟨h.1, h.2⟩, fun h => ⟨h.made, h.share⟩⟩

/-- More than 85% of the net alphas the estimator remembers, the last thirty or all there
are, are positive. -/
def Remembered (alphas : List ℚ) : Prop :=
  (85 / 100 : ℚ) * (remembered alphas).length < positives (remembered alphas)

/-- Every approval rests on what the estimator remembers. -/
def RememberedApprovals (m : MonitorId) (log : Log) : Prop :=
  Throughout (fun before e => ∀ call ∈ e.event.askedBy m, call.verdict.1 = true →
    Remembered (alphasAt m before call)) log

def PersistentApprovals (m : MonitorId) (log : Log) : Prop :=
  Throughout (fun before e => ∀ call ∈ e.event.askedBy m, call.verdict.1 = true →
    Persistent (alphasAt m before call)) log

instance (m : MonitorId) (log : Log) : Decidable (PersistentApprovals m log) :=
  inferInstanceAs (Decidable (Throughout _ log))

/-- Before the window has filled, everything the gate looks at is in favour. -/
structure Premature (m : MonitorId) (before : Log) (s : AppState) (call : GateCall) : Prop where
  few : (alphasAt m before call).length < 30
  off : s.killSwitch.engaged = false
  alpha : defaultRiskLimits.minAlphaBps < call.netAlphaBps
  share : (85 / 100 : ℚ) * (alphasAt m before call).length < positives (alphasAt m before call)
  hazard : call.signal.adverseHazard < defaultRiskLimits.maxAdverseHazard
  notional : call.tradeNotionalUsd ≤ defaultRiskLimits.maxNotionalUsdPerTrade
  daily : executedBy before m + call.tradeNotionalUsd ≤ defaultRiskLimits.maxDailyNotionalUsd

section
variable {m : MonitorId} {before : Log} {s : AppState} {call : GateCall}

theorem alphasAt_length_pos (m : MonitorId) (before : Log) (call : GateCall) :
    0 < (alphasAt m before call).length := by
  simp [alphasAt]

theorem positiveShare_gt_iff {alphas : List ℚ} (hlength : 0 < alphas.length) :
    (85 / 100 : ℚ) < HeuristicSignalEstimator.positiveShare alphas ↔
      (85 / 100 : ℚ) * alphas.length < positives alphas :=
  lt_div_iff₀ (Nat.cast_pos.mpr hlength)

theorem remembered_of_few {alphas : List ℚ} (hfew : alphas.length < 30) :
    remembered alphas = alphas := by
  have hdrop : alphas.length - (defaultHeuristicConfig (N := ℚ)).windowSize = 0 := by
    rw [Nat.sub_eq_zero_iff_le]
    exact hfew.le
  rw [remembered, List.rtake, hdrop, List.drop_zero]

theorem remembered_length {alphas : List ℚ} (hmade : 30 ≤ alphas.length) :
    (remembered alphas).length = 30 := by
  have hwindow : (defaultHeuristicConfig (N := ℚ)).windowSize = 30 := rfl
  rw [remembered, List.rtake, List.length_drop, hwindow]
  omega

theorem Told.verdict_iff (h : Told before s m call) :
    call.verdict.1 = true ↔
      s.killSwitch.engaged = false ∧ defaultRiskLimits.minAlphaBps < call.netAlphaBps ∧
        (85 / 100 : ℚ) < HeuristicSignalEstimator.positiveShare
          (remembered (alphasAt m before call)) ∧
        call.signal.adverseHazard < defaultRiskLimits.maxAdverseHazard ∧
        call.tradeNotionalUsd ≤ defaultRiskLimits.maxNotionalUsdPerTrade ∧
        executedBy before m + call.tradeNotionalUsd ≤ defaultRiskLimits.maxDailyNotionalUsd := by
  have hfloor : (defaultRiskLimits.minExecutionProbability : ℚ) = 85 / 100 := by decide +kernel
  rw [GateCall.verdict, shouldExecute_iff, h.limits, h.daily, h.probability]
  simp only [KillSwitch.apply, hfloor, alphasAt]

theorem Told.premature_iff (h : Told before s m call)
    (hfew : (alphasAt m before call).length < 30) :
    call.verdict.1 = true ↔ Premature m before s call := by
  rw [h.verdict_iff, remembered_of_few hfew, positiveShare_gt_iff (alphasAt_length_pos ..)]
  constructor
  · rintro ⟨hoff, halpha, hshare, hhazard, hnotional, hdaily⟩
    exact ⟨hfew, hoff, halpha, hshare, hhazard, hnotional, hdaily⟩
  · rintro ⟨-, hoff, halpha, hshare, hhazard, hnotional, hdaily⟩
    exact ⟨hoff, halpha, hshare, hhazard, hnotional, hdaily⟩

theorem remembered_length_pos {alphas : List ℚ} (hlength : 0 < alphas.length) :
    0 < (remembered alphas).length := by
  have hwindow : (defaultHeuristicConfig (N := ℚ)).windowSize = 30 := rfl
  rw [remembered, List.rtake, List.length_drop, hwindow]
  omega

theorem Told.remembered (h : Told before s m call) (happroved : call.verdict.1 = true) :
    Remembered (alphasAt m before call) := by
  obtain ⟨-, -, hshare, -⟩ := h.verdict_iff.mp happroved
  exact (positiveShare_gt_iff (remembered_length_pos (alphasAt_length_pos ..))).mp hshare

theorem Told.persistent (h : Told before s m call) (hmade : 30 ≤ (alphasAt m before call).length)
    (happroved : call.verdict.1 = true) : Persistent (alphasAt m before call) := by
  have hshare := h.remembered happroved
  rw [Remembered, remembered_length hmade] at hshare
  exact ⟨hmade, hshare⟩

theorem Told.persistent_iff (h : Told before s m call) :
    (call.verdict.1 = true → Persistent (alphasAt m before call)) ↔
      ¬Premature m before s call := by
  by_cases hfew : (alphasAt m before call).length < 30
  · rw [← h.premature_iff hfew]
    have hnever : ¬Persistent (alphasAt m before call) := fun hp => hfew.not_ge hp.made
    exact ⟨fun hp happroved => hnever (hp happroved), fun hp happroved => absurd happroved hp⟩
  · exact ⟨fun _ hpremature => hfew hpremature.few,
      fun _ happroved => h.persistent (not_lt.mp hfew) happroved⟩

end

end BimodalArbitrage.Runtime
