import BimodalArbitrage.Schemas

/-!
# Pre-trade risk gate (`backend/execution/decision.py`, `kill_switch.py`)
-/

namespace BimodalArbitrage.Execution

/-- The switch of `STATE`, which has no state file. -/
structure KillSwitch where
  engaged : Bool
  deriving DecidableEq

namespace KillSwitch

def engage (_ : KillSwitch) : KillSwitch := ⟨true⟩

def disengage (_ : KillSwitch) : KillSwitch := ⟨false⟩

/-- A copy of `limits` that carries the current state of the switch. -/
def apply {N : Type} (k : KillSwitch) (limits : RiskLimits N) : RiskLimits N :=
  { limits with killSwitchEngaged := k.engaged }

end KillSwitch

section
variable {N : Type} [Add N] [LT N] [LE N] [DecidableLT N] [DecidableLE N] [FormatFixed N]
open FormatFixed

def shouldExecute (netAlphaBps : N) (signal : ArbitrageSignal N) (limits : RiskLimits N)
    (tradeNotionalUsd : Option N) (dailyNotionalUsedUsd : N) : Bool × String :=
  if limits.killSwitchEngaged then (false, "kill switch engaged")
  else if netAlphaBps ≤ limits.minAlphaBps then
    (false, "net_alpha_bps " ++ formatFixed 4 netAlphaBps ++ " <= min_alpha_bps " ++
      formatFixed 4 limits.minAlphaBps)
  else if signal.executionProbability ≤ limits.minExecutionProbability then
    (false, "execution_probability " ++ formatFixed 4 signal.executionProbability ++
      " <= min_execution_probability " ++ formatFixed 4 limits.minExecutionProbability)
  else if signal.adverseHazard ≥ limits.maxAdverseHazard then
    (false, "adverse_hazard " ++ formatFixed 4 signal.adverseHazard ++
      " >= max_adverse_hazard " ++ formatFixed 4 limits.maxAdverseHazard)
  else match tradeNotionalUsd with
    | none => (true, "")
    | some tradeNotionalUsd =>
      if tradeNotionalUsd > limits.maxNotionalUsdPerTrade then
        (false, "trade_notional_usd " ++ formatFixed 2 tradeNotionalUsd ++
          " > max_notional_usd_per_trade " ++ formatFixed 2 limits.maxNotionalUsdPerTrade)
      else
        let projectedDaily := dailyNotionalUsedUsd + tradeNotionalUsd
        if projectedDaily > limits.maxDailyNotionalUsd then
          (false, "projected daily notional " ++ formatFixed 2 projectedDaily ++
            " > max_daily_notional_usd " ++ formatFixed 2 limits.maxDailyNotionalUsd)
        else (true, "")

/-- One of the comparisons that refuse holds. -/
def Refused (netAlphaBps : N) (signal : ArbitrageSignal N) (limits : RiskLimits N)
    (tradeNotionalUsd : Option N) (dailyNotionalUsedUsd : N) : Prop :=
  limits.killSwitchEngaged = true ∨ netAlphaBps ≤ limits.minAlphaBps ∨
    signal.executionProbability ≤ limits.minExecutionProbability ∨
    limits.maxAdverseHazard ≤ signal.adverseHazard ∨
    ∃ notional ∈ tradeNotionalUsd, limits.maxNotionalUsdPerTrade < notional ∨
      limits.maxDailyNotionalUsd < dailyNotionalUsedUsd + notional

theorem shouldExecute_eq_true_iff {netAlphaBps : N} {signal : ArbitrageSignal N}
    {limits : RiskLimits N} {tradeNotionalUsd : Option N} {dailyNotionalUsedUsd : N} :
    (shouldExecute netAlphaBps signal limits tradeNotionalUsd dailyNotionalUsedUsd).1 = true ↔
      ¬Refused netAlphaBps signal limits tradeNotionalUsd dailyNotionalUsedUsd := by
  unfold shouldExecute Refused
  by_cases hk : limits.killSwitchEngaged = true
  · simp [hk]
  by_cases ha : netAlphaBps ≤ limits.minAlphaBps
  · simp [hk, ha]
  by_cases hp : signal.executionProbability ≤ limits.minExecutionProbability
  · simp [hk, ha, hp]
  by_cases hh : limits.maxAdverseHazard ≤ signal.adverseHazard
  · simp [hk, ha, hp, hh]
  cases tradeNotionalUsd with
  | none => simp [hk, ha, hp, hh]
  | some notional =>
    by_cases hn : limits.maxNotionalUsdPerTrade < notional
    · simp [hk, ha, hp, hh, hn]
    · by_cases hd : limits.maxDailyNotionalUsd < dailyNotionalUsedUsd + notional <;>
        simp [hk, ha, hp, hh, hn, hd]

end

/-- Over the rationals the chain of refusals is the documented conjunction. -/
theorem shouldExecute_iff (netAlphaBps : ℚ) (signal : ArbitrageSignal ℚ) (limits : RiskLimits ℚ)
    (notional daily : ℚ) :
    (shouldExecute netAlphaBps signal limits (some notional) daily).1 = true ↔
      limits.killSwitchEngaged = false ∧ limits.minAlphaBps < netAlphaBps ∧
      limits.minExecutionProbability < signal.executionProbability ∧
      signal.adverseHazard < limits.maxAdverseHazard ∧
      notional ≤ limits.maxNotionalUsdPerTrade ∧ daily + notional ≤ limits.maxDailyNotionalUsd := by
  rw [shouldExecute_eq_true_iff]
  simp only [Refused, Option.mem_some_iff, exists_eq_left', not_or, not_le, not_lt,
    Bool.not_eq_true]

end BimodalArbitrage.Execution
