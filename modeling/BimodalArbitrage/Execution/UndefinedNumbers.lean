import BimodalArbitrage.Execution.Decision
import BimodalArbitrage.Numbers.Undefined

/-!
# The risk gate on undefined numbers

The documented gate authorizes where three comparisons hold; the code refuses where one
of their negations does. On undefined numbers neither happens.
-/

namespace BimodalArbitrage.Execution

instance {α : Type} [FormatFixed α] : FormatFixed (WithNaN α) where
  formatFixed
    | _, .nan => "nan"
    | n, .num a => FormatFixed.formatFixed n a

section
variable {α : Type} [LinearOrder α] [Add α]
  (netAlphaBps : WithNaN α) (signal : ArbitrageSignal (WithNaN α)) (limits : RiskLimits (WithNaN α))
  (tradeNotionalUsd : Option (WithNaN α)) (dailyNotionalUsedUsd : WithNaN α)

/-- What an authorized execution is documented to meet. -/
structure Authorized : Prop where
  off : limits.killSwitchEngaged = false
  alpha : limits.minAlphaBps < netAlphaBps
  probability : limits.minExecutionProbability < signal.executionProbability
  hazard : signal.adverseHazard < limits.maxAdverseHazard
  notional : ∀ notional ∈ tradeNotionalUsd, notional ≤ limits.maxNotionalUsdPerTrade
  daily : ∀ notional ∈ tradeNotionalUsd,
    dailyNotionalUsedUsd + notional ≤ limits.maxDailyNotionalUsd

/-- Every number that is compared is one. -/
structure AllDefined : Prop where
  alpha : netAlphaBps.Defined ∧ limits.minAlphaBps.Defined
  probability : signal.executionProbability.Defined ∧ limits.minExecutionProbability.Defined
  hazard : signal.adverseHazard.Defined ∧ limits.maxAdverseHazard.Defined
  notional : ∀ notional ∈ tradeNotionalUsd,
    notional.Defined ∧ limits.maxNotionalUsdPerTrade.Defined
  daily : ∀ notional ∈ tradeNotionalUsd,
    dailyNotionalUsedUsd.Defined ∧ limits.maxDailyNotionalUsd.Defined

end

section
variable {α : Type} [LinearOrder α] [Add α] {netAlphaBps : WithNaN α}
  {signal : ArbitrageSignal (WithNaN α)} {limits : RiskLimits (WithNaN α)}
  {tradeNotionalUsd : Option (WithNaN α)} {dailyNotionalUsedUsd : WithNaN α}

theorem Authorized.allDefined
    (h : Authorized netAlphaBps signal limits tradeNotionalUsd dailyNotionalUsedUsd) :
    AllDefined netAlphaBps signal limits tradeNotionalUsd dailyNotionalUsedUsd where
  alpha := (WithNaN.defined_of_lt h.alpha).symm
  probability := (WithNaN.defined_of_lt h.probability).symm
  hazard := WithNaN.defined_of_lt h.hazard
  notional n hn := WithNaN.defined_of_le (h.notional n hn)
  daily n hn := by
    obtain ⟨hsum, hlimit⟩ := WithNaN.defined_of_le (h.daily n hn)
    exact ⟨(WithNaN.defined_add.mp hsum).1, hlimit⟩

theorem AllDefined.authorized
    (h : AllDefined netAlphaBps signal limits tradeNotionalUsd dailyNotionalUsedUsd)
    (hpassed : ¬Refused netAlphaBps signal limits tradeNotionalUsd dailyNotionalUsedUsd) :
    Authorized netAlphaBps signal limits tradeNotionalUsd dailyNotionalUsedUsd := by
  simp only [Refused, not_or, not_exists, not_and] at hpassed
  obtain ⟨hoff, halpha, hprobability, hhazard, hnotional⟩ := hpassed
  refine ⟨eq_false_of_ne_true hoff, ?_, ?_, ?_, fun n hn => ?_, fun n hn => ?_⟩
  · exact WithNaN.lt_of_not_le h.alpha.1 h.alpha.2 halpha
  · exact WithNaN.lt_of_not_le h.probability.1 h.probability.2 hprobability
  · exact WithNaN.lt_of_not_le h.hazard.2 h.hazard.1 hhazard
  · exact WithNaN.le_of_not_lt (h.notional n hn).2 (h.notional n hn).1 (hnotional n hn).1
  · have hsum := WithNaN.defined_add.mpr ⟨(h.daily n hn).1, (h.notional n hn).1⟩
    exact WithNaN.le_of_not_lt (h.daily n hn).2 hsum (hnotional n hn).2

end

/-- The gate fails closed exactly where it refuses or every number it compares is one. -/
theorem gate_failsClosed_iff {α : Type} [LinearOrder α] [Add α] [FormatFixed α]
    (netAlphaBps : WithNaN α) (signal : ArbitrageSignal (WithNaN α))
    (limits : RiskLimits (WithNaN α)) (tradeNotionalUsd : Option (WithNaN α))
    (dailyNotionalUsedUsd : WithNaN α) :
    ((shouldExecute netAlphaBps signal limits tradeNotionalUsd dailyNotionalUsedUsd).1 = true →
        Authorized netAlphaBps signal limits tradeNotionalUsd dailyNotionalUsedUsd) ↔
      Refused netAlphaBps signal limits tradeNotionalUsd dailyNotionalUsedUsd ∨
        AllDefined netAlphaBps signal limits tradeNotionalUsd dailyNotionalUsedUsd := by
  rw [shouldExecute_eq_true_iff]
  constructor
  · intro h
    by_cases hrefused : Refused netAlphaBps signal limits tradeNotionalUsd dailyNotionalUsedUsd
    · exact .inl hrefused
    · exact .inr (h hrefused).allDefined
  · rintro (hrefused | hdefined) hpassed
    · exact absurd hrefused hpassed
    · exact hdefined.authorized hpassed

/-- `RiskLimits()`. -/
def sampleLimits : RiskLimits (WithNaN ℚ) where
  minAlphaBps := .num defaultRiskLimits.minAlphaBps
  minExecutionProbability := .num defaultRiskLimits.minExecutionProbability
  maxAdverseHazard := .num defaultRiskLimits.maxAdverseHazard
  maxNotionalUsdPerTrade := .num defaultRiskLimits.maxNotionalUsdPerTrade
  maxDailyNotionalUsd := .num defaultRiskLimits.maxDailyNotionalUsd
  killSwitchEngaged := false

/-- A model with two undefined heads is authorized to trade. -/
theorem gate_failsClosed_nan :
    (shouldExecute (.num 20) ⟨.nan, .num 20, .nan⟩ sampleLimits (some (.num 50))
        (.num 0)).1 = true ∧
      ¬Authorized (.num 20) ⟨.nan, .num 20, .nan⟩ sampleLimits (some (.num 50)) (.num 0) :=
  ⟨by decide +kernel, fun h => h.probability⟩

end BimodalArbitrage.Execution
