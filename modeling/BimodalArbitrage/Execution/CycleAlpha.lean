import BimodalArbitrage.Execution.Alpha
import Mathlib.Tactic.FieldSimp
import Mathlib.Tactic.Linarith
import Mathlib.Tactic.NormNum
import Mathlib.Tactic.Positivity
import Mathlib.Tactic.Ring

/-!
# The net alpha of a cycle in closed form

Three conversions and three fees make one factor, in which the notional cancels.
-/

namespace BimodalArbitrage.Execution

/-- What a unit of the quote currency becomes in one cycle. -/
def cycleFactor (vwapBridgeQuote vwapTargetBridge vwapTargetQuote tau : ℚ) : ℚ :=
  (1 - tau) ^ 3 * vwapTargetQuote / (vwapBridgeQuote * vwapTargetBridge)

section
variable {notional p₁ p₂ p₃ tau tau' : ℚ}

theorem computeTriangularNetAlpha_eq (hnotional : 0 < notional) (h₁ : 0 < p₁) (h₂ : 0 < p₂)
    (h₃ : 0 < p₃) (tau : ℚ) :
    computeTriangularNetAlpha notional p₁ p₂ p₃ tau =
      .ok ⟨cycleFactor p₁ p₂ p₃ tau - 1, notional * ((1 - tau) / p₁),
        notional * ((1 - tau) ^ 2 / (p₁ * p₂))⟩ := by
  have hvwaps : ¬(p₁ ≤ 0 ∨ p₂ ≤ 0 ∨ p₃ ≤ 0) := by
    simp only [not_or, not_le]
    exact ⟨h₁, h₂, h₃⟩
  unfold computeTriangularNetAlpha
  rw [if_neg (not_le.mpr hnotional), if_neg hvwaps, pyDiv_of_ne h₁.ne']
  simp only [bind, Except.bind, pyDiv_of_ne h₂.ne', pyDiv_of_ne hnotional.ne', pure, Except.pure,
    Except.ok.injEq, TriangularAlpha.mk.injEq]
  refine ⟨?_, by ring, by field_simp⟩
  unfold cycleFactor
  field_simp

theorem cycleFactor_pos (h₁ : 0 < p₁) (h₂ : 0 < p₂) (h₃ : 0 < p₃) (htau : tau < 1) :
    0 < cycleFactor p₁ p₂ p₃ tau := by
  have hkept : 0 < 1 - tau := sub_pos.mpr htau
  unfold cycleFactor
  positivity

theorem cycleFactor_lt (h₁ : 0 < p₁) (h₂ : 0 < p₂) (h₃ : 0 < p₃) (hlt : tau < tau')
    (htau' : tau' < 1) : cycleFactor p₁ p₂ p₃ tau' < cycleFactor p₁ p₂ p₃ tau := by
  have hkept : (1 - tau') ^ 3 < (1 - tau) ^ 3 :=
    pow_lt_pow_left₀ (sub_lt_sub_left hlt 1) (sub_pos.mpr htau').le three_ne_zero
  unfold cycleFactor
  exact div_lt_div_of_pos_right (mul_lt_mul_of_pos_right hkept h₃) (mul_pos h₁ h₂)

theorem cycleFactor_le_ratio (h₁ : 0 < p₁) (h₂ : 0 < p₂) (h₃ : 0 < p₃) (htau : 0 ≤ tau)
    (htau' : tau < 1) : cycleFactor p₁ p₂ p₃ tau ≤ p₃ / (p₁ * p₂) := by
  have hkept : (1 - tau) ^ 3 ≤ 1 :=
    pow_le_one₀ (sub_pos.mpr htau').le (sub_le_self 1 htau)
  unfold cycleFactor
  exact div_le_div_of_nonneg_right (mul_le_of_le_one_left h₃.le hkept) (mul_pos h₁ h₂).le

end

/-- The net alpha at the fee `tau` for every notional: its value, what a higher fee does to
it, and what it takes to be positive. -/
structure FeesErode (p₁ p₂ p₃ tau : ℚ) : Prop where
  netAlpha : ∀ notional, 0 < notional →
    ∃ a, computeTriangularNetAlpha notional p₁ p₂ p₃ tau = .ok a ∧
      a.netAlpha = (1 - tau) ^ 3 * p₃ / (p₁ * p₂) - 1 ∧ -1 < a.netAlpha ∧
        (0 < a.netAlpha → p₁ * p₂ < p₃)
  erodes : ∀ notional tau', 0 < notional → tau < tau' → tau' < 1 →
    ∃ a a', computeTriangularNetAlpha notional p₁ p₂ p₃ tau = .ok a ∧
      computeTriangularNetAlpha notional p₁ p₂ p₃ tau' = .ok a' ∧ a'.netAlpha < a.netAlpha
  scales : ∀ notional c, 0 < notional → 0 < c →
    ∃ a a', computeTriangularNetAlpha notional p₁ p₂ p₃ tau = .ok a ∧
      computeTriangularNetAlpha (c * notional) p₁ p₂ p₃ tau = .ok a' ∧
        a'.netAlpha = a.netAlpha ∧ a'.bridgeQty = c * a.bridgeQty ∧
          a'.targetQty = c * a.targetQty

theorem fees_erode {p₁ p₂ p₃ tau : ℚ} (h₁ : 0 < p₁) (h₂ : 0 < p₂) (h₃ : 0 < p₃) (htau : 0 ≤ tau)
    (htau' : tau < 1) : FeesErode p₁ p₂ p₃ tau where
  netAlpha notional hnotional := by
    refine ⟨_, computeTriangularNetAlpha_eq hnotional h₁ h₂ h₃ tau, rfl, ?_, fun hgain => ?_⟩
    · exact neg_lt_sub_iff_lt_add.mpr (lt_add_of_pos_right 1 (cycleFactor_pos h₁ h₂ h₃ htau'))
    · have hratio := (sub_pos.mp hgain).trans_le (cycleFactor_le_ratio h₁ h₂ h₃ htau htau')
      exact (one_lt_div (mul_pos h₁ h₂)).mp hratio
  erodes notional tau' hnotional hlt hlt' :=
    ⟨_, _, computeTriangularNetAlpha_eq hnotional h₁ h₂ h₃ tau,
      computeTriangularNetAlpha_eq hnotional h₁ h₂ h₃ tau',
      sub_lt_sub_right (cycleFactor_lt h₁ h₂ h₃ hlt hlt') 1⟩
  scales notional c hnotional hc :=
    ⟨_, _, computeTriangularNetAlpha_eq hnotional h₁ h₂ h₃ tau,
      computeTriangularNetAlpha_eq (mul_pos hc hnotional) h₁ h₂ h₃ tau, rfl, mul_assoc ..,
      mul_assoc ..⟩

/-- A cycle that gains five percent before three fees of one percent. -/
theorem fees_erode_onePercent : FeesErode 100 (1 / 2) (105 / 2) (1 / 100) :=
  fees_erode (by norm_num) (by norm_num) (by norm_num) (by norm_num) (by norm_num)

end BimodalArbitrage.Execution
