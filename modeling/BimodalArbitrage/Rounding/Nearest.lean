import Mathlib.Algebra.Order.Field.Rat
import Mathlib.Data.Int.Log
import Mathlib.Data.Rat.Floor
import Mathlib.Tactic.FieldSimp
import Mathlib.Tactic.Linarith
import Mathlib.Tactic.Positivity

/-!
# Rounding to the nearest binary number

A number of a binary format has so many digits and no digit below the least one. Every
rational is rounded to the nearest such number, ties to an even last digit; the range of
the format is left to `Floating`.
-/

namespace Rounding

/-! ### Integers -/

/-- The nearest integer, ties to even. -/
def halfEven (x : ℚ) : ℤ :=
  let r := x - ⌊x⌋
  if r < 1 / 2 then ⌊x⌋
  else if 1 / 2 < r then ⌊x⌋ + 1
  else if ⌊x⌋ % 2 = 0 then ⌊x⌋ else ⌊x⌋ + 1

theorem floor_le_halfEven (x : ℚ) : ⌊x⌋ ≤ halfEven x := by
  simp only [halfEven]
  split_ifs <;> omega

theorem halfEven_le_floor_add_one (x : ℚ) : halfEven x ≤ ⌊x⌋ + 1 := by
  simp only [halfEven]
  split_ifs <;> omega

@[simp] theorem halfEven_intCast (n : ℤ) : halfEven n = n := by
  simp [halfEven]

theorem halfEven_mono {x y : ℚ} (h : x ≤ y) : halfEven x ≤ halfEven y := by
  rcases (Int.floor_mono h).lt_or_eq with hfloor | hfloor
  · have hx := halfEven_le_floor_add_one x
    have hy := floor_le_halfEven y
    omega
  · have hrest : x - ⌊x⌋ ≤ y - ⌊y⌋ := by rw [hfloor]; linarith
    simp only [halfEven, hfloor] at hrest ⊢
    split_ifs <;> first | omega | (exfalso; linarith)

theorem halfEven_neg (x : ℚ) : halfEven (-x) = -halfEven x := by
  rcases eq_or_ne (x : ℚ) ⌊x⌋ with hint | hint
  · rw [hint, ← Int.cast_neg, halfEven_intCast, halfEven_intCast]
  have hlt : (⌊x⌋ : ℚ) < x := lt_of_le_of_ne (Int.floor_le x) hint.symm
  have hfloor : ⌊-x⌋ = -⌊x⌋ - 1 := by
    rw [Int.floor_eq_iff]
    have hnext := Int.lt_floor_add_one x
    push_cast
    constructor <;> linarith
  simp only [halfEven, hfloor]
  push_cast
  split_ifs <;> first | omega | (exfalso; linarith)

/-! ### Formats -/

/-- `precision` digits, none below `2 ^ minExponent`; magnitudes stay below
`2 ^ maxExponent`. -/
structure Format where
  precision : ℕ
  minExponent : ℤ
  maxExponent : ℤ
  precision_pos : 0 < precision

namespace Format
variable (F : Format)

/-- The exponent of the last digit of what `x` is rounded to. -/
def lastDigit (x : ℚ) : ℤ := max (Int.log 2 |x| + 1 - F.precision) F.minExponent

def nearest (x : ℚ) : ℚ := halfEven (x / 2 ^ F.lastDigit x) * 2 ^ F.lastDigit x

theorem lastDigit_neg (x : ℚ) : F.lastDigit (-x) = F.lastDigit x := by
  rw [lastDigit, abs_neg, lastDigit]

theorem nearest_neg (x : ℚ) : F.nearest (-x) = -F.nearest x := by
  rw [nearest, lastDigit_neg, neg_div, halfEven_neg, Int.cast_neg, neg_mul, nearest]

theorem nearest_zero : F.nearest 0 = 0 := by
  have hzero : halfEven 0 = 0 := halfEven_intCast 0
  rw [nearest, zero_div, hzero, Int.cast_zero, zero_mul]

theorem abs_lt_lastDigit (x : ℚ) : |x| < 2 ^ (F.precision + F.lastDigit x) := by
  have hlog : Int.log 2 |x| + 1 ≤ F.precision + F.lastDigit x := by
    have hmax := le_max_left (Int.log 2 |x| + 1 - F.precision) F.minExponent
    rw [lastDigit]
    omega
  exact (Int.lt_zpow_succ_log_self one_lt_two |x|).trans_le
    (zpow_le_zpow_right₀ one_le_two hlog)

/-- A number with few enough digits is not rounded. -/
theorem nearest_of_digits {k e : ℤ} (hk : |k| < 2 ^ F.precision) (he : F.minExponent ≤ e) :
    F.nearest (k * 2 ^ e) = k * 2 ^ e := by
  rcases eq_or_ne k 0 with rfl | hne
  · rw [Int.cast_zero, zero_mul, nearest_zero]
  have hdigit : F.lastDigit (k * 2 ^ e) ≤ e := by
    have hk' : |(k : ℚ)| < 2 ^ F.precision := by exact_mod_cast hk
    have hpow : (0 : ℚ) < 2 ^ e := zpow_pos two_pos e
    have hbound : |(k : ℚ) * 2 ^ e| < (2 : ℕ) ^ ((F.precision : ℤ) + e) := by
      rw [abs_mul, abs_of_pos hpow, Nat.cast_two, zpow_add₀ two_ne_zero, zpow_natCast]
      exact mul_lt_mul_of_pos_right hk' hpow
    have hpos : 0 < |(k : ℚ) * 2 ^ e| :=
      abs_pos.mpr (mul_ne_zero (Int.cast_ne_zero.mpr hne) (zpow_ne_zero e two_ne_zero))
    have hlog := (Int.lt_zpow_iff_log_lt one_lt_two hpos).mp hbound
    exact max_le (by omega) he
  obtain ⟨d, hd⟩ := Int.eq_ofNat_of_zero_le (sub_nonneg.mpr hdigit)
  have hshift : (k : ℚ) * 2 ^ e / 2 ^ F.lastDigit (k * 2 ^ e) = ((k * 2 ^ d : ℤ) : ℚ) := by
    rw [mul_div_assoc, ← zpow_sub₀ two_ne_zero, hd, zpow_natCast]
    push_cast
    rfl
  rw [nearest, hshift, halfEven_intCast, ← hshift]
  exact div_mul_cancel₀ _ (zpow_ne_zero _ two_ne_zero)

theorem abs_halfEven_le (x : ℚ) : |halfEven (x / 2 ^ F.lastDigit x)| ≤ 2 ^ F.precision := by
  have hpow : (0 : ℚ) < 2 ^ F.lastDigit x := zpow_pos two_pos _
  have habs : |x / 2 ^ F.lastDigit x| ≤ ((2 ^ F.precision : ℤ) : ℚ) := by
    rw [abs_div, abs_of_pos hpow, div_le_iff₀ hpow]
    have hlt := F.abs_lt_lastDigit x
    rw [zpow_add₀ two_ne_zero, zpow_natCast] at hlt
    push_cast
    exact hlt.le
  obtain ⟨hlow, hhigh⟩ := abs_le.mp habs
  rw [abs_le]
  constructor
  · have hmono := halfEven_mono hlow
    rwa [← Int.cast_neg, halfEven_intCast] at hmono
  · have hmono := halfEven_mono hhigh
    rwa [halfEven_intCast] at hmono

theorem exists_digits (x : ℚ) :
    ∃ k e : ℤ, |k| < 2 ^ F.precision ∧ F.minExponent ≤ e ∧ F.nearest x = k * 2 ^ e := by
  have hmin : F.minExponent ≤ F.lastDigit x := le_max_right _ _
  rcases (F.abs_halfEven_le x).lt_or_eq with hlt | hcarry
  · exact ⟨_, _, hlt, hmin, rfl⟩
  · -- all digits were carried over: one place up the number ends in a zero
    obtain ⟨p, hp⟩ := Nat.exists_eq_succ_of_ne_zero F.precision_pos.ne'
    have hsplit : (2 : ℤ) ^ F.precision = 2 ^ p * 2 := by rw [hp, pow_succ]
    have hhalf : |(2 : ℤ) ^ p| < 2 ^ F.precision := by
      have hpos : (0 : ℤ) < 2 ^ p := by positivity
      rw [abs_of_pos hpos, hsplit]
      omega
    have hup : (2 : ℚ) ^ (F.lastDigit x + 1) = 2 * 2 ^ F.lastDigit x := by
      rw [zpow_add_one₀ two_ne_zero, mul_comm]
    rcases abs_choice (halfEven (x / 2 ^ F.lastDigit x)) with hsign | hsign
    · refine ⟨2 ^ p, F.lastDigit x + 1, hhalf, by omega, ?_⟩
      rw [hsign, hsplit] at hcarry
      rw [nearest, hcarry, hup]
      push_cast
      ring
    · refine ⟨-2 ^ p, F.lastDigit x + 1, by rwa [abs_neg], by omega, ?_⟩
      rw [hsign, hsplit, neg_eq_iff_eq_neg] at hcarry
      rw [nearest, hcarry, hup]
      push_cast
      ring

theorem nearest_nearest (x : ℚ) : F.nearest (F.nearest x) = F.nearest x := by
  obtain ⟨k, e, hk, he, heq⟩ := F.exists_digits x
  rw [heq, F.nearest_of_digits hk he]

theorem nearest_nonneg {x : ℚ} (h : 0 ≤ x) : 0 ≤ F.nearest x := by
  have hpow : (0 : ℚ) < 2 ^ F.lastDigit x := zpow_pos two_pos _
  have hmono := halfEven_mono (div_nonneg h hpow.le)
  have hzero : halfEven 0 = 0 := halfEven_intCast 0
  rw [hzero] at hmono
  exact mul_nonneg (Int.cast_nonneg hmono) hpow.le

theorem nearest_mono_of_pos {x y : ℚ} (hx : 0 < x) (h : x ≤ y) : F.nearest x ≤ F.nearest y := by
  have hy := hx.trans_le h
  have hlog : Int.log 2 |x| ≤ Int.log 2 |y| := by
    rw [abs_of_pos hx, abs_of_pos hy]
    exact Int.log_mono_right hx h
  have hdigit : F.lastDigit x ≤ F.lastDigit y := max_le_max_right _ (by omega)
  rcases hdigit.lt_or_eq with hlt | heq
  · -- `y` has more digits before its last: a power of two lies between the two
    have hexp : F.lastDigit y = Int.log 2 |y| + 1 - F.precision :=
      max_eq_left (le_of_not_ge fun hge => by
        have hy' : F.lastDigit y = F.minExponent := max_eq_right hge
        have hx' : F.minExponent ≤ F.lastDigit x := le_max_right _ _
        omega)
    have hbelow : F.nearest x ≤ 2 ^ (F.precision + F.lastDigit x) := by
      have habs := (le_abs_self _).trans (F.abs_halfEven_le x)
      rw [nearest, zpow_add₀ two_ne_zero, zpow_natCast]
      exact mul_le_mul_of_nonneg_right (by exact_mod_cast habs) (zpow_pos two_pos _).le
    have habove : (2 : ℚ) ^ Int.log 2 |y| ≤ F.nearest y := by
      obtain ⟨p, hp⟩ := Nat.exists_eq_succ_of_ne_zero F.precision_pos.ne'
      have hlead : (2 : ℚ) ^ Int.log 2 |y| = ((2 ^ p : ℤ) : ℚ) * 2 ^ F.lastDigit y := by
        have hsum : Int.log 2 |y| = p + F.lastDigit y := by rw [hexp, hp]; push_cast; ring
        rw [hsum, zpow_add₀ two_ne_zero, zpow_natCast]
        push_cast
        rfl
      have hle : (2 : ℚ) ^ Int.log 2 |y| ≤ y := by
        rw [abs_of_pos hy]
        exact Int.zpow_log_le_self one_lt_two hy
      have hpow : (0 : ℚ) < 2 ^ F.lastDigit y := zpow_pos two_pos _
      rw [hlead] at hle ⊢
      have hmono := halfEven_mono ((le_div_iff₀ hpow).mpr hle)
      rw [halfEven_intCast] at hmono
      exact mul_le_mul_of_nonneg_right (by exact_mod_cast hmono) hpow.le
    refine hbelow.trans (le_trans (zpow_le_zpow_right₀ one_le_two ?_) habove)
    omega
  · have hpow : (0 : ℚ) < 2 ^ F.lastDigit y := zpow_pos two_pos _
    rw [nearest, nearest, heq]
    exact mul_le_mul_of_nonneg_right
      (Int.cast_le.mpr (halfEven_mono (div_le_div_of_nonneg_right h hpow.le))) hpow.le

theorem nearest_mono {x y : ℚ} (h : x ≤ y) : F.nearest x ≤ F.nearest y := by
  rcases lt_or_ge 0 x with hx | hx
  · exact F.nearest_mono_of_pos hx h
  rcases lt_or_ge y 0 with hy | hy
  · have hneg := F.nearest_mono_of_pos (neg_pos.mpr hy) (neg_le_neg h)
    rw [nearest_neg, nearest_neg] at hneg
    exact neg_le_neg_iff.mp hneg
  · have hx' := F.nearest_nonneg (neg_nonneg.mpr hx)
    rw [nearest_neg] at hx'
    exact (neg_nonneg.mp hx').trans (F.nearest_nonneg hy)

end Format
end Rounding
