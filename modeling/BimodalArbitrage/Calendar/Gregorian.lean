import Mathlib.Algebra.BigOperators.Group.List.Basic
import Mathlib.Algebra.GroupWithZero.Nat
import Mathlib.Data.Nat.Basic
import Mathlib.Tactic.Common

/-!
# The proleptic Gregorian calendar

Days are numbered from the first of January of the year 1, whose ordinal is 1.
-/

namespace Calendar

def isLeap (year : ℕ) : Bool := year % 4 = 0 ∧ (year % 100 ≠ 0 ∨ year % 400 = 0)

def daysBeforeYear (year : ℕ) : ℕ :=
  let y := year - 1
  y * 365 + y / 4 - y / 100 + y / 400

/-- The months of a year that is not a leap year. -/
def monthLengths : List ℕ := [31, 28, 31, 30, 31, 30, 31, 31, 30, 31, 30, 31]

def daysInMonth (leap : Bool) (month : ℕ) : ℕ :=
  monthLengths.getD (month - 1) 0 + if month = 2 ∧ leap then 1 else 0

def daysBeforeMonth (leap : Bool) (month : ℕ) : ℕ :=
  (monthLengths.take (month - 1)).sum + if 2 < month ∧ leap then 1 else 0

structure Date where
  year : ℕ
  month : ℕ
  day : ℕ
  deriving DecidableEq

structure Date.Valid (d : Date) : Prop where
  year : 1 ≤ d.year ∧ d.year ≤ 9999
  month : 1 ≤ d.month ∧ d.month ≤ 12
  day : 1 ≤ d.day ∧ d.day ≤ daysInMonth (isLeap d.year) d.month

instance (d : Date) : Decidable d.Valid :=
  decidable_of_iff ((1 ≤ d.year ∧ d.year ≤ 9999) ∧ (1 ≤ d.month ∧ d.month ≤ 12) ∧
    (1 ≤ d.day ∧ d.day ≤ daysInMonth (isLeap d.year) d.month))
    ⟨fun h => ⟨h.1, h.2.1, h.2.2⟩, fun h => ⟨h.year, h.month, h.day⟩⟩

def Date.toOrdinal (d : Date) : ℕ :=
  daysBeforeYear d.year + daysBeforeMonth (isLeap d.year) d.month + d.day

/-- The month and the day of the day after the first `n` days of a year. An estimate of the
month is exact or one too large. -/
def monthDay (leap : Bool) (n : ℕ) : ℕ × ℕ :=
  let month := (n + 50) / 32
  if n < daysBeforeMonth leap month then (month - 1, n - daysBeforeMonth leap (month - 1) + 1)
  else (month, n - daysBeforeMonth leap month + 1)

/-- Cycles of 400, 100, 4 and 1 years are taken off one after the other; the last day of
the longest cycle but one would start a fifth of them. -/
def ofOrdinal (ordinal : ℕ) : Date :=
  let n := ordinal - 1
  let n400 := n / 146097
  let n := n % 146097
  let n100 := n / 36524
  let n := n % 36524
  let n4 := n / 1461
  let n := n % 1461
  let n1 := n / 365
  let n := n % 365
  let year := n400 * 400 + 1 + n100 * 100 + n4 * 4 + n1
  if n1 = 4 ∨ n100 = 4 then ⟨year - 1, 12, 31⟩
  else
    let leap : Bool := n1 = 3 ∧ (n4 ≠ 24 ∨ n100 = 3)
    ⟨year, (monthDay leap n).1, (monthDay leap n).2⟩

def maxOrdinal : ℕ := 3652059

section
variable {year month day : ℕ}

theorem Date.Valid.of (hyear : 1 ≤ year) (hyear' : year ≤ 9999) (hmonth : 1 ≤ month)
    (hmonth' : month ≤ 12) (hday : 1 ≤ day) (hday' : day ≤ daysInMonth (isLeap year) month) :
    (Date.mk year month day).Valid :=
  ⟨⟨hyear, hyear'⟩, ⟨hmonth, hmonth'⟩, ⟨hday, hday'⟩⟩

theorem Date.toOrdinal_mk : (Date.mk year month day).toOrdinal =
    daysBeforeYear year + daysBeforeMonth (isLeap year) month + day := rfl

end

/-! ### Years -/

theorem monthDay_spec (leap : Bool) {n : ℕ} (hn : n < 365 + if leap then 1 else 0) :
    (1 ≤ (monthDay leap n).1 ∧ (monthDay leap n).1 ≤ 12) ∧
      (1 ≤ (monthDay leap n).2 ∧ (monthDay leap n).2 ≤ daysInMonth leap (monthDay leap n).1) ∧
      daysBeforeMonth leap (monthDay leap n).1 + (monthDay leap n).2 = n + 1 := by
  have hall : ∀ leap : Bool, ∀ m : Fin 366, m.val < 365 + (if leap then 1 else 0) →
      (1 ≤ (monthDay leap m).1 ∧ (monthDay leap m).1 ≤ 12) ∧
        (1 ≤ (monthDay leap m).2 ∧ (monthDay leap m).2 ≤ daysInMonth leap (monthDay leap m).1) ∧
        daysBeforeMonth leap (monthDay leap m).1 + (monthDay leap m).2 = m + 1 := by
    decide +kernel
  exact hall leap ⟨n, by split at hn <;> omega⟩ hn

section
variable {n400 n100 n4 n1 : ℕ}

theorem daysBeforeYear_cycles (h100 : n100 ≤ 3) (h4 : n4 ≤ 24) (h1 : n1 ≤ 3) :
    daysBeforeYear (n400 * 400 + 1 + n100 * 100 + n4 * 4 + n1) =
      n400 * 146097 + n100 * 36524 + n4 * 1461 + n1 * 365 := by
  rw [daysBeforeYear]
  omega

theorem isLeap_cycles (n400 : ℕ) (h100 : n100 ≤ 3) (h4 : n4 ≤ 24) (h1 : n1 ≤ 3) :
    isLeap (n400 * 400 + 1 + n100 * 100 + n4 * 4 + n1) =
      decide (n1 = 3 ∧ (n4 ≠ 24 ∨ n100 = 3)) := by
  rw [isLeap]
  exact decide_eq_decide.mpr (by omega)

end

/-- The last day of a leap year. -/
theorem lastDay_spec (n400 : ℕ) {n100 n4 : ℕ} (h100 : n100 ≤ 3) (h4 : n4 ≤ 24)
    (hleap : n4 ≠ 24 ∨ n100 = 3) (hyear : n400 * 400 + 1 + n100 * 100 + n4 * 4 + 3 ≤ 9999) :
    (Date.mk (n400 * 400 + 1 + n100 * 100 + n4 * 4 + 3) 12 31).Valid ∧
      (Date.mk (n400 * 400 + 1 + n100 * 100 + n4 * 4 + 3) 12 31).toOrdinal =
        n400 * 146097 + n100 * 36524 + n4 * 1461 + 1461 := by
  have hisLeap : isLeap (n400 * 400 + 1 + n100 * 100 + n4 * 4 + 3) = true := by
    rw [isLeap_cycles n400 h100 h4 (le_refl 3)]
    exact decide_eq_true ⟨rfl, hleap⟩
  have hmonths : daysBeforeMonth true 12 = 335 := by decide
  refine ⟨.of (by omega) hyear (by decide) (by decide) (by decide) ?_, ?_⟩
  · rw [hisLeap]
    decide
  · rw [Date.toOrdinal_mk, hisLeap, daysBeforeYear_cycles h100 h4 (le_refl 3), hmonths]

theorem ofOrdinal_spec {ordinal : ℕ} (hpos : 1 ≤ ordinal) (hmax : ordinal ≤ maxOrdinal) :
    (ofOrdinal ordinal).Valid ∧ (ofOrdinal ordinal).toOrdinal = ordinal := by
  simp only [ofOrdinal]
  generalize hn400 : (ordinal - 1) / 146097 = n400
  generalize hr400 : (ordinal - 1) % 146097 = r400
  generalize hn100 : r400 / 36524 = n100
  generalize hr100 : r400 % 36524 = r100
  generalize hn4 : r100 / 1461 = n4
  generalize hr4 : r100 % 1461 = r4
  generalize hn1 : r4 / 365 = n1
  generalize hr1 : r4 % 365 = r1
  rw [maxOrdinal] at hmax
  have h4 : n4 ≤ 24 := by omega
  have hsum : ordinal = n400 * 146097 + n100 * 36524 + n4 * 1461 + n1 * 365 + r1 + 1 := by omega
  split
  next hlast =>
    by_cases h100 : n100 = 4
    · have hyear : n400 * 400 + 1 + n100 * 100 + n4 * 4 + n1 - 1 =
          n400 * 400 + 1 + 3 * 100 + 24 * 4 + 3 := by omega
      rw [hyear]
      obtain ⟨hvalid, hordinal⟩ := lastDay_spec n400 (le_refl 3) (le_refl 24) (.inr rfl)
        (by omega)
      exact ⟨hvalid, by omega⟩
    · have h1 : n1 = 4 := hlast.resolve_right h100
      have hyear : n400 * 400 + 1 + n100 * 100 + n4 * 4 + n1 - 1 =
          n400 * 400 + 1 + n100 * 100 + n4 * 4 + 3 := by omega
      rw [hyear]
      obtain ⟨hvalid, hordinal⟩ := lastDay_spec n400 (show n100 ≤ 3 by omega) h4
        (.inl (by omega)) (by omega)
      exact ⟨hvalid, by omega⟩
  next hlast =>
    have h100 : n100 ≤ 3 := by omega
    have h1 : n1 ≤ 3 := by omega
    have hleap := isLeap_cycles n400 h100 h4 h1
    obtain ⟨hmonth, hday, hdays⟩ :=
      monthDay_spec (decide (n1 = 3 ∧ (n4 ≠ 24 ∨ n100 = 3)))
        (show r1 < _ by split <;> omega)
    refine ⟨.of (by omega) (by omega) hmonth.1 hmonth.2 hday.1 ?_, ?_⟩
    · rw [hleap]
      exact hday.2
    · rw [Date.toOrdinal_mk, hleap, daysBeforeYear_cycles h100 h4 h1]
      omega

end Calendar
