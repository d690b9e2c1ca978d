import Mathlib.Algebra.Order.Field.Basic
import Mathlib.Algebra.BigOperators.Group.List.Basic
import Mathlib.Tactic.Linarith
import Mathlib.Tactic.Ring

/-!
# Metered draws

A meter never holds more than `cap` and gains at most `rate` per unit of time. What
is drawn from it in a window of time is bounded by `cap` and what the window adds.
-/

namespace Quota
variable {K : Type} [Field K] [LinearOrder K]

/-- One draw: when, how much, and what it left. -/
structure Draw (K : Type) where
  reading : K
  amount : K
  level : K

/-- The draws of one meter, the latest first. -/
def Metered (cap rate : K) : List (Draw K) → Prop
  | [] => True
  | [x] => 0 ≤ x.level ∧ x.level + x.amount ≤ cap
  | x :: y :: xs => 0 ≤ x.level ∧ x.level + x.amount ≤ cap ∧ y.reading ≤ x.reading ∧
      x.level + x.amount ≤ y.level + rate * (x.reading - y.reading) ∧ Metered cap rate (y :: xs)

def drawnSince (s : K) (xs : List (Draw K)) : K :=
  (xs.map fun x => if s ≤ x.reading then x.amount else 0).sum

def drawnWithin (s t : K) (xs : List (Draw K)) : K :=
  (xs.map fun x => if s ≤ x.reading ∧ x.reading ≤ t then x.amount else 0).sum

variable {cap rate : K} {x : Draw K} {xs : List (Draw K)}

theorem Metered.tail (h : Metered cap rate (x :: xs)) : Metered cap rate xs := by
  cases xs with
  | nil => trivial
  | cons y xs => exact h.2.2.2.2

theorem Metered.head (h : Metered cap rate (x :: xs)) :
    0 ≤ x.level ∧ x.level + x.amount ≤ cap := by
  cases xs with
  | nil => exact h
  | cons y xs => exact ⟨h.1, h.2.1⟩

theorem Metered.reading_le (h : Metered cap rate (x :: xs)) :
    ∀ y ∈ xs, y.reading ≤ x.reading := by
  induction xs generalizing x with
  | nil =>
    intro y hy
    exact absurd hy List.not_mem_nil
  | cons z xs ih =>
    intro y hy
    rcases List.mem_cons.mp hy with rfl | hy
    · exact h.2.2.1
    · exact (ih h.tail y hy).trans h.2.2.1

theorem drawnSince_eq_zero {s : K} (h : ∀ y ∈ xs, y.reading < s) : drawnSince s xs = 0 := by
  induction xs with
  | nil => rfl
  | cons y xs ih =>
    have hy := h y (List.mem_cons_self ..)
    have hrest := ih fun z hz => h z (List.mem_cons_of_mem _ hz)
    simp only [drawnSince, List.map_cons, List.sum_cons, not_le.mpr hy, if_false, zero_add]
    exact hrest

variable [IsStrictOrderedRing K]

theorem drawnSince_le (hrate : 0 ≤ rate) (h : Metered cap rate (x :: xs)) {s : K}
    (hs : s ≤ x.reading) :
    drawnSince s (x :: xs) + x.level ≤ cap + rate * (x.reading - s) := by
  induction xs generalizing x with
  | nil =>
    have hgain : 0 ≤ rate * (x.reading - s) := mul_nonneg hrate (sub_nonneg.mpr hs)
    have hcap := h.head.2
    simp only [drawnSince, List.map_cons, List.map_nil, List.sum_cons, List.sum_nil, hs, if_true,
      add_zero]
    linarith
  | cons y xs ih =>
    obtain ⟨-, hcap, hle, hlevel, hrest⟩ := h
    have hhead : drawnSince s (x :: y :: xs) = x.amount + drawnSince s (y :: xs) := by
      simp only [drawnSince, List.map_cons, List.sum_cons, hs, if_true]
    rw [hhead]
    by_cases hys : s ≤ y.reading
    · have hbound := ih hrest hys
      have hsplit : rate * (x.reading - s) =
          rate * (y.reading - s) + rate * (x.reading - y.reading) := by ring
      linarith
    · have hbefore : ∀ z ∈ y :: xs, z.reading < s := by
        intro z hz
        rcases List.mem_cons.mp hz with rfl | hz
        · exact not_le.mp hys
        · exact (Metered.reading_le hrest z hz).trans_lt (not_le.mp hys)
      have hgain : 0 ≤ rate * (x.reading - s) := mul_nonneg hrate (sub_nonneg.mpr hs)
      rw [drawnSince_eq_zero hbefore]
      linarith

theorem drawnWithin_le (hcap : 0 ≤ cap) (hrate : 0 ≤ rate) (h : Metered cap rate xs) {s t : K}
    (hst : s ≤ t) : drawnWithin s t xs ≤ cap + rate * (t - s) := by
  have hgain : 0 ≤ rate * (t - s) := mul_nonneg hrate (sub_nonneg.mpr hst)
  induction xs with
  | nil =>
    simp only [drawnWithin, List.map_nil, List.sum_nil]
    linarith
  | cons x xs ih =>
    by_cases hxt : x.reading ≤ t
    · have hall : drawnWithin s t (x :: xs) = drawnSince s (x :: xs) := by
        refine congrArg List.sum (List.map_congr_left fun z hz => ?_)
        have hz : z.reading ≤ t := by
          rcases List.mem_cons.mp hz with rfl | hz
          · exact hxt
          · exact (h.reading_le z hz).trans hxt
        simp only [hz, and_true]
      rw [hall]
      by_cases hsx : s ≤ x.reading
      · have hbound := drawnSince_le hrate h hsx
        have hlevel := h.head.1
        have hmono : rate * (x.reading - s) ≤ rate * (t - s) :=
          mul_le_mul_of_nonneg_left (sub_le_sub_right hxt s) hrate
        linarith
      · have hbefore : ∀ z ∈ x :: xs, z.reading < s := by
          intro z hz
          rcases List.mem_cons.mp hz with rfl | hz
          · exact not_le.mp hsx
          · exact (h.reading_le z hz).trans_lt (not_le.mp hsx)
        rw [drawnSince_eq_zero hbefore]
        linarith
    · have hskip : drawnWithin s t (x :: xs) = drawnWithin s t xs := by
        simp only [drawnWithin, List.map_cons, List.sum_cons, hxt, and_false, if_false, zero_add]
      rw [hskip]
      exact ih h.tail

end Quota
