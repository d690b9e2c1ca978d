import BimodalArbitrage.Quota.Meter

/-!
# Meters that refuse nothing they could grant

A saturating meter gains all its rate allows until it is full. What it holds is then
the least room that any window up to now leaves, so a draw is covered exactly when
no window would be overdrawn.
-/

namespace Quota
variable {K : Type} [Field K] [LinearOrder K]

/-- What the meter holds at `t`, after its draws, the latest first. -/
def available (cap rate t : K) : List (Draw K) → K
  | [] => cap
  | x :: _ => min cap (x.level + rate * (t - x.reading))

/-- Every draw leaves the rest of what there was. -/
def Saturating (cap rate : K) : List (Draw K) → Prop
  | [] => True
  | x :: xs => 0 ≤ x.amount ∧ x.level = available cap rate x.reading xs - x.amount ∧
      (∀ y ∈ xs, y.reading ≤ x.reading) ∧ Saturating cap rate xs

variable {cap rate t : K} {x : Draw K} {xs : List (Draw K)}

theorem drawnSince_cons_of_le {s : K} (h : s ≤ x.reading) :
    drawnSince s (x :: xs) = x.amount + drawnSince s xs := by
  simp only [drawnSince, List.map_cons, List.sum_cons, h, if_true]

theorem drawnWithin_eq_drawnSince (s : K) (h : ∀ y ∈ xs, y.reading ≤ t) :
    drawnWithin s t xs = drawnSince s xs := by
  refine congrArg List.sum (List.map_congr_left fun y hy => ?_)
  simp only [h y hy, and_true]

variable [IsStrictOrderedRing K]

theorem Saturating.drawnSince_nonneg (h : Saturating cap rate xs) (s : K) :
    0 ≤ drawnSince s xs := by
  induction xs with
  | nil => exact le_rfl
  | cons x xs ih =>
    by_cases hs : s ≤ x.reading
    · rw [drawnSince_cons_of_le hs]
      exact add_nonneg h.1 (ih h.2.2.2)
    · have hskip : drawnSince s (x :: xs) = drawnSince s xs := by
        simp only [drawnSince, List.map_cons, List.sum_cons, hs, if_false, zero_add]
      rw [hskip]
      exact ih h.2.2.2

/-- `a` can be drawn at `t` exactly when no window that ends there is overdrawn by it. -/
theorem le_available_iff (hrate : 0 ≤ rate) (h : Saturating cap rate xs)
    (ht : ∀ y ∈ xs, y.reading ≤ t) (a : K) :
    a ≤ available cap rate t xs ↔ ∀ s ≤ t, drawnSince s xs + a ≤ cap + rate * (t - s) := by
  induction xs generalizing t a with
  | nil =>
    constructor
    · intro ha s hs
      have hgain : 0 ≤ rate * (t - s) := mul_nonneg hrate (sub_nonneg.mpr hs)
      have hcap : a ≤ cap := ha
      simp only [drawnSince, List.map_nil, List.sum_nil, zero_add]
      linarith
    · intro hall
      simpa [drawnSince, available] using hall t le_rfl
  | cons x xs ih =>
    have hdrawn := h.drawnSince_nonneg t
    obtain ⟨-, hlevel, hreadings, hrest⟩ := h
    have hxt : x.reading ≤ t := ht x (List.mem_cons_self ..)
    have hbefore := ih hrest hreadings (a + x.amount - rate * (t - x.reading))
    constructor
    · intro ha s hs
      obtain ⟨hcap, hroom⟩ := le_min_iff.mp ha
      by_cases hsx : s ≤ x.reading
      · have hwindow := hbefore.mp (by rw [hlevel] at hroom; linarith) s hsx
        have hsplit : rate * (t - s) = rate * (x.reading - s) + rate * (t - x.reading) := by ring
        rw [drawnSince_cons_of_le hsx]
        linarith
      · have hnone : ∀ y ∈ x :: xs, y.reading < s := by
          intro y hy
          rcases List.mem_cons.mp hy with rfl | hy
          · exact not_le.mp hsx
          · exact (hreadings y hy).trans_lt (not_le.mp hsx)
        have hgain : 0 ≤ rate * (t - s) := mul_nonneg hrate (sub_nonneg.mpr hs)
        rw [drawnSince_eq_zero hnone]
        linarith
    · intro hall
      have hnow := hall t le_rfl
      have hroom := hbefore.mpr fun s hs => by
        have hwindow := hall s (hs.trans hxt)
        have hsplit : rate * (t - s) = rate * (x.reading - s) + rate * (t - x.reading) := by ring
        rw [drawnSince_cons_of_le hs] at hwindow
        linarith
      refine le_min (by rw [sub_self, mul_zero, add_zero] at hnow; linarith) ?_
      rw [hlevel]
      linarith

end Quota
