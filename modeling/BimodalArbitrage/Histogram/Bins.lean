import Mathlib.Algebra.BigOperators.Group.List.Basic
import Mathlib.Algebra.Order.BigOperators.Group.List
import Mathlib.Data.Int.Basic
import Mathlib.Tactic.Common

/-!
# Tallies in bins

Items are put one by one into the bins of a row. Whatever the order, a bin holds what the
items that belong to it amount to, and so does any slice of the row.
-/

namespace Histogram
variable {α β : Type} [AddCommMonoid β]

/-- What falls beside the row is dropped. -/
def deposit (row : List β) (idx : ℤ) (amount : β) : List β :=
  if 0 ≤ idx ∧ idx < row.length then row.modify idx.toNat (· + amount) else row

def tally (idx : α → ℤ) (amount : α → β) (row : List β) (xs : List α) : List β :=
  xs.foldl (fun row x => deposit row (idx x) (amount x)) row

/-- What the items with `p` amount to. -/
def total (amount : α → β) (p : α → Prop) [DecidablePred p] (xs : List α) : β :=
  ((xs.filter p).map amount).sum

/-! ### Totals -/

section
variable {amount : α → β} {p q : α → Prop} [DecidablePred p] [DecidablePred q] {xs : List α}

theorem total_cons (x : α) (xs : List α) :
    total amount p (x :: xs) = (if p x then amount x else 0) + total amount p xs := by
  by_cases h : p x <;> simp [total, h]

theorem total_congr (h : ∀ x ∈ xs, p x ↔ q x) : total amount p xs = total amount q xs := by
  have hfilter : xs.filter (fun x => p x) = xs.filter fun x => q x := by
    refine List.filter_congr fun x hx => ?_
    exact decide_eq_decide.mpr (h x hx)
  rw [total, total, hfilter]

theorem total_none (h : ∀ x ∈ xs, ¬p x) : total amount p xs = 0 := by
  have hfilter : xs.filter (fun x => p x) = [] := by
    refine List.filter_eq_nil_iff.mpr fun x hx => ?_
    rw [decide_eq_true_iff]
    exact h x hx
  rw [total, hfilter, List.map_nil, List.sum_nil]

theorem total_or (h : ∀ x, p x → ¬q x) :
    total amount (fun x => p x ∨ q x) xs = total amount p xs + total amount q xs := by
  induction xs with
  | nil => exact (add_zero 0).symm
  | cons x xs ih =>
    rw [total_cons, total_cons, total_cons, ih]
    by_cases hp : p x
    · have hq : ¬q x := h x hp
      simp only [hp, hq, true_or, if_true, if_false, zero_add, add_assoc]
    · by_cases hq : q x
      · simp only [hp, hq, or_true, if_true, if_false, zero_add]
        exact add_left_comm ..
      · simp only [hp, hq, or_self, if_false, zero_add]

end

section
variable [PartialOrder β] [IsOrderedAddMonoid β] {amount : α → β} {p : α → Prop}
  [DecidablePred p] {xs ys : List α}

theorem total_nonneg (h : ∀ x ∈ xs, 0 ≤ amount x) : 0 ≤ total amount p xs := by
  refine List.sum_nonneg fun a ha => ?_
  obtain ⟨x, hx, rfl⟩ := List.mem_map.mp ha
  exact h x (List.mem_of_mem_filter hx)

theorem total_mono (h : List.Forall₂ (fun x y => (p x ↔ p y) ∧ amount x ≤ amount y) xs ys) :
    total amount p xs ≤ total amount p ys := by
  induction h with
  | nil => exact le_refl _
  | @cons x y xs ys hxy _ ih =>
    rw [total_cons, total_cons]
    refine add_le_add ?_ ih
    by_cases hp : p x
    · rw [if_pos hp, if_pos (hxy.1.mp hp)]
      exact hxy.2
    · rw [if_neg hp, if_neg fun hy => hp (hxy.1.mpr hy)]

end

/-! ### Rows -/

section
variable {idx : α → ℤ} {amount : α → β} {row : List β}

theorem length_deposit (row : List β) (i : ℤ) (a : β) : (deposit row i a).length = row.length := by
  unfold deposit
  split
  · exact List.length_modify ..
  · rfl

theorem length_tally (row : List β) (xs : List α) :
    (tally idx amount row xs).length = row.length := by
  induction xs generalizing row with
  | nil => rfl
  | cons x xs ih => exact (ih _).trans (length_deposit ..)

theorem getD_deposit {i : ℕ} (hi : i < row.length) (k : ℤ) (a : β) :
    (deposit row k a).getD i 0 = row.getD i 0 + if k = i then a else 0 := by
  have hentry := List.getElem?_eq_getElem hi
  unfold deposit
  split
  next hk =>
    rw [List.getD_eq_getElem?_getD, List.getD_eq_getElem?_getD, List.getElem?_modify, hentry]
    by_cases heq : k = i
    · have hnat : k.toNat = i := by omega
      simp [heq]
    · have hnat : k.toNat ≠ i := by omega
      simp [heq, hnat]
  next hk =>
    have hne : k ≠ i := by omega
    rw [if_neg hne, add_zero]

theorem getD_tally {i : ℕ} (hi : i < row.length) (xs : List α) :
    (tally idx amount row xs).getD i 0 =
      row.getD i 0 + total amount (fun x => idx x = i) xs := by
  induction xs generalizing row with
  | nil => exact (add_zero _).symm
  | cons x xs ih =>
    have hi' : i < (deposit row (idx x) (amount x)).length := by rwa [length_deposit]
    have hrest : tally idx amount row (x :: xs) =
        tally idx amount (deposit row (idx x) (amount x)) xs := rfl
    rw [hrest, ih hi', getD_deposit hi, total_cons, add_assoc]

theorem slice_succ {a n : ℕ} (h : a + n < row.length) :
    ((row.drop a).take (n + 1)).sum = ((row.drop a).take n).sum + row.getD (a + n) 0 := by
  have hentry : (row.drop a)[n]? = some row[a + n] := by
    rw [List.getElem?_drop, List.getElem?_eq_getElem h]
  rw [List.take_add_one, hentry, Option.toList_some, List.sum_append, List.sum_singleton,
    List.getD_eq_getElem?_getD, List.getElem?_eq_getElem h, Option.getD_some]

theorem slice_tally {a n : ℕ} (h : a + n ≤ row.length) (xs : List α) :
    (((tally idx amount row xs).drop a).take n).sum =
      ((row.drop a).take n).sum + total amount (fun x => a ≤ idx x ∧ idx x < a + n) xs := by
  induction n with
  | zero =>
    have hnone : total amount (fun x => a ≤ idx x ∧ idx x < a + (0 : ℕ)) xs = 0 :=
      total_none fun x _ hx => by omega
    rw [hnone, List.take_zero, List.take_zero, add_zero]
  | succ n ih =>
    have hlt : a + n < row.length := h
    have hlt' : a + n < (tally idx amount row xs).length := by rwa [length_tally]
    have hsplit : total amount (fun x => a ≤ idx x ∧ idx x < a + (n + 1 : ℕ)) xs =
        total amount (fun x => a ≤ idx x ∧ idx x < a + n) xs +
          total amount (fun x => idx x = (a + n : ℕ)) xs := by
      rw [← total_or fun x hx => by omega]
      exact total_congr fun x _ => by omega
    rw [slice_succ hlt, slice_succ hlt', ih hlt.le, getD_tally hlt, hsplit, add_add_add_comm]

end
end Histogram
