import Mathlib.Algebra.BigOperators.Group.List.Basic

/-!
# Tensors

A shape, and as many entries as it asks for, the last index running fastest.
-/

@[ext]
structure Tensor (α : Type) where
  shape : List ℕ
  entries : List α
  size : entries.length = shape.prod

namespace Tensor
variable {α : Type}

def rank (t : Tensor α) : ℕ := t.shape.length

/-- One more dimension in front, of size one. -/
def unsqueeze (t : Tensor α) : Tensor α where
  shape := 1 :: t.shape
  entries := t.entries
  size := by rw [List.prod_cons, one_mul, t.size]

@[simp] theorem shape_unsqueeze (t : Tensor α) : t.unsqueeze.shape = 1 :: t.shape := rfl

@[simp] theorem entries_unsqueeze (t : Tensor α) : t.unsqueeze.entries = t.entries := rfl

theorem rank_unsqueeze (t : Tensor α) : t.unsqueeze.rank = t.rank + 1 := rfl

theorem unsqueeze_ne (t : Tensor α) : t.unsqueeze ≠ t := by
  intro h
  have hrank := rank_unsqueeze t
  rw [h] at hrank
  omega

/-- A single entry of any number of dimensions. -/
def single (rank : ℕ) (x : α) : Tensor α where
  shape := List.replicate rank 1
  entries := [x]
  size := by rw [List.prod_replicate, one_pow, List.length_singleton]

/-! ### Nested lists -/

/-- `height` rows of `width` entries. -/
structure Rectangular (rows : List (List α)) (height width : ℕ) : Prop where
  height : rows.length = height
  width : ∀ row ∈ rows, row.length = width

instance (rows : List (List α)) (height width : ℕ) : Decidable (Rectangular rows height width) :=
  decidable_of_iff (rows.length = height ∧ ∀ row ∈ rows, row.length = width)
    ⟨fun h => ⟨h.1, h.2⟩, fun h => ⟨h.height, h.width⟩⟩

theorem Rectangular.length_flatten {rows : List (List α)} {height width : ℕ}
    (h : Rectangular rows height width) : rows.flatten.length = height * width := by
  obtain ⟨rfl, hwidth⟩ := h
  rw [List.length_flatten, List.map_congr_left hwidth, List.map_const', List.sum_replicate_nat]

def ofRows (rows : List (List α)) (height width : ℕ) (h : Rectangular rows height width) :
    Tensor α where
  shape := [height, width]
  entries := rows.flatten
  size := by rw [h.length_flatten, List.prod_cons, List.prod_singleton]

end Tensor
