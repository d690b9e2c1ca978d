import Mathlib.Order.Lattice

/-!
# Numbers with one that is undefined

`nan` is not a number: no comparison with it holds, and no sum that contains it is
defined. A refusal that is written as a comparison is then not the negation of the
comparison it stands for.
-/

inductive WithNaN (α : Type) where
  | nan
  | num (a : α)
  deriving DecidableEq

namespace WithNaN
variable {α : Type}

def Defined : WithNaN α → Prop
  | nan => False
  | num _ => True

instance (x : WithNaN α) : Decidable x.Defined := by
  cases x <;> unfold Defined <;> infer_instance

/-- A relation of numbers, which `nan` is in with nothing. -/
def lift (r : α → α → Prop) : WithNaN α → WithNaN α → Prop
  | num a, num b => r a b
  | _, _ => False

instance (r : α → α → Prop) [DecidableRel r] : DecidableRel (lift r)
  | nan, _ => isFalse id
  | num _, nan => isFalse id
  | num a, num b => inferInstanceAs (Decidable (r a b))

instance [LT α] : LT (WithNaN α) := ⟨lift (· < ·)⟩
instance [LE α] : LE (WithNaN α) := ⟨lift (· ≤ ·)⟩
instance [LT α] [DecidableLT α] : DecidableLT (WithNaN α) :=
  inferInstanceAs (DecidableRel (lift (· < ·)))
instance [LE α] [DecidableLE α] : DecidableLE (WithNaN α) :=
  inferInstanceAs (DecidableRel (lift (· ≤ ·)))

instance [Add α] : Add (WithNaN α) where
  add
    | num a, num b => num (a + b)
    | _, _ => nan

section
variable {x y : WithNaN α}

theorem defined_of_lift {r : α → α → Prop} (h : lift r x y) : x.Defined ∧ y.Defined := by
  cases x with
  | nan => cases h
  | num a =>
    cases y with
    | nan => cases h
    | num b => exact ⟨trivial, trivial⟩

theorem defined_of_lt [LT α] (h : x < y) : x.Defined ∧ y.Defined := defined_of_lift h

theorem defined_of_le [LE α] (h : x ≤ y) : x.Defined ∧ y.Defined := defined_of_lift h

theorem defined_add [Add α] : (x + y).Defined ↔ x.Defined ∧ y.Defined := by
  cases x with
  | nan => exact ⟨False.elim, And.left⟩
  | num a =>
    cases y with
    | nan => exact ⟨False.elim, And.right⟩
    | num b => exact ⟨fun _ => ⟨trivial, trivial⟩, fun _ => trivial⟩

theorem le_trans [LinearOrder α] {z : WithNaN α} (hxy : x ≤ y) (hyz : y ≤ z) : x ≤ z := by
  cases x with
  | nan => cases hxy
  | num a =>
    cases y with
    | nan => cases hxy
    | num b =>
      cases z with
      | nan => cases hyz
      | num c => exact LE.le.trans (α := α) hxy hyz

theorem le_antisymm [LinearOrder α] (hxy : x ≤ y) (hyx : y ≤ x) : x = y := by
  cases x with
  | nan => cases hxy
  | num a =>
    cases y with
    | nan => cases hxy
    | num b => exact congrArg num (LE.le.antisymm (α := α) hxy hyx)

theorem not_le_of_lt [LinearOrder α] (h : x < y) : ¬y ≤ x := by
  cases x with
  | nan => cases h
  | num a =>
    cases y with
    | nan => cases h
    | num b => exact not_le_of_gt (α := α) h

theorem le_of_lt [LinearOrder α] (h : x < y) : x ≤ y := by
  cases x with
  | nan => cases h
  | num a =>
    cases y with
    | nan => cases h
    | num b => exact LT.lt.le (α := α) h

theorem lt_of_not_le [LinearOrder α] (hx : x.Defined) (hy : y.Defined) (h : ¬x ≤ y) : y < x := by
  cases x with
  | nan => cases hx
  | num a =>
    cases y with
    | nan => cases hy
    | num b => exact lt_of_not_ge (α := α) h

theorem le_of_not_lt [LinearOrder α] (hx : x.Defined) (hy : y.Defined) (h : ¬x < y) : y ≤ x := by
  cases x with
  | nan => cases hx
  | num a =>
    cases y with
    | nan => cases hy
    | num b => exact le_of_not_gt (α := α) h

end
end WithNaN
