import BimodalArbitrage.Numbers.Undefined
import BimodalArbitrage.Rounding.Nearest
import Mathlib.Order.WithBot

/-!
# Floating-point numbers

The numbers of a binary format with two infinities and one undefined number. The two zeros
are one number. Every operation rounds the exact result once.
-/

namespace Rounding

namespace Format
variable {F : Format}

def Representable (F : Format) (x : ℚ) : Prop := F.nearest x = x ∧ |x| < 2 ^ F.maxExponent

instance (x : ℚ) : Decidable (F.Representable x) := by
  unfold Representable
  infer_instance

theorem representable_neg {x : ℚ} (h : F.Representable x) : F.Representable (-x) :=
  ⟨by rw [nearest_neg, h.1], by rw [abs_neg]; exact h.2⟩

theorem representable_zero : F.Representable 0 :=
  ⟨F.nearest_zero, by rw [abs_zero]; exact zpow_pos two_pos _⟩

end Format

inductive Floating (F : Format) where
  | nan
  | infinite (negative : Bool)
  | finite (x : ℚ) (h : F.Representable x)
  deriving DecidableEq

namespace Floating
variable {F : Format}

/-- `x` rounded to the format. -/
def ofRat (x : ℚ) : Floating F :=
  if h : |F.nearest x| < 2 ^ F.maxExponent then .finite (F.nearest x) ⟨F.nearest_nearest x, h⟩
  else .infinite (decide (F.nearest x < 0))

/-- The rational a finite number is; the others have none. -/
def value : Floating F → ℚ
  | .finite x _ => x
  | _ => 0

def IsFinite : Floating F → Prop
  | .finite _ _ => True
  | _ => False

instance (x : Floating F) : Decidable x.IsFinite := by
  cases x <;> unfold IsFinite <;> infer_instance

/-! ### Comparisons -/

/-- The place of a number among the others; an undefined one has none. -/
def place : Floating F → WithNaN (WithBot (WithTop ℚ))
  | .nan => .nan
  | .infinite true => .num ⊥
  | .infinite false => .num ⊤
  | .finite x _ => .num ((x : WithTop ℚ) : WithBot (WithTop ℚ))

instance : LT (Floating F) := ⟨fun x y => x.place < y.place⟩
instance : LE (Floating F) := ⟨fun x y => x.place ≤ y.place⟩
instance : DecidableLT (Floating F) := fun x y => inferInstanceAs (Decidable (x.place < y.place))
instance : DecidableLE (Floating F) := fun x y => inferInstanceAs (Decidable (x.place ≤ y.place))

instance : BEq (Floating F) where
  beq x y := decide (x ≤ y ∧ y ≤ x)

/-- The second argument where it is below the first. -/
instance : Min (Floating F) := ⟨fun x y => if y < x then y else x⟩

/-- The second argument where it is above the first. -/
instance : Max (Floating F) := ⟨fun x y => if x < y then y else x⟩

/-! ### Arithmetic -/

instance : Neg (Floating F) where
  neg
    | .nan => .nan
    | .infinite negative => .infinite !negative
    | .finite x h => .finite (-x) (F.representable_neg h)

instance : Add (Floating F) where
  add
    | .nan, _ => .nan
    | _, .nan => .nan
    | .infinite a, .infinite b => if a = b then .infinite a else .nan
    | .infinite a, .finite _ _ => .infinite a
    | .finite _ _, .infinite b => .infinite b
    | .finite x _, .finite y _ => ofRat (x + y)

instance : Sub (Floating F) := ⟨fun x y => x + -y⟩

instance : Mul (Floating F) where
  mul
    | .nan, _ => .nan
    | _, .nan => .nan
    | .infinite a, .infinite b => .infinite (a != b)
    | .infinite a, .finite y _ => if y = 0 then .nan else .infinite (a != decide (y < 0))
    | .finite x _, .infinite b => if x = 0 then .nan else .infinite (b != decide (x < 0))
    | .finite x _, .finite y _ => ofRat (x * y)

/-- A divisor is not zero. -/
instance : Div (Floating F) where
  div
    | .nan, _ => .nan
    | _, .nan => .nan
    | .infinite _, .infinite _ => .nan
    | .infinite a, .finite y _ => .infinite (a != decide (y < 0))
    | .finite _ _, .infinite _ => .finite 0 F.representable_zero
    | .finite x _, .finite y _ => ofRat (x / y)

section
variable {x y : ℚ} (hx : F.Representable x) (hy : F.Representable y)

theorem ofRat_of_representable : ofRat x = .finite x hx := by
  have hlt := hx.2
  unfold ofRat
  simp only [hx.1, hlt, dite_true]

@[simp] theorem finite_le : Floating.finite x hx ≤ .finite y hy ↔ x ≤ y := by
  show ((x : WithTop ℚ) : WithBot (WithTop ℚ)) ≤ ((y : WithTop ℚ) : WithBot (WithTop ℚ)) ↔ x ≤ y
  rw [WithBot.coe_le_coe, WithTop.coe_le_coe]

@[simp] theorem finite_lt : Floating.finite x hx < .finite y hy ↔ x < y := by
  show ((x : WithTop ℚ) : WithBot (WithTop ℚ)) < ((y : WithTop ℚ) : WithBot (WithTop ℚ)) ↔ x < y
  rw [WithBot.coe_lt_coe, WithTop.coe_lt_coe]

theorem le_trans {x y z : Floating F} (hxy : x ≤ y) (hyz : y ≤ z) : x ≤ z :=
  WithNaN.le_trans hxy hyz

theorem place_injective : Function.Injective (place (F := F)) := by
  intro x y h
  cases x with
  | nan => cases y with
    | nan => rfl
    | infinite b => cases b <;> cases h
    | finite y hy => cases h
  | infinite a => cases a <;> cases y with
    | nan => cases h
    | infinite b => cases b <;> first | rfl | cases h
    | finite y hy => cases h
  | finite x hx => cases y with
    | nan => cases h
    | infinite b => cases b <;> cases h
    | finite y hy =>
      cases h
      rfl

theorem le_antisymm {x y : Floating F} (hxy : x ≤ y) (hyx : y ≤ x) : x = y :=
  place_injective (WithNaN.le_antisymm hxy hyx)

theorem not_le_of_lt {x y : Floating F} (h : x < y) : ¬y ≤ x := WithNaN.not_le_of_lt h

theorem le_of_lt {x y : Floating F} (h : x < y) : x ≤ y := WithNaN.le_of_lt h

theorem defined_place {x : Floating F} : x.place.Defined ↔ x ≠ .nan := by
  cases x with
  | nan => exact iff_of_false id fun h => h rfl
  | infinite negative => cases negative <;> exact iff_of_true trivial fun h => nomatch h
  | finite x hx => exact iff_of_true trivial fun h => nomatch h

theorem ne_nan_of_le {x y : Floating F} (h : x ≤ y) : x ≠ .nan ∧ y ≠ .nan :=
  (WithNaN.defined_of_le h).imp defined_place.mp defined_place.mp

theorem le_of_not_lt {x y : Floating F} (hx : x ≠ .nan) (hy : y ≠ .nan) (h : ¬x < y) : y ≤ x :=
  WithNaN.le_of_not_lt (defined_place.mpr hx) (defined_place.mpr hy) h

theorem le_of_not_le {x y : Floating F} (hx : x ≠ .nan) (hy : y ≠ .nan) (h : ¬x ≤ y) : y ≤ x :=
  le_of_lt (WithNaN.lt_of_not_le (defined_place.mpr hx) (defined_place.mpr hy) h)

theorem le_refl {x : Floating F} (h : x ≠ .nan) : x ≤ x :=
  le_of_not_lt h h fun hlt => not_le_of_lt hlt (le_of_lt hlt)

theorem finite_add : Floating.finite x hx + .finite y hy = ofRat (x + y) := rfl

theorem finite_sub : Floating.finite x hx - .finite y hy = ofRat (x - y) :=
  congrArg ofRat (sub_eq_add_neg x y).symm

theorem finite_mul : Floating.finite x hx * .finite y hy = ofRat (x * y) := rfl

/-! ### Finite numbers -/

theorem IsFinite.ne_nan {x : Floating F} (h : x.IsFinite) : x ≠ .nan := by
  rintro rfl
  exact h

theorem value_le_value {x y : Floating F} (hx : x.IsFinite) (hy : y.IsFinite) :
    x.value ≤ y.value ↔ x ≤ y := by
  cases x <;> cases y <;> first | exact hx.elim | exact hy.elim | exact (finite_le _ _).symm

theorem value_inj {x y : Floating F} (hx : x.IsFinite) (hy : y.IsFinite) :
    x.value = y.value ↔ x = y := by
  cases x <;> cases y <;>
    first | exact hx.elim | exact hy.elim | exact (Floating.finite.injEq ..).symm.to_iff

theorem IsFinite.of_le {x y : Floating F} (hy : y.IsFinite) (hx : ofRat 0 ≤ x) (h : x ≤ y) :
    x.IsFinite := by
  rw [ofRat_of_representable F.representable_zero] at hx
  cases x with
  | nan => cases hx
  | infinite negative =>
    cases y with
    | finite y hy' =>
      cases negative with
      | true => cases hx
      | false =>
        have hlt : Floating.finite y hy' < .infinite false :=
          WithBot.coe_lt_coe.mpr (WithTop.coe_lt_top y)
        exact absurd h (not_le_of_lt hlt)
    | _ => exact hy.elim
  | finite x hx' => trivial

theorem ofRat_zero_add (x : Floating F) : ofRat 0 + x = x := by
  rw [ofRat_of_representable F.representable_zero]
  cases x with
  | nan => rfl
  | infinite negative => rfl
  | finite x hx => rw [finite_add, zero_add, ofRat_of_representable hx]

theorem sub_ofRat_zero (x : Floating F) : x - ofRat 0 = x := by
  rw [ofRat_of_representable F.representable_zero]
  cases x with
  | nan => rfl
  | infinite negative => rfl
  | finite x hx => rw [finite_sub, sub_zero, ofRat_of_representable hx]

theorem IsFinite.sub_self {x : Floating F} (h : x.IsFinite) : x - x = ofRat 0 := by
  cases x with
  | finite x hx => rw [finite_sub, sub_eq_zero.mpr rfl]
  | _ => exact h.elim

theorem IsFinite.mul_ofRat_zero {x : Floating F} (h : x.IsFinite) : x * ofRat 0 = ofRat 0 := by
  cases x with
  | finite x hx =>
    rw [ofRat_of_representable F.representable_zero, finite_mul, mul_zero,
      ofRat_of_representable F.representable_zero]
  | _ => exact h.elim

theorem infinite_le {x : Floating F} (h : x ≠ .nan) : .infinite true ≤ x := by
  cases x with
  | nan => exact absurd rfl h
  | infinite negative => cases negative <;> exact bot_le (α := WithBot (WithTop ℚ))
  | finite x hx => exact bot_le (α := WithBot (WithTop ℚ))

theorem le_infinite {x : Floating F} (h : x ≠ .nan) : x ≤ .infinite false := by
  cases x with
  | nan => exact absurd rfl h
  | infinite negative => cases negative <;> exact le_top (α := WithBot (WithTop ℚ))
  | finite x hx => exact le_top (α := WithBot (WithTop ℚ))

theorem ofRat_ne_nan (x : ℚ) : (ofRat x : Floating F) ≠ .nan := by
  unfold ofRat
  split <;> exact fun h => nomatch h

theorem ofRat_mono {x y : ℚ} (h : x ≤ y) : (ofRat x : Floating F) ≤ ofRat y := by
  have hround := F.nearest_mono h
  by_cases hx : |F.nearest x| < 2 ^ F.maxExponent
  · by_cases hy : |F.nearest y| < 2 ^ F.maxExponent
    · simp only [ofRat, hx, hy, dite_true]
      exact (finite_le _ _).mpr hround
    · have hpos : ¬F.nearest y < 0 := fun hneg => hy (by
        rw [abs_of_neg hneg]
        have hlow := (abs_lt.mp hx).1
        linarith)
      have hinf : (ofRat y : Floating F) = .infinite false := by
        simp only [ofRat, hy, dite_false, hpos, decide_false]
      rw [hinf]
      exact le_infinite (ofRat_ne_nan x)
  · by_cases hneg : F.nearest x < 0
    · have hinf : (ofRat x : Floating F) = .infinite true := by
        simp only [ofRat, hx, dite_false, hneg, decide_true]
      rw [hinf]
      exact infinite_le (ofRat_ne_nan y)
    · have hx0 : 0 ≤ F.nearest x := not_lt.mp hneg
      have hy0 : 0 ≤ F.nearest y := hx0.trans hround
      rw [abs_of_nonneg hx0] at hx
      have hy : ¬|F.nearest y| < 2 ^ F.maxExponent := by
        rw [abs_of_nonneg hy0]
        exact fun hlt => hx (hround.trans_lt hlt)
      have hinf : (ofRat y : Floating F) = .infinite false := by
        simp only [ofRat, hy, dite_false, not_lt.mpr hy0, decide_false]
      rw [hinf]
      exact le_infinite (ofRat_ne_nan x)

theorem le_add {z : ℚ} (hz : F.Representable z) {a b : Floating F} (ha : ofRat 0 ≤ a)
    (hb : ofRat z ≤ b) : ofRat z ≤ a + b := by
  have hinfinite : (ofRat z : Floating F) ≤ .infinite false := le_infinite (ofRat_ne_nan z)
  rw [ofRat_of_representable F.representable_zero] at ha
  rw [ofRat_of_representable hz] at hb
  cases b with
  | nan => cases hb
  | infinite negative =>
    cases negative with
    | true => cases hb
    | false =>
      cases a with
      | nan => cases ha
      | infinite negative =>
        cases negative with
        | true => cases ha
        | false => exact hinfinite
      | finite x hx => exact hinfinite
  | finite y hy =>
    cases a with
    | nan => cases ha
    | infinite negative =>
      cases negative with
      | true => cases ha
      | false => exact hinfinite
    | finite x hx =>
      rw [finite_le] at ha hb
      rw [finite_add]
      exact ofRat_mono (by linarith)

theorem le_min {z a b : Floating F} (ha : z ≤ a) (hb : z ≤ b) : z ≤ min a b := by
  show z ≤ if b < a then b else a
  split
  · exact hb
  · exact ha

theorem min_le_left {a b : Floating F} (ha : a ≠ .nan) : min a b ≤ a := by
  show (if b < a then b else a) ≤ a
  split
  · next hlt => exact le_of_lt hlt
  · exact le_refl ha

theorem min_eq_right {a b : Floating F} (h : b ≤ a) : min a b = b := by
  show (if b < a then b else a) = b
  split
  · rfl
  · next hge => exact le_antisymm (le_of_not_lt (ne_nan_of_le h).1 (ne_nan_of_le h).2 hge) h

theorem max_le {z a b : Floating F} (ha : a ≤ z) (hb : b ≤ z) : max a b ≤ z := by
  show (if a < b then b else a) ≤ z
  split
  · exact hb
  · exact ha

theorem le_max_right {a b : Floating F} (ha : a ≠ .nan) (hb : b ≠ .nan) : b ≤ max a b := by
  show b ≤ if a < b then b else a
  split
  · exact le_refl hb
  · next hge => exact le_of_not_lt ha hb hge

theorem zero_le_sub {z : ℚ} (hz : F.Representable z) {a : Floating F} (h : ofRat z ≤ a) :
    ofRat 0 ≤ a - ofRat z := by
  rw [ofRat_of_representable hz] at h ⊢
  cases a with
  | nan => cases h
  | infinite negative =>
    cases negative with
    | true => cases h
    | false => exact le_infinite (ofRat_ne_nan 0)
  | finite x hx =>
    rw [finite_le] at h
    rw [finite_sub]
    exact ofRat_mono (sub_nonneg.mpr h)

theorem mul_ofRat_one (hone : F.Representable 1) (x : Floating F) : x * ofRat 1 = x := by
  rw [ofRat_of_representable hone]
  cases x with
  | nan => rfl
  | infinite negative => cases negative <;> rfl
  | finite x hx => rw [finite_mul, mul_one, ofRat_of_representable hx]

theorem value_nonneg {x : Floating F} (h : ofRat 0 ≤ x) : 0 ≤ x.value := by
  cases x with
  | finite x hx =>
    rw [ofRat_of_representable F.representable_zero] at h
    exact (finite_le _ _).mp h
  | _ => exact le_rfl

theorem value_ofRat_nonneg {x : ℚ} (h : 0 ≤ x) : 0 ≤ (ofRat x : Floating F).value := by
  unfold ofRat
  split
  · exact F.nearest_nonneg h
  · exact le_rfl

theorem value_mul_nonneg {x y : Floating F} (hx : 0 ≤ x.value) (hy : 0 ≤ y.value) :
    0 ≤ (x * y).value := by
  cases x with
  | nan => exact le_rfl
  | infinite a =>
    cases y with
    | nan => exact le_rfl
    | infinite b => exact le_rfl
    | finite y hy' =>
      show 0 ≤ (if y = 0 then Floating.nan else .infinite (a != decide (y < 0))).value
      split <;> exact le_rfl
  | finite x hx' =>
    cases y with
    | nan => exact le_rfl
    | infinite b =>
      show 0 ≤ (if x = 0 then Floating.nan else .infinite (b != decide (x < 0))).value
      split <;> exact le_rfl
    | finite y hy' => exact value_ofRat_nonneg (mul_nonneg hx hy)

theorem value_div_nonneg {x y : Floating F} (hx : 0 ≤ x.value) (hy : 0 ≤ y.value) :
    0 ≤ (x / y).value := by
  cases x with
  | nan => exact le_rfl
  | infinite a => cases y <;> exact le_rfl
  | finite x hx' =>
    cases y with
    | nan => exact le_rfl
    | infinite b => exact le_rfl
    | finite y hy' => exact value_ofRat_nonneg (div_nonneg hx hy)

theorem value_sub_nonneg {x y : Floating F} (h : y.value ≤ x.value) : 0 ≤ (x - y).value := by
  cases x with
  | nan => exact le_rfl
  | infinite a =>
    cases y with
    | nan => exact le_rfl
    | infinite b =>
      show 0 ≤ (if a = !b then Floating.infinite a else .nan).value
      split <;> exact le_rfl
    | finite y hy => exact le_rfl
  | finite x hx =>
    cases y with
    | nan => exact le_rfl
    | infinite b => exact le_rfl
    | finite y hy =>
      rw [finite_sub]
      exact value_ofRat_nonneg (sub_nonneg.mpr h)

theorem zero_le_of_div {x y : Floating F} (hy : ofRat 0 < y) (hfinite : (x / y).IsFinite)
    (h : ¬x / y ≤ ofRat 0) : ofRat 0 ≤ x := by
  have hzero := ofRat_of_representable F.representable_zero
  cases x with
  | nan => exact hfinite.elim
  | infinite negative => cases y <;> exact hfinite.elim
  | finite x hx =>
    cases y with
    | nan => exact hfinite.elim
    | infinite negative =>
      refine absurd ?_ h
      rw [hzero]
      exact (finite_le _ _).mpr le_rfl
    | finite y hy' =>
      rw [hzero, finite_lt] at hy
      rw [hzero, finite_le]
      by_contra hneg
      exact h (ofRat_mono (div_neg_of_neg_of_pos (not_le.mp hneg) hy).le)

end
end Floating

/-- Double precision. -/
def binary64 : Format := ⟨53, -1074, 1024, by decide⟩

example : (Floating.ofRat (1 / 10) + .ofRat (1 / 5) : Floating binary64) ≠ .ofRat (3 / 10) := by
  decide +kernel

end Rounding
