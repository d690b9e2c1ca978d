import Mathlib.Data.List.DropRight

/-!
# Trimming

The blanks in front of a text and behind it are dropped, those within it are kept.
-/

namespace Text
variable {α : Type*} (blank : α → Bool)

def trim (xs : List α) : List α := (xs.dropWhile blank).rdropWhile blank

/-- No blank in front and none behind. -/
def Trimmed (xs : List α) : Prop :=
  (∀ x ∈ xs.head?, blank x = false) ∧ ∀ x ∈ xs.getLast?, blank x = false

section
variable {blank} {xs before after : List α}

theorem dropWhile_append (hbefore : ∀ x ∈ before, blank x = true) :
    (before ++ xs).dropWhile blank = xs.dropWhile blank := by
  induction before with
  | nil => rfl
  | cons x before ih =>
    rw [List.cons_append, List.dropWhile_cons_of_pos (hbefore x (List.mem_cons_self ..))]
    exact ih fun y hy => hbefore y (List.mem_cons_of_mem _ hy)

theorem rdropWhile_append (hafter : ∀ x ∈ after, blank x = true) :
    (xs ++ after).rdropWhile blank = xs.rdropWhile blank := by
  unfold List.rdropWhile
  rw [List.reverse_append, dropWhile_append fun x hx => hafter x (List.mem_reverse.mp hx)]

theorem trimmed_of_forall (h : ∀ x ∈ xs, blank x = false) : Trimmed blank xs :=
  ⟨fun x hx => h x (List.mem_of_mem_head? hx), fun x hx => h x (List.mem_of_mem_getLast? hx)⟩

theorem trim_eq_nil : trim blank xs = [] ↔ ∀ x ∈ xs, blank x = true := by
  rw [trim, List.rdropWhile_eq_nil_iff]
  constructor
  · intro h x hx
    rw [← List.takeWhile_append_dropWhile (p := blank) (l := xs)] at hx
    rcases List.mem_append.mp hx with hx | hx
    · exact List.mem_takeWhile_imp hx
    · exact h x hx
  · intro h x hx
    exact h x ((List.dropWhile_suffix blank).subset hx)

theorem trim_append (hbefore : ∀ x ∈ before, blank x = true)
    (hafter : ∀ x ∈ after, blank x = true) (h : Trimmed blank xs) :
    trim blank (before ++ xs ++ after) = xs := by
  obtain ⟨hfirst, hlast⟩ := h
  rw [List.append_assoc, trim, dropWhile_append hbefore]
  cases xs with
  | nil =>
    rw [List.nil_append, List.dropWhile_eq_nil_iff.mpr hafter]
    rfl
  | cons x xs =>
    have hx : ¬blank x = true := ne_true_of_eq_false (hfirst x rfl)
    rw [List.cons_append, List.dropWhile_cons_of_neg hx, ← List.cons_append,
      rdropWhile_append hafter, List.rdropWhile_eq_self_iff]
    intro hne
    exact ne_true_of_eq_false (hlast _ (List.getLast_mem_getLast? hne))

theorem exists_trim (blank : α → Bool) (xs : List α) :
    ∃ before after, xs = before ++ trim blank xs ++ after ∧
      (∀ x ∈ before, blank x = true) ∧ ∀ x ∈ after, blank x = true := by
  refine ⟨xs.takeWhile blank, (xs.dropWhile blank).rtakeWhile blank, ?_,
    fun _ => List.mem_takeWhile_imp, fun _ => List.mem_rtakeWhile_imp⟩
  rw [List.append_assoc, trim, List.rdropWhile_append_rtakeWhile, List.takeWhile_append_dropWhile]

theorem count_trim [DecidableEq α] {a : α} (ha : blank a = false) (xs : List α) :
    (trim blank xs).count a = xs.count a := by
  obtain ⟨before, after, hxs, hbefore, hafter⟩ := exists_trim blank xs
  have hnone {ys : List α} (hys : ∀ x ∈ ys, blank x = true) : ys.count a = 0 := by
    refine List.count_eq_zero_of_not_mem fun hmem => ?_
    rw [hys a hmem] at ha
    cases ha
  conv_rhs => rw [hxs]
  rw [List.count_append, List.count_append, hnone hbefore, hnone hafter, Nat.zero_add, Nat.add_zero]

end
end Text
