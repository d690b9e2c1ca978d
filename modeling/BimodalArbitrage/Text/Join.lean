import BimodalArbitrage.Text.Trim

/-!
# Joined texts
-/

namespace Text
variable {α : Type*} {sep : α} {xs : List α} {parts : List (List α)} {blank : α → Bool}

theorem length_splitOn [DecidableEq α] (sep : α) (xs : List α) :
    (xs.splitOn sep).length = xs.count sep + 1 := by
  induction xs with
  | nil => rfl
  | cons x xs ih =>
    rw [List.splitOn_cons_eq_if_modifyHead, List.count_cons]
    by_cases hx : (x == sep) = true
    · rw [if_pos hx, if_pos hx, List.length_cons, ih]
    · rw [if_neg hx, if_neg hx, List.length_modifyHead, ih, Nat.add_zero]

theorem mem_join {x : α} (h : x ∈ [sep].intercalate parts) :
    x = sep ∨ ∃ part ∈ parts, x ∈ part := by
  induction parts with
  | nil => exact absurd h List.not_mem_nil
  | cons part parts ih =>
    cases parts with
    | nil =>
      rw [List.intercalate_singleton] at h
      exact .inr ⟨part, List.mem_cons_self .., h⟩
    | cons next parts =>
      rw [List.intercalate_cons_cons] at h
      rcases List.mem_append.mp h with h | h
      · rcases List.mem_append.mp h with h | h
        · exact .inr ⟨part, List.mem_cons_self .., h⟩
        · exact .inl (List.mem_singleton.mp h)
      · rcases ih h with hsep | ⟨other, hother, hx⟩
        · exact .inl hsep
        · exact .inr ⟨other, List.mem_cons_of_mem _ hother, hx⟩

theorem head?_join {part : List α} (hpart : part ≠ []) (parts : List (List α)) :
    ([sep].intercalate (part :: parts)).head? = part.head? := by
  cases parts with
  | nil => rw [List.intercalate_singleton]
  | cons next parts =>
    rw [List.intercalate_cons_cons, List.append_assoc, List.head?_append_of_ne_nil _ hpart]

theorem getLast?_join {part : List α} (hpart : part ≠ []) (parts : List (List α)) :
    ([sep].intercalate (parts ++ [part])).getLast? = part.getLast? := by
  induction parts with
  | nil => rw [List.nil_append, List.intercalate_singleton]
  | cons first parts ih =>
    have hne : parts ++ [part] ≠ [] := List.append_ne_nil_of_right_ne_nil _ (List.cons_ne_nil _ _)
    rw [List.cons_append, List.intercalate_cons_of_ne_nil hne, List.getLast?_append, ih]
    cases hlast : part.getLast? with
    | none => exact absurd (List.getLast?_eq_none_iff.mp hlast) hpart
    | some x => rfl

theorem trimmed_join (hne : ∀ part ∈ parts, part ≠ [])
    (htrim : ∀ part ∈ parts, Trimmed blank part) : Trimmed blank ([sep].intercalate parts) := by
  constructor
  · cases parts with
    | nil => exact fun x hx => nomatch hx
    | cons part parts =>
      rw [head?_join (hne part (List.mem_cons_self ..))]
      exact (htrim part (List.mem_cons_self ..)).1
  · rcases parts.eq_nil_or_concat with rfl | ⟨parts, part, rfl⟩
    · exact fun x hx => nomatch hx
    · rw [List.concat_eq_append] at hne htrim ⊢
      have hmem : part ∈ parts ++ [part] := List.mem_append_right _ (List.mem_cons_self ..)
      rw [getLast?_join (hne part hmem)]
      exact (htrim part hmem).2

end Text
