import Mathlib.Data.List.DropRight

/-!
# The last entries of a sequence

What a buffer of `n` places holds of all that was put into it is `List.rtake n`.
-/

namespace Window
variable {α β : Type} {n : ℕ} {past past' xs recent : List α}

theorem length_rtake (n : ℕ) (xs : List α) : (xs.rtake n).length = min n xs.length := by
  rw [List.rtake, List.length_drop]
  omega

theorem rtake_append (past : List α) (h : n ≤ recent.length) :
    (past ++ recent).rtake n = recent.rtake n := by
  have hlength : (past ++ recent).length - n = past.length + (recent.length - n) := by
    rw [List.length_append]
    omega
  rw [List.rtake, hlength, List.drop_length_add_append, List.rtake]

theorem rtake_forgets (past past' : List α) (h : n ≤ recent.length) :
    (past ++ recent).rtake n = (past' ++ recent).rtake n := by
  rw [rtake_append past h, rtake_append past' h]

theorem rtake_map (f : α → β) (n : ℕ) (xs : List α) : (xs.map f).rtake n = (xs.rtake n).map f := by
  rw [List.rtake, List.rtake, List.length_map, List.map_drop]

theorem reverse_rtake (n : ℕ) (xs : List α) : (xs.rtake n).reverse = xs.reverse.take n := by
  rw [List.rtake_eq_reverse_take_reverse, List.reverse_reverse]

theorem mem_of_mem_rtake {x : α} (h : x ∈ xs.rtake n) : x ∈ xs := List.mem_of_mem_drop h

theorem getLast?_rtake (hn : 0 < n) (xs : List α) : (xs.rtake n).getLast? = xs.getLast? := by
  rcases xs.eq_nil_or_concat with rfl | ⟨ys, x, rfl⟩
  · rw [List.rtake_nil]
  · obtain ⟨k, rfl⟩ := Nat.exists_eq_succ_of_ne_zero hn.ne'
    rw [List.concat_eq_append, List.rtake_concat_succ, List.getLast?_concat, List.getLast?_concat]

end Window
