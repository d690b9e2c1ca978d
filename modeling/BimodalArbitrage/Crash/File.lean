import Mathlib.Data.List.Induction

/-!
# A file whose writes crashes cut short

A write truncates the file and then writes a growing prefix of its text. A crash ends
it anywhere; the process that starts after it finds what had been written by then.
-/

namespace Crash
variable {α β : Type}

/-- Where a crash ends a write: before the truncation, or with `k` characters written. -/
inductive Cut where
  | untouched
  | written (k : ℕ)

inductive Step (α : Type) where
  | completed (a : α)
  | interrupted (a : α) (cut : Cut)
  | restart

/-- Values of `α` kept as the text of one file. A torn text reads as `blank`. -/
structure Store (α β : Type) where
  print : α → List Char
  read : Option (List Char) → β
  ofValue : α → β
  blank : β
  read_print : ∀ a, read (some (print a)) = ofValue a
  read_torn : ∀ a k, k < (print a).length → read (some ((print a).take k)) = blank

/-! ### Histories -/

def Step.completedValue : Step α → Option α
  | .completed a => some a
  | _ => none

def Step.interruptedValue : Step α → Option α
  | .interrupted a _ => some a
  | _ => none

def lastCompleted (h : List (Step α)) : Option α := (h.filterMap Step.completedValue).getLast?

def begunSince (h : List (Step α)) : List α :=
  (h.reverse.takeWhile fun s => s.completedValue.isNone).filterMap Step.interruptedValue

/-- The last completed write wrote `a`, and no other value was begun to be written since. -/
def Standing (a : α) (h : List (Step α)) : Prop :=
  lastCompleted h = some a ∧ ∀ b ∈ begunSince h, b = a

def Uninterrupted (h : List (Step α)) : Prop := ∀ s ∈ h, s.interruptedValue = none

theorem standing_completed {a b : α} {h : List (Step α)} :
    Standing a (h ++ [.completed b]) ↔ b = a := by
  simp [Standing, lastCompleted, begunSince, Step.completedValue]

theorem lastCompleted_snoc {s : Step α} (hs : s.completedValue = none) (h : List (Step α)) :
    lastCompleted (h ++ [s]) = lastCompleted h := by
  simp only [lastCompleted, List.filterMap_append, List.filterMap_cons, hs, List.filterMap_nil,
    List.append_nil]

theorem begunSince_snoc {s : Step α} (hs : s.completedValue = none) (h : List (Step α)) :
    begunSince (h ++ [s]) = s.interruptedValue.toList ++ begunSince h := by
  rw [begunSince, List.reverse_append, List.reverse_singleton, List.singleton_append,
    List.takeWhile_cons_of_pos (by rw [hs]; rfl), begunSince, List.filterMap_cons]
  cases s.interruptedValue with
  | none => rfl
  | some b => rfl

theorem standing_interrupted {a b : α} {cut : Cut} {h : List (Step α)} :
    Standing a (h ++ [.interrupted b cut]) ↔ b = a ∧ Standing a h := by
  rw [Standing, lastCompleted_snoc rfl, begunSince_snoc rfl, Standing]
  show _ ∧ (∀ c ∈ b :: begunSince h, c = a) ↔ _
  rw [List.forall_mem_cons]
  exact and_left_comm

theorem standing_restart {a : α} {h : List (Step α)} :
    Standing a (h ++ [.restart]) ↔ Standing a h := by
  rw [Standing, lastCompleted_snoc rfl, begunSince_snoc rfl, Standing]
  exact Iff.rfl

/-! ### What is read back -/

namespace Store
variable (store : Store α β) (file : Option (List Char))

def after (file : Option (List Char)) : Step α → Option (List Char)
  | .completed a => some (store.print a)
  | .interrupted _ .untouched => file
  | .interrupted a (.written k) => some ((store.print a).take k)
  | .restart => file

def content (h : List (Step α)) : Option (List Char) := h.foldl store.after file

theorem content_snoc (h : List (Step α)) (s : Step α) :
    store.content file (h ++ [s]) = store.after (store.content file h) s := by
  rw [content, List.foldl_append, content]
  rfl

theorem read_written (a : α) {k : ℕ} (hk : (store.print a).length ≤ k) :
    store.read (some ((store.print a).take k)) = store.ofValue a := by
  rw [List.take_of_length_le hk, store.read_print]

theorem read_uninterrupted {h : List (Step α)} (hcalm : Uninterrupted h) {a : α}
    (hlast : lastCompleted h = some a) : store.read (store.content file h) = store.ofValue a := by
  induction h using List.reverseRecOn with
  | nil => cases hlast
  | append_singleton h s ih =>
    have hrest : Uninterrupted h := fun s' hs' => hcalm s' (List.mem_append_left _ hs')
    have hs : s.interruptedValue = none :=
      hcalm s (List.mem_append_right _ (List.mem_singleton_self s))
    rw [content_snoc]
    cases s with
    | completed b =>
      have hb : b = a := by simpa [lastCompleted, Step.completedValue] using hlast
      rw [← hb]
      exact store.read_print b
    | interrupted b cut => cases hs
    | restart =>
      rw [lastCompleted_snoc rfl] at hlast
      exact ih hrest hlast

/-- A standing value is lost by a write of itself that is torn, and by nothing else. -/
theorem read_standing_iff {a : α} (hblank : store.blank ≠ store.ofValue a) (h : List (Step α)) :
    (∀ p, p <+: h → Standing a p → store.read (store.content file p) = store.ofValue a) ↔
      ∀ p k, p ++ [.interrupted a (.written k)] <+: h → Standing a p →
        (store.print a).length ≤ k := by
  constructor
  · intro hall p k hp hstanding
    by_contra hk
    have hread := hall _ hp (standing_interrupted.mpr ⟨rfl, hstanding⟩)
    rw [content_snoc] at hread
    exact hblank ((store.read_torn a k (Nat.lt_of_not_le hk)).symm.trans hread)
  · intro hwhole p
    -- what stands before the last step of `p` is read back by induction
    induction p using List.reverseRecOn with
    | nil => exact fun _ hstanding => nomatch hstanding.1
    | append_singleton p s ih =>
      intro hp hstanding
      have hprefix : p <+: h := (List.prefix_append p [s]).trans hp
      rw [content_snoc]
      cases s with
      | completed b =>
        rw [← standing_completed.mp hstanding]
        exact store.read_print b
      | interrupted b cut =>
        obtain ⟨rfl, hbefore⟩ := standing_interrupted.mp hstanding
        cases cut with
        | untouched => exact ih hprefix hbefore
        | written k => exact store.read_written b (hwhole p k hp hbefore)
      | restart => exact ih hprefix (standing_restart.mp hstanding)

end Store
end Crash
