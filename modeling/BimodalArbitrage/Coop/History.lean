import Mathlib.Data.List.Basic

/-!
# Properties of a growing history

`Throughout ok log`: every entry of the log is `ok` relative to what was there before.
-/

namespace Coop
variable {α : Type} {ok ok' : List α → α → Prop} {log : List α}

def Throughout (ok : List α → α → Prop) (log : List α) : Prop :=
  ∀ before e after, log = before ++ e :: after → ok before e

theorem throughout_nil : Throughout ok [] := by
  intro before e after h
  cases before <;> cases h

theorem throughout_snoc (e : α) : Throughout ok (log ++ [e]) ↔ Throughout ok log ∧ ok log e := by
  constructor
  · intro h
    refine ⟨fun before e' after heq => h before e' (after ++ [e]) ?_, h log e [] rfl⟩
    rw [heq, List.append_assoc, List.cons_append]
  · rintro ⟨hlog, he⟩ before e' after heq
    rcases List.eq_nil_or_concat after with rfl | ⟨after, last, rfl⟩
    · obtain ⟨rfl, hlast⟩ := List.append_inj' heq rfl
      cases hlast
      exact he
    · have hinit : log = before ++ e' :: after := by
        rw [List.concat_eq_append, ← List.cons_append, ← List.append_assoc] at heq
        exact (List.append_inj' heq rfl).1
      exact hlog before e' after hinit

theorem throughout_cons (e : α) :
    Throughout ok (e :: log) ↔ ok [] e ∧ Throughout (fun before => ok (e :: before)) log := by
  constructor
  · intro h
    refine ⟨h [] e log rfl, fun before e' after heq => h (e :: before) e' after ?_⟩
    rw [heq, List.cons_append]
  · rintro ⟨he, hlog⟩ before e' after heq
    cases before with
    | nil =>
      cases heq
      exact he
    | cons b before =>
      rw [List.cons_append, List.cons.injEq] at heq
      obtain ⟨rfl, hrest⟩ := heq
      exact hlog before e' after hrest

theorem throughout_mono (h : Throughout ok log) (hok : ∀ before e, ok before e → ok' before e) :
    Throughout ok' log :=
  fun before e after heq => hok before e (h before e after heq)

theorem throughout_iff_take :
    Throughout ok log ↔ ∀ k : Fin log.length, ok (log.take k) (log.get k) := by
  constructor
  · intro h k
    refine h _ _ (log.drop (k + 1)) ?_
    rw [List.get_eq_getElem, ← List.drop_eq_getElem_cons k.isLt, List.take_append_drop]
  · rintro h before e after rfl
    have hk : before.length < (before ++ e :: after).length := by simp
    simpa using h ⟨before.length, hk⟩

instance [∀ before e, Decidable (ok before e)] : Decidable (Throughout ok log) :=
  decidable_of_iff _ throughout_iff_take.symm

theorem throughout_congr {known : List α → α → Prop} (hknown : Throughout known log)
    (h : ∀ before e, known before e → (ok before e ↔ ok' before e)) :
    Throughout ok log ↔ Throughout ok' log := by
  constructor
  · intro hok before e after heq
    exact (h before e (hknown before e after heq)).mp (hok before e after heq)
  · intro hok before e after heq
    exact (h before e (hknown before e after heq)).mpr (hok before e after heq)

end Coop
