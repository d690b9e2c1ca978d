import Mathlib.Data.List.Perm.Basic

/-!
# Tickets

Holders are given tickets and spend them, each the one it was given last. No ticket is
spent twice: the spent ones and the ones still held are together those that were given.
-/

namespace Quota

/-- The tickets, the latest first. -/
structure Tickets (ι α : Type) where
  held : List (ι × α)
  spent : List α

namespace Tickets
variable {ι α : Type} {t : Tickets ι α} {i j : ι} {a : α} {given : List α}

def empty : Tickets ι α := ⟨[], []⟩

def give (i : ι) (a : α) (t : Tickets ι α) : Tickets ι α := { t with held := (i, a) :: t.held }

/-- All tickets that were given, in no order. -/
def Accounts (t : Tickets ι α) (given : List α) : Prop :=
  (t.spent ++ t.held.map Prod.snd).Perm given

theorem accounts_empty : (empty : Tickets ι α).Accounts [] := List.Perm.nil

theorem Accounts.give (h : t.Accounts given) (i : ι) (a : α) :
    (t.give i a).Accounts (a :: given) := by
  rw [Accounts, Tickets.give, List.map_cons]
  exact List.perm_middle.trans (h.cons a)

/-- Of no kind are more tickets spent than given. -/
theorem Accounts.countP_spent_le (h : t.Accounts given) (p : α → Bool) :
    t.spent.countP p ≤ given.countP p := by
  rw [← h.countP_eq p, List.countP_append]
  exact Nat.le_add_right ..

section
variable [DecidableEq ι]

def holds (i : ι) (t : Tickets ι α) : Option α := (t.held.find? fun h => h.1 = i).map Prod.snd

def spend (i : ι) (t : Tickets ι α) : Tickets ι α :=
  match t.holds i with
  | some a => ⟨t.held.eraseP fun h => h.1 = i, a :: t.spent⟩
  | none => t

theorem holds_give_self : (t.give i a).holds i = some a := by
  simp [holds, Tickets.give]

theorem holds_give_of_ne (h : j ≠ i) : (t.give i a).holds j = t.holds j := by
  simp [holds, Tickets.give, h.symm]

theorem spend_of_holds (h : t.holds i = some a) :
    t.spend i = ⟨t.held.eraseP fun h => h.1 = i, a :: t.spent⟩ := by
  rw [spend, h]

theorem held_split (h : t.holds i = some a) :
    ∃ later earlier, t.held = later ++ (i, a) :: earlier ∧
      t.held.eraseP (fun h => h.1 = i) = later ++ earlier := by
  obtain ⟨⟨k, b⟩, hfind, hb⟩ := Option.map_eq_some_iff.mp h
  obtain ⟨hk, later, earlier, hsplit, hlater⟩ := List.find?_eq_some_iff_append.mp hfind
  cases hb
  cases of_decide_eq_true hk
  refine ⟨later, earlier, hsplit, ?_⟩
  rw [hsplit, List.eraseP_append_right _ fun h hh => by simpa using hlater h hh]
  simp

theorem holds_spend_of_ne (h : j ≠ i) : (t.spend i).holds j = t.holds j := by
  cases hi : t.holds i with
  | none => rw [spend, hi]
  | some a =>
    obtain ⟨later, earlier, hheld, herased⟩ := held_split hi
    rw [spend_of_holds hi, holds, holds, herased, hheld]
    simp [List.find?_append, h.symm]

theorem Accounts.spend (h : t.Accounts given) (i : ι) : (t.spend i).Accounts given := by
  cases hi : t.holds i with
  | none => rwa [Tickets.spend, hi]
  | some a =>
    obtain ⟨later, earlier, hheld, herased⟩ := held_split hi
    refine List.Perm.trans ?_ h
    rw [spend_of_holds hi, herased, hheld, List.map_append, List.map_append, List.map_cons,
      List.cons_append, ← List.append_assoc, ← List.append_assoc]
    exact List.perm_middle.symm

end
end Tickets
end Quota
