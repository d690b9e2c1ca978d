import Mathlib.Algebra.Order.Group.Defs
import Mathlib.Data.List.Induction
import Mathlib.Logic.Function.Basic

/-!
# A store whose entries expire

Every entry is written with the same time to live. What a key reads is its last write,
until that much time has gone by.
-/

namespace Store
variable {K V T : Type}

structure Server (K V T : Type) where
  now : T
  entries : K → Option (V × T)

inductive Op (K V T : Type) where
  | set (key : K) (value : V)
  | advance (dt : T)
  deriving DecidableEq

def elapsed [Add T] [Zero T] : List (Op K V T) → T
  | [] => 0
  | .set _ _ :: ops => elapsed ops
  | .advance dt :: ops => dt + elapsed ops

/-- `value` is the last one written under `key`, and `age` has gone by since. -/
def LastSet [Add T] [Zero T] (key : K) (value : V) (age : T) (ops : List (Op K V T)) : Prop :=
  ∃ before after, ops = before ++ .set key value :: after ∧ (∀ v, .set key v ∉ after) ∧
    elapsed after = age

namespace Server
variable [DecidableEq K]

def empty [Zero T] : Server K V T := ⟨0, fun _ => none⟩

def set [Add T] (ttl : T) (key : K) (value : V) (s : Server K V T) : Server K V T :=
  { s with entries := Function.update s.entries key (some (value, s.now + ttl)) }

def advance [Add T] (dt : T) (s : Server K V T) : Server K V T := { s with now := s.now + dt }

def get [LT T] [DecidableLT T] (key : K) (s : Server K V T) : Option V :=
  (s.entries key).bind fun entry => if s.now < entry.2 then some entry.1 else none

def step [Add T] (ttl : T) (s : Server K V T) : Op K V T → Server K V T
  | .set key value => s.set ttl key value
  | .advance dt => s.advance dt

def run [Add T] (ttl : T) (s : Server K V T) (ops : List (Op K V T)) : Server K V T :=
  ops.foldl (step ttl) s

section
variable [Add T] {ttl : T} {key : K} {value : V} {s : Server K V T} {ops : List (Op K V T)}

theorem run_append (ttl : T) (s : Server K V T) (ops ops' : List (Op K V T)) :
    s.run ttl (ops ++ ops') = (s.run ttl ops).run ttl ops' := List.foldl_append ..

theorem run_cons (ttl : T) (s : Server K V T) (op : Op K V T) (ops : List (Op K V T)) :
    s.run ttl (op :: ops) = (s.step ttl op).run ttl ops := rfl

theorem get_set_of_ne [LT T] [DecidableLT T] {key' : K} (h : key' ≠ key) :
    (s.set ttl key value).get key' = s.get key' := by
  have hentry : (s.set ttl key value).entries key' = s.entries key' := Function.update_of_ne h ..
  rw [get, hentry]
  rfl

theorem entries_run (h : ∀ v, .set key v ∉ ops) : (s.run ttl ops).entries key = s.entries key := by
  induction ops generalizing s with
  | nil => rfl
  | cons op ops ih =>
    rw [run_cons, ih fun v hv => h v (List.mem_cons_of_mem _ hv)]
    cases op with
    | advance dt => rfl
    | set key' value' =>
      have hne : key ≠ key' := by
        rintro rfl
        exact h value' (List.mem_cons_self ..)
      exact Function.update_of_ne hne ..

end

section
variable [AddCommGroup T] [LinearOrder T] [IsOrderedAddMonoid T] {ttl age : T} {key : K}
  {value : V} {s : Server K V T} {ops : List (Op K V T)}

omit [LinearOrder T] [IsOrderedAddMonoid T] in
theorem now_run : (s.run ttl ops).now = s.now + elapsed ops := by
  induction ops generalizing s with
  | nil => exact (add_zero _).symm
  | cons op ops ih =>
    rw [run_cons, ih]
    cases op with
    | set key value => rfl
    | advance dt => exact add_assoc ..

theorem get_of_lastSet (h : LastSet key value age ops) :
    (s.run ttl ops).get key = if age < ttl then some value else none := by
  obtain ⟨before, after, rfl, hlast, rfl⟩ := h
  rw [run_append, run_cons, get, entries_run hlast, now_run]
  simp [step, set]

omit [IsOrderedAddMonoid T] in
theorem get_of_never (h : ∀ v, .set key v ∉ ops) :
    ((empty : Server K V T).run ttl ops).get key = none := by
  rw [get, entries_run h]
  rfl

end
end Server

theorem exists_lastSet [DecidableEq K] [Add T] [Zero T] (key : K) (ops : List (Op K V T)) :
    (∃ value age, LastSet key value age ops) ∨ ∀ v, .set key v ∉ ops := by
  induction ops with
  | nil => exact .inr fun v hv => nomatch hv
  | cons op ops ih =>
    rcases ih with ⟨value, age, before, after, rfl, hlast, hage⟩ | hnever
    · exact .inl ⟨value, age, op :: before, after, rfl, hlast, hage⟩
    · cases op with
      | advance dt =>
        refine .inr fun v hv => ?_
        rcases List.mem_cons.mp hv with heq | hv
        · cases heq
        · exact hnever v hv
      | set key' value =>
        by_cases hkey : key' = key
        · subst hkey
          exact .inl ⟨value, _, [], ops, rfl, hnever, rfl⟩
        · refine .inr fun v hv => ?_
          rcases List.mem_cons.mp hv with heq | hv
          · cases heq
            exact hkey rfl
          · exact hnever v hv

end Store
