import BimodalArbitrage.Store.Expiring

/-!
# When an expiring store holds the latest value

A store keeps what was written last, which need not be the greatest of what is still
to be kept. It is exactly when no write takes the place of a greater value.
-/

namespace Store
variable {K V W T : Type}

/-- `value` was written under `key`, and `age` has gone by since. -/
def Stored [Add T] [Zero T] (key : K) (value : V) (age : T) (ops : List (Op K V T)) : Prop :=
  ∃ before after, ops = before ++ .set key value :: after ∧ elapsed after = age

theorem Server.mem_get [DecidableEq K] [LT T] [DecidableLT T] {key : K} {value : V}
    {s : Server K V T} :
    value ∈ s.get key ↔ ∃ expiry, s.entries key = some (value, expiry) ∧ s.now < expiry := by
  simp only [get, Option.mem_def, Option.bind_eq_some_iff, Prod.exists,
    Option.ite_none_right_eq_some, Option.some.injEq]
  constructor
  · rintro ⟨held, expiry, hentry, hfresh, rfl⟩
    exact ⟨expiry, hentry, hfresh⟩
  · rintro ⟨expiry, hentry, hfresh⟩
    exact ⟨value, expiry, hentry, hfresh, rfl⟩

theorem LastSet.stored [Add T] [Zero T] {key : K} {value : V} {age : T} {ops : List (Op K V T)}
    (h : LastSet key value age ops) : Stored key value age ops := by
  obtain ⟨before, after, hops, -, hage⟩ := h
  exact ⟨before, after, hops, hage⟩

theorem Stored.mem [Add T] [Zero T] {key : K} {value : V} {age : T} {ops : List (Op K V T)}
    (h : Stored key value age ops) : .set key value ∈ ops := by
  obtain ⟨before, after, rfl, -⟩ := h
  exact List.mem_append_right _ (List.mem_cons_self ..)

section
variable [AddCommGroup T] {key : K} {value : V} {age : T} {ops ops' : List (Op K V T)}

theorem elapsed_append : elapsed (ops ++ ops') = elapsed ops + elapsed ops' := by
  induction ops with
  | nil => exact (zero_add _).symm
  | cons op ops ih =>
    cases op with
    | set key value => exact ih
    | advance dt => rw [List.cons_append, elapsed, elapsed, ih, add_assoc]

theorem stored_snoc {op : Op K V T} :
    Stored key value age (ops ++ [op]) ↔
      (op = .set key value ∧ age = 0) ∨
        ∃ age', Stored key value age' ops ∧ age = age' + elapsed [op] := by
  constructor
  · rintro ⟨before, after, hops, rfl⟩
    rcases List.eq_nil_or_concat after with rfl | ⟨after, last, rfl⟩
    · obtain ⟨-, hop⟩ := List.append_inj' hops rfl
      cases hop
      exact .inl ⟨rfl, rfl⟩
    · rw [List.concat_eq_append, ← List.cons_append, ← List.append_assoc] at hops
      obtain ⟨rfl, hop⟩ := List.append_inj' hops rfl
      cases hop
      rw [List.concat_eq_append, elapsed_append]
      exact .inr ⟨_, ⟨before, after, rfl, rfl⟩, rfl⟩
  · rintro (⟨rfl, rfl⟩ | ⟨age', ⟨before, after, rfl, rfl⟩, rfl⟩)
    · exact ⟨ops, [], rfl, rfl⟩
    · refine ⟨before, after ++ [op], ?_, elapsed_append⟩
      rw [List.append_assoc, List.cons_append]

end

section
variable [AddCommGroup T] [LinearOrder T] [IsOrderedAddMonoid T] {ttl age : T} {key : K}
  {value : V} {ops : List (Op K V T)}

theorem elapsed_nonneg (hadvance : ∀ dt, .advance dt ∈ ops → 0 ≤ dt) : 0 ≤ elapsed ops := by
  induction ops with
  | nil => exact le_rfl
  | cons op ops ih =>
    have hrest := ih fun dt hdt => hadvance dt (List.mem_cons_of_mem _ hdt)
    cases op with
    | set key value => exact hrest
    | advance dt => exact add_nonneg (hadvance dt (List.mem_cons_self ..)) hrest

theorem Stored.lastSet [DecidableEq K] (hadvance : ∀ dt, .advance dt ∈ ops → 0 ≤ dt)
    (h : Stored key value age ops) : ∃ last age', LastSet key last age' ops ∧ age' ≤ age := by
  obtain ⟨before, after, rfl, rfl⟩ := h
  rcases exists_lastSet key after with ⟨last, age', before', after', rfl, hlast, rfl⟩ | hnever
  · refine ⟨last, _, ⟨before ++ .set key value :: before', after', ?_, hlast, rfl⟩, ?_⟩
    · rw [List.append_assoc, List.cons_append]
    · rw [elapsed_append]
      refine le_add_of_nonneg_left (elapsed_nonneg fun dt hdt => hadvance dt ?_)
      simp [hdt]
  · exact ⟨value, _, ⟨before, after, rfl, hnever, rfl⟩, le_rfl⟩

theorem lastSet_of_get [DecidableEq K] (h : value ∈ (Server.empty.run ttl ops).get key) :
    ∃ age, LastSet key value age ops ∧ age < ttl := by
  rcases exists_lastSet key ops with ⟨last, age, hlast⟩ | hnever
  · rw [Server.get_of_lastSet hlast] at h
    split at h
    next hage =>
      cases h
      exact ⟨age, hlast, hage⟩
    · cases h
  · rw [Server.get_of_never hnever] at h
    cases h

theorem get_of_stored [DecidableEq K] (hadvance : ∀ dt, .advance dt ∈ ops → 0 ≤ dt)
    (h : Stored key value age ops) (hage : age < ttl) :
    ∃ held, held ∈ (Server.empty.run ttl ops).get key := by
  obtain ⟨last, age', hlast, hle⟩ := h.lastSet hadvance
  refine ⟨last, ?_⟩
  rw [Server.get_of_lastSet hlast, if_pos (hle.trans_lt hage)]
  rfl

end

/-! ### The latest value -/

section
variable [AddCommGroup T] [LinearOrder T] [IsOrderedAddMonoid T] [DecidableEq K]
  {R : Type} [Preorder R] {rank : V → R} {ttl : T} {ops : List (Op K V T)} {op : Op K V T}

/-- No key reads less than what was written under it and has not expired. -/
def ServesLatest (rank : V → R) (ttl : T) (ops : List (Op K V T)) : Prop :=
  ∀ key, ∀ value ∈ (Server.empty.run ttl ops).get key,
    ∀ other age, Stored key other age ops → age < ttl → rank other ≤ rank value

/-- A write finds nothing greater under its key. -/
def Supersedes (rank : V → R) (s : Server K V T) (op : Op K V T) : Prop :=
  ∀ key value, op = .set key value → ∀ held ∈ s.get key, rank held ≤ rank value

theorem ServesLatest.advance (h : ServesLatest rank ttl ops) {dt : T} (hdt : 0 ≤ dt) :
    ServesLatest rank ttl (ops ++ [.advance dt]) := by
  intro key value hget other age hstored hage
  have hother : ∃ age, Stored key other age ops ∧ age < ttl := by
    rcases stored_snoc.mp hstored with ⟨heq, -⟩ | ⟨age₀, hbefore, rfl⟩
    · cases heq
    · exact ⟨age₀, hbefore, lt_of_le_of_lt (le_add_of_nonneg_right (by simpa [elapsed])) hage⟩
  have hvalue : value ∈ (Server.empty.run ttl ops).get key := by
    rw [Server.run_append] at hget
    obtain ⟨expiry, hentry, hfresh⟩ := Server.mem_get.mp hget
    exact Server.mem_get.mpr ⟨expiry, hentry, (le_add_of_nonneg_right hdt).trans_lt hfresh⟩
  obtain ⟨age₀, hbefore, hage₀⟩ := hother
  exact h key value hvalue other age₀ hbefore hage₀

theorem ServesLatest.set_iff (h : ServesLatest rank ttl ops)
    (hadvance : ∀ dt, .advance dt ∈ ops → 0 ≤ dt) (httl : 0 < ttl) {key : K} {value : V} :
    ServesLatest rank ttl (ops ++ [.set key value]) ↔
      Supersedes rank (Server.empty.run ttl ops) (.set key value) := by
  have hself : (Server.empty.run ttl (ops ++ [.set key value])).get key = some value := by
    have hlast : LastSet key value 0 (ops ++ [.set key value]) := ⟨ops, [], rfl, by simp, rfl⟩
    rw [Server.get_of_lastSet hlast, if_pos httl]
  constructor
  · intro hafter key' value' heq held hheld
    cases heq
    obtain ⟨age, hlast, hage⟩ := lastSet_of_get hheld
    have hstored : Stored key held age (ops ++ [.set key value]) :=
      stored_snoc.mpr (.inr ⟨age, hlast.stored, by simp [elapsed]⟩)
    exact hafter key value hself held age hstored hage
  · intro hsupersedes key' value' hget other age hstored hage
    rcases stored_snoc.mp hstored with ⟨heq, -⟩ | ⟨age', hbefore, rfl⟩
    · cases heq
      rw [hself] at hget
      cases hget
      exact le_rfl
    · have hage' : age' < ttl := by simpa [elapsed] using hage
      by_cases hkey : key' = key
      · subst hkey
        rw [hself] at hget
        cases hget
        obtain ⟨held, hheld⟩ := get_of_stored hadvance hbefore hage'
        exact (h _ held hheld other age' hbefore hage').trans (hsupersedes _ value rfl held hheld)
      · rw [Server.run_append] at hget
        have hframe : (Server.empty.run ttl ops).get key' = some value' :=
          (Server.get_set_of_ne hkey).symm.trans hget
        exact h key' value' hframe other age' hbefore hage'

/-- One more operation keeps the latest values exactly when it supersedes what it finds. -/
theorem servesLatest_snoc (h : ServesLatest rank ttl ops)
    (hadvance : ∀ dt, .advance dt ∈ ops ++ [op] → 0 ≤ dt) (httl : 0 < ttl) :
    ServesLatest rank ttl (ops ++ [op]) ↔ Supersedes rank (Server.empty.run ttl ops) op := by
  cases op with
  | set key value =>
    exact h.set_iff (fun dt hdt => hadvance dt (List.mem_append_left _ hdt)) httl
  | advance dt =>
    refine iff_of_true (h.advance (hadvance dt (by simp))) fun key value heq => ?_
    cases heq

end

/-! ### Stores of one value read as another -/

namespace Server
variable {f : V → W} {s : Server K V T}

def map (f : V → W) (s : Server K V T) : Server K W T :=
  ⟨s.now, fun key => (s.entries key).map fun entry => (f entry.1, entry.2)⟩

theorem get_map [LT T] [DecidableLT T] (key : K) : (s.map f).get key = (s.get key).map f := by
  have hentries : (s.map f).entries key = (s.entries key).map fun entry => (f entry.1, entry.2) :=
    rfl
  rw [get, get, hentries]
  cases s.entries key with
  | none => rfl
  | some entry =>
    by_cases hfresh : s.now < entry.2
    · simp [map, hfresh]
    · simp [map, hfresh]

theorem set_map [DecidableEq K] [Add T] (ttl : T) (key : K) (value : V) :
    (s.set ttl key value).map f = (s.map f).set ttl key (f value) := by
  simp only [map, set, mk.injEq, true_and]
  funext key'
  by_cases hkey : key' = key
  · rw [hkey, Function.update_self, Function.update_self, Option.map_some]
  · rw [Function.update_of_ne hkey, Function.update_of_ne hkey]

end Server
end Store
