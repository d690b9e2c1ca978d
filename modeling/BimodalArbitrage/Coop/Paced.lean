import BimodalArbitrage.Coop.Frame

/-!
# How many steps a task takes

`Paced T Q n` bounds a coroutine's suspensions by `n`, whatever it reads and whatever it is
told. A task with such a bound ends after as many steps of its own, however the steps of
the others come in between, and if its calls can be answered it can always go on.
-/

namespace Coop
variable {ι S Ev C : Type} {R : C → Type} {E Inp α β : Type}

namespace Coro

/-- Started in `s`, the coroutine suspends at most `n` times; it moves the state by `T` and
makes calls in `Q`. -/
def Paced (T : S → S → Prop) (Q : C → Prop) : Coro S Ev C R E α → ℕ → S → Prop
  | .pure _, _, _ => True
  | .throw _, _, _ => True
  | .get k, n, s => (k s).Paced T Q n s
  | .set s' k, n, s => T s s' ∧ k.Paced T Q n s'
  | .emit _ k, n, s => k.Paced T Q n s
  | .turn k, n, _ => 0 < n ∧ ∀ s, k.Paced T Q (n - 1) s
  | .await c k, n, _ => 0 < n ∧ Q c ∧ ∀ r s, (k r).Paced T Q (n - 1) s

section
variable {T T' : S → S → Prop} {Q Q' : C → Prop} {m n : ℕ} {s : S}

theorem Paced.mono {x : Coro S Ev C R E α} (hx : x.Paced T Q m s)
    (hT : ∀ s s', T s s' → T' s s') (hQ : ∀ c, Q c → Q' c) (hmn : m ≤ n) :
    x.Paced T' Q' n s := by
  induction x generalizing m n s with
  | pure a => trivial
  | throw e => trivial
  | get k ih => exact ih s hx hmn
  | set s' k ih => exact ⟨hT _ _ hx.1, ih hx.2 hmn⟩
  | emit e k ih => exact ih hx hmn
  | turn k ih =>
    obtain ⟨hpos, hk⟩ := hx
    have hsub : m - 1 ≤ n - 1 := by omega
    exact ⟨by omega, fun s' => ih (hk s') hsub⟩
  | await c k ih =>
    obtain ⟨hpos, hc, hk⟩ := hx
    have hsub : m - 1 ≤ n - 1 := by omega
    exact ⟨by omega, hQ c hc, fun r s' => ih r (hk r s') hsub⟩

theorem Paced.le {x : Coro S Ev C R E α} (hx : x.Paced T Q m s) (hmn : m ≤ n) :
    x.Paced T Q n s := hx.mono (fun _ _ h => h) (fun _ h => h) hmn

theorem Paced.acts {x : Coro S Ev C R E α} (hx : x.Paced T Q n s) :
    x.Acts T (fun _ => True) s := by
  induction x generalizing n s with
  | pure a => trivial
  | throw e => trivial
  | get k ih => exact ih s hx
  | set s' k ih => exact ⟨hx.1, ih hx.2⟩
  | emit e k ih => exact ⟨trivial, ih hx⟩
  | turn k ih => exact fun s' => ih (hx.2 s')
  | await c k ih => exact fun r s' => ih r (hx.2.2 r s')

theorem paced_bind {x : Coro S Ev C R E α} {f : α → Coro S Ev C R E β} (hx : x.Paced T Q m s)
    (hf : ∀ a s, (f a).Paced T Q n s) : (x.bind f).Paced T Q (m + n) s := by
  induction x generalizing m s with
  | pure a => exact (hf a s).le (by omega)
  | throw e => trivial
  | get k ih => exact ih s hx
  | set s' k ih => exact ⟨hx.1, ih hx.2⟩
  | emit e k ih => exact ih hx
  | turn k ih =>
    obtain ⟨hpos, hk⟩ := hx
    have hsub : m + n - 1 = m - 1 + n := by omega
    refine ⟨by omega, fun s' => ?_⟩
    rw [hsub]
    exact ih (hk s')
  | await c k ih =>
    obtain ⟨hpos, hc, hk⟩ := hx
    have hsub : m + n - 1 = m - 1 + n := by omega
    refine ⟨by omega, hc, fun r s' => ?_⟩
    rw [hsub]
    exact ih r (hk r s')

theorem paced_attempt {x : Coro S Ev C R E α} (hx : x.Paced T Q n s) :
    x.attempt.Paced T Q n s := by
  induction x generalizing n s with
  | pure a => trivial
  | throw e => trivial
  | get k ih => exact ih s hx
  | set s' k ih => exact ⟨hx.1, ih hx.2⟩
  | emit e k ih => exact ih hx
  | turn k ih => exact ⟨hx.1, fun s' => ih (hx.2 s')⟩
  | await c k ih => exact ⟨hx.1, hx.2.1, fun r s' => ih r (hx.2.2 r s')⟩

@[simp] theorem paced_lift (r : Except E α) : (lift r : Coro S Ev C R E α).Paced T Q n s := by
  cases r <;> trivial

theorem paced_call {c : C} (hc : Q c) : (call c : Coro S Ev C R E (R c)).Paced T Q 1 s :=
  ⟨Nat.one_pos, hc, fun r _ => paced_lift r⟩

theorem paced_yield : (yield : Coro S Ev C R E Unit).Paced T Q 1 s :=
  ⟨Nat.one_pos, fun _ => trivial⟩

theorem paced_modify {f : S → S} (h : T s (f s)) :
    (modify f : Coro S Ev C R E Unit).Paced T Q n s := ⟨h, trivial⟩

theorem paced_state_bind {f : S → Coro S Ev C R E β} (h : (f s).Paced T Q n s) :
    (state.bind f).Paced T Q n s := h

theorem paced_modify_bind {g : S → S} {f : Unit → Coro S Ev C R E β} (h : T s (g s))
    (hf : (f ()).Paced T Q n (g s)) : ((modify g).bind f).Paced T Q n s := ⟨h, hf⟩

theorem paced_report_bind {e : Ev} {f : Unit → Coro S Ev C R E β} (hf : (f ()).Paced T Q n s) :
    ((report e).bind f).Paced T Q n s := hf

theorem paced_lift_bind {r : Except E α} {f : α → Coro S Ev C R E β}
    (hf : ∀ a, (f a).Paced T Q n s) : ((lift r).bind f).Paced T Q n s := by
  cases r with
  | ok a => exact hf a
  | error e => trivial

theorem paced_catching {x : Coro S Ev C R E α} {f : E → Coro S Ev C R E α}
    (hx : x.Paced T Q m s) (hf : ∀ e s, (f e).Paced T Q n s) :
    (x.catching f).Paced T Q (m + n) s := by
  refine paced_bind (paced_attempt hx) fun r s => ?_
  cases r with
  | ok a => trivial
  | error e => exact hf e s

theorem paced_ensuring {x : Coro S Ev C R E α} {f : Coro S Ev C R E Unit}
    (hx : x.Paced T Q m s) (hf : ∀ s, f.Paced T Q n s) : (x.ensuring f).Paced T Q (m + n) s := by
  refine paced_bind (paced_attempt hx) fun r s => ?_
  have hlift := paced_bind (n := 0) (hf s) fun _ s => paced_lift (T := T) (Q := Q) (s := s) r
  exact hlift

end
end Coro

/-! ### Steps of a schedule -/

/-- A task that has begun and not ended. -/
def Slot.Busy : Slot S Ev C R E → Prop
  | .idle => False
  | .ready _ => True
  | .waiting _ _ => True
  | .failed _ => False

def Slot.Paced (T : S → S → Prop) (Q : C → Prop) : Slot S Ev C R E → ℕ → Prop
  | .idle, _ => True
  | .ready k, n => 0 < n ∧ ∀ s, k.Paced T Q (n - 1) s
  | .waiting c k, n => 0 < n ∧ Q c ∧ ∀ r s, (k r).Paced T Q (n - 1) s
  | .failed _, _ => True

section
variable [DecidableEq ι]

/-- A step of the task `i`, once it has begun. -/
def Choice.IsOwn (i : ι) : Choice ι Inp → Prop
  | .turn j => j = i
  | .reply j _ => j = i
  | _ => False

/-- The steps of `i` since it began, `n` of them so far. -/
def Choice.count (i : ι) (n : ℕ) : Choice ι Inp → ℕ
  | .start j _ => if j = i then 0 else n
  | .turn j => if j = i then n + 1 else n
  | .reply j _ => if j = i then n + 1 else n
  | .drift _ => n

def ownSteps (i : ι) (chs : List (Choice ι Inp)) : ℕ := chs.foldl (Choice.count i) 0

end

section
variable {T : S → S → Prop} {Q : C → Prop} {n : ℕ}

theorem settle_paced (i : ι) {c : Coro S Ev C R E Unit} {w : World ι S Ev}
    (h : c.Paced T Q n w.state) : (settle i c w).2.Paced T Q n := by
  induction c generalizing w with
  | pure a => trivial
  | throw e => trivial
  | get k ih => exact ih _ h
  | set s k ih => exact ih (w := w.put s) h.2
  | emit e k ih => exact ih (w := w.emit i e) h
  | turn k _ => exact h
  | await c k _ => exact h

end

section
variable [DecidableEq ι] {rules : Rules ι S Ev C R E Inp} {T : S → S → Prop} {Q : ι → C → Prop}
  {N : ι → ℕ}

/-- No task has taken more steps than it may, and what is left of it fits into the rest. -/
def Loop.Paced (T : S → S → Prop) (Q : ι → C → Prop) (N n : ι → ℕ) (L : Loop ι S Ev C R E) :
    Prop :=
  ∀ i, n i ≤ N i ∧ (L.slots i).Paced T (Q i) (N i - n i)

theorem Loop.Paced.occupy {n : ι → ℕ} {L : Loop ι S Ev C R E} (h : L.Paced T Q N n) {i : ι}
    {c : Coro S Ev C R E Unit} {w : World ι S Ev} {k : ℕ} (hk : k ≤ N i)
    (hc : c.Paced T (Q i) (N i - k) w.state) :
    (L.occupy i (settle i c w)).Paced T Q N (Function.update n i k) := by
  intro j
  by_cases hj : j = i
  · subst hj
    rw [Function.update_self]
    simp only [Loop.occupy, Function.update_self]
    exact ⟨hk, settle_paced j hc⟩
  · rw [Function.update_of_ne hj]
    simp only [Loop.occupy, Function.update_of_ne hj]
    exact h j

theorem step_paced
    (hstart : ∀ s i x c, rules.start s i x = some c → c.Paced T (Q i) (N i) s)
    {n : ι → ℕ} {L L' : Loop ι S Ev C R E} {ch : Choice ι Inp} (h : L.Paced T Q N n)
    (hs : step rules L ch = some L') : L'.Paced T Q N fun i => ch.count i (n i) := by
  have hupdate : ∀ i k, (∀ j, ch.count j (n j) = if i = j then k else n j) →
      (fun j => ch.count j (n j)) = Function.update n i k := by
    intro i k hcount
    funext j
    rw [hcount j]
    by_cases hj : i = j
    · rw [if_pos hj, hj, Function.update_self]
    · rw [if_neg hj, Function.update_of_ne (Ne.symm hj)]
  cases ch with
  | start i x =>
    simp only [step] at hs
    split at hs
    · obtain ⟨c, hc, rfl⟩ := Option.map_eq_some_iff.mp hs
      rw [hupdate i 0 fun j => rfl]
      exact h.occupy (Nat.zero_le _) (hstart _ i x c hc)
    · contradiction
  | turn i =>
    simp only [step] at hs
    split at hs
    next k hk =>
      cases hs
      obtain ⟨hle, hslot⟩ := h i
      rw [hk] at hslot
      obtain ⟨hpos, hnext⟩ := hslot
      have hsub : N i - n i - 1 = N i - (n i + 1) := by omega
      rw [hupdate i (n i + 1) fun j => ?_]
      · exact h.occupy (by omega) (hsub ▸ hnext _)
      · by_cases hj : i = j
        · subst hj
          rfl
        · simp [Choice.count, hj]
    · contradiction
  | reply i x =>
    simp only [step] at hs
    split at hs
    next c k hk =>
      obtain ⟨a, hx, rfl⟩ := Option.map_eq_some_iff.mp hs
      obtain ⟨hle, hslot⟩ := h i
      rw [hk] at hslot
      obtain ⟨hpos, -, hnext⟩ := hslot
      have hsub : N i - n i - 1 = N i - (n i + 1) := by omega
      rw [hupdate i (n i + 1) fun j => ?_]
      · exact h.occupy (by omega) (hsub ▸ hnext _ _)
      · by_cases hj : i = j
        · subst hj
          rfl
        · simp [Choice.count, hj]
    · contradiction
  | drift x =>
    simp only [step] at hs
    obtain ⟨s, hx, rfl⟩ := Option.map_eq_some_iff.mp hs
    exact h

theorem run_paced
    (hstart : ∀ s i x c, rules.start s i x = some c → c.Paced T (Q i) (N i) s)
    (chs : List (Choice ι Inp)) {n : ι → ℕ} {L L' : Loop ι S Ev C R E} (h : L.Paced T Q N n)
    (hs : run rules L chs = some L') :
    L'.Paced T Q N fun i => chs.foldl (Choice.count i) (n i) := by
  induction chs generalizing n L with
  | nil =>
    cases hs
    exact h
  | cons ch chs ih =>
    obtain ⟨M, hM, hrest⟩ := Option.bind_eq_some_iff.mp hs
    exact ih (step_paced hstart h hM) hrest

/-- In a run from the quiet loop no task takes more steps than it may. -/
theorem run_quiet_paced
    (hstart : ∀ s i x c, rules.start s i x = some c → c.Paced T (Q i) (N i) s) (s : S)
    (chs : List (Choice ι Inp)) {L : Loop ι S Ev C R E}
    (hs : run rules (Loop.quiet s) chs = some L) (i : ι) :
    ownSteps i chs ≤ N i ∧ (L.slots i).Paced T (Q i) (N i - ownSteps i chs) := by
  have hquiet : (Loop.quiet s : Loop ι S Ev C R E).Paced T Q N fun _ => 0 :=
    fun i => ⟨Nat.zero_le _, trivial⟩
  exact run_paced hstart chs hquiet hs i

/-! ### Going on -/

/-- A task whose calls can be answered can be brought to its end by steps of its own. -/
theorem exists_drain {P : C → Prop} (hanswer : ∀ s c, P c → ∃ x a, rules.answer s c x = some a)
    (i : ι) (n : ℕ) {L : Loop ι S Ev C R E} (h : (L.slots i).Paced T P n) :
    ∃ chs L', run rules L chs = some L' ∧ chs.length ≤ n ∧ (∀ ch ∈ chs, ch.IsOwn i) ∧
      ¬(L'.slots i).Busy := by
  induction n generalizing L with
  | zero =>
    refine ⟨[], L, rfl, Nat.le_refl _, nofun, fun hbusy => ?_⟩
    cases hslot : L.slots i with
    | idle => simp [hslot, Slot.Busy] at hbusy
    | failed e => simp [hslot, Slot.Busy] at hbusy
    | ready k =>
      rw [hslot] at h
      exact absurd h.1 (Nat.lt_irrefl 0)
    | waiting c k =>
      rw [hslot] at h
      exact absurd h.1 (Nat.lt_irrefl 0)
  | succ n ih =>
    have hgo : ∀ (ch : Choice ι Inp) (c : Coro S Ev C R E Unit) (w : World ι S Ev),
        ch.IsOwn i → step rules L ch = some (L.occupy i (settle i c w)) →
        c.Paced T P n w.state → ∃ chs L', run rules L chs = some L' ∧ chs.length ≤ n + 1 ∧
          (∀ ch ∈ chs, ch.IsOwn i) ∧ ¬(L'.slots i).Busy := by
      intro ch c w hown hstep hc
      have hslot : ((L.occupy i (settle i c w)).slots i).Paced T P n := by
        simp only [Loop.occupy, Function.update_self]
        exact settle_paced i hc
      obtain ⟨chs, L', hrun, hlength, hall, hended⟩ := ih hslot
      refine ⟨ch :: chs, L', ?_, ?_, ?_, hended⟩
      · rw [run, hstep]
        exact hrun
      · rw [List.length_cons]
        omega
      · exact List.forall_mem_cons.mpr ⟨hown, hall⟩
    have hended : ¬(L.slots i).Busy → ∃ chs L', run rules L chs = some L' ∧
        chs.length ≤ n + 1 ∧ (∀ ch ∈ chs, ch.IsOwn i) ∧ ¬(L'.slots i).Busy :=
      fun hidle => ⟨[], L, rfl, Nat.zero_le _, nofun, hidle⟩
    cases hslot : L.slots i with
    | idle => exact hended (by simp [hslot, Slot.Busy])
    | failed e => exact hended (by simp [hslot, Slot.Busy])
    | ready k =>
      rw [hslot] at h
      refine hgo (.turn i) k L.world rfl ?_ (h.2 _)
      simp only [step, hslot]
    | waiting c k =>
      rw [hslot] at h
      obtain ⟨-, hc, hk⟩ := h
      obtain ⟨x, a, hx⟩ := hanswer L.world.state c hc
      refine hgo (.reply i x) (k a.1) (L.world.put a.2) rfl ?_ (hk _ _)
      simp only [step, hslot, hx, Option.map_some]

end
end Coop
