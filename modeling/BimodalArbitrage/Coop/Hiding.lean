import BimodalArbitrage.Coop.Loop

/-!
# What hidden tasks leave to be seen

Some inputs are hidden from an observer. If the tasks they start never change what is
seen of the world, and the others do the same wherever the same is seen, then a schedule
shows what it shows without its hidden part.
-/

namespace Coop
variable {ι S Ev C : Type} {R : C → Type} {E Inp : Type} [DecidableEq ι]

/-- The schedule without the hidden inputs and the steps of the tasks they started;
`busy` says whose last start was hidden. -/
def purge (hidden : Inp → Bool) : (ι → Bool) → List (Choice ι Inp) → List (Choice ι Inp)
  | _, [] => []
  | busy, .start i x :: chs =>
    if hidden x then purge hidden (Function.update busy i true) chs
    else .start i x :: purge hidden (Function.update busy i false) chs
  | busy, .turn i :: chs =>
    if busy i then purge hidden busy chs else .turn i :: purge hidden busy chs
  | busy, .reply i x :: chs =>
    if busy i then purge hidden busy chs else .reply i x :: purge hidden busy chs
  | busy, .drift x :: chs =>
    if hidden x then purge hidden busy chs else .drift x :: purge hidden busy chs

/-- Whatever the task in the slot is told, it goes on in `P`. -/
def Slot.GoesOn (P : Coro S Ev C R E Unit → Prop) : Slot S Ev C R E → Prop
  | .idle => True
  | .failed _ => True
  | .ready k => P k
  | .waiting _ k => ∀ r, P (k r)

theorem Slot.GoesOn.mono {P Q : Coro S Ev C R E Unit → Prop} (hPQ : ∀ c, P c → Q c)
    {slot : Slot S Ev C R E} (h : slot.GoesOn P) : slot.GoesOn Q := by
  cases slot with
  | idle => trivial
  | failed e => trivial
  | ready k => exact hPQ k h
  | waiting c k => exact fun r => hPQ _ (h r)

/-- `same v w` when as much is seen of `v` as of `w`. Concealed tasks keep what is seen of
their world; shown tasks do the same in worlds that look the same. -/
structure Unwinding (rules : Rules ι S Ev C R E Inp) (hidden : Inp → Bool) where
  same : World ι S Ev → World ι S Ev → Prop
  concealed : Coro S Ev C R E Unit → Prop
  shown : Coro S Ev C R E Unit → Prop
  start_concealed : ∀ {w i x c}, hidden x = true → rules.start w i x = some c → concealed c
  start_shown : ∀ {v w : World ι S Ev} {i x c}, hidden x = false → same v w →
    rules.start v.state i x = some c → rules.start w.state i x = some c ∧ shown c
  settle_concealed : ∀ {v w : World ι S Ev} {i c}, concealed c → same v w →
    same (settle i c v).1 w ∧ (settle i c v).2.GoesOn concealed
  settle_shown : ∀ {v w : World ι S Ev} {i c}, shown c → same v w →
    same (settle i c v).1 (settle i c w).1 ∧ (settle i c v).2 = (settle i c w).2 ∧
      (settle i c v).2.GoesOn shown
  answer_concealed : ∀ {v w : World ι S Ev} {c x a}, same v w →
    rules.answer v.state c x = some a → same (v.put a.2) w
  answer_shown : ∀ {v w : World ι S Ev} {c x a}, same v w → rules.answer v.state c x = some a →
    ∃ s, rules.answer w.state c x = some (a.1, s) ∧ same (v.put a.2) (w.put s)
  drift_concealed : ∀ {v w : World ι S Ev} {x s}, hidden x = true → same v w →
    rules.drift v.state x = some s → same (v.put s) w
  drift_shown : ∀ {v w : World ι S Ev} {x s}, hidden x = false → same v w →
    rules.drift v.state x = some s →
      ∃ s', rules.drift w.state x = some s' ∧ same (v.put s) (w.put s')

namespace Unwinding
variable {rules : Rules ι S Ev C R E Inp} {hidden : Inp → Bool}

/-- The loop `M` is `L` without its hidden tasks. -/
structure Purged (U : Unwinding rules hidden) (busy : ι → Bool) (L M : Loop ι S Ev C R E) :
    Prop where
  world : U.same L.world M.world
  concealed : ∀ i, busy i = true → M.slots i = .idle ∧ (L.slots i).GoesOn U.concealed
  shown : ∀ i, busy i = false → L.slots i = M.slots i ∧ (L.slots i).GoesOn U.shown

variable {U : Unwinding rules hidden} {busy : ι → Bool} {L L' M : Loop ι S Ev C R E}

theorem occupy_self (L : Loop ι S Ev C R E) (i : ι) (r : World ι S Ev × Slot S Ev C R E) :
    (L.occupy i r).slots i = r.2 := Function.update_self ..

theorem occupy_of_ne (L : Loop ι S Ev C R E) {i j : ι} (r : World ι S Ev × Slot S Ev C R E)
    (h : j ≠ i) : (L.occupy i r).slots j = L.slots j := Function.update_of_ne h ..

omit [DecidableEq ι] in
theorem Purged.idle (h : U.Purged busy L M) {i : ι} (hidle : L.slots i = .idle) :
    M.slots i = .idle := by
  cases hbusy : busy i with
  | true => exact (h.concealed i hbusy).1
  | false => exact (h.shown i hbusy).1.symm.trans hidle

theorem Purged.occupy_concealed (h : U.Purged busy L M) {i : ι} {c : Coro S Ev C R E Unit}
    {w : World ι S Ev} (hw : U.same w M.world) (hc : U.concealed c) (hidle : M.slots i = .idle) :
    U.Purged (Function.update busy i true) (L.occupy i (settle i c w)) M where
  world := (U.settle_concealed hc hw).1
  concealed j hj := by
    by_cases hij : j = i
    · subst hij
      rw [occupy_self]
      exact ⟨hidle, (U.settle_concealed hc hw).2⟩
    · rw [Function.update_of_ne hij] at hj
      rw [occupy_of_ne _ _ hij]
      exact h.concealed j hj
  shown j hj := by
    by_cases hij : j = i
    · subst hij
      rw [Function.update_self] at hj
      cases hj
    · rw [Function.update_of_ne hij] at hj
      rw [occupy_of_ne _ _ hij]
      exact h.shown j hj

theorem Purged.occupy_shown (h : U.Purged busy L M) {i : ι} {c : Coro S Ev C R E Unit}
    {v w : World ι S Ev} (hw : U.same v w) (hc : U.shown c) :
    U.Purged (Function.update busy i false) (L.occupy i (settle i c v))
      (M.occupy i (settle i c w)) where
  world := (U.settle_shown hc hw).1
  concealed j hj := by
    by_cases hij : j = i
    · subst hij
      rw [Function.update_self] at hj
      cases hj
    · rw [Function.update_of_ne hij] at hj
      rw [occupy_of_ne _ _ hij, occupy_of_ne _ _ hij]
      exact h.concealed j hj
  shown j hj := by
    by_cases hij : j = i
    · subst hij
      rw [occupy_self, occupy_self]
      exact (U.settle_shown hc hw).2
    · rw [Function.update_of_ne hij] at hj
      rw [occupy_of_ne _ _ hij, occupy_of_ne _ _ hij]
      exact h.shown j hj

theorem Purged.goOn_concealed (h : U.Purged busy L M) {i : ι} (hbusy : busy i = true)
    {c : Coro S Ev C R E Unit} {w : World ι S Ev} (hw : U.same w M.world) (hc : U.concealed c) :
    U.Purged busy (L.occupy i (settle i c w)) M := by
  have hsame : Function.update busy i true = busy := hbusy ▸ Function.update_eq_self i busy
  exact hsame ▸ h.occupy_concealed hw hc (h.concealed i hbusy).1

theorem Purged.goOn_shown (h : U.Purged busy L M) {i : ι} (hbusy : busy i = false)
    {c : Coro S Ev C R E Unit} {v w : World ι S Ev} (hw : U.same v w) (hc : U.shown c) :
    U.Purged busy (L.occupy i (settle i c v)) (M.occupy i (settle i c w)) := by
  have hsame : Function.update busy i false = busy := hbusy ▸ Function.update_eq_self i busy
  exact hsame ▸ h.occupy_shown hw hc

/-- With the choice `ch` purged, `M` goes on as `L'` without its hidden tasks. -/
def Follows (U : Unwinding rules hidden) (busy : ι → Bool) (M : Loop ι S Ev C R E)
    (ch : Choice ι Inp) (L' : Loop ι S Ev C R E) : Prop :=
  ∃ busy' M', U.Purged busy' L' M' ∧
    ∀ chs, run rules M (purge hidden busy (ch :: chs)) = run rules M' (purge hidden busy' chs)

theorem Purged.start (h : U.Purged busy L M) {i : ι} {x : Inp}
    (hstep : step rules L (.start i x) = some L') : U.Follows busy M (.start i x) L' := by
  simp only [step] at hstep
  split at hstep
  next hidle =>
    obtain ⟨c, hc, rfl⟩ := Option.map_eq_some_iff.mp hstep
    have hidle' := h.idle hidle
    cases hx : hidden x with
    | true =>
      refine ⟨_, M, h.occupy_concealed h.world (U.start_concealed hx hc) hidle', fun chs => ?_⟩
      rw [purge, hx, if_pos rfl]
    | false =>
      obtain ⟨hc', hshown⟩ := U.start_shown hx h.world hc
      refine ⟨_, _, h.occupy_shown h.world hshown, fun chs => ?_⟩
      rw [purge, hx, if_neg Bool.false_ne_true, run]
      simp only [step, hidle', hc', Option.map_some, Option.bind_some]
  · cases hstep

theorem Purged.turn (h : U.Purged busy L M) {i : ι}
    (hstep : step rules L (.turn i) = some L') : U.Follows busy M (.turn i) L' := by
  simp only [step] at hstep
  split at hstep
  next k hk =>
    cases hstep
    cases hbusy : busy i with
    | true =>
      have hgoes := (h.concealed i hbusy).2
      rw [hk] at hgoes
      refine ⟨busy, M, h.goOn_concealed hbusy h.world hgoes, fun chs => ?_⟩
      rw [purge, hbusy, if_pos rfl]
    | false =>
      obtain ⟨hslot, hgoes⟩ := h.shown i hbusy
      rw [hk] at hgoes hslot
      refine ⟨busy, _, h.goOn_shown hbusy h.world hgoes, fun chs => ?_⟩
      rw [purge, hbusy, if_neg Bool.false_ne_true, run]
      simp only [step, ← hslot, Option.bind_some]
  · cases hstep

theorem Purged.reply (h : U.Purged busy L M) {i : ι} {x : Inp}
    (hstep : step rules L (.reply i x) = some L') : U.Follows busy M (.reply i x) L' := by
  simp only [step] at hstep
  split at hstep
  next c k hk =>
    obtain ⟨a, ha, rfl⟩ := Option.map_eq_some_iff.mp hstep
    cases hbusy : busy i with
    | true =>
      have hgoes := (h.concealed i hbusy).2
      rw [hk] at hgoes
      have hworld := U.answer_concealed h.world ha
      refine ⟨busy, M, h.goOn_concealed hbusy hworld (hgoes a.1), fun chs => ?_⟩
      rw [purge, hbusy, if_pos rfl]
    | false =>
      obtain ⟨hslot, hgoes⟩ := h.shown i hbusy
      rw [hk] at hgoes hslot
      obtain ⟨s, hs, hworld⟩ := U.answer_shown h.world ha
      refine ⟨busy, _, h.goOn_shown hbusy hworld (hgoes a.1), fun chs => ?_⟩
      rw [purge, hbusy, if_neg Bool.false_ne_true, run]
      simp only [step, ← hslot, hs, Option.map_some, Option.bind_some]
  · cases hstep

theorem Purged.drift (h : U.Purged busy L M) {x : Inp}
    (hstep : step rules L (.drift x) = some L') : U.Follows busy M (.drift x) L' := by
  simp only [step] at hstep
  obtain ⟨s, hs, rfl⟩ := Option.map_eq_some_iff.mp hstep
  cases hx : hidden x with
  | true =>
    refine ⟨busy, M, ⟨U.drift_concealed hx h.world hs, h.concealed, h.shown⟩, fun chs => ?_⟩
    rw [purge, hx, if_pos rfl]
  | false =>
    obtain ⟨s', hs', hworld⟩ := U.drift_shown hx h.world hs
    refine ⟨busy, ⟨M.world.put s', M.slots⟩, ⟨hworld, h.concealed, h.shown⟩, fun chs => ?_⟩
    rw [purge, hx, if_neg Bool.false_ne_true, run]
    simp only [step, hs', Option.map_some, Option.bind_some]

theorem Purged.step (h : U.Purged busy L M) {ch : Choice ι Inp}
    (hstep : Coop.step rules L ch = some L') : U.Follows busy M ch L' := by
  cases ch with
  | start i x => exact h.start hstep
  | turn i => exact h.turn hstep
  | reply i x => exact h.reply hstep
  | drift x => exact h.drift hstep

theorem Purged.run (chs : List (Choice ι Inp)) (h : U.Purged busy L M)
    (hrun : Coop.run rules L chs = some L') :
    ∃ busy' M', Coop.run rules M (purge hidden busy chs) = some M' ∧ U.Purged busy' L' M' := by
  induction chs generalizing busy L M with
  | nil =>
    cases hrun
    exact ⟨busy, M, rfl, h⟩
  | cons ch chs ih =>
    obtain ⟨N, hN, hrest⟩ := Option.bind_eq_some_iff.mp hrun
    obtain ⟨busy₁, M₁, hpurged, hpurge⟩ := h.step hN
    obtain ⟨busy', M', hrun', hpurged'⟩ := ih hpurged hrest
    exact ⟨busy', M', (hpurge chs).trans hrun', hpurged'⟩

/-- What is seen after a schedule is seen after its purge as well. -/
theorem run_purge (U : Unwinding rules hidden) (s : S) (hsame : U.same ⟨s, []⟩ ⟨s, []⟩)
    (chs : List (Choice ι Inp)) (hrun : Coop.run rules (Loop.quiet s) chs = some L) :
    ∃ M, Coop.run rules (Loop.quiet s) (purge hidden (fun _ => false) chs) = some M ∧
      U.same L.world M.world := by
  have hquiet : U.Purged (fun _ => false) (Loop.quiet s) (Loop.quiet s) :=
    ⟨hsame, fun _ hbusy => (Bool.false_ne_true hbusy).elim, fun _ _ => ⟨rfl, trivial⟩⟩
  obtain ⟨_, M, hrun', hpurged⟩ := hquiet.run chs hrun
  exact ⟨M, hrun', hpurged.world⟩

end Unwinding
end Coop
