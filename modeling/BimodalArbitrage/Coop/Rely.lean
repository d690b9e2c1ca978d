import BimodalArbitrage.Coop.Loop

/-!
# Rely and guarantee

An invariant of the event loop is proved task by task. A contract says what a
task may rely on while it is suspended and what it must have kept whenever it
suspends or ends; `wp` walks one coroutine under that contract, and `run_inv`
puts the tasks of a whole schedule together.
-/

namespace Coop
variable {ι S Ev C : Type} {R : C → Type} {E Inp α β : Type}

/-- `inv` holds whenever no task is running. From one suspension of the task `i`
to its next step the world moves by `rely i`; a segment of `i` moves it by
`guar i`. `allows` is what is assumed of the schedule. -/
structure Contract (ι S Ev Inp : Type) where
  inv : World ι S Ev → Prop
  rely : ι → World ι S Ev → World ι S Ev → Prop
  guar : ι → World ι S Ev → World ι S Ev → Prop
  allows : World ι S Ev → Choice ι Inp → Prop
  rely_refl : ∀ i w, rely i w w
  rely_trans : ∀ i u v w, rely i u v → rely i v w → rely i u w
  guar_rely : ∀ i j u v, i ≠ j → guar i u v → rely j u v

def Ends (r : Except E α) (P : α → Prop) (N : E → Prop) : Prop :=
  match r with
  | .ok a => P a
  | .error e => N e

@[simp] theorem ends_ok (a : α) (P : α → Prop) (N : E → Prop) :
    Ends (.ok a : Except E α) P N ↔ P a := Iff.rfl

@[simp] theorem ends_error (e : E) (P : α → Prop) (N : E → Prop) :
    Ends (.error e : Except E α) P N ↔ N e := Iff.rfl

/-- What a task has to establish where its segment ends. -/
def Contract.Rests (K : Contract ι S Ev Inp) (i : ι) (u w : World ι S Ev) : Prop :=
  K.inv w ∧ K.guar i u w

section
variable (rules : Rules ι S Ev C R E Inp) (K : Contract ι S Ev Inp) (i : ι)

/-- `wp x Q u w`: the task `i`, in the world `w` of a segment that began in `u`
and about to run `x`, keeps its contract, and `Q` holds where `x` ends. -/
def wp : Coro S Ev C R E α → (Except E α → World ι S Ev → World ι S Ev → Prop) →
    World ι S Ev → World ι S Ev → Prop
  | .pure a, Q, u, w => Q (.ok a) u w
  | .throw e, Q, u, w => Q (.error e) u w
  | .get k, Q, u, w => wp (k w.state) Q u w
  | .set s k, Q, u, w => wp k Q u (w.put s)
  | .emit e k, Q, u, w => wp k Q u (w.emit i e)
  | .turn k, Q, u, w => K.Rests i u w ∧
      ∀ v, K.rely i w v → K.inv v → K.allows v (.turn i) → wp k Q v v
  | .await c k, Q, u, w => K.Rests i u w ∧
      ∀ v x r s, K.rely i w v → K.inv v → K.allows v (.reply i x) →
        rules.answer v.state c x = some (r, s) → wp (k r) Q v (v.put s)

def Keeps (c : Coro S Ev C R E Unit) (u w : World ι S Ev) : Prop :=
  wp rules K i c (fun _ u w => K.Rests i u w) u w

/-- The continuation in a slot can take over after any interference. -/
def SlotOk (w : World ι S Ev) : Slot S Ev C R E → Prop
  | .idle => True
  | .failed _ => True
  | .ready k => ∀ v, K.rely i w v → K.inv v → K.allows v (.turn i) → Keeps rules K i k v v
  | .waiting c k => ∀ v x r s, K.rely i w v → K.inv v → K.allows v (.reply i x) →
      rules.answer v.state c x = some (r, s) → Keeps rules K i (k r) v (v.put s)

end

section
variable {rules : Rules ι S Ev C R E Inp} {K : Contract ι S Ev Inp} {i : ι}

theorem wp_mono (x : Coro S Ev C R E α)
    {P Q : Except E α → World ι S Ev → World ι S Ev → Prop} (hPQ : ∀ r u w, P r u w → Q r u w)
    {u w : World ι S Ev} (h : wp rules K i x P u w) : wp rules K i x Q u w := by
  induction x generalizing u w with
  | pure a => exact hPQ _ _ _ h
  | throw e => exact hPQ _ _ _ h
  | get k ih => exact ih _ h
  | set s k ih => exact ih h
  | emit e k ih => exact ih h
  | turn k ih => exact ⟨h.1, fun v hr hv ha => ih (h.2 v hr hv ha)⟩
  | await c k ih => exact ⟨h.1, fun v x r s hr hv ha hx => ih r (h.2 v x r s hr hv ha hx)⟩

theorem wp_bind (x : Coro S Ev C R E α) (f : α → Coro S Ev C R E β)
    {Q : Except E β → World ι S Ev → World ι S Ev → Prop} {u w : World ι S Ev} :
    wp rules K i (x.bind f) Q u w ↔
      wp rules K i x (fun r u w =>
        Ends r (fun a => wp rules K i (f a) Q u w) (fun e => Q (.error e) u w)) u w := by
  induction x generalizing u w with
  | pure a => exact Iff.rfl
  | throw e => exact Iff.rfl
  | get k ih => exact ih _
  | set s k ih => exact ih
  | emit e k ih => exact ih
  | turn k ih => simp only [Coro.bind, wp, ih]
  | await c k ih => simp only [Coro.bind, wp, ih]

theorem wp_attempt (x : Coro S Ev C R E α)
    {Q : Except E (Except E α) → World ι S Ev → World ι S Ev → Prop} {u w : World ι S Ev} :
    wp rules K i x.attempt Q u w ↔ wp rules K i x (fun r u w => Q (.ok r) u w) u w := by
  induction x generalizing u w with
  | pure a => exact Iff.rfl
  | throw e => exact Iff.rfl
  | get k ih => exact ih _
  | set s k ih => exact ih
  | emit e k ih => exact ih
  | turn k ih => simp only [Coro.attempt, wp, ih]
  | await c k ih => simp only [Coro.attempt, wp, ih]

@[simp] theorem wp_pure (a : α) {Q : Except E α → World ι S Ev → World ι S Ev → Prop}
    {u w : World ι S Ev} :
    wp rules K i (Coro.pure a : Coro S Ev C R E α) Q u w ↔ Q (.ok a) u w := Iff.rfl

@[simp] theorem wp_throw (e : E) {Q : Except E α → World ι S Ev → World ι S Ev → Prop}
    {u w : World ι S Ev} :
    wp rules K i (Coro.throw e : Coro S Ev C R E α) Q u w ↔ Q (.error e) u w := Iff.rfl

@[simp] theorem wp_state {Q : Except E S → World ι S Ev → World ι S Ev → Prop}
    {u w : World ι S Ev} :
    wp rules K i (Coro.state : Coro S Ev C R E S) Q u w ↔ Q (.ok w.state) u w := Iff.rfl

@[simp] theorem wp_modify (f : S → S) {Q : Except E Unit → World ι S Ev → World ι S Ev → Prop}
    {u w : World ι S Ev} :
    wp rules K i (Coro.modify f : Coro S Ev C R E Unit) Q u w ↔
      Q (.ok ()) u (w.put (f w.state)) := Iff.rfl

@[simp] theorem wp_report (e : Ev) {Q : Except E Unit → World ι S Ev → World ι S Ev → Prop}
    {u w : World ι S Ev} :
    wp rules K i (Coro.report e : Coro S Ev C R E Unit) Q u w ↔ Q (.ok ()) u (w.emit i e) :=
  Iff.rfl

theorem wp_yield {Q : Except E Unit → World ι S Ev → World ι S Ev → Prop} {u w : World ι S Ev} :
    wp rules K i (Coro.yield : Coro S Ev C R E Unit) Q u w ↔ K.Rests i u w ∧
      ∀ v, K.rely i w v → K.inv v → K.allows v (.turn i) → Q (.ok ()) v v := Iff.rfl

@[simp] theorem wp_lift (r : Except E α)
    {Q : Except E α → World ι S Ev → World ι S Ev → Prop} {u w : World ι S Ev} :
    wp rules K i (Coro.lift r) Q u w ↔ Q r u w := by
  cases r <;> exact Iff.rfl

theorem wp_call (c : C) {Q : Except E (R c) → World ι S Ev → World ι S Ev → Prop}
    {u w : World ι S Ev} :
    wp rules K i (Coro.call c) Q u w ↔ K.Rests i u w ∧
      ∀ v x r s, K.rely i w v → K.inv v → K.allows v (.reply i x) →
        rules.answer v.state c x = some (r, s) → Q r v (v.put s) := by
  simp only [Coro.call, wp, wp_lift]

theorem wp_ensuring (x : Coro S Ev C R E α) (f : Coro S Ev C R E Unit)
    {Q : Except E α → World ι S Ev → World ι S Ev → Prop} {u w : World ι S Ev} :
    wp rules K i (x.ensuring f) Q u w ↔
      wp rules K i x (fun r u w => wp rules K i f (fun q u w =>
        Ends q (fun _ => Q r u w) (fun e => Q (.error e) u w)) u w) u w := by
  simp only [Coro.ensuring, wp_bind, wp_attempt, wp_lift, ends_ok]

theorem wp_catching (x : Coro S Ev C R E α) (f : E → Coro S Ev C R E α)
    {Q : Except E α → World ι S Ev → World ι S Ev → Prop} {u w : World ι S Ev} :
    wp rules K i (x.catching f) Q u w ↔
      wp rules K i x (fun r u w =>
        Ends r (fun a => Q (.ok a) u w) (fun e => wp rules K i (f e) Q u w)) u w := by
  simp only [Coro.catching, wp_bind, wp_attempt]
  constructor
  · exact wp_mono x fun r u w h => by cases r <;> exact h
  · exact wp_mono x fun r u w h => by cases r <;> exact h

/-! ### Whole schedules -/

theorem settle_ok (c : Coro S Ev C R E Unit) {u w : World ι S Ev}
    (h : Keeps rules K i c u w) :
    K.Rests i u (settle i c w).1 ∧ SlotOk rules K i (settle i c w).1 (settle i c w).2 := by
  induction c generalizing w with
  | pure a => exact ⟨h, trivial⟩
  | throw e => exact ⟨h, trivial⟩
  | get k ih => exact ih _ h
  | set s k ih => exact ih h
  | emit e k ih => exact ih h
  | turn k _ => exact ⟨h.1, fun v hr hv ha => h.2 v hr hv ha⟩
  | await c k _ => exact ⟨h.1, fun v x r s hr hv ha hx => h.2 v x r s hr hv ha hx⟩

theorem slotOk_rely {v w : World ι S Ev} {z : Slot S Ev C R E} (hr : K.rely i v w)
    (h : SlotOk rules K i v z) : SlotOk rules K i w z := by
  cases z with
  | idle => trivial
  | failed e => trivial
  | ready k => exact fun v' hr' => h v' (K.rely_trans i _ _ _ hr hr')
  | waiting c k => exact fun v' x r s hr' => h v' x r s (K.rely_trans i _ _ _ hr hr')

end

section
variable (rules : Rules ι S Ev C R E Inp) (K : Contract ι S Ev Inp)

/-- What makes a contract one of the whole loop: every task that an input can
start keeps it, and what the outside does by itself disturbs nobody. -/
structure Sound : Prop where
  starts : ∀ (w : World ι S Ev) i x c, K.inv w → K.allows w (.start i x) →
    rules.start w.state i x = some c → Keeps rules K i c w w
  drifts : ∀ (w : World ι S Ev) x s, K.inv w → K.allows w (.drift x) →
    rules.drift w.state x = some s → K.inv (w.put s) ∧ ∀ j, K.rely j w (w.put s)

structure LoopOk (L : Loop ι S Ev C R E) : Prop where
  inv : K.inv L.world
  slots : ∀ i, SlotOk rules K i L.world (L.slots i)

end

section
variable [DecidableEq ι] {rules : Rules ι S Ev C R E Inp} {K : Contract ι S Ev Inp}

theorem occupy_ok {L : Loop ι S Ev C R E} (h : LoopOk rules K L) (i : ι)
    (c : Coro S Ev C R E Unit) {w : World ι S Ev} (hc : Keeps rules K i c L.world w) :
    LoopOk rules K (L.occupy i (settle i c w)) := by
  obtain ⟨hrest, hslot⟩ := settle_ok c hc
  refine ⟨hrest.1, fun j => ?_⟩
  by_cases hj : j = i
  · subst hj
    simpa only [Loop.occupy, Function.update_self] using hslot
  · simp only [Loop.occupy, Function.update_of_ne hj]
    exact slotOk_rely (K.guar_rely i j _ _ (Ne.symm hj) hrest.2) (h.slots j)

theorem step_ok (hK : Sound rules K) {L L' : Loop ι S Ev C R E} {ch : Choice ι Inp}
    (h : LoopOk rules K L) (ha : K.allows L.world ch) (hs : step rules L ch = some L') :
    LoopOk rules K L' := by
  cases ch with
  | start i x =>
    simp only [step] at hs
    split at hs
    · obtain ⟨c, hc, rfl⟩ := Option.map_eq_some_iff.mp hs
      exact occupy_ok h i c (hK.starts _ i x c h.inv ha hc)
    · contradiction
  | turn i =>
    simp only [step] at hs
    split at hs
    next k hk =>
      cases hs
      have hslot := h.slots i
      rw [hk] at hslot
      exact occupy_ok h i k (hslot _ (K.rely_refl i _) h.inv ha)
    · contradiction
  | reply i x =>
    simp only [step] at hs
    split at hs
    next c k hk =>
      obtain ⟨a, hx, rfl⟩ := Option.map_eq_some_iff.mp hs
      have hslot := h.slots i
      rw [hk] at hslot
      exact occupy_ok h i (k a.1) (hslot _ x a.1 a.2 (K.rely_refl i _) h.inv ha hx)
    · contradiction
  | drift x =>
    simp only [step] at hs
    obtain ⟨s, hx, rfl⟩ := Option.map_eq_some_iff.mp hs
    obtain ⟨hinv, hrely⟩ := hK.drifts _ x s h.inv ha hx
    exact ⟨hinv, fun j => slotOk_rely (hrely j) (h.slots j)⟩

theorem run_ok (hK : Sound rules K) (chs : List (Choice ι Inp)) {L L' : Loop ι S Ev C R E}
    (h : LoopOk rules K L) (ha : Along rules K.allows L chs) (hs : run rules L chs = some L') :
    LoopOk rules K L' := by
  induction chs generalizing L with
  | nil =>
    cases hs
    exact h
  | cons ch chs ih =>
    obtain ⟨M, hM, hrest⟩ := Option.bind_eq_some_iff.mp hs
    exact ih (step_ok hK h ha.1 hM) (ha.2 M hM) hrest

/-- The invariant of a sound contract holds after every schedule it allows. -/
theorem run_inv (hK : Sound rules K) (s : S) (hinv : K.inv ⟨s, []⟩) (chs : List (Choice ι Inp))
    (ha : Along rules K.allows (Loop.quiet s) chs) {L : Loop ι S Ev C R E}
    (hs : run rules (Loop.quiet s) chs = some L) : K.inv L.world := by
  have hquiet : LoopOk rules K (Loop.quiet s : Loop ι S Ev C R E) := ⟨hinv, fun _ => trivial⟩
  exact (run_ok hK chs hquiet ha hs).inv

theorem along_of_forall (rules : Rules ι S Ev C R E Inp) {ok : World ι S Ev → Choice ι Inp → Prop}
    {chs : List (Choice ι Inp)} (h : ∀ ch ∈ chs, ∀ w, ok w ch) (L : Loop ι S Ev C R E) :
    Along rules ok L chs := by
  induction chs generalizing L with
  | nil => trivial
  | cons ch chs ih =>
    have hrest : ∀ ch ∈ chs, ∀ w, ok w ch := fun ch' hch => h ch' (List.mem_cons_of_mem _ hch)
    exact ⟨h ch (List.mem_cons_self ..) _, fun L' _ => ih hrest L'⟩

theorem run_inv_free (hK : Sound rules K) (hfree : ∀ w ch, K.allows w ch) (s : S)
    (hinv : K.inv ⟨s, []⟩) (chs : List (Choice ι Inp)) {L : Loop ι S Ev C R E}
    (hs : run rules (Loop.quiet s) chs = some L) : K.inv L.world := by
  have halong : Along rules K.allows (Loop.quiet s) chs :=
    along_of_forall rules (fun ch _ w => hfree w ch) _
  exact run_inv hK s hinv chs halong hs

end
end Coop
