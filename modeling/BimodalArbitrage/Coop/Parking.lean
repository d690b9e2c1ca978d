import BimodalArbitrage.Coop.Paced

/-!
# What holds of a task that is not under way

A contract says what holds where a task is suspended. `Parking` adds what a task leaves
behind where it ends, such as that it has given back what it took: others keep it, so it
holds as long as the task is not started again.
-/

namespace Coop
variable {ι S Ev C : Type} {R : C → Type} {E Inp : Type}

section
variable (rules : Rules ι S Ev C R E Inp) (K : Contract ι S Ev Inp)
  (B : ι → World ι S Ev → Prop)

/-- The task `i` keeps its contract and leaves `B i` where it ends. -/
def Leaves (i : ι) (c : Coro S Ev C R E Unit) (u w : World ι S Ev) : Prop :=
  wp rules K i c (fun _ u w => K.Rests i u w ∧ B i w) u w

def SlotParks (i : ι) (w : World ι S Ev) : Slot S Ev C R E → Prop
  | .idle => B i w
  | .failed _ => B i w
  | .ready k => ∀ v, K.rely i w v → K.inv v → K.allows v (.turn i) → Leaves rules K B i k v v
  | .waiting c k => ∀ v x r s, K.rely i w v → K.inv v → K.allows v (.reply i x) →
      rules.answer v.state c x = some (r, s) → Leaves rules K B i (k r) v (v.put s)

structure Parking : Prop where
  stable : ∀ {i u v}, K.rely i u v → B i u → B i v
  starts : ∀ (w : World ι S Ev) i x c, K.inv w → B i w → K.allows w (.start i x) →
    rules.start w.state i x = some c → Leaves rules K B i c w w
  drifts : ∀ (w : World ι S Ev) x s, K.inv w → K.allows w (.drift x) →
    rules.drift w.state x = some s → K.inv (w.put s) ∧ ∀ j, K.rely j w (w.put s)

structure LoopParks (L : Loop ι S Ev C R E) : Prop where
  inv : K.inv L.world
  slots : ∀ i, SlotParks rules K B i L.world (L.slots i)

end

section
variable {rules : Rules ι S Ev C R E Inp} {K : Contract ι S Ev Inp}
  {B : ι → World ι S Ev → Prop} {i : ι}

theorem settle_parks (c : Coro S Ev C R E Unit) {u w : World ι S Ev}
    (h : Leaves rules K B i c u w) :
    K.Rests i u (settle i c w).1 ∧ SlotParks rules K B i (settle i c w).1 (settle i c w).2 := by
  induction c generalizing w with
  | pure a => exact h
  | throw e => exact h
  | get k ih => exact ih _ h
  | set s k ih => exact ih h
  | emit e k ih => exact ih h
  | turn k _ => exact ⟨h.1, fun v hr hv ha => h.2 v hr hv ha⟩
  | await c k _ => exact ⟨h.1, fun v x r s hr hv ha hx => h.2 v x r s hr hv ha hx⟩

theorem Parking.slot_rely (hP : Parking rules K B) {v w : World ι S Ev} {z : Slot S Ev C R E}
    (hr : K.rely i v w) (h : SlotParks rules K B i v z) : SlotParks rules K B i w z := by
  cases z with
  | idle => exact hP.stable hr h
  | failed e => exact hP.stable hr h
  | ready k => exact fun v' hr' => h v' (K.rely_trans i _ _ _ hr hr')
  | waiting c k => exact fun v' x r s hr' => h v' x r s (K.rely_trans i _ _ _ hr hr')

/-- What a task leaves behind holds as long as it is not under way. -/
theorem LoopParks.parked {L : Loop ι S Ev C R E} (h : LoopParks rules K B L)
    (hrest : ¬(L.slots i).Busy) : B i L.world := by
  have hslot := h.slots i
  cases hz : L.slots i with
  | idle =>
    rw [hz] at hslot
    exact hslot
  | failed e =>
    rw [hz] at hslot
    exact hslot
  | ready k => simp [hz, Slot.Busy] at hrest
  | waiting c k => simp [hz, Slot.Busy] at hrest

variable [DecidableEq ι]

theorem Parking.occupy (hP : Parking rules K B) {L : Loop ι S Ev C R E}
    (h : LoopParks rules K B L) (c : Coro S Ev C R E Unit) {w : World ι S Ev}
    (hc : Leaves rules K B i c L.world w) : LoopParks rules K B (L.occupy i (settle i c w)) := by
  obtain ⟨hrest, hslot⟩ := settle_parks c hc
  refine ⟨hrest.1, fun j => ?_⟩
  by_cases hj : j = i
  · subst hj
    simpa only [Loop.occupy, Function.update_self] using hslot
  · simp only [Loop.occupy, Function.update_of_ne hj]
    exact hP.slot_rely (K.guar_rely i j _ _ (Ne.symm hj) hrest.2) (h.slots j)

theorem Parking.step (hP : Parking rules K B) {L L' : Loop ι S Ev C R E} {ch : Choice ι Inp}
    (h : LoopParks rules K B L) (ha : K.allows L.world ch) (hs : step rules L ch = some L') :
    LoopParks rules K B L' := by
  cases ch with
  | start i x =>
    simp only [Coop.step] at hs
    split at hs
    next hidle =>
      obtain ⟨c, hc, rfl⟩ := Option.map_eq_some_iff.mp hs
      have hslot := h.slots i
      rw [hidle] at hslot
      exact hP.occupy h c (hP.starts _ i x c h.inv hslot ha hc)
    · contradiction
  | turn i =>
    simp only [Coop.step] at hs
    split at hs
    next k hk =>
      cases hs
      have hslot := h.slots i
      rw [hk] at hslot
      exact hP.occupy h k (hslot _ (K.rely_refl i _) h.inv ha)
    · contradiction
  | reply i x =>
    simp only [Coop.step] at hs
    split at hs
    next c k hk =>
      obtain ⟨a, hx, rfl⟩ := Option.map_eq_some_iff.mp hs
      have hslot := h.slots i
      rw [hk] at hslot
      exact hP.occupy h (k a.1) (hslot _ x a.1 a.2 (K.rely_refl i _) h.inv ha hx)
    · contradiction
  | drift x =>
    simp only [Coop.step] at hs
    obtain ⟨s, hx, rfl⟩ := Option.map_eq_some_iff.mp hs
    obtain ⟨hinv, hrely⟩ := hP.drifts _ x s h.inv ha hx
    exact ⟨hinv, fun j => hP.slot_rely (hrely j) (h.slots j)⟩

theorem Parking.run (hP : Parking rules K B) (chs : List (Choice ι Inp))
    {L L' : Loop ι S Ev C R E} (h : LoopParks rules K B L) (ha : Along rules K.allows L chs)
    (hs : run rules L chs = some L') : LoopParks rules K B L' := by
  induction chs generalizing L with
  | nil =>
    cases hs
    exact h
  | cons ch chs ih =>
    obtain ⟨M, hM, hrest⟩ := Option.bind_eq_some_iff.mp hs
    exact ih (hP.step h ha.1 hM) (ha.2 M hM) hrest

theorem Parking.run_quiet (hP : Parking rules K B) (s : S) (hinv : K.inv ⟨s, []⟩)
    (hB : ∀ i, B i ⟨s, []⟩) (chs : List (Choice ι Inp))
    (ha : Along rules K.allows (Loop.quiet s) chs) {L : Loop ι S Ev C R E}
    (hs : Coop.run rules (Loop.quiet s) chs = some L) : LoopParks rules K B L := by
  have hquiet : LoopParks rules K B (Loop.quiet s : Loop ι S Ev C R E) := ⟨hinv, hB⟩
  exact hP.run chs hquiet ha hs

end
end Coop
