import BimodalArbitrage.Coop.Frame

/-!
# Mutual exclusion

A task that owns a resource keeps it over its suspensions, with what it last saw of it:
nobody else takes the resource over or changes its view.
-/

namespace Coop
variable {ι S Ev C κ β : Type} {R : C → Type} {E Inp : Type}

/-- Who owns a resource, and what of it only the owner changes. -/
structure Mutex (ι S Ev κ β : Type) where
  owner : World ι S Ev → κ → Option ι
  view : World ι S Ev → κ → β

namespace Mutex

section
variable (M : Mutex ι S Ev κ β)

def Undisturbed (i : ι) (u v : World ι S Ev) : Prop :=
  ∀ k, M.owner u k = some i → M.owner v k = some i ∧ M.view v k = M.view u k

def contract (Inp : Type) (inv : World ι S Ev → Prop) : Contract ι S Ev Inp where
  inv := inv
  rely := M.Undisturbed
  guar i u v := ∀ j, j ≠ i → M.Undisturbed j u v
  allows _ _ := True
  rely_refl _ _ _ h := ⟨h, rfl⟩
  rely_trans _ _ _ _ huv hvw k h :=
    ⟨(hvw k (huv k h).1).1, (hvw k (huv k h).1).2.trans (huv k h).2⟩
  guar_rely _ j _ _ hij h := h j hij.symm

/-- Nothing anybody could own has changed. -/
def Same (k : κ) (u v : World ι S Ev) : Prop :=
  M.owner v k = M.owner u k ∧ M.view v k = M.view u k

/-- The invariant holds, and `i` owns `k`, which it sees as `b`. -/
structure Owning (Inp : Type) (inv : World ι S Ev → Prop) (i : ι) (k : κ) (b : β)
    (u w : World ι S Ev) : Prop where
  rests : (M.contract Inp inv).Rests i u w
  owns : M.owner w k = some i
  sees : M.view w k = b

/-- The moves in `T` and the events in `P` keep the invariant and touch no resource. -/
structure Aside (inv : World ι S Ev → Prop) (T : S → S → Prop) (P : Ev → Prop) : Prop where
  put : ∀ {w s}, inv w → T w.state s → inv (w.put s)
  emit : ∀ {w i e}, inv w → P e → inv (w.emit i e)
  same_put : ∀ {w s}, T w.state s → ∀ k, M.Same k w (w.put s)
  same_emit : ∀ {w i e}, P e → ∀ k, M.Same k w (w.emit i e)

end

section
variable {M : Mutex ι S Ev κ β} {inv : World ι S Ev → Prop} {T : S → S → Prop} {P : Ev → Prop}
  {rules : Rules ι S Ev C R E Inp} {i : ι} {k : κ} {b b' : β} {u w v : World ι S Ev}

theorem rests_self (h : inv w) : (M.contract Inp inv).Rests i w w :=
  ⟨h, fun _ _ _ hk => ⟨hk, rfl⟩⟩

/-- A step may change the one resource that nobody else owns. -/
theorem guar_step (h : (M.contract Inp inv).guar i u w) (hfree : ∀ j, j ≠ i → M.owner w k ≠ some j)
    (hother : ∀ k', k' ≠ k → M.Same k' w v) : (M.contract Inp inv).guar i u v := by
  intro j hj k' hk'
  obtain ⟨howner, hview⟩ := h j hj k' hk'
  by_cases hkk : k' = k
  · exact absurd (hkk ▸ howner) (hfree j hj)
  · obtain ⟨howner', hview'⟩ := hother k' hkk
    exact ⟨howner'.trans howner, hview'.trans hview⟩

theorem guar_same (h : (M.contract Inp inv).guar i u w) (hsame : ∀ k, M.Same k w v) :
    (M.contract Inp inv).guar i u v := by
  intro j hj k hk
  obtain ⟨howner, hview⟩ := h j hj k hk
  exact ⟨(hsame k).1.trans howner, (hsame k).2.trans hview⟩

theorem Owning.free (h : M.Owning Inp inv i k b u w) : ∀ j, j ≠ i → M.owner w k ≠ some j := by
  intro j hj howner
  rw [h.owns] at howner
  exact hj (Option.some.inj howner).symm

/-! ### Taking, changing and giving back -/

theorem Owning.take (h : (M.contract Inp inv).Rests i u w) (hfree : M.owner w k = none)
    (hinv : inv v) (howner : M.owner v k = some i) (hother : ∀ k', k' ≠ k → M.Same k' w v) :
    M.Owning Inp inv i k (M.view v k) u v :=
  ⟨⟨hinv, guar_step h.2 (fun _ _ => by simp [hfree]) hother⟩, howner, rfl⟩

theorem Owning.change (h : M.Owning Inp inv i k b u w) (hinv : inv v)
    (howner : M.owner v k = some i) (hview : M.view v k = b')
    (hother : ∀ k', k' ≠ k → M.Same k' w v) : M.Owning Inp inv i k b' u v :=
  ⟨⟨hinv, guar_step h.rests.2 h.free hother⟩, howner, hview⟩

theorem Owning.give (h : M.Owning Inp inv i k b u w) (hinv : inv v)
    (hother : ∀ k', k' ≠ k → M.Same k' w v) : (M.contract Inp inv).Rests i u v :=
  ⟨hinv, guar_step h.rests.2 h.free hother⟩

theorem Owning.resume (h : M.Owning Inp inv i k b u w) (hrely : M.Undisturbed i w v)
    (hinv : inv v) : M.Owning Inp inv i k b v v := by
  obtain ⟨howner, hview⟩ := hrely k h.owns
  exact ⟨rests_self hinv, howner, hview.trans h.sees⟩

theorem Owning.wp_yield_bind {α : Type} {f : Unit → Coro S Ev C R E α}
    {Q : Except E α → World ι S Ev → World ι S Ev → Prop} (h : M.Owning Inp inv i k b u w)
    (hf : ∀ v, M.Owning Inp inv i k b v v → wp rules (M.contract Inp inv) i (f ()) Q v v) :
    wp rules (M.contract Inp inv) i (Coro.yield.bind f) Q u w := by
  rw [wp_bind, wp_yield]
  exact ⟨h.rests, fun v hrely hinv _ => hf v (h.resume hrely hinv)⟩

/-! ### Code that stands aside -/

theorem Aside.rests_put (h : M.Aside inv T P) {s : S} (hw : (M.contract Inp inv).Rests i u w)
    (hs : T w.state s) : (M.contract Inp inv).Rests i u (w.put s) :=
  ⟨h.put hw.1 hs, guar_same hw.2 (h.same_put hs)⟩

theorem Aside.rests_emit (h : M.Aside inv T P) {e : Ev} (hw : (M.contract Inp inv).Rests i u w)
    (he : P e) : (M.contract Inp inv).Rests i u (w.emit i e) :=
  ⟨h.emit hw.1 he, guar_same hw.2 (h.same_emit he)⟩

theorem Aside.kept (h : M.Aside inv T P)
    (hanswer : ∀ {s c x r s'}, rules.answer s c x = some (r, s') → T s s') :
    Kept rules (M.contract Inp inv) i T P ((M.contract Inp inv).Rests i) where
  set := h.rests_put
  emit := h.rests_emit
  rests hw := hw
  turn _ _ hv := rests_self hv
  reply _ _ hv hans := h.rests_put (rests_self hv) (hanswer hans)

theorem Aside.owning_put (h : M.Aside inv T P) {s : S} (hw : M.Owning Inp inv i k b u w)
    (hs : T w.state s) : M.Owning Inp inv i k b u (w.put s) :=
  ⟨h.rests_put hw.rests hs, (h.same_put hs k).1.trans hw.owns, (h.same_put hs k).2.trans hw.sees⟩

theorem Aside.owning_emit (h : M.Aside inv T P) {e : Ev} (hw : M.Owning Inp inv i k b u w)
    (he : P e) : M.Owning Inp inv i k b u (w.emit i e) :=
  ⟨h.rests_emit hw.rests he, (h.same_emit he k).1.trans hw.owns,
    (h.same_emit he k).2.trans hw.sees⟩

theorem Aside.owning_kept (h : M.Aside inv T P)
    (hanswer : ∀ {s c x r s'}, rules.answer s c x = some (r, s') → T s s') :
    Kept rules (M.contract Inp inv) i T P (M.Owning Inp inv i k b) where
  set := h.owning_put
  emit := h.owning_emit
  rests hw := hw.rests
  turn hw hr hv := hw.resume hr hv
  reply hw hr hv hans := h.owning_put (hw.resume hr hv) (hanswer hans)

end
end Mutex
end Coop
