import BimodalArbitrage.Coop.Frame
import Mathlib.Data.List.Induction

/-!
# What is left to the outside

`Does T P Q` bounds the moves, the events and the calls of a coroutine. In a loop whose
tasks all have the bound, a step is what the outside does, followed by moves in `T`.
-/

namespace Coop
variable {ι S Ev C : Type} {R : C → Type} {E Inp α β : Type}

namespace Coro

/-- Started in `s`, the coroutine moves the state by `T`, reports events in `P` and makes
calls in `Q`. -/
def Does (T : S → S → Prop) (P : Ev → Prop) (Q : C → Prop) : Coro S Ev C R E α → S → Prop
  | .pure _, _ => True
  | .throw _, _ => True
  | .get k, s => (k s).Does T P Q s
  | .set s' k, s => T s s' ∧ k.Does T P Q s'
  | .emit e k, s => P e ∧ k.Does T P Q s
  | .turn k, _ => ∀ s, k.Does T P Q s
  | .await c k, _ => Q c ∧ ∀ r s, (k r).Does T P Q s

section
variable {T : S → S → Prop} {P : Ev → Prop} {Q : C → Prop} {s : S}

theorem does_bind {x : Coro S Ev C R E α} {f : α → Coro S Ev C R E β} (hx : x.Does T P Q s)
    (hf : ∀ a s, (f a).Does T P Q s) : (x.bind f).Does T P Q s := by
  induction x generalizing s with
  | pure a => exact hf a s
  | throw e => trivial
  | get k ih => exact ih s hx
  | set s' k ih => exact ⟨hx.1, ih hx.2⟩
  | emit e k ih => exact ⟨hx.1, ih hx.2⟩
  | turn k ih => exact fun s' => ih (hx s')
  | await c k ih => exact ⟨hx.1, fun r s' => ih r (hx.2 r s')⟩

theorem does_attempt {x : Coro S Ev C R E α} (hx : x.Does T P Q s) : x.attempt.Does T P Q s := by
  induction x generalizing s with
  | pure a => trivial
  | throw e => trivial
  | get k ih => exact ih s hx
  | set s' k ih => exact ⟨hx.1, ih hx.2⟩
  | emit e k ih => exact ⟨hx.1, ih hx.2⟩
  | turn k ih => exact fun s' => ih (hx s')
  | await c k ih => exact ⟨hx.1, fun r s' => ih r (hx.2 r s')⟩

theorem Does.mono {T' : S → S → Prop} {P' : Ev → Prop} {x : Coro S Ev C R E α}
    (hx : x.Does T P Q s) (hT : ∀ s s', T s s' → T' s s') (hP : ∀ e, P e → P' e) :
    x.Does T' P' Q s := by
  induction x generalizing s with
  | pure a => trivial
  | throw e => trivial
  | get k ih => exact ih s hx
  | set s' k ih => exact ⟨hT _ _ hx.1, ih hx.2⟩
  | emit e k ih => exact ⟨hP _ hx.1, ih hx.2⟩
  | turn k ih => exact fun s' => ih (hx s')
  | await c k ih => exact ⟨hx.1, fun r s' => ih r (hx.2 r s')⟩

theorem Does.acts {x : Coro S Ev C R E α} (hx : x.Does T P Q s) : x.Acts T P s := by
  induction x generalizing s with
  | pure a => trivial
  | throw e => trivial
  | get k ih => exact ih s hx
  | set s' k ih => exact ⟨hx.1, ih hx.2⟩
  | emit e k ih => exact ⟨hx.1, ih hx.2⟩
  | turn k ih => exact fun s' => ih (hx s')
  | await c k ih => exact fun r s' => ih r (hx.2 r s')

@[simp] theorem does_lift (r : Except E α) : (lift r : Coro S Ev C R E α).Does T P Q s := by
  cases r <;> trivial

theorem does_call {c : C} (h : Q c) : (call c : Coro S Ev C R E (R c)).Does T P Q s :=
  ⟨h, fun r _ => does_lift r⟩

theorem does_modify {f : S → S} (h : T s (f s)) :
    (modify f : Coro S Ev C R E Unit).Does T P Q s := ⟨h, trivial⟩

theorem does_state_bind {f : S → Coro S Ev C R E β} (h : (f s).Does T P Q s) :
    (state.bind f).Does T P Q s := h

theorem does_modify_bind {g : S → S} {f : Unit → Coro S Ev C R E β} (h : T s (g s))
    (hf : (f ()).Does T P Q (g s)) : ((modify g).bind f).Does T P Q s := ⟨h, hf⟩

theorem does_report_bind {e : Ev} {f : Unit → Coro S Ev C R E β} (h : P e)
    (hf : (f ()).Does T P Q s) : ((report e).bind f).Does T P Q s := ⟨h, hf⟩

theorem does_call_bind {c : C} {f : R c → Coro S Ev C R E β} (h : Q c)
    (hf : ∀ a s, (f a).Does T P Q s) : ((call c).bind f).Does T P Q s :=
  does_bind (does_call h) hf

theorem does_lift_bind {r : Except E α} {f : α → Coro S Ev C R E β}
    (hf : ∀ a, r = .ok a → (f a).Does T P Q s) : ((lift r).bind f).Does T P Q s := by
  cases r with
  | ok a => exact hf a rfl
  | error e => trivial

theorem does_catching {x : Coro S Ev C R E α} {f : E → Coro S Ev C R E α}
    (hx : x.Does T P Q s) (hf : ∀ e s, (f e).Does T P Q s) : (x.catching f).Does T P Q s := by
  refine does_bind (does_attempt hx) fun r s => ?_
  cases r with
  | ok a => trivial
  | error e => exact hf e s

theorem does_ensuring {x : Coro S Ev C R E α} {f : Coro S Ev C R E Unit}
    (hx : x.Does T P Q s) (hf : ∀ s, f.Does T P Q s) : (x.ensuring f).Does T P Q s := by
  refine does_bind (does_attempt hx) fun r s => does_bind (hf s) fun _ s => ?_
  exact does_lift r

end
end Coro

/-! ### Steps -/

/-- Whatever the task in the slot is told, it goes on within the bounds. -/
def Slot.Does (T : S → S → Prop) (P : Ev → Prop) (Q : C → Prop) : Slot S Ev C R E → Prop
  | .idle => True
  | .failed _ => True
  | .ready k => ∀ s, k.Does T P Q s
  | .waiting c k => Q c ∧ ∀ r s, (k r).Does T P Q s

/-- The bounds of a whole loop. -/
structure Confined (rules : Rules ι S Ev C R E Inp) (T : S → S → Prop) (P : Ev → Prop)
    (Q : C → Prop) : Prop where
  refl : ∀ s, T s s
  trans : ∀ s s' s'', T s s' → T s' s'' → T s s''
  starts : ∀ s i x c, rules.start s i x = some c → c.Does T P Q s

/-- The state that the outside leaves to the task which the choice wakes. -/
def outside (rules : Rules ι S Ev C R E Inp) (L : Loop ι S Ev C R E) : Choice ι Inp → S
  | .start _ _ => L.world.state
  | .turn _ => L.world.state
  | .reply i x => match L.slots i with
    | .waiting c _ => ((rules.answer L.world.state c x).map Prod.snd).getD L.world.state
    | _ => L.world.state
  | .drift x => (rules.drift L.world.state x).getD L.world.state

section
variable {rules : Rules ι S Ev C R E Inp} {T : S → S → Prop} {P : Ev → Prop} {Q : C → Prop}

theorem settle_does (hR : Confined rules T P Q) (i : ι) (c : Coro S Ev C R E Unit)
    {w : World ι S Ev} (h : c.Does T P Q w.state) :
    T w.state (settle i c w).1.state ∧ (settle i c w).2.Does T P Q := by
  induction c generalizing w with
  | pure a => exact ⟨hR.refl _, trivial⟩
  | throw e => exact ⟨hR.refl _, trivial⟩
  | get k ih => exact ih _ h
  | set s k ih =>
    obtain ⟨hmoved, hslot⟩ := ih (w := w.put s) h.2
    exact ⟨hR.trans _ _ _ h.1 hmoved, hslot⟩
  | emit e k ih => exact ih (w := w.emit i e) h.2
  | turn k _ => exact ⟨hR.refl _, h⟩
  | await c k _ => exact ⟨hR.refl _, h⟩

variable [DecidableEq ι] {L L' : Loop ι S Ev C R E} {ch : Choice ι Inp}

theorem occupy_does (hR : Confined rules T P Q) (h : ∀ i, (L.slots i).Does T P Q) (i : ι)
    (c : Coro S Ev C R E Unit) {w : World ι S Ev} (hc : c.Does T P Q w.state) :
    (∀ j, ((L.occupy i (settle i c w)).slots j).Does T P Q) ∧
      T w.state (L.occupy i (settle i c w)).world.state := by
  obtain ⟨hmoved, hslot⟩ := settle_does hR i c hc
  refine ⟨fun j => ?_, hmoved⟩
  by_cases hj : j = i
  · subst hj
    simpa only [Loop.occupy, Function.update_self] using hslot
  · simpa only [Loop.occupy, Function.update_of_ne hj] using h j

theorem step_does (hR : Confined rules T P Q) (h : ∀ i, (L.slots i).Does T P Q)
    (hs : step rules L ch = some L') :
    (∀ i, (L'.slots i).Does T P Q) ∧ T (outside rules L ch) L'.world.state := by
  cases ch with
  | start i x =>
    simp only [step] at hs
    split at hs
    · obtain ⟨c, hc, rfl⟩ := Option.map_eq_some_iff.mp hs
      exact occupy_does hR h i c (hR.starts _ i x c hc)
    · contradiction
  | turn i =>
    simp only [step] at hs
    split at hs
    next k hk =>
      cases hs
      have hslot := h i
      rw [hk] at hslot
      exact occupy_does hR h i k (hslot _)
    · contradiction
  | reply i x =>
    simp only [step] at hs
    split at hs
    next c k hk =>
      obtain ⟨a, hx, rfl⟩ := Option.map_eq_some_iff.mp hs
      have hslot := h i
      rw [hk] at hslot
      simp only [outside, hk, hx, Option.map_some, Option.getD_some]
      exact occupy_does hR h i (k a.1) (w := L.world.put a.2) (hslot.2 a.1 a.2)
    · contradiction
  | drift x =>
    simp only [step] at hs
    obtain ⟨s, hx, rfl⟩ := Option.map_eq_some_iff.mp hs
    simp only [outside, hx, Option.getD_some]
    exact ⟨h, hR.refl s⟩

end

/-! ### Runs step by step -/

section
variable [DecidableEq ι] {rules : Rules ι S Ev C R E Inp} {L M : Loop ι S Ev C R E}
  {chs : List (Choice ι Inp)} {ch : Choice ι Inp} {γ : Type}

theorem run_append (chs chs' : List (Choice ι Inp)) :
    run rules L (chs ++ chs') = (run rules L chs).bind fun M => run rules M chs' := by
  induction chs generalizing L with
  | nil => rfl
  | cons ch chs ih =>
    simp only [List.cons_append, run, Option.bind_assoc]
    exact Option.bind_congr fun M _ => ih

theorem run_snoc : run rules L (chs ++ [ch]) = (run rules L chs).bind fun M => step rules M ch := by
  rw [run_append]
  refine Option.bind_congr fun M _ => ?_
  simp [run]

/-- What `see` makes of the steps of a run, in their order. -/
def observe (rules : Rules ι S Ev C R E Inp) (see : Loop ι S Ev C R E → Choice ι Inp → Option γ) :
    Loop ι S Ev C R E → List (Choice ι Inp) → List γ
  | _, [] => []
  | L, ch :: chs =>
    (see L ch).toList ++ (step rules L ch).elim [] fun L' => observe rules see L' chs

theorem observe_snoc {see : Loop ι S Ev C R E → Choice ι Inp → Option γ}
    (h : run rules L chs = some M) :
    observe rules see L (chs ++ [ch]) = observe rules see L chs ++ (see M ch).toList := by
  induction chs generalizing L with
  | nil =>
    cases h
    simp only [List.nil_append, observe]
    cases step rules M ch <;> simp
  | cons first chs ih =>
    obtain ⟨N, hN, hrest⟩ := Option.bind_eq_some_iff.mp h
    simp only [List.cons_append, observe, hN, Option.elim_some, ih hrest, List.append_assoc]

theorem throughout_run_iff {P : List (Choice ι Inp) → Loop ι S Ev C R E → Prop}
    {Q : Loop ι S Ev C R E → Choice ι Inp → Prop} (hnil : P [] L)
    (hstep : ∀ chs ch M M', run rules L chs = some M → step rules M ch = some M' → P chs M →
      (P (chs ++ [ch]) M' ↔ Q M ch))
    (hrun : run rules L chs = some M) :
    (∀ before N, before <+: chs → run rules L before = some N → P before N) ↔
      ∀ before ch after N, chs = before ++ ch :: after → run rules L before = some N → Q N ch := by
  constructor
  · rintro h before ch after N rfl hN
    have hrest := hrun
    rw [run_append, hN, Option.bind_some] at hrest
    obtain ⟨N', hN', -⟩ := Option.bind_eq_some_iff.mp hrest
    have hsnoc : run rules L (before ++ [ch]) = some N' := by
      rw [run_snoc, hN]
      exact hN'
    refine (hstep before ch N N' hN hN' (h before N (List.prefix_append ..) hN)).mp ?_
    exact h _ N' ⟨after, by rw [List.append_assoc, List.singleton_append]⟩ hsnoc
  · intro h before
    induction before using List.reverseRecOn with
    | nil =>
      intro N _ hN
      cases hN
      exact hnil
    | append_singleton before ch ih =>
      rintro N ⟨after, rfl⟩ hN
      rw [run_snoc] at hN
      obtain ⟨N', hN', hN⟩ := Option.bind_eq_some_iff.mp hN
      rw [List.append_assoc, List.singleton_append] at h ih
      have hbefore := ih N' (List.prefix_append ..) hN'
      exact (hstep before ch N' N hN' hN hbefore).mpr (h before ch after N' rfl hN')

end
end Coop
